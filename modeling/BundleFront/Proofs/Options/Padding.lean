import BundleFront.Proofs.Json.Padding
import BundleFront.Proofs.Options.RoundTrip
import Mathlib.Logic.Relation

/-!
# Options are what their members say

What a host leaves out of its options has its blank value, so the host may as well write
this value, and members that no option is named for are passed over.  Hence two objects
give the same options, or are refused for the same reason, if one becomes the other by
adding and removing such members: in the object itself, in its entry point without a file,
in its strictness, or in its engines, of which nothing may be left out.

A build also takes plugins and a cache for their filters, but not from its options.
Members with these names are passed over like any other that is unknown.

* `PadsSharedPart`, `BuildOptions.PadsPart` — how parts of options are padded.
* `BuildOptions.ofJson_eq_of_padded`, `TransformOptions.ofJson_eq_of_padded` — one member.
* `padding_unseen` — any number of members, added and removed in any order.
-/

namespace BundleFront

/-- A part is padded that the options of builds and of transformations have in common: their
strictness, or one of their engines. -/
inductive PadsSharedPart : String → Json → Json → Prop
  | strict {v w : Json} (h : StrictOptions.record.Pads v w) : PadsSharedPart "strict" v w
  | engine {before after : List Json} {v w : Json} (h : Engine.record.Pads v w) :
      PadsSharedPart "engines" (.array (before ++ v :: after)) (.array (before ++ w :: after))

/-- A part of the options of a build is padded. -/
inductive BuildOptions.PadsPart : String → Json → Json → Prop
  | shared {name : String} {v w : Json} (h : PadsSharedPart name v w) : PadsPart name v w
  | stdin {v w : Json} (h : StdinOptions.record.Pads v w) : PadsPart "stdin" v w

/-! ## Parts are read alike -/

namespace Shape

/-- Lists are read alike if they differ in one item that is read alike. -/
theorem list_congr {α : Type} {shape : Shape α} {v w : Json}
    (h : shape (.ofJson v) = shape (.ofJson w)) (before after : List Json) :
    list shape (.ofJson (.array (before ++ v :: after))) =
      list shape (.ofJson (.array (before ++ w :: after))) := by
  change items shape (Document.ofItems (before ++ v :: after)) none =
    items shape (Document.ofItems (before ++ w :: after)) none
  induction before with
  | nil => simp only [List.nil_append, Document.ofItems, items, h]
  | cons item rest ih => simp only [List.cons_append, Document.ofItems, items, ih]

/-- What is padded is an object, so where null may stand it is read as a record. -/
theorem optional_congr {ρ : Type} {record : Record ρ} {v w : Json} (hpads : record.Pads v w)
    (h : record.ofJson v = record.ofJson w) :
    optional record.shape (.ofJson v) = optional record.shape (.ofJson w) := by
  cases hpads with
  | unknown hname => exact congrArg (Except.map some) h
  | blank hfield hrequired hvalue hnew => exact congrArg (Except.map some) h

end Shape

theorem Field.read_of_congr {ρ α : Type} {name : String} {shape : Shape α} {write : α → Json}
    {get : ρ → α} {set : α → ρ → ρ} {d e : Document} (h : shape d = shape e) (r : ρ) :
    (Field.of name shape write get set).read d r = (Field.of name shape write get set).read e r :=
  congrArg (Except.map fun a => set a r) h

theorem Engine.keepsBlank_record : record.KeepsBlank := Record.keepsBlank_iff.mpr ⟨rfl, rfl⟩

theorem StrictOptions.keepsBlank_record : record.KeepsBlank :=
  Record.keepsBlank_iff.mpr ⟨rfl, rfl⟩

theorem StdinOptions.keepsBlank_record : record.KeepsBlank :=
  Record.keepsBlank_iff.mpr ⟨rfl, rfl, rfl, rfl⟩

theorem BuildOptions.keepsBlank_record : record.KeepsBlank :=
  Record.keepsBlank_iff.mpr (by and_intros <;> rfl)

theorem TransformOptions.keepsBlank_record : record.KeepsBlank :=
  Record.keepsBlank_iff.mpr (by and_intros <;> rfl)

/-- Engines that are padded are read alike, and so are the lists with them. -/
theorem Engine.list_eq_of_pads {v w : Json} (h : record.Pads v w) (before after : List Json) :
    Shape.list record.shape (.ofJson (.array (before ++ v :: after))) =
      Shape.list record.shape (.ofJson (.array (before ++ w :: after))) :=
  Shape.list_congr (h.ofJson_eq lawful_record keepsBlank_record) before after

/-! ## Padded options -/

theorem BuildOptions.ofJson_eq_of_padded {v w : Json} (h : record.Padded PadsPart v w) :
    ofJson v = ofJson w := by
  have hread : record.ofJson v = record.ofJson w := by
    refine h.ofJson_eq lawful_record keepsBlank_record ?_
    intro name v w hpart
    cases hpart with
    | stdin h =>
        have hstdin := h.ofJson_eq StdinOptions.lawful_record StdinOptions.keepsBlank_record
        exact ⟨_, rfl, Field.read_of_congr (Shape.optional_congr h hstdin)⟩
    | shared h =>
        cases h with
        | strict h =>
            have hstrict := h.ofJson_eq StrictOptions.lawful_record StrictOptions.keepsBlank_record
            exact ⟨_, rfl, Field.read_of_congr hstrict⟩
        | engine h => exact ⟨_, rfl, Field.read_of_congr (Engine.list_eq_of_pads h _ _)⟩
  unfold ofJson
  rw [hread]

theorem TransformOptions.ofJson_eq_of_padded {v w : Json} (h : record.Padded PadsSharedPart v w) :
    ofJson v = ofJson w := by
  have hread : record.ofJson v = record.ofJson w := by
    refine h.ofJson_eq lawful_record keepsBlank_record ?_
    intro name v w hpart
    cases hpart with
    | strict h =>
        have hstrict := h.ofJson_eq StrictOptions.lawful_record StrictOptions.keepsBlank_record
        exact ⟨_, rfl, Field.read_of_congr hstrict⟩
    | engine h => exact ⟨_, rfl, Field.read_of_congr (Engine.list_eq_of_pads h _ _)⟩
  unfold ofJson
  rw [hread]

/-- Reading options gives the same, be it options or the reason why there are none, after members
are added or removed that say nothing: members that are unknown, in the options or in their entry
point without a file, their strictness or their engines; and members that write out what is so
anyway, in the same places but for engines.  What a build takes besides its options is unknown to
them. -/
theorem padding_unseen :
    (∀ v w : Json, Relation.EqvGen (BuildOptions.record.Padded BuildOptions.PadsPart) v w →
      BuildOptions.ofJson v = BuildOptions.ofJson w) ∧
    (∀ v w : Json, Relation.EqvGen (TransformOptions.record.Padded PadsSharedPart) v w →
      TransformOptions.ofJson v = TransformOptions.ofJson w) ∧
    ∀ name ∈ ["plugins", "filterCache"], ∀ (before after : List (String × Json)) (value : Json),
      BuildOptions.ofJson (.object (before ++ (name, value) :: after)) =
        BuildOptions.ofJson (.object (before ++ after)) := by
  refine ⟨?build, ?transform, ?skipped⟩
  case build =>
    intro v w h
    -- Reading is a function on classes of objects, since no padding shows in what it gives.
    exact congrArg (Quot.lift BuildOptions.ofJson fun _ _ => BuildOptions.ofJson_eq_of_padded)
      (Quot.eqvGen_sound h)
  case transform =>
    intro v w h
    exact congrArg
      (Quot.lift TransformOptions.ofJson fun _ _ => TransformOptions.ofJson_eq_of_padded)
      (Quot.eqvGen_sound h)
  case skipped =>
    intro name hname before after value
    have hunknown : ∀ field ∈ BuildOptions.record.fields, field.name ≠ name := by
      revert name
      decide
    exact (BuildOptions.ofJson_eq_of_padded (.whole (.unknown hunknown))).symm

/-- Options of a build that say which engine they are for, and that there is an entry point without
a file. -/
def terseOptions : Json :=
  .object
    [("engines", .array [.object [("name", .string "node"), ("version", .string "12")]]),
     ("stdin", .object [])]

/-- The same options with an unknown member, with a remark on the engine, and with the loader that
the entry point has anyway. -/
def wordyOptions : Json :=
  .object
    [("engines", .array
      [.object [("name", .string "node"), ("note", .null), ("version", .string "12")]]),
     ("plugins", .array [.bool true]),
     ("stdin", .object [("loader", .string "none")])]

/-- Three members are added to options that are read, and one is taken from options that are
refused all the same. -/
theorem padding_unseen_wordyOptions :
    (Relation.EqvGen (BuildOptions.record.Padded BuildOptions.PadsPart) terseOptions wordyOptions ∧
      BuildOptions.ofJson wordyOptions =
        .ok { engines := [⟨.node, "12"⟩], stdin := some {} }) ∧
    Relation.EqvGen (TransformOptions.record.Padded PadsSharedPart)
        (.object [("strict", .object [("classFields", .bool false)]), ("target", .string "es3")])
        (.object [("strict", .object []), ("target", .string "es3")]) ∧
      TransformOptions.ofJson
          (.object [("strict", .object [("classFields", .bool false)]), ("target", .string "es3")]) =
        .error ⟨"transform options", .shape (.unknownName "es3" (Choice.names Target))⟩ := by
  have hengine : Engine.record.Pads
      (.object [("name", .string "node"), ("version", .string "12")])
      (.object [("name", .string "node"), ("note", .null), ("version", .string "12")]) :=
    @Record.Pads.unknown _ _ [("name", .string "node")] [("version", .string "12")] "note" .null
      (by decide)
  have hstdin : StdinOptions.record.Pads (.object []) (.object [("loader", .string "none")]) :=
    @Record.Pads.blank _ _ [] [] StdinOptions.record.fields[1] (.string "none")
      (List.getElem_mem _) rfl rfl List.not_mem_nil
  have hstrict : StrictOptions.record.Pads (.object [])
      (.object [("classFields", .bool false)]) :=
    @Record.Pads.blank _ _ [] [] StrictOptions.record.fields[1] (.bool false)
      (List.getElem_mem _) rfl rfl List.not_mem_nil
  let spoken : String × Json := ("engines", .array
    [.object [("name", .string "node"), ("note", .null), ("version", .string "12")]])
  have hbuild : Relation.EqvGen (BuildOptions.record.Padded BuildOptions.PadsPart) terseOptions
      wordyOptions := by
    refine .trans _ (.object [spoken, ("stdin", .object [])]) _ (.rel _ _ ?engine) ?rest
    case engine =>
      exact @Record.Padded.inside _ _ _ [] _ _ _ _
        (.shared (@PadsSharedPart.engine [] [] _ _ hengine))
    case rest =>
      refine .trans _ (.object [spoken, ("plugins", .array [.bool true]), ("stdin", .object [])]) _
        (.rel _ _ ?plugins) (.rel _ _ ?stdin)
      case plugins =>
        exact .whole (@Record.Pads.unknown _ _ [spoken] [("stdin", .object [])] "plugins" _
          (by decide))
      case stdin =>
        exact @Record.Padded.inside _ _ _ [spoken, ("plugins", .array [.bool true])] [] _ _ _
          (.stdin hstdin)
  have htransform : Relation.EqvGen (TransformOptions.record.Padded PadsSharedPart)
      (.object [("strict", .object [("classFields", .bool false)]), ("target", .string "es3")])
      (.object [("strict", .object []), ("target", .string "es3")]) :=
    .symm _ _ (.rel _ _ (@Record.Padded.inside _ _ _ [] _ _ _ _ (.strict hstrict)))
  refine ⟨⟨hbuild, ?_⟩, htransform, ?_⟩
  · rw [← padding_unseen.1 _ _ hbuild]
    rfl
  · rw [padding_unseen.2.1 _ _ htransform]
    rfl

end BundleFront
