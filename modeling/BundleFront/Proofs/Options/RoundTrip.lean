import BundleFront.Proofs.Json.Record
import BundleFront.Options.Change

/-!
# Options and messages come back from JSON

What the options of a build, those of a transformation and messages write is read back.
Every field is listed with the reason why its shape inverts its writing, and the fields
of a record tell each other apart and set different parts of it; the rest is general.

Only tables are not kept as they are: their entries come back with ascending names.
-/

namespace BundleFront

open BundleFront.Field BundleFront.Shape

namespace Engine

theorem lawful_record : record.Lawful where
  names_nodup := by decide
  independent := by simp [record, independent_must, independent_of]
  isSome_write := by simp [record, must, of]

theorem inverts_record : record.shape.Inverts record.write := fun e =>
  Record.ofJson_write lawful_record <|
    .cons (restores_must.mpr (restores_of inverts_choice e)) <|
    .cons (restores_must.mpr (restores_of inverts_text e)) .nil

end Engine

namespace StrictOptions

theorem lawful_record : record.Lawful where
  names_nodup := by decide
  independent := by simp [record, independent_of]
  isSome_write := by simp [record, of]

theorem inverts_record : record.shape.Inverts record.write := fun o =>
  Record.ofJson_write lawful_record <|
    .cons (restores_of inverts_bool o) <|
    .cons (restores_of inverts_bool o) .nil

end StrictOptions

namespace StdinOptions

theorem lawful_record : record.Lawful where
  names_nodup := by decide
  independent := by simp [record, independent_of]
  isSome_write := by simp [record, of]

theorem inverts_record : record.shape.Inverts record.write := fun o =>
  Record.ofJson_write lawful_record <|
    .cons (restores_of inverts_text o) <|
    .cons (restores_of inverts_choice o) <|
    .cons (restores_of inverts_text o) <|
    .cons (restores_of (inverts_optional inverts_path nofun) o) .nil

end StdinOptions

namespace Location

theorem lawful_record : record.Lawful where
  names_nodup := by decide
  independent := by simp [record, independent_must, independent_of]
  isSome_write := by simp [record, must, of]

theorem inverts_record : record.shape.Inverts record.write := fun l =>
  Record.ofJson_write lawful_record <|
    .cons (restores_must.mpr (restores_of inverts_text l)) <|
    .cons (restores_must.mpr (restores_of inverts_word32 l)) <|
    .cons (restores_must.mpr (restores_of inverts_word32 l)) <|
    .cons (restores_must.mpr (restores_of inverts_word32 l)) <|
    .cons (restores_must.mpr (restores_of inverts_text l)) .nil

end Location

namespace Message

theorem lawful_record : record.Lawful where
  names_nodup := by decide
  independent := by
    have hindependent : (of "text" Shape.text .string Message.text
        fun a m => { m with text := a }).Independent
        (of "location" (Shape.optional Location.record.shape)
          (Json.ofOption Location.record.write) Message.location
          fun a m => { m with location := a }) := independent_of fun _ _ _ => rfl
    exact List.pairwise_pair.mpr hindependent
  isSome_write := by simp [record, must, of]

/-- A location that is not there is not written, and stays away. -/
theorem inverts_record : record.shape.Inverts record.write := by
  rintro ⟨text, location⟩
  cases location with
  | none =>
      exact Record.ofJson_write lawful_record <|
        .cons (restores_must.mpr (restores_of inverts_text ⟨text, none⟩)) <|
        .cons (restores_of_none rfl) .nil
  | some location =>
      have hlocation : Shape.optional Location.record.shape
          (.ofJson (Location.record.write location)) = .ok (some location) :=
        inverts_optional Location.inverts_record nofun (some location)
      have hread (m : Message) : (Shape.optional Location.record.shape
          (.ofJson (Location.record.write location))).map (fun a => { m with location := a }) =
            .ok { m with location := some location } := by
        rw [hlocation]
        rfl
      exact Record.ofJson_write lawful_record <|
        .cons (restores_must.mpr (restores_of inverts_text ⟨text, some location⟩)) <|
        .cons (restores_of_some rfl hread) .nil

end Message

namespace BuildOptions

theorem lawful_record : record.Lawful where
  names_nodup := by decide
  independent := by simp [record, independent_of]
  isSome_write := by simp [record, of]

theorem ofJson_write (o : BuildOptions) :
    record.ofJson (record.write o) =
      .ok { o with
        defines := Table.sortedOfList o.defines
        loaders := Table.sortedOfList o.loaders } :=
  have hpath := inverts_optional inverts_path nofun
  have htexts := inverts_list inverts_text
  Record.ofJson_write lawful_record <|
    .cons (restores_of inverts_choice o) <|
    .cons (restores_of inverts_word64 o) <|
    .cons (restores_of inverts_choice o) <|
    .cons (restores_of inverts_choice o) <|
    .cons (restores_of inverts_choice o) <|
    .cons (restores_of (inverts_list Engine.inverts_record) o) <|
    .cons (restores_of StrictOptions.inverts_record o) <|
    .cons (restores_of inverts_bool o) <|
    .cons (restores_of inverts_bool o) <|
    .cons (restores_of inverts_bool o) <|
    .cons (restores_of inverts_text o) <|
    .cons (restores_of inverts_text o) <|
    .cons (restores_of_eq (table_ofTable inverts_text o.defines)) <|
    .cons (restores_of htexts o) <|
    .cons (restores_of inverts_text o) <|
    .cons (restores_of inverts_bool o) <|
    .cons (restores_of inverts_bool o) <|
    .cons (restores_of hpath o) <|
    .cons (restores_of hpath o) <|
    .cons (restores_of hpath o) <|
    .cons (restores_of inverts_choice o) <|
    .cons (restores_of inverts_choice o) <|
    .cons (restores_of htexts o) <|
    .cons (restores_of_eq (table_ofTable inverts_choice o.loaders)) <|
    .cons (restores_of (inverts_optional htexts nofun) o) <|
    .cons (restores_of (inverts_list inverts_path) o) <|
    .cons (restores_of (inverts_optional StdinOptions.inverts_record nofun) o) .nil

theorem ofJson_toJson (o : BuildOptions) :
    ofJson o.toJson =
      .ok { o with
        defines := Table.sortedOfList o.defines
        loaders := Table.sortedOfList o.loaders } := by
  unfold ofJson toJson
  rw [ofJson_write]
  rfl

end BuildOptions

namespace TransformOptions

theorem lawful_record : record.Lawful where
  names_nodup := by decide
  independent := by simp [record, independent_of]
  isSome_write := by simp [record, of]

theorem ofJson_write (t : TransformOptions) :
    record.ofJson (record.write t) = .ok { t with defines := Table.sortedOfList t.defines } :=
  Record.ofJson_write lawful_record <|
    .cons (restores_of inverts_choice t) <|
    .cons (restores_of inverts_word64 t) <|
    .cons (restores_of inverts_choice t) <|
    .cons (restores_of inverts_choice t) <|
    .cons (restores_of inverts_choice t) <|
    .cons (restores_of (inverts_list Engine.inverts_record) t) <|
    .cons (restores_of StrictOptions.inverts_record t) <|
    .cons (restores_of inverts_bool t) <|
    .cons (restores_of inverts_bool t) <|
    .cons (restores_of inverts_bool t) <|
    .cons (restores_of inverts_text t) <|
    .cons (restores_of inverts_text t) <|
    .cons (restores_of_eq (table_ofTable inverts_text t.defines)) <|
    .cons (restores_of (inverts_list inverts_text) t) <|
    .cons (restores_of inverts_text t) <|
    .cons (restores_of inverts_choice t) .nil

theorem ofJson_toJson (t : TransformOptions) :
    ofJson t.toJson = .ok { t with defines := Table.sortedOfList t.defines } := by
  unfold ofJson toJson
  rw [ofJson_write]
  rfl

end TransformOptions

/-- What is written as JSON is read back.  The options of a build come back as they were but for
the order of their defines and loaders, whose names then ascend; the options of a transformation
come back as equal ones, and an entry point without a file and a message come back as they were. -/
theorem json_comes_back :
    (∀ o : BuildOptions, (Table.keys o.defines).Nodup → (Table.keys o.loaders).Nodup →
      ∃ decoded, BuildOptions.ofJson o.toJson = .ok decoded ∧
        { decoded with defines := o.defines, loaders := o.loaders } = o ∧
        Table.Sorts o.defines decoded.defines ∧ Table.Sorts o.loaders decoded.loaders ∧
        (decoded = o ↔ Table.Ascending o.defines ∧ Table.Ascending o.loaders)) ∧
    (∀ t : TransformOptions, (Table.keys t.defines).Nodup →
      ∃ decoded, TransformOptions.ofJson t.toJson = .ok decoded ∧ t.agrees decoded = true) ∧
    (∀ s : StdinOptions, StdinOptions.record.ofJson (StdinOptions.record.write s) = .ok s) ∧
    ∀ m : Message, Message.record.ofJson (Message.record.write m) = .ok m := by
  refine ⟨?build, ?transform, StdinOptions.inverts_record, Message.inverts_record⟩
  case build =>
    intro o hdefines hloaders
    refine ⟨_, o.ofJson_toJson, rfl, Table.sorts_sortedOfList hdefines,
      Table.sorts_sortedOfList hloaders, ?_⟩
    rw [← Table.sortedOfList_eq_self_iff, ← Table.sortedOfList_eq_self_iff]
    constructor
    · intro h
      exact ⟨congrArg BuildOptions.defines h, congrArg BuildOptions.loaders h⟩
    · rintro ⟨h, h'⟩
      rw [h, h']
  case transform =>
    intro t hdefines
    have hsame := Table.same_of_perm hdefines (Table.sortedOfList_perm hdefines)
    refine ⟨_, t.ofJson_toJson, ?_⟩
    unfold TransformOptions.agrees
    rw [hsame, Bool.and_true, decide_eq_true_eq]

/-- Options whose tables are out of order, with values that stand close to none. -/
def unorderedOptions : BuildOptions where
  engines := [⟨.chrome, "80"⟩]
  defines := [("Z", "1"), ("A", "2")]
  loaders := [(".b", .dataUrl), (".a", .file)]
  outfile := some ⟨""⟩
  resolveExtensions := some []
  stdin := some { contents := "a()" }

/-- Tables out of order come back in order, so the options are not the ones that were written. -/
theorem json_comes_back_unorderedOptions :
    (∃ decoded, BuildOptions.ofJson unorderedOptions.toJson = .ok decoded ∧
      Table.Sorts unorderedOptions.defines decoded.defines ∧ decoded ≠ unorderedOptions) ∧
    ∃ decoded, TransformOptions.ofJson
        (TransformOptions.toJson { defines := unorderedOptions.defines }) = .ok decoded ∧
      TransformOptions.agrees { defines := unorderedOptions.defines } decoded = true := by
  obtain ⟨decoded, hdecoded, -, hdefines, -, hsame⟩ :=
    json_comes_back.1 unorderedOptions (by decide) (by decide)
  refine ⟨⟨decoded, hdecoded, hdefines, ?_⟩, json_comes_back.2.1 _ (by decide)⟩
  intro h
  have hascending := (hsame.mp h).1
  unfold Table.Ascending at hascending
  exact absurd hascending (by decide)

end BundleFront
