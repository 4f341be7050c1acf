import BundleFront.Proofs.Json.Record
import Mathlib.Data.List.Find
import Mathlib.Data.List.Nodup
import Mathlib.Data.List.Pairwise

/-!
# Members that say nothing

Two kinds of members say nothing about a record: one that no field is named for, and one
that gives a field the value which it has anyway when it is left out.  An object may be
padded with either, and the record that is read from it, or the reason why none is,
stays the same.

This takes no look at the other members.  A field that is read back as blank changes
nothing in a blank record, and independence carries this over to a record into which
other fields have been read already.

* `Record.Pads` — one more member in an object, which says nothing about a record.
* `Record.Padded` — the same, in an object or in a record inside it.
* `Record.Pads.ofJson_eq`, `Record.Padded.ofJson_eq` — what is read stays the same.
-/

namespace BundleFront

/-! ## Values are passed over -/

namespace Document

mutual

/-- A value has no faults, so nothing is at fault when it is passed over. -/
theorem passed_ofJson : ∀ value : Json, (ofJson value).passed = none
  | .null | .bool _ | .number _ | .string _ => rfl
  | .array items => by simp only [ofJson, passed, passedItems_ofItems items, Option.or_none]
  | .object members => by
      simp only [ofJson, passed, passedMembers_ofMembers members, Option.or_none]

theorem passedItems_ofItems : ∀ items : List Json, passedItems (ofItems items) = none
  | [] => rfl
  | item :: rest => by
      simp only [ofItems, passedItems, passed_ofJson item, passedItems_ofItems rest, Option.or_none]

theorem passedMembers_ofMembers :
    ∀ members : List (String × Json), passedMembers (ofMembers members) = none
  | [] => rfl
  | (_, value) :: rest => by
      simp only [ofMembers, passedMembers, Leaf.sound, passed_ofJson value,
        passedMembers_ofMembers rest, Option.or_none]

end

end Document

variable {ρ : Type}

instance : Std.Symm (@Field.Independent ρ) where
  symm := by
    intro f g h d e r s t hs ht
    obtain ⟨u, hg, hf⟩ := h e d r t s ht hs
    exact ⟨u, hf, hg⟩

namespace Record

/-- The second object has one more member than the first, which says nothing about the record: no
field has its name, or the field may be left out and gets the value that it has in this case. -/
inductive Pads (record : Record ρ) : Json → Json → Prop
  | unknown {before after : List (String × Json)} {name : String} {value : Json}
      (hname : ∀ field ∈ record.fields, field.name ≠ name) :
      Pads record (.object (before ++ after)) (.object (before ++ (name, value) :: after))
  | blank {before after : List (String × Json)} {field : Field ρ} {value : Json}
      (hfield : field ∈ record.fields) (hrequired : field.required = false)
      (hvalue : field.write record.blank = some value)
      (hnew : field.name ∉ Table.keys (before ++ after)) :
      Pads record (.object (before ++ after)) (.object (before ++ (field.name, value) :: after))

/-- An object itself is padded, or the value of one of its members, of which `part` tells how. -/
inductive Padded (record : Record ρ) (part : String → Json → Json → Prop) : Json → Json → Prop
  | whole {v w : Json} (h : record.Pads v w) : Padded record part v w
  | inside {before after : List (String × Json)} {name : String} {v w : Json}
      (h : part name v w) :
      Padded record part (.object (before ++ (name, v) :: after))
        (.object (before ++ (name, w) :: after))

/-- What a blank record writes for a field is read back as blank. -/
def KeepsBlank (record : Record ρ) : Prop :=
  ∀ field ∈ record.fields, field.restore record.blank record.blank = .ok record.blank

/-- The fields may be checked one by one. -/
theorem keepsBlank_iff {record : Record ρ} :
    record.KeepsBlank ↔
      record.fields.Forall fun field =>
        field.restore record.blank record.blank = .ok record.blank :=
  List.forall_iff_forall_mem.symm

/-! ## One member after the other -/

/-- Reading the members of a value: each is passed over, or refused as repeated, or read. -/
theorem readMembers_ofMembers_cons (fields : List (Field ρ)) (seen : List String) (r : ρ)
    (name : String) (value : Json) (members : List (String × Json)) :
    readMembers fields seen r (Document.ofMembers ((name, value) :: members)) none =
      match fields.find? (·.name == name) with
      | none => readMembers fields seen r (Document.ofMembers members) none
      | some field =>
          if seen.contains name then .error (.duplicateField name)
          else (field.read (.ofJson value) r).bind fun s =>
            readMembers fields (name :: seen) s (Document.ofMembers members) none := by
  cases hfind : fields.find? (·.name == name) with
  | none =>
      simp only [Document.ofMembers, readMembers, Shape.ofLeaf, Leaf.sound, Except.mapError, bind,
        Except.bind, Document.passed_ofJson, hfind]
  | some field =>
      simp only [Document.ofMembers, readMembers, Shape.ofLeaf, Leaf.sound, Except.mapError, bind,
        Except.bind, hfind]

/-- If two lists of members are read alike, they are so behind other members. -/
theorem readMembers_append_congr {fields : List (Field ρ)} {members others : List (String × Json)}
    (h : ∀ seen r, readMembers fields seen r (Document.ofMembers members) none =
      readMembers fields seen r (Document.ofMembers others) none)
    (before : List (String × Json)) (seen : List String) (r : ρ) :
    readMembers fields seen r (Document.ofMembers (before ++ members)) none =
      readMembers fields seen r (Document.ofMembers (before ++ others)) none := by
  induction before generalizing seen r with
  | nil => exact h seen r
  | cons entry rest ih =>
      obtain ⟨name, value⟩ := entry
      simp only [List.cons_append, readMembers_ofMembers_cons, ih]

/-- The record that the members come to, unless a field is missing. -/
def finish (record : Record ρ) (seen : List String) (r : ρ) : Except ShapeError ρ :=
  match record.fields.find? (fun field => field.required && !seen.contains field.name) with
  | some field => .error (.missingField field.name)
  | none => .ok r

theorem ofJson_object (record : Record ρ) (members : List (String × Json)) :
    record.ofJson (.object members) =
      (readMembers record.fields [] record.blank (Document.ofMembers members) none).bind
        fun found => record.finish found.1 found.2 := rfl

/-! ## A member with the value of a blank record -/

/-- Two readings that come to the same, but for whether the field `name` has been seen. -/
inductive SameBut (name : String) :
    Except ShapeError (List String × ρ) → Except ShapeError (List String × ρ) → Prop
  | error (e : ShapeError) : SameBut name (.error e) (.error e)
  | ok {seen others : List String} (r : ρ)
      (h : ∀ other, other ≠ name → (other ∈ seen ↔ other ∈ others)) :
      SameBut name (.ok (seen, r)) (.ok (others, r))

/-- Whether a field has been seen plays no part as long as no member is named for it. -/
theorem readMembers_sameBut {fields : List (Field ρ)} {name : String}
    {members : List (String × Json)} (hnew : name ∉ Table.keys members) {seen others : List String}
    (hseen : ∀ other, other ≠ name → (other ∈ seen ↔ other ∈ others)) (r : ρ) :
    SameBut name (readMembers fields seen r (Document.ofMembers members) none)
      (readMembers fields others r (Document.ofMembers members) none) := by
  induction members generalizing seen others r with
  | nil => exact .ok r hseen
  | cons entry rest ih =>
      obtain ⟨first, value⟩ := entry
      rw [Table.keys_cons, List.mem_cons, not_or] at hnew
      obtain ⟨hfirst, hrest⟩ := hnew
      have hsame : seen.contains first = others.contains first := by
        rw [Bool.eq_iff_iff, List.contains_iff_mem, List.contains_iff_mem]
        exact hseen first (Ne.symm hfirst)
      have hnext : ∀ other, other ≠ name → (other ∈ first :: seen ↔ other ∈ first :: others) := by
        intro other hother
        rw [List.mem_cons, List.mem_cons, hseen other hother]
      rw [readMembers_ofMembers_cons, readMembers_ofMembers_cons, hsame]
      cases fields.find? (·.name == first) with
      | none => exact ih hrest hseen r
      | some field =>
          by_cases hrepeated : others.contains first = true
          · simp only [hrepeated, if_true]
            exact .error _
          · simp only [hrepeated]
            cases field.read (.ofJson value) r with
            | error e => exact .error e
            | ok s => exact ih hrest hnext s

/-- A field that is read back as it is disturbs nothing, wherever its member stands. -/
theorem readMembers_blank {fields : List (Field ρ)} (hnames : (fields.map Field.name).Nodup)
    (hindependent : fields.Pairwise Field.Independent) {field : Field ρ} (hfield : field ∈ fields)
    {value : Json} {before after : List (String × Json)}
    (hnew : field.name ∉ Table.keys (before ++ after)) {seen : List String}
    (hseen : field.name ∉ seen) {r : ρ} (hread : field.read (.ofJson value) r = .ok r) :
    SameBut field.name (readMembers fields seen r (Document.ofMembers (before ++ after)) none)
      (readMembers fields seen r
        (Document.ofMembers (before ++ (field.name, value) :: after)) none) := by
  -- On the way to the new member the record changes, but the field is read back as it is from
  -- every record on the way: this is `hread`, and each step has to give it again.
  induction before generalizing seen r with
  | nil =>
      have hagree : ∀ other, other ≠ field.name → (other ∈ seen ↔ other ∈ field.name :: seen) := by
        intro other hother
        rw [List.mem_cons, or_iff_right hother]
      rw [List.nil_append, List.nil_append, readMembers_cons hnames hfield hseen hread]
      exact readMembers_sameBut hnew hagree r
  | cons entry rest ih =>
      obtain ⟨first, found⟩ := entry
      rw [List.cons_append, Table.keys_cons, List.mem_cons, not_or] at hnew
      obtain ⟨hfirst, hrest⟩ := hnew
      rw [List.cons_append, List.cons_append, readMembers_ofMembers_cons,
        readMembers_ofMembers_cons]
      cases hfind : fields.find? (·.name == first) with
      | none => exact ih hrest hseen hread
      | some other =>
          have hother : other ∈ fields := List.mem_of_find?_eq_some hfind
          have hname : other.name = first := by simpa using List.find?_some hfind
          by_cases hrepeated : seen.contains first = true
          · simp only [hrepeated, if_true]
            exact .error _
          · simp only [hrepeated]
            cases hnext : other.read (.ofJson found) r with
            | error e => exact .error e
            | ok s =>
                -- What the other field changes leaves this one as it is.
                have hne : field ≠ other := by
                  rintro rfl
                  exact hfirst hname
                have hapart := hindependent.forall hfield hother hne
                obtain ⟨t, ht, hkept⟩ := hapart _ _ r r s hread hnext
                rw [hnext, Except.ok.injEq] at ht
                subst ht
                refine ih hrest ?_ hkept
                rw [List.mem_cons, not_or]
                exact ⟨hfirst, hseen⟩

/-- A field that may be left out is never missing. -/
theorem SameBut.finish_eq {record : Record ρ} (hnames : (record.fields.map Field.name).Nodup)
    {field : Field ρ} (hfield : field ∈ record.fields) (hrequired : field.required = false)
    {first second : Except ShapeError (List String × ρ)} (h : SameBut field.name first second) :
    first.bind (fun found => record.finish found.1 found.2) =
      second.bind fun found => record.finish found.1 found.2 := by
  cases h with
  | error e => rfl
  | @ok seen others r hseen =>
      have hmissing : ∀ other ∈ record.fields, (other.required && !seen.contains other.name) =
          (other.required && !others.contains other.name) := by
        intro other hother
        by_cases hname : other.name = field.name
        · have hsame : other = field := List.inj_on_of_nodup_map hnames hother hfield hname
          rw [hsame, hrequired, Bool.false_and, Bool.false_and]
        · have hagree : seen.contains other.name = others.contains other.name := by
            rw [Bool.eq_iff_iff, List.contains_iff_mem, List.contains_iff_mem]
            exact hseen other.name hname
          rw [hagree]
      change record.finish seen r = record.finish others r
      unfold finish
      rw [List.find?_congr hmissing]

/-! ## Padded objects -/

/-- Padding an object changes nothing in what is read from it. -/
theorem Pads.ofJson_eq {record : Record ρ} (hlawful : record.Lawful) (hblank : record.KeepsBlank)
    {v w : Json} (h : record.Pads v w) : record.ofJson v = record.ofJson w := by
  cases h with
  | @unknown before after name value hname =>
      have hfind : record.fields.find? (·.name == name) = none := by
        rw [List.find?_eq_none]
        intro field hfield
        simpa using hname field hfield
      have hpassed : ∀ seen r,
          readMembers record.fields seen r (Document.ofMembers after) none =
            readMembers record.fields seen r (Document.ofMembers ((name, value) :: after)) none := by
        intro seen r
        rw [readMembers_ofMembers_cons, hfind]
      rw [ofJson_object, ofJson_object, readMembers_append_congr hpassed]
  | @blank before after field value hfield hrequired hvalue hnew =>
      have hread : field.read (.ofJson value) record.blank = .ok record.blank := by
        simpa only [Field.restore, hvalue] using hblank field hfield
      rw [ofJson_object, ofJson_object]
      exact SameBut.finish_eq hlawful.names_nodup hfield hrequired
        (readMembers_blank hlawful.names_nodup hlawful.independent hfield hnew List.not_mem_nil
          hread)

/-- Padding a part of a record changes nothing either, if the field of this part reads both alike. -/
theorem Padded.ofJson_eq {record : Record ρ} {part : String → Json → Json → Prop}
    (hlawful : record.Lawful) (hblank : record.KeepsBlank)
    (hpart : ∀ name v w, part name v w → ∃ field,
      record.fields.find? (·.name == name) = some field ∧
        ∀ r, field.read (.ofJson v) r = field.read (.ofJson w) r)
    {v w : Json} (h : record.Padded part v w) : record.ofJson v = record.ofJson w := by
  cases h with
  | whole h => exact h.ofJson_eq hlawful hblank
  | @inside before after name v w h =>
      obtain ⟨field, hfind, hread⟩ := hpart name v w h
      have halike : ∀ seen r,
          readMembers record.fields seen r (Document.ofMembers ((name, v) :: after)) none =
            readMembers record.fields seen r (Document.ofMembers ((name, w) :: after)) none := by
        intro seen r
        simp only [readMembers_ofMembers_cons, hfind, hread r]
      rw [ofJson_object, ofJson_object, readMembers_append_congr halike]

end Record
end BundleFront
