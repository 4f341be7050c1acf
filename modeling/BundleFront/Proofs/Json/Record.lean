import BundleFront.Proofs.Json.Shape

/-!
# Reading records back

A record is written field by field, but its members stand in ascending order of their
names, and in this order it is read.  Nobody who lists fields has to know that order:
where the fields have distinct names and do not disturb each other, reading back what a
record writes comes to the same as reading back its fields one by one as they are
listed.

* `Field.Independent` — it does not matter which of two fields is read first.
* `Field.Restores` — what becomes of a record into which a field is read back.
* `Record.Lawful` — what a list of fields has to guarantee.
* `Record.write_eq` — the members of a record, in order.
* `Record.ofJson_write` — reading a record back is reading its fields back.
-/

namespace BundleFront

variable {ρ : Type}

namespace Field

/-- The member that a field writes, if any. -/
def member (o : ρ) (field : Field ρ) : Option (String × Json) :=
  (field.write o).map fun value => (field.name, value)

/-- Read into `r` what the field writes for `o`; if that is nothing, `r` stays as it is. -/
def restore (o : ρ) (field : Field ρ) (r : ρ) : Except ShapeError ρ :=
  match field.write o with
  | none => .ok r
  | some value => field.read (.ofJson value) r

/-- It does not matter which of two fields is read first. -/
def Independent (f g : Field ρ) : Prop :=
  ∀ (d e : Document) (r s t : ρ), f.read d r = .ok s → g.read e r = .ok t →
    ∃ u, g.read e s = .ok u ∧ f.read d t = .ok u

/-- Fields are independent if their setters commute. -/
theorem independent_of {α β : Type} {name other : String} {shape : Shape α} {shape' : Shape β}
    {write : α → Json} {write' : β → Json} {get : ρ → α} {get' : ρ → β} {set : α → ρ → ρ}
    {set' : β → ρ → ρ} (hset : ∀ a b r, set' b (set a r) = set a (set' b r)) :
    (of name shape write get set).Independent (of other shape' write' get' set') := by
  intro d e r s t hs ht
  simp only [of] at hs ht ⊢
  cases hd : shape d with
  | error fault => rw [hd] at hs; cases hs
  | ok a =>
      cases he : shape' e with
      | error fault => rw [he] at ht; cases ht
      | ok b =>
          rw [hd] at hs
          rw [he] at ht
          cases hs
          cases ht
          exact ⟨set' b (set a r), rfl, congrArg Except.ok (hset a b r).symm⟩

/-- Reading the field back into a record succeeds, whatever the record is, and changes it by
`change`. -/
def Restores (o : ρ) (field : Field ρ) (change : ρ → ρ) : Prop :=
  ∀ r, field.restore o r = .ok (change r)

/-- A field that is not written changes nothing. -/
theorem restores_of_none {field : Field ρ} {o : ρ} (h : field.write o = none) :
    field.Restores o id := by
  intro r
  unfold restore
  rw [h]
  rfl

theorem restores_of_some {field : Field ρ} {o : ρ} {value : Json} {change : ρ → ρ}
    (h : field.write o = some value) (hread : ∀ r, field.read (.ofJson value) r = .ok (change r)) :
    field.Restores o change := by
  intro r
  unfold restore
  rw [h]
  exact hread r

/-- A field with a getter and a setter gets the value to which its shape comes. -/
theorem restores_of_eq {α : Type} {name : String} {shape : Shape α} {write : α → Json} {get : ρ → α}
    {set : α → ρ → ρ} {o : ρ} {a : α} (h : shape (.ofJson (write (get o))) = .ok a) :
    (of name shape write get set).Restores o (set a) :=
  restores_of_some rfl fun r => congrArg (Except.map fun a => set a r) h

theorem restores_of {α : Type} {name : String} {shape : Shape α} {write : α → Json} {get : ρ → α}
    {set : α → ρ → ρ} (h : shape.Inverts write) (o : ρ) :
    (of name shape write get set).Restores o (set (get o)) :=
  restores_of_eq (h (get o))

/-- That a field may not be left out plays no part in how it is read. -/
theorem independent_must {f g : Field ρ} : f.must.Independent g.must ↔ f.Independent g := Iff.rfl

theorem restores_must {f : Field ρ} {o : ρ} {change : ρ → ρ} :
    f.must.Restores o change ↔ f.Restores o change := Iff.rfl

/-- Read back one field after the other. -/
def restoreAll (o : ρ) (fields : List (Field ρ)) (start : Except ShapeError ρ) :
    Except ShapeError ρ :=
  fields.foldl (fun r field => r.bind (field.restore o)) start

theorem restoreAll_eq {o : ρ} {fields : List (Field ρ)} {changes : List (ρ → ρ)}
    (h : List.Forall₂ (Restores o) fields changes) (r : ρ) :
    restoreAll o fields (.ok r) = .ok (changes.foldl (fun r change => change r) r) := by
  induction h generalizing r with
  | nil => rfl
  | cons hfield _ ih => exact (congrArg (restoreAll o _) (hfield r)).trans (ih _)

theorem exists_restores {o : ρ} {fields : List (Field ρ)} {changes : List (ρ → ρ)}
    (h : List.Forall₂ (Restores o) fields changes) :
    ∀ field ∈ fields, ∃ change, field.Restores o change := by
  induction h with
  | nil => simp
  | cons hfield _ ih => exact List.forall_mem_cons.mpr ⟨⟨_, hfield⟩, ih⟩

/-- Independent fields may change places, if nothing goes wrong with either. -/
theorem Independent.restore_comm {f g : Field ρ} (h : f.Independent g) {o r s t : ρ}
    (hs : f.restore o r = .ok s) (ht : g.restore o r = .ok t) :
    g.restore o s = f.restore o t := by
  unfold restore at hs ht ⊢
  -- A field that is not written disturbs nobody.
  cases hf : f.write o with
  | none =>
      rw [hf] at hs
      cases hs
      exact ht
  | some d =>
      rw [hf] at hs
      cases hg : g.write o with
      | none =>
          rw [hg] at ht
          cases ht
          exact hs.symm
      | some e =>
          rw [hg] at ht
          obtain ⟨u, hgu, hfu⟩ := h (.ofJson d) (.ofJson e) r s t hs ht
          exact hgu.trans hfu.symm

/-- If nothing goes wrong, independent fields may be read back in any order. -/
theorem restoreAll_perm {o : ρ} {fields other : List (Field ρ)} (hperm : other.Perm fields)
    (hindependent : fields.Pairwise Independent)
    (hread : ∀ field ∈ fields, ∃ change, field.Restores o change) (start : Except ShapeError ρ) :
    restoreAll o other start = restoreAll o fields start := by
  have hcommute : fields.Pairwise fun f g => ∀ r,
      (f.restore o r).bind (g.restore o) = (g.restore o r).bind (f.restore o) := by
    refine hindependent.imp_of_mem ?_
    intro f g hf hg hfg r
    obtain ⟨change, hchange⟩ := hread f hf
    obtain ⟨other, hother⟩ := hread g hg
    rw [hchange r, hother r]
    exact hfg.restore_comm (hchange r) (hother r)
  have hall := hcommute.forall_of_forall_of_flip (fun _ _ _ => rfl)
    (hcommute.imp fun h r => (h r).symm)
  refine (hperm.symm.foldl_eq' ?_ start).symm
  intro f hf g hg r
  cases r with
  | error fault => rfl
  | ok r => exact hall hf hg r

end Field

namespace Record

/-- The fields of a record tell each other apart and do not disturb each other, and one that is
required is always written. -/
structure Lawful (record : Record ρ) : Prop where
  names_nodup : (record.fields.map Field.name).Nodup
  independent : record.fields.Pairwise Field.Independent
  isSome_write : ∀ field ∈ record.fields, field.required = true →
    ∀ r, (field.write r).isSome = true

/-- With distinct names, a field is found by its name. -/
theorem find?_name {fields : List (Field ρ)} (hnames : (fields.map Field.name).Nodup)
    {field : Field ρ} (h : field ∈ fields) : fields.find? (·.name == field.name) = some field := by
  induction fields with
  | nil => cases h
  | cons first rest ih =>
      rw [List.map_cons, List.nodup_cons] at hnames
      obtain ⟨hfresh, hrest⟩ := hnames
      rcases List.mem_cons.mp h with rfl | hmem
      · simp
      · have hne : (first.name == field.name) = false := by
          rw [beq_eq_false_iff_ne]
          intro hsame
          exact hfresh (hsame ▸ List.mem_map_of_mem hmem)
        rw [List.find?_cons_of_neg (by simp [hne])]
        exact ih hrest hmem

/-- The fields in the order in which their members stand, that of their names. -/
def inOrder (record : Record ρ) : List (Field ρ) :=
  (Table.sortedOfList (record.fields.map fun field => (field.name, field))).map Prod.snd

theorem sortedOfList_fields_perm {record : Record ρ}
    (hnames : (record.fields.map Field.name).Nodup) :
    (Table.sortedOfList (record.fields.map fun field => (field.name, field))).Perm
      (record.fields.map fun field => (field.name, field)) := by
  have hkeys : Table.keys (record.fields.map fun field => (field.name, field)) =
      record.fields.map Field.name := List.map_map
  exact Table.sortedOfList_perm (hkeys ▸ hnames)

theorem inOrder_perm {record : Record ρ} (hnames : (record.fields.map Field.name).Nodup) :
    record.inOrder.Perm record.fields := by
  refine ((sortedOfList_fields_perm hnames).map Prod.snd).trans ?_
  rw [List.map_map]
  exact List.Perm.of_eq (List.map_id _)

/-- Fields that are not written leave gaps, but the names of the others ascend. -/
theorem ascending_inOrder {record : Record ρ} (hnames : (record.fields.map Field.name).Nodup)
    (o : ρ) : Table.Ascending (record.inOrder.filterMap (Field.member o)) := by
  let convert (entry : String × Field ρ) : Option (String × Json) :=
    (entry.2.write o).map fun value => (entry.1, value)
  have hmembers : record.inOrder.filterMap (Field.member o) =
      (Table.sortedOfList (record.fields.map fun field => (field.name, field))).filterMap
        convert := by
    unfold inOrder
    rw [List.filterMap_map]
    refine List.filterMap_congr fun entry hentry => ?_
    obtain ⟨field, -, rfl⟩ := List.mem_map.mp ((sortedOfList_fields_perm hnames).subset hentry)
    rfl
  rw [hmembers]
  refine (Table.ascending_sortedOfList _).filterMap ?_
  intro entry converted h
  obtain ⟨value, -, rfl⟩ := Option.map_eq_some_iff.mp h
  rfl

/-- The members of a record are those of its fields, in the order of their names. -/
theorem write_eq {record : Record ρ} (hnames : (record.fields.map Field.name).Nodup) (o : ρ) :
    record.write o = .object (record.inOrder.filterMap (Field.member o)) := by
  have hsame := (inOrder_perm hnames).filterMap (Field.member o)
  have hascending := ascending_inOrder hnames o
  have hnodup : (Table.keys (record.fields.filterMap (Field.member o))).Nodup :=
    (hsame.map Prod.fst).nodup_iff.mp hascending.nodup_keys
  -- Both lists hold the same members and both ascend, which leaves one order.
  refine congrArg Json.object ?_
  exact (Table.ascending_sortedOfList _).eq_of_perm hascending
    ((Table.sortedOfList_perm hnodup).trans hsame.symm)

/-- The member of a field that was not read yet is read by this field. -/
theorem readMembers_cons {fields : List (Field ρ)} (hnames : (fields.map Field.name).Nodup)
    {field : Field ρ} (hfield : field ∈ fields) {seen : List String} (hseen : field.name ∉ seen)
    {value : Json} {r s : ρ} (hread : field.read (.ofJson value) r = .ok s)
    (members : List (String × Json)) :
    readMembers fields seen r (Document.ofMembers ((field.name, value) :: members)) none =
      readMembers fields (field.name :: seen) s (Document.ofMembers members) none := by
  have hnew : seen.contains field.name = false := by simpa using hseen
  simp only [Document.ofMembers, readMembers, Shape.ofLeaf, Leaf.sound, bind, Except.mapError,
    Except.bind, find?_name hnames hfield, hnew, hread, Bool.false_eq_true, if_false]

/-- Members that fields have written are read by these fields, one after the other. -/
theorem readMembers_filterMap_member {fields : List (Field ρ)}
    (hnames : (fields.map Field.name).Nodup) {o : ρ} {written : List (Field ρ)}
    (hwritten : ∀ field ∈ written, field ∈ fields) (hdistinct : (written.map Field.name).Nodup)
    (hread : ∀ field ∈ written, ∃ change, field.Restores o change) {seen : List String}
    (hseen : ∀ field ∈ written, field.name ∉ seen) (r : ρ) :
    readMembers fields seen r (Document.ofMembers (written.filterMap (Field.member o))) none =
      (Field.restoreAll o written (.ok r)).map fun s =>
        ((Table.keys (written.filterMap (Field.member o))).reverse ++ seen, s) := by
  induction written generalizing seen r with
  | nil => rfl
  | cons field rest ih =>
      rw [List.map_cons, List.nodup_cons] at hdistinct
      obtain ⟨hfresh, hdistinct⟩ := hdistinct
      rw [List.forall_mem_cons] at hwritten hread hseen
      obtain ⟨⟨change, hchange⟩, hread⟩ := hread
      have hs := hchange r
      have hstep : Field.restoreAll o (field :: rest) (.ok r) =
          Field.restoreAll o rest (.ok (change r)) :=
        congrArg (Field.restoreAll o rest) hs
      rw [hstep]
      cases hwrite : field.write o with
      | none =>
          have hmember : Field.member o field = none := by simp [Field.member, hwrite]
          have hsame : r = change r := by simpa [Field.restore, hwrite] using hs
          rw [List.filterMap_cons_none hmember, ← hsame]
          exact ih hwritten.2 hdistinct hread hseen.2 r
      | some value =>
          have hmember : Field.member o field = some (field.name, value) := by
            simp [Field.member, hwrite]
          have hvalue : field.read (.ofJson value) r = .ok (change r) := by
            simpa [Field.restore, hwrite] using hs
          have hnext : ∀ next ∈ rest, next.name ∉ field.name :: seen := by
            intro next hnext hmem
            rcases List.mem_cons.mp hmem with hsame | hold
            · exact hfresh (hsame ▸ List.mem_map_of_mem hnext)
            · exact hseen.2 next hnext hold
          rw [List.filterMap_cons_some hmember,
            readMembers_cons hnames hwritten.1 hseen.1 hvalue,
            ih hwritten.2 hdistinct hread hnext (change r)]
          simp [Table.keys]

/-- What is written has all fields that must not be left out. -/
theorem Lawful.find?_missing {record : Record ρ} (hlawful : record.Lawful) (o : ρ) :
    record.fields.find? (fun field => field.required &&
      !((Table.keys (record.inOrder.filterMap (Field.member o))).reverse ++ []).contains
        field.name) = none := by
  rw [List.find?_eq_none]
  intro field hfield hmissing
  obtain ⟨hrequired, habsent⟩ := Bool.and_eq_true_iff.mp hmissing
  obtain ⟨value, hvalue⟩ :=
    Option.isSome_iff_exists.mp (hlawful.isSome_write field hfield hrequired o)
  have hmem : (field.name, value) ∈ record.inOrder.filterMap (Field.member o) := by
    refine List.mem_filterMap.mpr ⟨field, ?_, ?_⟩
    · exact (inOrder_perm hlawful.names_nodup).symm.subset hfield
    · simp [Field.member, hvalue]
  have hkey : field.name ∈ Table.keys (record.inOrder.filterMap (Field.member o)) :=
    List.mem_map_of_mem hmem
  simp [hkey] at habsent

/-- Reading back what a record writes comes to the same as reading back its fields, one by one as
they are listed. -/
theorem ofJson_write {record : Record ρ} (hlawful : record.Lawful) {o : ρ} {changes : List (ρ → ρ)}
    (hfields : List.Forall₂ (Field.Restores o) record.fields changes) :
    record.ofJson (record.write o) =
      .ok (changes.foldl (fun r change => change r) record.blank) := by
  have hperm := inOrder_perm hlawful.names_nodup
  have hread := Field.exists_restores hfields
  have hunseen : ∀ field ∈ record.inOrder, field.name ∉ ([] : List String) := by simp
  -- The members are read in the order of their names, which comes to the order of the list.
  have hmembers := readMembers_filterMap_member hlawful.names_nodup
    (fun _ h => hperm.subset h) ((hperm.map Field.name).nodup_iff.mpr hlawful.names_nodup)
    (fun field hfield => hread field (hperm.subset hfield)) hunseen record.blank
  rw [Field.restoreAll_perm hperm hlawful.independent hread, Field.restoreAll_eq hfields]
    at hmembers
  rw [write_eq hlawful.names_nodup, ofJson, Document.ofJson]
  simp only [shape, hmembers, Except.map, bind, Except.bind, hlawful.find?_missing o]

end Record
end BundleFront
