import BundleFront.Proofs.Table

/-!
# Tables whose names ascend

A table whose names ascend is known by its entries: two such tables with the same
entries are the same list.  `sortedOfList` brings entries into this form.  If their
names are distinct it only reorders them, and it leaves a table alone exactly if the
names ascend already.  Names that are listed once each, in order, are known by their
members alone.
-/

namespace BundleFront
namespace Table

variable {α β : Type}

/-- The names of the table ascend; so none of them comes twice. -/
def Ascending (table : List (String × α)) : Prop := (keys table).Pairwise (· < ·)

theorem Ascending.nodup_keys {table : List (String × α)} (h : Ascending table) :
    (keys table).Nodup := by
  refine List.Pairwise.imp ?_ h
  rintro name _ hlt rfl
  exact String.lt_irrefl name hlt

/-- Names that ascend have only one order. -/
theorem Ascending.eq_of_perm {table other : List (String × α)} (htable : Ascending table)
    (hother : Ascending other) (hperm : table.Perm other) : table = other := by
  have hasymm : ∀ a b : String × α, a ∈ table → b ∈ other → a.1 < b.1 → b.1 < a.1 → a = b :=
    fun _ _ _ _ hab hba => absurd hba (String.lt_asymm hab)
  exact hperm.eq_of_pairwise hasymm (List.pairwise_map.mp htable) (List.pairwise_map.mp hother)

/-- Some of the entries of a table, converted with their names kept, still ascend. -/
theorem Ascending.filterMap {convert : String × α → Option (String × β)}
    (hconvert : ∀ entry converted, convert entry = some converted → converted.1 = entry.1)
    {table : List (String × α)} (h : Ascending table) : Ascending (table.filterMap convert) := by
  have hpairs : table.Pairwise fun a b => a.1 < b.1 := List.pairwise_map.mp h
  refine List.pairwise_map.mpr (List.pairwise_filterMap.mpr (hpairs.imp ?_))
  intro a b hlt converted hconverted other hother
  rw [hconvert a converted hconverted, hconvert b other hother]
  exact hlt

theorem ascending_putSorted (name : String) (value : α) {table : List (String × α)}
    (h : Ascending table) : Ascending (putSorted name value table) := by
  induction table with
  | nil => exact List.pairwise_singleton _ _
  | cons entry rest ih =>
      have hcons := h
      unfold Ascending at hcons
      rw [keys_cons, List.pairwise_cons] at hcons
      obtain ⟨hbelow, hrest⟩ := hcons
      unfold putSorted
      by_cases hlt : name < entry.1
      · rw [if_pos hlt]
        refine List.pairwise_cons.mpr ⟨?_, h⟩
        intro other hother
        rcases List.mem_cons.mp hother with rfl | hmem
        · exact hlt
        · exact String.lt_trans hlt (hbelow other hmem)
      · rw [if_neg hlt]
        by_cases hsame : entry.1 = name
        · rw [if_pos hsame, ← hsame]
          exact h
        · rw [if_neg hsame]
          refine List.pairwise_cons.mpr ⟨?_, ih hrest⟩
          intro other hother
          rcases mem_keys_putSorted.mp hother with rfl | hmem
          · -- Neither below the entry's name nor equal to it, the new name is above it.
            by_contra hnot
            exact hsame (String.le_antisymm (String.not_lt.mp hlt) (String.not_lt.mp hnot))
          · exact hbelow other hmem

/-- A name that is new joins the others. -/
theorem putSorted_perm {name : String} (value : α) {table : List (String × α)}
    (hfresh : name ∉ keys table) :
    (putSorted name value table).Perm ((name, value) :: table) := by
  induction table with
  | nil => exact List.Perm.refl _
  | cons entry rest ih =>
      rw [keys_cons, List.mem_cons, not_or] at hfresh
      obtain ⟨hhead, hrest⟩ := hfresh
      unfold putSorted
      split
      · exact List.Perm.refl _
      · rw [if_neg (Ne.symm hhead)]
        exact ((ih hrest).cons entry).trans (List.Perm.swap _ _ rest)

theorem ascending_sortedOfList (entries : List (String × α)) :
    Ascending (sortedOfList entries) := by
  have hfold (table : List (String × α)) (h : Ascending table) :
      Ascending (entries.foldl (fun table entry => putSorted entry.1 entry.2 table) table) := by
    induction entries generalizing table with
    | nil => exact h
    | cons entry rest ih => exact ih _ (ascending_putSorted entry.1 entry.2 h)
  exact hfold [] List.Pairwise.nil

/-- Entries with distinct names are only reordered. -/
theorem sortedOfList_perm {entries : List (String × α)} (hnodup : (keys entries).Nodup) :
    (sortedOfList entries).Perm entries := by
  have hfold (table rest : List (String × α)) (h : (keys (table ++ rest)).Nodup) :
      (rest.foldl (fun table entry => putSorted entry.1 entry.2 table) table).Perm
        (table ++ rest) := by
    induction rest generalizing table with
    | nil => rw [List.append_nil]; exact List.Perm.refl _
    | cons entry rest ih =>
        have hput := putSorted_perm entry.2 (not_mem_keys_of_nodup h)
        have hstep : (putSorted entry.1 entry.2 table ++ rest).Perm (table ++ entry :: rest) :=
          (hput.append_right rest).trans List.perm_middle.symm
        exact (ih _ ((hstep.map Prod.fst).nodup_iff.mpr h)).trans hstep
  exact hfold [] entries hnodup

theorem nodup_distinct (names : List String) : (distinct names).Nodup :=
  (ascending_sortedOfList _).nodup_keys

/-- Names are listed by their members: neither their order nor repetitions play a part. -/
theorem distinct_eq_of_mem_iff {names others : List String}
    (h : ∀ name, name ∈ names ↔ name ∈ others) : distinct names = distinct others := by
  have hperm : (distinct names).Perm (distinct others) := by
    refine (List.perm_ext_iff_of_nodup (nodup_distinct names) (nodup_distinct others)).mpr ?_
    intro name
    rw [mem_distinct, mem_distinct, h]
  have hasymm : ∀ a b : String, a ∈ distinct names → b ∈ distinct others → a < b → b < a → a = b :=
    fun _ _ _ _ hab hba => absurd hba (String.lt_asymm hab)
  exact hperm.eq_of_pairwise hasymm (ascending_sortedOfList _) (ascending_sortedOfList _)

/-- `sorted` has the entries of `table`, and its names ascend. -/
structure Sorts (table sorted : List (String × α)) : Prop where
  perm : sorted.Perm table
  ascending : Ascending sorted

theorem sorts_sortedOfList {entries : List (String × α)} (hnodup : (keys entries).Nodup) :
    Sorts entries (sortedOfList entries) :=
  ⟨sortedOfList_perm hnodup, ascending_sortedOfList entries⟩

/-- A table is in ascending form exactly if its names ascend. -/
theorem sortedOfList_eq_self_iff {entries : List (String × α)} :
    sortedOfList entries = entries ↔ Ascending entries := by
  constructor
  · intro h
    rw [← h]
    exact ascending_sortedOfList entries
  · intro h
    exact (ascending_sortedOfList entries).eq_of_perm h (sortedOfList_perm h.nodup_keys)

/-- Converting values plays no part in the order of the names. -/
theorem sortedOfList_map (convert : α → β) (entries : List (String × α)) :
    sortedOfList (entries.map fun entry => (entry.1, convert entry.2)) =
      (sortedOfList entries).map fun entry => (entry.1, convert entry.2) := by
  have hput (name : String) (value : α) (table : List (String × α)) :
      putSorted name (convert value) (table.map fun entry => (entry.1, convert entry.2)) =
        (putSorted name value table).map fun entry => (entry.1, convert entry.2) := by
    induction table with
    | nil => rfl
    | cons entry rest ih =>
        simp only [putSorted, List.map_cons, ih]
        split
        · rfl
        · split <;> rfl
  have hfold (table : List (String × α)) :
      (entries.map fun entry => (entry.1, convert entry.2)).foldl
          (fun table entry => putSorted entry.1 entry.2 table)
          (table.map fun entry => (entry.1, convert entry.2)) =
        (entries.foldl (fun table entry => putSorted entry.1 entry.2 table) table).map
          fun entry => (entry.1, convert entry.2) := by
    induction entries generalizing table with
    | nil => rfl
    | cons entry rest ih => rw [List.map_cons, List.foldl_cons, hput, ih, List.foldl_cons]
  exact hfold []

end Table
end BundleFront
