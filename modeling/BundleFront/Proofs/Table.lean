import BundleFront.Table
import Mathlib.Data.List.Basic
import Mathlib.Tactic.Common

/-!
# Lookups in tables

A table is known by what it answers for each key.  Giving a key a value changes
the answer for that key alone, so a table that entries are laid over answers with
the last entry for a key, and with what it had before where no entry has the key.

Where every key stands once, the entries of a table are its answers.
-/

namespace BundleFront
namespace Table

variable {κ α : Type} [DecidableEq κ]

/-- The value that a list of entries gives `key` last. -/
def last? (key : κ) (entries : List (κ × α)) : Option α := get? key entries.reverse

/-- The table with entries laid over it, one after the other. -/
def overlay (table entries : List (κ × α)) : List (κ × α) :=
  entries.foldl (fun table entry => put entry.1 entry.2 table) table

omit [DecidableEq κ] in
theorem keys_cons (entry : κ × α) (table : List (κ × α)) :
    keys (entry :: table) = entry.1 :: keys table := rfl

omit [DecidableEq κ] in
theorem keys_append (table other : List (κ × α)) :
    keys (table ++ other) = keys table ++ keys other := List.map_append

theorem overlay_cons (table : List (κ × α)) (entry : κ × α) (entries : List (κ × α)) :
    overlay table (entry :: entries) = overlay (put entry.1 entry.2 table) entries := rfl

theorem get?_put (key other : κ) (value : α) (table : List (κ × α)) :
    get? other (put key value table) = if key = other then some value else get? other table := by
  induction table with
  | nil => simp [put, get?]
  | cons entry rest ih =>
      by_cases hkey : entry.1 = key
      · subst hkey
        by_cases hother : entry.1 = other
        · simp [put, get?, hother]
        · simp [put, get?, hother]
      · by_cases hother : entry.1 = other
        · subst hother
          simp [put, get?, hkey, Ne.symm hkey]
        · simp [put, get?, hkey, hother, ih]

theorem get?_append (key : κ) (first second : List (κ × α)) :
    get? key (first ++ second) = (get? key first).or (get? key second) := by
  induction first with
  | nil => simp [get?]
  | cons entry rest ih =>
      by_cases hkey : entry.1 = key
      · simp [get?, hkey]
      · simp [get?, hkey, ih]

/-- The last entry for a key decides, and the table below where there is none. -/
theorem get?_overlay (key : κ) (table entries : List (κ × α)) :
    get? key (overlay table entries) = (last? key entries).or (get? key table) := by
  induction entries generalizing table with
  | nil => rfl
  | cons entry rest ih =>
      rw [overlay_cons, ih, get?_put]
      unfold last?
      rw [List.reverse_cons, get?_append]
      by_cases hkey : entry.1 = key
      · cases get? key rest.reverse <;> simp [get?, hkey]
      · cases get? key rest.reverse <;> simp [get?, hkey]

theorem get?_eq_head? (key : κ) (entries : List (κ × α)) :
    get? key entries = ((entries.filter fun entry => entry.1 = key).map Prod.snd).head? := by
  induction entries with
  | nil => rfl
  | cons entry rest ih => by_cases hkey : entry.1 = key <;> simp [get?, hkey, ih]

/-- The value that counts is the last of the values that a key is given. -/
theorem last?_eq_getLast? (key : κ) (entries : List (κ × α)) :
    last? key entries = ((entries.filter fun entry => entry.1 = key).map Prod.snd).getLast? := by
  rw [last?, get?_eq_head?, List.filter_reverse, List.map_reverse, List.head?_reverse]

theorem mem_of_get?_eq_some {key : κ} {value : α} {table : List (κ × α)}
    (h : get? key table = some value) : (key, value) ∈ table := by
  induction table with
  | nil => simp [get?] at h
  | cons entry rest ih =>
      by_cases hkey : entry.1 = key
      · simp only [get?, hkey, if_true, Option.some.injEq] at h
        subst hkey h
        exact List.mem_cons_self
      · simp only [get?, hkey, if_false] at h
        exact List.mem_cons_of_mem _ (ih h)

theorem get?_eq_none_iff {key : κ} {table : List (κ × α)} :
    get? key table = none ↔ key ∉ keys table := by
  induction table with
  | nil => simp [get?, keys]
  | cons entry rest ih =>
      rw [keys_cons, List.mem_cons, not_or, ← ih]
      by_cases hkey : entry.1 = key
      · simp [get?, hkey]
      · simp [get?, hkey, Ne.symm hkey]

/-- Entries of a table with distinct keys are its answers. -/
theorem mem_iff_get?_eq_some {table : List (κ × α)} (hnodup : (keys table).Nodup)
    {key : κ} {value : α} : (key, value) ∈ table ↔ get? key table = some value := by
  constructor
  · intro hmem
    induction table with
    | nil => simp at hmem
    | cons entry rest ih =>
        rw [keys_cons, List.nodup_cons] at hnodup
        obtain ⟨hfresh, hrest⟩ := hnodup
        rcases List.mem_cons.mp hmem with hhead | htail
        · simp [get?, ← hhead]
        · have hne : ¬ entry.1 = key := by
            rintro rfl
            exact hfresh (List.mem_map.mpr ⟨_, htail, rfl⟩)
          simp [get?, hne, ih hrest htail]
  · exact mem_of_get?_eq_some

/-- A key that is known keeps its place; a new one comes behind all others. -/
theorem keys_put (key : κ) (value : α) (table : List (κ × α)) :
    keys (put key value table) =
      if key ∈ keys table then keys table else keys table ++ [key] := by
  induction table with
  | nil => simp [put, keys]
  | cons entry rest ih =>
      by_cases hkey : entry.1 = key
      · simp [put, keys, hkey]
      · have hput : put key value (entry :: rest) = entry :: put key value rest := by
          simp [put, hkey]
        rw [hput, keys_cons, keys_cons, ih]
        by_cases hmem : key ∈ keys rest
        · simp [hmem]
        · simp [hmem, Ne.symm hkey]

theorem mem_keys_put {key other : κ} {value : α} {table : List (κ × α)} :
    other ∈ keys (put key value table) ↔ other = key ∨ other ∈ keys table := by
  rw [keys_put]
  split
  · rename_i hknown
    rw [iff_or_self]
    rintro rfl
    exact hknown
  · rw [List.mem_append, List.mem_singleton, or_comm]

theorem nodup_keys_put (key : κ) (value : α) {table : List (κ × α)}
    (hnodup : (keys table).Nodup) : (keys (put key value table)).Nodup := by
  rw [keys_put]
  split
  · exact hnodup
  · rename_i hfresh
    refine List.nodup_append.mpr ⟨hnodup, by simp, ?_⟩
    rintro other hother added hadded rfl
    exact hfresh (List.mem_singleton.mp hadded ▸ hother)

/-- Giving a key the value that it has just been given changes nothing. -/
theorem put_put (key : κ) (value : α) (table : List (κ × α)) :
    put key value (put key value table) = put key value table := by
  induction table with
  | nil => simp [put]
  | cons entry rest ih =>
      by_cases hkey : entry.1 = key
      · simp [put, hkey]
      · simp [put, hkey, ih]

/-- Laying entries over a table keeps its keys distinct. -/
theorem nodup_keys_overlay {table : List (κ × α)} (hnodup : (keys table).Nodup)
    (entries : List (κ × α)) : (keys (overlay table entries)).Nodup := by
  induction entries generalizing table with
  | nil => exact hnodup
  | cons entry rest ih => exact ih (nodup_keys_put entry.1 entry.2 hnodup)

/-- A table that entries are laid over has their keys and those that it had. -/
theorem mem_keys_overlay {key : κ} {table entries : List (κ × α)} :
    key ∈ keys (overlay table entries) ↔ key ∈ keys entries ∨ key ∈ keys table := by
  induction entries generalizing table with
  | nil => simp [overlay, keys]
  | cons entry rest ih =>
      rw [overlay_cons, ih, mem_keys_put, keys_cons, List.mem_cons]
      exact or_left_comm.trans or_assoc.symm

/-- Changing the value of a key gives the key the changed value. -/
theorem update_eq_put (key : κ) (initial : α) (change : α → α) (table : List (κ × α)) :
    update key initial change table =
      put key (change ((get? key table).getD initial)) table := by
  induction table with
  | nil => rfl
  | cons entry rest ih =>
      by_cases hkey : entry.1 = key
      · simp [update, put, get?, hkey]
      · simp [update, put, get?, hkey, ih]

/-- What every entry of a table has in common stays, if the changed entry has it. -/
theorem forall_mem_update {p : κ → α → Prop} {key : κ} {initial : α} {change : α → α}
    {table : List (κ × α)} (htable : ∀ entry ∈ table, p entry.1 entry.2)
    (hinitial : p key (change initial)) (hchange : ∀ value, p key value → p key (change value)) :
    ∀ entry ∈ update key initial change table, p entry.1 entry.2 := by
  induction table with
  | nil => simpa [update] using hinitial
  | cons head rest ih =>
      rw [List.forall_mem_cons] at htable
      obtain ⟨hhead, hrest⟩ := htable
      by_cases hkey : head.1 = key
      · subst hkey
        simp only [update, if_true, List.forall_mem_cons]
        exact ⟨hchange head.2 hhead, hrest⟩
      · simp only [update, hkey, if_false, List.forall_mem_cons]
        exact ⟨hhead, ih hrest⟩

/-- Putting an item into a group adds it to the items of all groups. -/
theorem perm_flatMap_update (key : κ) (item : α) (groups : List (κ × List α)) :
    ((update key [] (· ++ [item]) groups).flatMap Prod.snd).Perm
      (item :: groups.flatMap Prod.snd) := by
  induction groups with
  | nil => exact List.Perm.refl _
  | cons group rest ih =>
      by_cases hkey : group.1 = key
      · simp only [update, hkey, if_true, List.flatMap_cons, List.append_assoc,
          List.singleton_append]
        exact List.perm_middle
      · simp only [update, hkey, if_false, List.flatMap_cons]
        exact (ih.append_left group.2).trans List.perm_middle

/-- A key that is new comes behind all others. -/
theorem put_eq_append {key : κ} (value : α) {table : List (κ × α)} (hfresh : key ∉ keys table) :
    put key value table = table ++ [(key, value)] := by
  induction table with
  | nil => rfl
  | cons entry rest ih =>
      rw [keys_cons, List.mem_cons, not_or] at hfresh
      obtain ⟨hhead, hrest⟩ := hfresh
      simp [put, Ne.symm hhead, ih hrest]

omit [DecidableEq κ] in
/-- With distinct keys, none comes again behind its entry. -/
theorem not_mem_keys_of_nodup {table rest : List (κ × α)} {entry : κ × α}
    (hnodup : (keys (table ++ entry :: rest)).Nodup) : entry.1 ∉ keys table := by
  intro hmem
  rw [keys_append, List.nodup_append] at hnodup
  exact hnodup.2.2 entry.1 hmem entry.1 List.mem_cons_self rfl

/-- Entries with distinct keys are a table already. -/
theorem ofList_eq_self {entries : List (κ × α)} (hnodup : (keys entries).Nodup) :
    ofList entries = entries := by
  have hover (table rest : List (κ × α)) (h : (keys (table ++ rest)).Nodup) :
      overlay table rest = table ++ rest := by
    induction rest generalizing table with
    | nil => simp [overlay]
    | cons entry rest ih =>
        have hsplit : table ++ entry :: rest = table ++ [entry] ++ rest := List.append_cons ..
        rw [overlay_cons, put_eq_append _ (not_mem_keys_of_nodup h), hsplit]
        rw [hsplit] at h
        exact ih (table ++ [entry]) h
  exact hover [] entries hnodup

/-- Converting the entries of a table one by one converts its answers, where keys stay. -/
theorem get?_filterMap {β : Type} {convert : κ × α → Option (κ × β)}
    (hconvert : ∀ entry converted, convert entry = some converted → converted.1 = entry.1)
    {table : List (κ × α)} (hnodup : (keys table).Nodup) (key : κ) :
    get? key (table.filterMap convert) =
      (get? key table).bind fun value => (convert (key, value)).map Prod.snd := by
  induction table with
  | nil => rfl
  | cons entry rest ih =>
      rw [keys_cons, List.nodup_cons] at hnodup
      obtain ⟨hfresh, hrest⟩ := hnodup
      by_cases hkey : entry.1 = key
      · subst hkey
        have hnone : get? entry.1 rest = none := get?_eq_none_iff.mpr hfresh
        cases hentry : convert entry with
        | none => simp [hentry, ih hrest, get?, hnone]
        | some converted =>
            have hsame := hconvert entry converted hentry
            simp [hentry, get?, hsame]
      · cases hentry : convert entry with
        | none => simp [hentry, ih hrest, get?, hkey]
        | some converted =>
            have hsame := hconvert entry converted hentry
            simp [hentry, ih hrest, get?, hsame, hkey]

omit [DecidableEq κ] in
/-- Converting entries one by one keeps keys distinct. -/
theorem nodup_keys_filterMap {β : Type} {convert : κ × α → Option (κ × β)}
    (hconvert : ∀ entry converted, convert entry = some converted → converted.1 = entry.1)
    {table : List (κ × α)} (hnodup : (keys table).Nodup) :
    (keys (table.filterMap convert)).Nodup := by
  have hsub : (keys (table.filterMap convert)).Sublist (keys table) := by
    clear hnodup
    induction table with
    | nil => exact List.Sublist.refl _
    | cons entry rest ih =>
        cases hentry : convert entry with
        | none => simpa [keys, hentry] using ih.cons entry.1
        | some converted =>
            have hsame := hconvert entry converted hentry
            simpa [keys, hentry, hsame] using ih.cons_cons entry.1
  exact hnodup.sublist hsub

/-- The order of entries with distinct keys plays no part in the answers. -/
theorem get?_eq_of_perm {table other : List (κ × α)} (hnodup : (keys table).Nodup)
    (hperm : other.Perm table) (key : κ) : get? key other = get? key table := by
  have hother : (keys other).Nodup := (hperm.map Prod.fst).nodup_iff.mpr hnodup
  refine Option.ext fun value => ?_
  rw [← mem_iff_get?_eq_some hother, ← mem_iff_get?_eq_some hnodup, hperm.mem_iff]

/-- A table laid over another answers first. -/
theorem get?_overlay_of_nodup (key : κ) (table : List (κ × α)) {entries : List (κ × α)}
    (hnodup : (keys entries).Nodup) :
    get? key (overlay table entries) = (get? key entries).or (get? key table) := by
  rw [get?_overlay, last?, get?_eq_of_perm hnodup entries.reverse_perm]

/-- Tables with the same entries give every key the same value. -/
theorem same_of_perm [DecidableEq α] {table other : List (κ × α)} (hnodup : (keys table).Nodup)
    (hperm : other.Perm table) : same table other = true := by
  have hanswers : ∀ entry ∈ table, get? entry.1 other = some entry.2 := by
    intro entry hentry
    rw [get?_eq_of_perm hnodup hperm, ← mem_iff_get?_eq_some hnodup]
    exact hentry
  simpa [same, hperm.length_eq] using hanswers

theorem mem_keys_putSorted {name other : String} {value : α} {table : List (String × α)} :
    other ∈ keys (putSorted name value table) ↔ other = name ∨ other ∈ keys table := by
  induction table with
  | nil => simp [putSorted, keys]
  | cons entry rest ih =>
      unfold putSorted
      split
      · simp [keys]
      · split
        · rename_i hname
          simp [keys, hname]
        · rw [keys_cons, keys_cons, List.mem_cons, List.mem_cons, ih]
          exact or_left_comm

/-- Listing each name once, in order, loses no name and adds none. -/
theorem mem_distinct {name : String} {names : List String} :
    name ∈ distinct names ↔ name ∈ names := by
  have hfold (entries table : List (String × Unit)) :
      name ∈ keys (entries.foldl (fun table entry => putSorted entry.1 entry.2 table) table) ↔
        name ∈ keys entries ∨ name ∈ keys table := by
    induction entries generalizing table with
    | nil => simp [keys]
    | cons entry rest ih =>
        rw [List.foldl_cons, ih, mem_keys_putSorted, keys_cons, List.mem_cons]
        exact or_left_comm.trans or_assoc.symm
  unfold distinct sortedOfList
  rw [hfold]
  simp [keys]

end Table
end BundleFront
