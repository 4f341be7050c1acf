import BundleFront.Proofs.Checked
import BundleFront.Proofs.Table
import BundleFront.Define
import Mathlib.Data.List.Dedup

/-!
# What compiled defines know

Defines are compiled in two stages.  The data of every key are put together first:
a pure function extends the data of its define, or stands alone where the define has
no meaning.  Then each key is divided at its dots and stored, single names apart from
longer paths, which are grouped by their last name.  Dividing keys is injective, so the
paths of a table are as distinct as its keys.

* `DefineTable.holds_ofKeys` — a table holds exactly the data that it was made for; the
  step is `DefineTable.Holds.add`.
* `get?_dataByKey` — what is known of a key, by its define and the pure functions alone.
* `compileDefines_tabulates` — what a compiled table answers for any path, how many paths
  it has and how they are stored; reordering what is compiled changes no answer.
-/

namespace BundleFront
namespace DefineTable

/-- The paths of which a table knows something. -/
def paths (table : DefineTable) : List (List String) :=
  table.identifiers.map (fun entry => [entry.1]) ++
    (table.dots.flatMap Prod.snd).map DotDefine.parts

theorem length_paths (table : DefineTable) : table.paths.length = table.size := by
  simp [paths, size]

/-- Whether defines belong into the group of a last name. -/
def IsGroup (last : String) (defines : List DotDefine) : Prop :=
  ∀ define ∈ defines, define.parts.getLast? = some last ∧ 2 ≤ define.parts.length

/-- Paths of several names stand in the group of their last name. -/
def Grouped (table : DefineTable) : Prop := ∀ group ∈ table.dots, IsGroup group.1 group.2

/-- A table with exactly these entries, each under the segments of its key. -/
structure Holds (table : DefineTable) (entries : List (String × DefineData)) : Prop where
  get?_eq_some_iff : ∀ path data, table.get? path = some data ↔
    ∃ key, path = Text.segments '.' key ∧ (key, data) ∈ entries
  paths_perm : table.paths.Perm (entries.map fun entry => Text.segments '.' entry.1)
  grouped : table.Grouped

/-- A path of several names is looked for in one group, which is empty where there is none. -/
theorem get?_cons_cons (table : DefineTable) (name second : String) (rest : List String) :
    table.get? (name :: second :: rest) =
      (((Table.get? ((second :: rest).getLastD name) table.dots).getD []).find? fun define =>
        define.parts == name :: second :: rest).map DotDefine.data := by
  change (Table.get? _ table.dots).bind _ = _
  cases Table.get? ((second :: rest).getLastD name) table.dots with
  | none => rfl
  | some group =>
      change (List.find? _ group).bind _ = Option.map _ (List.find? _ group)
      cases group.find? _ <;> rfl

/-- A path that is new to a table is all that adding it makes known. -/
theorem get?_add {table : DefineTable} {parts : List String} (hparts : parts ≠ [])
    (hfresh : table.get? parts = none) (data : DefineData) (path : List String) :
    (table.add parts data).get? path = if parts = path then some data else table.get? path := by
  match parts, path with
  | [], _ => exact absurd rfl hparts
  | name :: _, [] => simp [get?]
  | [name], [other] => simp [add, get?, Table.get?_put]
  | [name], _ :: _ :: _ => simp [add, get?_cons_cons]
  | _ :: _ :: _, [other] => simp [add, get?]
  | name :: second :: rest, other :: next :: others =>
      rw [get?_cons_cons] at hfresh ⊢
      rw [get?_cons_cons]
      change Option.map _ (List.find? _ (Option.getD (Table.get? _ (Table.update _ _ _ _)) _)) = _
      rw [Table.update_eq_put, Table.get?_put]
      by_cases hlast : (second :: rest).getLastD name = (next :: others).getLastD other
      · -- The group of the path grows at its end, and the path is not found before.
        rw [if_pos hlast, ← hlast, Option.getD_some, List.find?_append]
        by_cases hpath : name :: second :: rest = other :: next :: others
        · rw [Option.map_eq_none_iff] at hfresh
          rw [if_pos hpath, ← hpath, hfresh]
          simp
        · rw [if_neg hpath]
          simp [beq_eq_false_iff_ne.mpr hpath]
      · have hpath : name :: second :: rest ≠ other :: next :: others := by
          intro hsame
          obtain ⟨hname, hrest⟩ := List.cons.inj hsame
          exact hlast (by rw [hname, hrest])
        rw [if_neg hlast, if_neg hpath]

theorem paths_add {table : DefineTable} {parts : List String} (hparts : parts ≠ [])
    (hfresh : table.get? parts = none) (data : DefineData) :
    (table.add parts data).paths.Perm (parts :: table.paths) := by
  match parts with
  | [] => exact absurd rfl hparts
  | [name] =>
      have hname : name ∉ Table.keys table.identifiers := Table.get?_eq_none_iff.mp hfresh
      simp only [add, paths]
      rw [Table.put_eq_append data hname, List.map_append, List.append_assoc]
      exact List.perm_middle
  | name :: second :: rest =>
      have hdots := (Table.perm_flatMap_update ((second :: rest).getLastD name)
        (DotDefine.mk (name :: second :: rest) data) table.dots).map DotDefine.parts
      exact (hdots.append_left _).trans List.perm_middle

theorem grouped_add {table : DefineTable} (hgrouped : table.Grouped) (parts : List String)
    (data : DefineData) : (table.add parts data).Grouped := by
  match parts with
  | [] => exact hgrouped
  | [name] => exact hgrouped
  | name :: second :: rest =>
      -- The new define is put at the end of the group of its last name.
      have hnew : (name :: second :: rest).getLast? = some ((second :: rest).getLastD name) := by
        rw [List.getLast?_cons, List.getLastD_eq_getLast?]
      refine Table.forall_mem_update (p := IsGroup) hgrouped ?_ ?_
      · intro define hdefine
        rw [List.nil_append, List.mem_singleton] at hdefine
        subst hdefine
        exact ⟨hnew, by simp⟩
      · intro group hgroup define hdefine
        rcases List.mem_append.mp hdefine with hold | hlast
        · exact hgroup define hold
        · rw [List.mem_singleton] at hlast
          subst hlast
          exact ⟨hnew, by simp⟩

/-- Adding an entry with a new key. -/
theorem Holds.add {table : DefineTable} {entries : List (String × DefineData)}
    (h : table.Holds entries) {key : String} (hkey : key ∉ Table.keys entries)
    (data : DefineData) :
    (table.add (Text.segments '.' key) data).Holds (entries ++ [(key, data)]) := by
  have hparts : Text.segments '.' key ≠ [] := Text.segments_ne_nil '.' key
  have hfresh : table.get? (Text.segments '.' key) = none := by
    rw [Option.eq_none_iff_forall_ne_some]
    intro found hfound
    obtain ⟨other, hsegments, hmem⟩ := (h.get?_eq_some_iff _ _).mp hfound
    obtain rfl := Text.segments_injective hsegments
    exact hkey (List.mem_map.mpr ⟨_, hmem, rfl⟩)
  refine ⟨?_, ?_, grouped_add h.grouped _ data⟩
  · intro path found
    rw [get?_add hparts hfresh]
    by_cases hpath : Text.segments '.' key = path
    · subst hpath
      rw [if_pos rfl, Option.some.injEq]
      constructor
      · rintro rfl
        exact ⟨key, rfl, by simp⟩
      · rintro ⟨other, hsegments, hmem⟩
        obtain rfl := Text.segments_injective hsegments
        rcases List.mem_append.mp hmem with hold | hlast
        · exact absurd (List.mem_map.mpr ⟨_, hold, rfl⟩) hkey
        · simpa [eq_comm] using hlast
    · rw [if_neg hpath, h.get?_eq_some_iff]
      refine exists_congr fun other => and_congr_right fun hsegments => ?_
      have hother : other ≠ key := by
        rintro rfl
        exact hpath hsegments.symm
      simp [hother]
  · rw [List.map_append]
    exact (paths_add hparts hfresh data).trans
      ((h.paths_perm.cons _).trans (List.perm_append_singleton _ _).symm)

theorem holds_nil : ({} : DefineTable).Holds [] := by
  refine ⟨?_, List.Perm.refl _, ?_⟩
  · intro path data
    match path with
    | [] => simp [get?]
    | [_] => simp [get?, Table.get?]
    | _ :: _ :: _ => simp [get?_cons_cons, Table.get?]
  · simp [Grouped]

/-- A table for data with distinct keys holds exactly these data. -/
theorem holds_ofKeys {entries : List (String × DefineData)}
    (hnodup : (Table.keys entries).Nodup) : (ofKeys entries).Holds entries := by
  -- The induction is on what is still to be added; the table holds what was added before.
  have hfold (rest added : List (String × DefineData)) (table : DefineTable)
      (hadded : table.Holds added) (h : (Table.keys (added ++ rest)).Nodup) :
      (rest.foldl (fun table entry => table.add (Text.segments '.' entry.1) entry.2)
        table).Holds (added ++ rest) := by
    induction rest generalizing added table with
    | nil => simpa using hadded
    | cons entry rest ih =>
        have hsplit : added ++ entry :: rest = added ++ [entry] ++ rest := List.append_cons ..
        have hstep := hadded.add (Table.not_mem_keys_of_nodup h) entry.2
        rw [hsplit] at h ⊢
        exact ih _ _ hstep h
  exact hfold entries [] {} holds_nil hnodup

end DefineTable

/-! ## The data of every key -/

/-- The table with some keys marked as pure functions. -/
def markPure (keys : List String) (data : List (String × DefineData)) :
    List (String × DefineData) :=
  keys.foldl
    (fun data key => Table.update key {} (fun known => { known with pureCall := true }) data) data

theorem get?_markPure (keys : List String) (data : List (String × DefineData)) (key : String) :
    Table.get? key (markPure keys data) =
      if key ∈ keys then some { (Table.get? key data).getD {} with pureCall := true }
      else Table.get? key data := by
  induction keys generalizing data with
  | nil => simp [markPure]
  | cons first rest ih =>
      change Table.get? key (markPure rest (Table.update first {} _ data)) = _
      rw [ih, Table.update_eq_put, Table.get?_put]
      by_cases hfirst : first = key
      · subst hfirst
        by_cases hrest : first ∈ rest <;> simp [hrest]
      · by_cases hrest : key ∈ rest <;> simp [hrest, hfirst, Ne.symm hfirst]

theorem nodup_keys_markPure (keys : List String) {data : List (String × DefineData)}
    (hnodup : (Table.keys data).Nodup) : (Table.keys (markPure keys data)).Nodup := by
  induction keys generalizing data with
  | nil => exact hnodup
  | cons first rest ih =>
      change (Table.keys (markPure rest (Table.update first {} _ data))).Nodup
      rw [Table.update_eq_put]
      exact ih (Table.nodup_keys_put _ _ hnodup)

/-- What is known of every key, the keys in the order in which they first came. -/
def dataByKey (defines : List (String × String)) (pureFunctions : List String) :
    List (String × DefineData) :=
  markPure (pureFunctions.filterMap fun key => (checkPureFunction key).value)
    (Table.ofList (defines.filterMap fun entry => (checkDefine entry).value))

theorem value_compileDefines (defines : List (String × String)) (pureFunctions : List String) :
    (compileDefines defines pureFunctions).value =
      if defines = [] ∧ pureFunctions = [] then none
      else some (DefineTable.ofKeys (dataByKey defines pureFunctions)) := by
  unfold compileDefines
  by_cases hnone : defines = [] ∧ pureFunctions = []
  · rw [if_pos hnone, if_pos (by simp [hnone])]
    rfl
  · rw [if_neg hnone, if_neg (by simpa using hnone)]
    simp [dataByKey, markPure]

theorem value_checkDefine (entry : String × String) :
    (checkDefine entry).value =
      if isIdentifierPath entry.1 then
        (DefineValue.parse? entry.2).map fun value => (entry.1, { value := some value })
      else none := by
  unfold checkDefine
  cases isIdentifierPath entry.1 with
  | false => rfl
  | true => cases DefineValue.parse? entry.2 <;> rfl

theorem value_checkPureFunction (key : String) :
    (checkPureFunction key).value = if isIdentifierPath key then some key else none := by
  unfold checkPureFunction
  cases isIdentifierPath key <;> rfl

/-- What the define of a key means, if it has a meaning. -/
def definedValue? (defines : List (String × String)) (key : String) : Option DefineValue :=
  (Table.get? key defines).bind DefineValue.parse?

/-- Whether anything is known of a key: it is an identifier path, and its define has a meaning or it
is a pure function. -/
def isKnown (defines : List (String × String)) (pureFunctions : List String) (key : String) :
    Bool :=
  isIdentifierPath key && ((definedValue? defines key).isSome || pureFunctions.contains key)

section
variable {defines : List (String × String)} {pureFunctions : List String}

theorem key_of_value_checkDefine (entry : String × String) (kept : String × DefineData)
    (h : (checkDefine entry).value = some kept) : kept.1 = entry.1 := by
  rw [value_checkDefine] at h
  split at h
  · obtain ⟨value, -, rfl⟩ := Option.map_eq_some_iff.mp h
    rfl
  · cases h

theorem mem_pureKeys {key : String} :
    key ∈ (pureFunctions.filterMap fun key => (checkPureFunction key).value) ↔
      isIdentifierPath key = true ∧ key ∈ pureFunctions := by
  simp only [List.mem_filterMap, value_checkPureFunction, Option.ite_none_right_eq_some,
    Option.some.injEq]
  constructor
  · rintro ⟨_, hmem, hpath, rfl⟩
    exact ⟨hpath, hmem⟩
  · rintro ⟨hpath, hmem⟩
    exact ⟨key, hmem, hpath, rfl⟩

/-- Defines by key: those whose key is an identifier path and whose text has a meaning. -/
theorem get?_valued (hkeys : (Table.keys defines).Nodup) (key : String) :
    Table.get? key (defines.filterMap fun entry => (checkDefine entry).value) =
      if isIdentifierPath key then
        (definedValue? defines key).map fun value => { value := some value }
      else none := by
  rw [Table.get?_filterMap key_of_value_checkDefine hkeys]
  simp only [value_checkDefine, definedValue?]
  cases Table.get? key defines with
  | none => simp
  | some text => cases isIdentifierPath key <;> simp [Function.comp_def]

theorem nodup_keys_valued (hkeys : (Table.keys defines).Nodup) :
    (Table.keys (defines.filterMap fun entry => (checkDefine entry).value)).Nodup :=
  Table.nodup_keys_filterMap key_of_value_checkDefine hkeys

theorem nodup_keys_dataByKey (hkeys : (Table.keys defines).Nodup) :
    (Table.keys (dataByKey defines pureFunctions)).Nodup := by
  unfold dataByKey
  rw [Table.ofList_eq_self (nodup_keys_valued hkeys)]
  exact nodup_keys_markPure _ (nodup_keys_valued hkeys)

/-- What is known of a key, by the define and the pure functions alone. -/
theorem get?_dataByKey (hkeys : (Table.keys defines).Nodup) (key : String) :
    Table.get? key (dataByKey defines pureFunctions) =
      if isKnown defines pureFunctions key then
        some { value := definedValue? defines key, pureCall := pureFunctions.contains key }
      else none := by
  unfold dataByKey isKnown
  rw [get?_markPure, Table.ofList_eq_self (nodup_keys_valued hkeys), get?_valued hkeys,
    List.contains_eq_mem]
  by_cases hpath : isIdentifierPath key = true
  · by_cases hpure : key ∈ pureFunctions
    · rw [if_pos (mem_pureKeys.mpr ⟨hpath, hpure⟩)]
      cases definedValue? defines key <;> simp [hpath, hpure]
    · rw [if_neg fun hmem => hpure (mem_pureKeys.mp hmem).2]
      cases definedValue? defines key <;> simp [hpath, hpure]
  · rw [if_neg fun hmem => hpath (mem_pureKeys.mp hmem).1]
    simp [hpath]

/-- What compiled defines hold, by key. -/
theorem holds_dataByKey (hkeys : (Table.keys defines).Nodup) :
    (DefineTable.ofKeys (dataByKey defines pureFunctions)).Holds
      (dataByKey defines pureFunctions) :=
  DefineTable.holds_ofKeys (nodup_keys_dataByKey hkeys)

theorem get?_ofKeys_dataByKey_eq_some_iff (hkeys : (Table.keys defines).Nodup)
    {path : List String} {data : DefineData} :
    (DefineTable.ofKeys (dataByKey defines pureFunctions)).get? path = some data ↔
      ∃ key, path = Text.segments '.' key ∧ isKnown defines pureFunctions key = true ∧
        data.value = definedValue? defines key ∧
        (data.pureCall = true ↔ key ∈ pureFunctions) := by
  rw [(holds_dataByKey hkeys).get?_eq_some_iff]
  refine exists_congr fun key => and_congr_right fun _ => ?_
  rw [Table.mem_iff_get?_eq_some (nodup_keys_dataByKey hkeys), get?_dataByKey hkeys,
    Option.ite_none_right_eq_some, Option.some.injEq]
  refine and_congr_right fun _ => ?_
  constructor
  · rintro rfl
    exact ⟨rfl, by simp⟩
  · rintro ⟨hvalue, hpure⟩
    obtain ⟨value, pureCall⟩ := data
    have hcall : pureFunctions.contains key = pureCall := by
      rw [Bool.eq_iff_iff, List.contains_iff_mem]
      exact hpure.symm
    rw [hcall, ← hvalue]

theorem mem_keys_dataByKey (hkeys : (Table.keys defines).Nodup) {key : String} :
    key ∈ Table.keys (dataByKey defines pureFunctions) ↔
      isKnown defines pureFunctions key = true := by
  rw [← not_iff_not, ← Table.get?_eq_none_iff, get?_dataByKey hkeys]
  cases isKnown defines pureFunctions key <;> simp

/-- Anything known of a key comes from a define or a pure function. -/
theorem mem_of_isKnown {key : String} (h : isKnown defines pureFunctions key = true) :
    key ∈ Table.keys defines ++ pureFunctions := by
  obtain ⟨-, hsource⟩ := Bool.and_eq_true_iff.mp h
  rcases Bool.or_eq_true_iff.mp hsource with hdefine | hpure
  · refine List.mem_append_left _ ?_
    by_contra hnot
    rw [definedValue?, Table.get?_eq_none_iff.mpr hnot] at hdefine
    simp at hdefine
  · exact List.mem_append_right _ (List.contains_iff_mem.mp hpure)

/-- The number of paths is the number of distinct keys of which anything is known. -/
theorem size_ofKeys_dataByKey (hkeys : (Table.keys defines).Nodup) :
    (DefineTable.ofKeys (dataByKey defines pureFunctions)).size =
      ((Table.keys defines ++ pureFunctions).filter
        (isKnown defines pureFunctions)).dedup.length := by
  have hholds : (DefineTable.ofKeys (dataByKey defines pureFunctions)).Holds _ :=
    holds_dataByKey hkeys
  have hperm : (Table.keys (dataByKey defines pureFunctions)).Perm
      ((Table.keys defines ++ pureFunctions).filter (isKnown defines pureFunctions)).dedup := by
    refine (List.perm_ext_iff_of_nodup (nodup_keys_dataByKey hkeys) (List.nodup_dedup _)).mpr ?_
    intro key
    rw [mem_keys_dataByKey hkeys, List.mem_dedup, List.mem_filter]
    exact ⟨fun hknown => ⟨mem_of_isKnown hknown, hknown⟩, And.right⟩
  calc (DefineTable.ofKeys (dataByKey defines pureFunctions)).size
      = (dataByKey defines pureFunctions).length := by
        rw [← DefineTable.length_paths, hholds.paths_perm.length_eq, List.length_map]
    _ = (Table.keys (dataByKey defines pureFunctions)).length := by
        rw [Table.keys, List.length_map]
    _ = _ := hperm.length_eq

/-- No path is stored twice. -/
theorem nodup_paths_ofKeys_dataByKey (hkeys : (Table.keys defines).Nodup) :
    (DefineTable.ofKeys (dataByKey defines pureFunctions)).paths.Nodup := by
  have hholds : (DefineTable.ofKeys (dataByKey defines pureFunctions)).Holds _ :=
    holds_dataByKey hkeys
  rw [hholds.paths_perm.nodup_iff]
  have hsegments : ((Table.keys (dataByKey defines pureFunctions)).map
      (Text.segments '.')).Nodup :=
    (nodup_keys_dataByKey hkeys).map fun _ _ h => Text.segments_injective h
  rwa [Table.keys, List.map_map] at hsegments

/-- What is known of a key depends neither on the order of the defines nor on the order or the
number of times in which pure functions are listed. -/
theorem isKnown_congr {others : List (String × String)} {functions : List String}
    (hkeys : (Table.keys defines).Nodup) (hothers : others.Perm defines)
    (hfunctions : ∀ key, key ∈ functions ↔ key ∈ pureFunctions) (key : String) :
    isKnown others functions key = isKnown defines pureFunctions key := by
  have hcontains : functions.contains key = pureFunctions.contains key := by
    rw [Bool.eq_iff_iff, List.contains_iff_mem, List.contains_iff_mem]
    exact hfunctions key
  rw [isKnown, isKnown, definedValue?, definedValue?, Table.get?_eq_of_perm hkeys hothers,
    hcontains]

end

/-- What a table of compiled defines answers, and how it is stored. -/
structure DefineTable.Tabulates (table : DefineTable) (defines : List (String × String))
    (pureFunctions : List String) : Prop where
  /-- A path is known exactly if it is a known key, with what the key's define means and whether the
  key is a pure function. -/
  get?_eq_some_iff : ∀ path data, table.get? path = some data ↔
    ∃ key, path = Text.segments '.' key ∧ isKnown defines pureFunctions key = true ∧
      data.value = definedValue? defines key ∧ (data.pureCall = true ↔ key ∈ pureFunctions)
  size_eq : table.size =
    ((Table.keys defines ++ pureFunctions).filter
      (isKnown defines pureFunctions)).dedup.length
  grouped : ∀ group ∈ table.dots, ∀ define ∈ group.2,
    define.parts.getLast? = some group.1 ∧ 2 ≤ define.parts.length
  nodup_paths : table.paths.Nodup

/-- Compiling gives no table exactly if there is nothing to compile; any other table answers for the
known keys alone, each stored once and in its group.  Neither the order of the defines nor how often
and in which order pure functions are listed plays a part in the answers. -/
theorem compileDefines_tabulates (defines : List (String × String)) (pureFunctions : List String)
    (hkeys : (Table.keys defines).Nodup) :
    ((compileDefines defines pureFunctions).value = none ↔ defines = [] ∧ pureFunctions = []) ∧
      ∀ table, (compileDefines defines pureFunctions).value = some table →
        table.Tabulates defines pureFunctions ∧
          ∀ (others : List (String × String)) (functions : List String), others.Perm defines →
            (∀ key, key ∈ functions ↔ key ∈ pureFunctions) →
            ∃ other, (compileDefines others functions).value = some other ∧
              ∀ path, other.get? path = table.get? path := by
  constructor
  · rw [value_compileDefines]
    simp
  · intro table htable
    rw [value_compileDefines, Option.ite_none_left_eq_some, Option.some.injEq] at htable
    obtain ⟨hsome, rfl⟩ := htable
    constructor
    · exact {
        get?_eq_some_iff := fun path data => get?_ofKeys_dataByKey_eq_some_iff hkeys
        size_eq := size_ofKeys_dataByKey hkeys
        grouped := (holds_dataByKey hkeys).grouped
        nodup_paths := nodup_paths_ofKeys_dataByKey hkeys }
    · intro others functions hothers hfunctions
      have hotherKeys : (Table.keys others).Nodup :=
        (hothers.map Prod.fst).nodup_iff.mpr hkeys
      refine ⟨DefineTable.ofKeys (dataByKey others functions), ?_, ?_⟩
      · rw [value_compileDefines, if_neg]
        rintro ⟨rfl, rfl⟩
        refine hsome ⟨hothers.nil_eq.symm, List.eq_nil_iff_forall_not_mem.mpr ?_⟩
        intro key hkey
        exact absurd ((hfunctions key).mpr hkey) List.not_mem_nil
      · intro path
        refine Option.ext fun data => ?_
        rw [get?_ofKeys_dataByKey_eq_some_iff hotherKeys, get?_ofKeys_dataByKey_eq_some_iff hkeys]
        refine exists_congr fun key => and_congr_right fun _ => ?_
        rw [isKnown_congr hkeys hothers hfunctions, hfunctions, definedValue?, definedValue?,
          Table.get?_eq_of_perm hkeys hothers]

/-- Two defines that share a last name, one without a meaning and one with a bad key, beside pure
functions that are listed twice or have no meaning as a define. -/
theorem compileDefines_tabulates_sharedLastName :
    let defines := [("process.env.MODE", "\"production\""), ("import.meta.env.MODE", "mode"),
      ("log", "[1]"), ("1x", "2")]
    let pureFunctions := ["log", "Object.freeze", "log", "bad-name"]
    (Table.keys defines).Nodup ∧
      ∃ table, (compileDefines defines pureFunctions).value = some table ∧
        table.Tabulates defines pureFunctions ∧ table.size = 4 := by
  intro defines pureFunctions
  have hkeys : (Table.keys defines).Nodup := by decide
  have h := compileDefines_tabulates defines pureFunctions hkeys
  obtain ⟨table, htable⟩ := Option.ne_none_iff_exists'.mp (mt h.1.mp (by simp [defines]))
  obtain ⟨htabulates, -⟩ := h.2 table htable
  refine ⟨hkeys, table, htable, htabulates, ?_⟩
  rw [htabulates.size_eq]
  decide +kernel

end BundleFront
