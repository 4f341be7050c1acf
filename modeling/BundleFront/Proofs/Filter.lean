import BundleFront.Filter
import Mathlib.Data.List.Dedup
import Mathlib.Tactic.Common

/-!
# What a cache of filters keeps

A lookup ends in one of four ways, and only two of them change the cache.  From what
one lookup preserves it follows what a cache has kept after any number of them:

* `FilterCache.Looked` — the four ends of a lookup.
* `FilterCache.Serves` — a cache that has answered lookups of certain patterns: it keeps
  one filter for each that is usable, and its counters tell how many there were.
* `FilterCache.Calls` — lookups that are made one after the other.
* `FilterCache.Calls.account` — the counters, the answers and the sharing of filters
  after lookups on a new cache.
-/

namespace BundleFront

/-- Whether there is a filter for a pattern. -/
def Pattern.isUsable (pattern : String) : Bool :=
  !pattern.isEmpty && (Pattern.compile? pattern).isSome

theorem Pattern.isUsable_iff {pattern : String} :
    Pattern.isUsable pattern = true ↔
      pattern ≠ "" ∧ (Pattern.compile? pattern).isSome = true := by
  rw [Pattern.isUsable, Bool.and_eq_true, Bool.not_eq_true', Bool.eq_false_iff, Ne,
    String.isEmpty_iff]

/-- The empty pattern would compile; it is refused because it says nothing. -/
theorem Pattern.isSome_compile?_empty : (Pattern.compile? "").isSome = true := by
  decide +kernel

namespace FilterCache

/-! ## One lookup -/

/-- The filter that is made for a pattern when its node is compiled. -/
def newFilter (cache : FilterCache) (pattern : String) (node : Pattern.Node) : Filter :=
  ⟨cache.size, pattern, node⟩

/-- The cache with one more filter. -/
def keep (cache : FilterCache) (pattern : String) (node : Pattern.Node) : FilterCache :=
  { cache with
    filters := cache.filters ++ [cache.newFilter pattern node]
    compiles := cache.compiles + 1 }

/-- What a lookup of a pattern answers, and the cache that it leaves. -/
inductive Looked (cache : FilterCache) : String → Except FilterError Filter → FilterCache → Prop
  | empty : Looked cache "" (.error .empty) cache
  | hit {pattern : String} {filter : Filter} (hpattern : pattern ≠ "")
      (hkept : cache.find? pattern = some filter) :
      Looked cache pattern (.ok filter) { cache with hits := cache.hits + 1 }
  | invalid {pattern : String} (hpattern : pattern ≠ "") (hkept : cache.find? pattern = none)
      (hnode : Pattern.compile? pattern = none) :
      Looked cache pattern (.error (.invalid pattern)) cache
  | compiled {pattern : String} {node : Pattern.Node} (hpattern : pattern ≠ "")
      (hkept : cache.find? pattern = none) (hnode : Pattern.compile? pattern = some node) :
      Looked cache pattern (.ok (cache.newFilter pattern node)) (cache.keep pattern node)

theorem looked_lookup (cache : FilterCache) (pattern : String) :
    Looked cache pattern (cache.lookup pattern).1 (cache.lookup pattern).2 := by
  unfold lookup
  by_cases hpattern : pattern = ""
  · subst hpattern
    exact .empty
  · have hempty : ¬ pattern.isEmpty = true := by
      rwa [String.isEmpty_iff]
    rw [if_neg hempty]
    cases hkept : cache.find? pattern with
    | some filter => exact .hit hpattern hkept
    | none =>
        cases hnode : Pattern.compile? pattern with
        | none => exact .invalid hpattern hkept hnode
        | some node => exact .compiled hpattern hkept hnode

section
variable {cache after : FilterCache} {pattern : String} {answer : Except FilterError Filter}

/-- A lookup that fails leaves no trace. -/
theorem Looked.eq_of_error {error : FilterError} (h : Looked cache pattern (.error error) after) :
    after = cache := by
  cases h with
  | empty => rfl
  | invalid => rfl

theorem find?_keep (cache : FilterCache) (pattern : String) (node : Pattern.Node)
    (other : String) :
    (cache.keep pattern node).find? other =
      (cache.find? other).or
        (if pattern = other then some (cache.newFilter pattern node) else none) := by
  unfold find? keep
  rw [List.find?_append]
  by_cases hother : pattern = other
  · simp [newFilter, hother]
  · simp [newFilter, hother]

/-- A filter that is handed out is kept from then on. -/
theorem Looked.find?_of_ok {filter : Filter} (h : Looked cache pattern (.ok filter) after) :
    after.find? pattern = some filter := by
  cases h with
  | hit hpattern hkept => exact hkept
  | compiled hpattern hkept hnode => simp [find?_keep, hkept]

/-- What is kept stays. -/
theorem Looked.find?_of_find? (h : Looked cache pattern answer after) {other : String}
    {filter : Filter} (hfilter : cache.find? other = some filter) :
    after.find? other = some filter := by
  cases h with
  | empty => exact hfilter
  | hit hpattern hkept => exact hfilter
  | invalid hpattern hkept hnode => exact hfilter
  | compiled hpattern hkept hnode => simp [find?_keep, hfilter]

end

/-! ## What a cache keeps after several lookups -/

/-- A cache that has been asked for exactly these patterns, each as often as it is listed. -/
structure Serves (cache : FilterCache) (patterns : List String) : Prop where
  /-- A filter is kept for every usable pattern that was asked for, and for no other. -/
  isSome_find?_iff : ∀ pattern, (cache.find? pattern).isSome = true ↔
    pattern ∈ patterns ∧ Pattern.isUsable pattern = true
  /-- Filters are what their patterns compile to. -/
  compile?_eq : ∀ filter ∈ cache.filters, Pattern.compile? filter.pattern = some filter.node
  nodup_patterns : (cache.filters.map Filter.pattern).Nodup
  slots_eq : cache.filters.map Filter.slot = List.range cache.size
  compiles_eq : cache.compiles = cache.size
  hits_eq : cache.compiles + cache.hits = patterns.countP Pattern.isUsable

theorem serves_new : ({} : FilterCache).Serves [] := by
  refine ⟨?_, ?_, ?_, rfl, rfl, rfl⟩
  · simp [find?]
  · simp
  · simp

section
variable {cache after : FilterCache} {patterns : List String} {pattern : String}
  {answer : Except FilterError Filter}

theorem Serves.isUsable_of_find? (h : cache.Serves patterns) {filter : Filter}
    (hfilter : cache.find? pattern = some filter) : Pattern.isUsable pattern = true :=
  ((h.isSome_find?_iff pattern).mp (by simp [hfilter])).2

/-- A filter that is kept for a pattern is what the pattern compiles to. -/
theorem Serves.eq_of_find? (h : cache.Serves patterns) {filter : Filter}
    (hfilter : cache.find? pattern = some filter) :
    filter.pattern = pattern ∧ Pattern.compile? pattern = some filter.node := by
  have hmatch := List.find?_some hfilter
  obtain rfl : filter.pattern = pattern := eq_of_beq hmatch
  exact ⟨rfl, h.compile?_eq filter (List.mem_of_find?_eq_some hfilter)⟩

/-- Asking for a pattern that is of no use changes nothing that is kept. -/
theorem Serves.append_unusable (h : cache.Serves patterns)
    (hunusable : Pattern.isUsable pattern = false) : cache.Serves (patterns ++ [pattern]) := by
  refine ⟨?_, h.compile?_eq, h.nodup_patterns, h.slots_eq, h.compiles_eq, ?_⟩
  · intro other
    rw [h.isSome_find?_iff, List.mem_append, List.mem_singleton]
    constructor
    · rintro ⟨hmem, husable⟩
      exact ⟨.inl hmem, husable⟩
    · rintro ⟨hmem | rfl, husable⟩
      · exact ⟨hmem, husable⟩
      · exact absurd (hunusable.symm.trans husable) Bool.false_ne_true
  · rw [List.countP_append, List.countP_singleton, hunusable, h.hits_eq]
    rfl

theorem Serves.append_hit (h : cache.Serves patterns) {filter : Filter}
    (hkept : cache.find? pattern = some filter) :
    { cache with hits := cache.hits + 1 }.Serves (patterns ++ [pattern]) := by
  obtain ⟨hmem, husable⟩ := (h.isSome_find?_iff pattern).mp (by simp [hkept])
  refine ⟨?_, h.compile?_eq, h.nodup_patterns, h.slots_eq, h.compiles_eq, ?_⟩
  · intro other
    change (cache.find? other).isSome = true ↔ _
    rw [h.isSome_find?_iff, List.mem_append, List.mem_singleton]
    refine and_congr_left fun _ => ⟨.inl, ?_⟩
    rintro (hold | rfl)
    · exact hold
    · exact hmem
  · rw [List.countP_append, List.countP_singleton, husable, ← h.hits_eq]
    exact (Nat.add_assoc _ _ _).symm

theorem Serves.append_compiled (h : cache.Serves patterns) {node : Pattern.Node}
    (hpattern : pattern ≠ "") (hkept : cache.find? pattern = none)
    (hnode : Pattern.compile? pattern = some node) :
    (cache.keep pattern node).Serves (patterns ++ [pattern]) := by
  have husable : Pattern.isUsable pattern = true :=
    Pattern.isUsable_iff.mpr ⟨hpattern, by simp [hnode]⟩
  refine ⟨?_, ?_, ?_, ?_, ?_, ?_⟩
  · intro other
    rw [find?_keep, Option.isSome_or, Bool.or_eq_true, h.isSome_find?_iff, List.mem_append,
      List.mem_singleton]
    by_cases hother : pattern = other
    · subst hother
      simp [husable]
    · simp [hother, Ne.symm hother]
  · intro filter hfilter
    rcases List.mem_append.mp hfilter with hold | hnew
    · exact h.compile?_eq filter hold
    · rw [List.mem_singleton] at hnew
      subst hnew
      exact hnode
  · have hfresh : pattern ∉ cache.filters.map Filter.pattern := by
      simpa [find?] using hkept
    unfold keep
    rw [List.map_append, List.nodup_append]
    exact ⟨h.nodup_patterns, List.nodup_singleton _, by simpa [newFilter] using hfresh⟩
  · unfold keep
    rw [List.map_append, h.slots_eq]
    simp [size, newFilter, List.range_succ]
  · change cache.compiles + 1 = (cache.filters ++ [_]).length
    rw [List.length_append, h.compiles_eq]
    rfl
  · rw [List.countP_append, List.countP_singleton, husable, ← h.hits_eq]
    exact Nat.add_right_comm _ _ _

/-- A lookup is one more pattern that the cache has been asked for. -/
theorem Looked.serves (h : Looked cache pattern answer after) (hserves : cache.Serves patterns) :
    after.Serves (patterns ++ [pattern]) := by
  cases h with
  | empty => exact hserves.append_unusable (by simp [Pattern.isUsable])
  | hit hpattern hkept => exact hserves.append_hit hkept
  | invalid hpattern hkept hnode =>
      exact hserves.append_unusable (by simp [Pattern.isUsable, hnode])
  | compiled hpattern hkept hnode => exact hserves.append_compiled hpattern hkept hnode

theorem Looked.eq_empty_iff (h : Looked cache pattern answer after) :
    answer = .error .empty ↔ pattern = "" := by
  cases h with
  | empty => simp
  | hit hpattern hkept => simp [hpattern]
  | invalid hpattern hkept hnode => simp [hpattern]
  | compiled hpattern hkept hnode => simp [hpattern]

/-- What is kept has been compiled, so a pattern that does not compile is always noticed. -/
theorem Looked.eq_invalid_iff (h : Looked cache pattern answer after)
    (hserves : cache.Serves patterns) {text : String} :
    answer = .error (.invalid text) ↔ text = pattern ∧ Pattern.compile? pattern = none := by
  have hsome (husable : Pattern.isUsable pattern = true) : Pattern.compile? pattern ≠ none :=
    Option.isSome_iff_ne_none.mp (Pattern.isUsable_iff.mp husable).2
  cases h with
  | empty => simp [Option.isSome_iff_ne_none.mp Pattern.isSome_compile?_empty]
  | hit hpattern hkept => simp [hsome (hserves.isUsable_of_find? hkept)]
  | invalid hpattern hkept hnode => simp [hnode, eq_comm]
  | compiled hpattern hkept hnode => simp [hnode]

/-- A lookup succeeds exactly if its pattern is usable, kept or not. -/
theorem Looked.isSome_toOption (h : Looked cache pattern answer after)
    (hserves : cache.Serves patterns) :
    answer.toOption.isSome = Pattern.isUsable pattern := by
  cases h with
  | empty => simp [Except.toOption, Pattern.isUsable]
  | hit hpattern hkept => simp [Except.toOption, hserves.isUsable_of_find? hkept]
  | invalid hpattern hkept hnode => simp [Except.toOption, Pattern.isUsable, hnode]
  | compiled hpattern hkept hnode => simp [Except.toOption, Pattern.isUsable, hpattern, hnode]

/-- Filters from the same place are the same. -/
theorem Serves.eq_of_slot_eq (h : cache.Serves patterns) {first second : Filter}
    (hfirst : first ∈ cache.filters) (hsecond : second ∈ cache.filters)
    (hslot : first.slot = second.slot) : first = second := by
  have hnodup : (cache.filters.map Filter.slot).Nodup := by
    rw [h.slots_eq]
    exact List.nodup_range
  exact List.inj_on_of_nodup_map hnodup hfirst hsecond hslot

/-- The filters that are kept are as many as the distinct usable patterns that were asked for. -/
theorem Serves.size_eq (h : cache.Serves patterns) :
    cache.size = (patterns.filter Pattern.isUsable).dedup.length := by
  have hperm : (cache.filters.map Filter.pattern).Perm
      (patterns.filter Pattern.isUsable).dedup := by
    refine (List.perm_ext_iff_of_nodup h.nodup_patterns (List.nodup_dedup _)).mpr ?_
    intro pattern
    rw [List.mem_dedup, List.mem_filter, ← h.isSome_find?_iff]
    simp [find?]
  rw [← hperm.length_eq, List.length_map]
  rfl

end

/-! ## Lookups one after the other -/

/-- A lookup of a pattern, with the cache that it is made on. -/
structure Call where
  before : FilterCache
  pattern : String

namespace Call

def answer (call : Call) : Except FilterError Filter := (call.before.lookup call.pattern).1

def after (call : Call) : FilterCache := (call.before.lookup call.pattern).2

theorem looked (call : Call) : Looked call.before call.pattern call.answer call.after :=
  call.before.looked_lookup call.pattern

end Call

/-- The filters that lookups hand out. -/
def handedOut (calls : List Call) : List Filter := calls.filterMap fun call => call.answer.toOption

@[simp] theorem handedOut_append (calls others : List Call) :
    handedOut (calls ++ others) = handedOut calls ++ handedOut others :=
  List.filterMap_append

theorem handedOut_flatMap {α : Type} (items : List α) (calls : α → List Call) :
    handedOut (items.flatMap calls) = items.flatMap fun item => handedOut (calls item) :=
  List.filterMap_flatMap

/-- The lookups that lead from one cache to another, each made on what the one before it left. -/
inductive Calls : FilterCache → List Call → FilterCache → Prop
  | nil (cache : FilterCache) : Calls cache [] cache
  | cons {cache : FilterCache} {pattern : String} {calls : List Call} {after : FilterCache}
      (rest : Calls (cache.lookup pattern).2 calls after) :
      Calls cache (⟨cache, pattern⟩ :: calls) after

section
variable {cache after : FilterCache} {patterns : List String} {calls : List Call}

theorem Calls.singleton (cache : FilterCache) (pattern : String) :
    Calls cache [⟨cache, pattern⟩] (cache.lookup pattern).2 :=
  .cons (.nil _)

theorem Calls.append (h : Calls cache calls after) {others : List Call} {last : FilterCache}
    (hothers : Calls after others last) : Calls cache (calls ++ others) last := by
  induction h with
  | nil => exact hothers
  | cons rest ih => exact .cons (ih hothers)

theorem Calls.serves (h : Calls cache calls after) (hserves : cache.Serves patterns) :
    after.Serves (patterns ++ calls.map Call.pattern) := by
  induction h generalizing patterns with
  | nil => simpa using hserves
  | @cons cache pattern calls after rest ih =>
      have hstep := ih ((cache.looked_lookup pattern).serves hserves)
      rwa [List.append_assoc, List.singleton_append] at hstep

/-- What every lookup is made on serves the lookups before it. -/
theorem Calls.serves_before (h : Calls cache calls after) (hserves : cache.Serves patterns) :
    ∀ call ∈ calls, ∃ earlier, call.before.Serves earlier := by
  induction h generalizing patterns with
  | nil => simp
  | @cons cache pattern calls after rest ih =>
      rw [List.forall_mem_cons]
      exact ⟨⟨patterns, hserves⟩, ih ((cache.looked_lookup pattern).serves hserves)⟩

theorem Calls.find?_of_find? (h : Calls cache calls after) {pattern : String} {filter : Filter}
    (hkept : cache.find? pattern = some filter) : after.find? pattern = some filter := by
  induction h with
  | nil => exact hkept
  | @cons cache other calls after rest ih =>
      exact ih ((cache.looked_lookup other).find?_of_find? hkept)

/-- The filter that a lookup hands out is the one that is kept in the end. -/
theorem Calls.find?_of_answer (h : Calls cache calls after) {call : Call} (hcall : call ∈ calls)
    {filter : Filter} (hanswer : call.answer = .ok filter) :
    after.find? call.pattern = some filter := by
  induction h with
  | nil => cases hcall
  | @cons cache pattern calls after rest ih =>
      rcases List.mem_cons.mp hcall with rfl | hrest
      · have hlooked := Call.looked ⟨cache, pattern⟩
        rw [hanswer] at hlooked
        exact rest.find?_of_find? hlooked.find?_of_ok
      · exact ih hrest

/-- As many lookups succeed as ask for usable patterns. -/
theorem Calls.length_handedOut (h : Calls cache calls after) (hserves : cache.Serves patterns) :
    (handedOut calls).length = (calls.map Call.pattern).countP Pattern.isUsable := by
  have hbefore := h.serves_before hserves
  rw [handedOut, List.length_filterMap_eq_countP, List.countP_map]
  refine List.countP_congr fun call hcall => ?_
  obtain ⟨earlier, hearlier⟩ := hbefore call hcall
  rw [call.looked.isSome_toOption hearlier]
  rfl

end

/-- What lookups on a new cache amount to, with the cache that they leave. -/
structure Account (cache : FilterCache) (calls : List Call) : Prop where
  /-- Every filter that is kept has been compiled once. -/
  compiles_eq : cache.compiles = cache.size
  size_eq : cache.size = ((calls.map Call.pattern).filter Pattern.isUsable).dedup.length
  /-- Every lookup that succeeds compiles or hits. -/
  hits_eq : cache.compiles + cache.hits = (handedOut calls).length
  empty_iff : ∀ call ∈ calls, call.answer = .error .empty ↔ call.pattern = ""
  invalid_iff : ∀ call ∈ calls, ∀ text, call.answer = .error (.invalid text) ↔
    text = call.pattern ∧ Pattern.compile? call.pattern = none
  after_of_error : ∀ call ∈ calls, ∀ error, call.answer = .error error → call.after = call.before
  /-- Filters are shared exactly between equal patterns. -/
  shared_iff : ∀ first ∈ calls, ∀ second ∈ calls, ∀ f g, first.answer = .ok f →
    second.answer = .ok g →
      (f.slot = g.slot ↔ first.pattern = second.pattern) ∧ (f.slot = g.slot → f = g)

theorem Calls.account {cache : FilterCache} {calls : List Call} (h : Calls {} calls cache) :
    cache.Account calls := by
  have hserves : cache.Serves (calls.map Call.pattern) := h.serves serves_new
  have hbefore := h.serves_before serves_new
  refine ⟨hserves.compiles_eq, hserves.size_eq, ?_, ?_, ?_, ?_, ?_⟩
  · rw [hserves.hits_eq, h.length_handedOut serves_new]
  · intro call _
    exact call.looked.eq_empty_iff
  · intro call hcall text
    obtain ⟨earlier, hearlier⟩ := hbefore call hcall
    exact call.looked.eq_invalid_iff hearlier
  · intro call _ error herror
    have hlooked := call.looked
    rw [herror] at hlooked
    exact hlooked.eq_of_error
  · intro first hfirst second hsecond f g hf hg
    -- Both filters are still kept in the end, each under its pattern.
    have hkeptFirst := h.find?_of_answer hfirst hf
    have hkeptSecond := h.find?_of_answer hsecond hg
    have hsame (hslot : f.slot = g.slot) : f = g :=
      hserves.eq_of_slot_eq (List.mem_of_find?_eq_some hkeptFirst)
        (List.mem_of_find?_eq_some hkeptSecond) hslot
    refine ⟨⟨?_, ?_⟩, hsame⟩
    · intro hslot
      rw [← (hserves.eq_of_find? hkeptFirst).1, hsame hslot]
      exact (hserves.eq_of_find? hkeptSecond).1
    · intro hpattern
      rw [hpattern, hkeptSecond, Option.some.injEq] at hkeptFirst
      rw [hkeptFirst]

end FilterCache
end BundleFront
