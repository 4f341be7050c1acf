import BundleFront.Proofs.Path

/-!
# Walks

A path is a walk through directories: a name enters one, `..` goes back, and an empty
segment or `.` stays.  At the root there is nothing to go back by, so `..` stays there.

* `Path.clean_eq_walk` — the clean form of an absolute path is where its walk ends.
* `Path.walk_join` — a path that is seen from another one goes on where that one ends.
* `Path.clean_join` — so a path may be cleaned before another one is seen from it.
* `Path.same_clean_iff` — an absolute path and its clean form have the same components
  exactly if there is no `..` among them.
-/

namespace BundleFront

open Text

namespace Path

/-- Where a segment leads from the directory with the given names, the last one first. -/
def enter (names : List (List Char)) : List Char → List (List Char)
  | [] => names
  | ['.'] => names
  | ['.', '.'] => names.tail
  | name => name :: names

/-- Where a path leads from the directory with the given names, the last one first. -/
def walk (names : List (List Char)) (p : Path) : List (List Char) :=
  (splitOn '/' p.text.toList).foldl enter names

theorem enter_name (names : List (List Char)) {segment : List Char} (hnil : segment ≠ [])
    (hhere : segment ≠ ['.']) (hup : segment ≠ ['.', '.']) :
    enter names segment = segment :: names := by
  unfold enter
  split
  · exact absurd rfl hnil
  · exact absurd rfl hhere
  · exact absurd rfl hup
  · rfl

/-! ## Cleaning -/

/-- What a segment stands for is pushed on the stack exactly as the walk goes on. -/
theorem foldl_pushClean_segment (names : List (List Char)) (segment : List Char) :
    (Component.ofSegment? segment).toList.foldl pushClean (names.map .name ++ [.root]) =
      (enter names segment).map .name ++ [.root] := by
  unfold Component.ofSegment?
  split
  · rfl
  · rfl
  · -- Nothing leads above the root.
    cases names <;> rfl
  · rename_i hnil hhere hup
    rw [enter_name names hnil hhere hup]
    rfl

theorem foldl_pushClean_segments (names segments : List (List Char)) :
    (segments.filterMap Component.ofSegment?).foldl pushClean (names.map .name ++ [.root]) =
      (segments.foldl enter names).map .name ++ [.root] := by
  induction segments generalizing names with
  | nil => rfl
  | cons segment rest ih =>
      have hsplit : (segment :: rest).filterMap Component.ofSegment? =
          (Component.ofSegment? segment).toList ++ rest.filterMap Component.ofSegment? := by
        cases h : Component.ofSegment? segment <;> simp [h]
      rw [hsplit, List.foldl_append, foldl_pushClean_segment, ih, List.foldl_cons]

/-- The clean form of an absolute path is the path of the names that its walk ends with. -/
theorem clean_eq_walk {p : Path} (h : p.isAbsolute = true) :
    p.clean = ofNames (walk [] p).reverse :=
  clean_eq_ofNames (components_eq_of_isAbsolute h) (foldl_pushClean_segments [] _)

/-- A walk ends in a directory with proper names. -/
theorem isName_of_mem_walk {p : Path} (h : p.isAbsolute = true) :
    ∀ name ∈ walk [] p, IsName name := by
  obtain ⟨steps, hcomponents, hsteps⟩ := components_of_isAbsolute h
  obtain ⟨names, hnames, hstack⟩ : OnRoot (steps.foldl pushClean [.root]) :=
    OnRoot.foldl_pushClean hsteps ⟨[], by simp, rfl⟩
  rw [components_eq_of_isAbsolute h, List.cons.injEq] at hcomponents
  have hwalk : (walk [] p).map Component.name ++ [.root] = names.map .name ++ [.root] := by
    rw [← hstack, ← hcomponents.2]
    exact (foldl_pushClean_segments [] _).symm
  have hinjective : Function.Injective Component.name := fun _ _ => Component.name.inj
  rw [List.map_injective_iff.mpr hinjective (List.append_cancel_right hwalk)]
  exact hnames

/-- A walk along names enters all of them. -/
theorem walk_ofNames {names : List (List Char)} (h : ∀ name ∈ names, IsName name) :
    walk [] (ofNames names) = names.reverse := by
  have hfold (base : List (List Char)) : names.foldl enter base = names.reverse ++ base := by
    induction names generalizing base with
    | nil => rfl
    | cons name rest ih =>
        obtain ⟨hname, hrest⟩ := List.forall_mem_cons.mp h
        rw [List.foldl_cons, enter_name base hname.ne_nil hname.ne_here hname.ne_up, ih hrest,
          List.reverse_cons, List.append_assoc]
        rfl
  unfold walk
  cases names with
  | nil => rfl
  | cons name rest =>
      rw [splitOn_ofNames h (List.cons_ne_nil _ _)]
      exact (hfold []).trans (List.append_nil _)

/-- A path and its clean form lead to the same directory. -/
theorem walk_clean {p : Path} (h : p.isAbsolute = true) : walk [] p.clean = walk [] p := by
  have hnames : ∀ name ∈ (walk [] p).reverse, IsName name := fun name hname =>
    isName_of_mem_walk h name (List.mem_reverse.mp hname)
  rw [clean_eq_walk h, walk_ofNames hnames, List.reverse_reverse]

/-- Absolute paths have one clean form exactly if they lead to one directory. -/
theorem clean_eq_iff {p q : Path} (hp : p.isAbsolute = true) (hq : q.isAbsolute = true) :
    p.clean = q.clean ↔ walk [] p = walk [] q := by
  constructor
  · intro h
    rw [← walk_clean hp, h, walk_clean hq]
  · intro h
    rw [clean_eq_walk hp, h, ← clean_eq_walk hq]

/-- A path in normal form is clean. -/
theorem IsNormal.clean_eq {p : Path} (h : p.IsNormal) : p.clean = p := by
  have habsolute : p.isAbsolute = true := h.isPlain.1
  obtain ⟨names, hnames, rfl⟩ := h
  rw [clean_eq_walk habsolute, walk_ofNames hnames, List.reverse_reverse]

/-- Without `..` the components are stacked as they come. -/
theorem foldl_pushClean_of_up_notMem {steps : List Component} (hsteps : ∀ step ∈ steps, step.IsStep)
    (hup : .up ∉ steps) (stack : List Component) :
    steps.foldl pushClean stack = steps.reverse ++ stack := by
  induction steps generalizing stack with
  | nil => rfl
  | cons step rest ih =>
      obtain ⟨hstep, hrest⟩ := List.forall_mem_cons.mp hsteps
      rw [List.mem_cons, not_or] at hup
      have hpush : pushClean stack step = step :: stack := by
        cases step with
        | name text => rfl
        | up => exact absurd rfl hup.1
        | root => exact hstep.elim
        | here => exact hstep.elim
      rw [List.foldl_cons, hpush, ih hrest hup.2, List.reverse_cons, List.append_assoc]
      rfl

theorem components_clean {p : Path} (h : p.isAbsolute = true) :
    p.clean.components = .root :: (walk [] p).reverse.map .name := by
  rw [clean_eq_walk h]
  exact components_ofNames fun name hname => isName_of_mem_walk h name (List.mem_reverse.mp hname)

/-- An absolute path and its clean form have the same components exactly if there is no `..` among
them. -/
theorem same_clean_iff {p : Path} (h : p.isAbsolute = true) :
    p.same p.clean = true ↔ .up ∉ p.components := by
  rw [same, beq_iff_eq]
  constructor
  · intro hsame hup
    exact ((isNormal_clean h).isPlain.2 .up (hsame ▸ hup)).2 rfl
  · intro hup
    obtain ⟨steps, hcomponents, hsteps⟩ := components_of_isAbsolute h
    have hsegments := (List.cons.inj ((components_eq_of_isAbsolute h).symm.trans hcomponents)).2
    rw [hcomponents, List.mem_cons, not_or] at hup
    have hstack : steps.reverse ++ [.root] = (walk [] p).map .name ++ [.root] := by
      rw [← foldl_pushClean_of_up_notMem hsteps hup.2, ← hsegments]
      exact foldl_pushClean_segments [] _
    rw [components_clean h, hcomponents, List.map_reverse, ← List.append_cancel_right hstack,
      List.reverse_reverse]

/-! ## Paths seen from others -/

theorem join_of_isAbsolute (base : Path) {p : Path} (h : p.isAbsolute = true) :
    base.join p = p := if_pos h

/-- The segments of a relative path come behind those of its base, of which an empty one at the
end may be left out. -/
theorem splitOn_join (base : Path) {p : Path} (h : ¬ p.isAbsolute = true) :
    ∃ segments, (splitOn '/' base.text.toList = segments ∨
        splitOn '/' base.text.toList = segments ++ [[]]) ∧
      splitOn '/' (base.join p).text.toList = segments ++ splitOn '/' p.text.toList := by
  rw [join, if_neg h, String.toList_ofList]
  rcases List.eq_nil_or_concat' base.text.toList with hempty | ⟨front, last, hbase⟩
  · exact ⟨[], .inr (by rw [hempty]; rfl), by rw [hempty]; rfl⟩
  · have hend : base.text.toList.getLast? = some last := by simp [hbase]
    have hne : base.text.toList.isEmpty = false := by simp [hbase]
    rw [hend, hne, Bool.false_or]
    by_cases hlast : last = '/'
    · subst hlast
      refine ⟨splitOn '/' front, .inr ?_, ?_⟩
      · rw [hbase]
        exact splitOn_append_separator '/' front []
      · rw [hbase, beq_self_eq_true, if_pos rfl, List.append_nil, List.append_assoc]
        exact splitOn_append_separator '/' front p.text.toList
    · refine ⟨splitOn '/' base.text.toList, .inl rfl, ?_⟩
      rw [if_neg (by simp [hlast]), List.append_assoc]
      exact splitOn_append_separator '/' base.text.toList p.text.toList

/-- The walk along a relative path goes on where the walk along its base ends. -/
theorem walk_join (names : List (List Char)) (base : Path) {p : Path} (h : ¬ p.isAbsolute = true) :
    walk names (base.join p) = walk (walk names base) p := by
  obtain ⟨segments, hbase, hjoin⟩ := splitOn_join base h
  have hend : (splitOn '/' base.text.toList).foldl enter names = segments.foldl enter names := by
    rcases hbase with hbase | hbase
    · rw [hbase]
    · rw [hbase, List.foldl_append]
      rfl
  unfold walk
  rw [hjoin, List.foldl_append, hend]

theorem isAbsolute_join_iff (p : Path) {r : Path} (h : ¬ r.isAbsolute = true) :
    (p.join r).isAbsolute = true ↔ p.isAbsolute = true := by
  rw [join, if_neg h]
  unfold isAbsolute at h ⊢
  rw [String.toList_ofList]
  cases p.text.toList with
  | nil => simpa using h
  | cons c rest => simp

/-- Where a path is seen from, only the directory matters. -/
theorem clean_join {p : Path} (h : p.isAbsolute = true) (r : Path) :
    (p.clean.join r).clean = (p.join r).clean := by
  by_cases hr : r.isAbsolute = true
  · rw [join_of_isAbsolute _ hr, join_of_isAbsolute _ hr]
  · have hclean : p.clean.isAbsolute = true := (isNormal_clean h).isPlain.1
    rw [clean_eq_walk (isAbsolute_join hclean), clean_eq_walk (isAbsolute_join h), walk_join _ _ hr,
      walk_join _ _ hr, walk_clean h]

/-- Seeing paths one from the other, it does not matter which two are put together first. -/
theorem clean_join_join {base : Path} (h : base.isAbsolute = true) (p r : Path) :
    (base.join (p.join r)).clean = ((base.join p).join r).clean := by
  by_cases hr : r.isAbsolute = true
  · rw [join_of_isAbsolute p hr, join_of_isAbsolute _ hr, join_of_isAbsolute _ hr]
  · by_cases hp : p.isAbsolute = true
    · rw [join_of_isAbsolute base hp, join_of_isAbsolute base (isAbsolute_join hp)]
    · have hjoin : ¬ (p.join r).isAbsolute = true := (isAbsolute_join_iff p hr).not.mpr hp
      rw [clean_eq_walk (isAbsolute_join h), clean_eq_walk (isAbsolute_join (isAbsolute_join h)),
        walk_join _ _ hjoin, walk_join _ _ hr, walk_join _ _ hr, walk_join _ _ hp]

end Path
end BundleFront
