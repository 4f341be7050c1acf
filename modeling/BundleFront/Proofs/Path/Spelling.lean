import BundleFront.Proofs.Path

/-!
# Spellings of clean forms

Two texts can name the same place, and a clean form is the one of them that is written with nothing
to spare.  That holds for every path, also for one that is still relative: there a `..` stays where
no name is left to take away.

* `Path.components_ofComponents` — steps are read back from the text that is made of them.
* `Path.clean_eq_of_same` — clean forms that name the same place are one text.
-/

namespace BundleFront

open Text

namespace Path

/-- A path starts at the root, or all of its components lead on. -/
theorem components_cases (p : Path) :
    (∃ steps, p.components = .root :: steps ∧ ∀ step ∈ steps, step.IsStep) ∨
      ∀ step ∈ p.components, step = .here ∨ step.IsStep := by
  have hsteps (segments : List (List Char)) (h : ∀ segment ∈ segments, '/' ∉ segment) :
      ∀ step ∈ segments.filterMap Component.ofSegment?, step.IsStep := by
    intro step hstep
    obtain ⟨segment, hsegment, hcomponent⟩ := List.mem_filterMap.mp hstep
    exact Component.isStep_of_ofSegment? (h segment hsegment) hcomponent
  have hslash : ∀ segment ∈ splitOn '/' p.text.toList, '/' ∉ segment := fun _ hsegment =>
    not_mem_of_mem_splitOn hsegment
  unfold components componentsOf
  generalize splitOn '/' p.text.toList = segments at hslash
  split
  · exact .inr (by simp)
  · exact .inr (by simp)
  · exact .inl ⟨_, rfl, hsteps _ (List.forall_mem_cons.mp hslash).2⟩
  · refine .inr (List.forall_mem_cons.mpr ⟨.inl rfl, fun step hstep => .inr ?_⟩)
    exact hsteps _ (List.forall_mem_cons.mp hslash).2 step hstep
  · exact .inr fun step hstep => .inr (hsteps _ hslash step hstep)

/-- Without a root, `..` stays where there is no name to take away. -/
theorem isStep_of_mem_pushClean {stack : List Component} (h : ∀ step ∈ stack, step.IsStep)
    {component : Component} (hcomponent : component = .here ∨ component.IsStep) :
    ∀ step ∈ pushClean stack component, step.IsStep := by
  cases component with
  | root => exact (hcomponent.resolve_left (by simp)).elim
  | here => exact h
  | up =>
      have hup : Component.IsStep .up := trivial
      cases stack with
      | nil => exact List.forall_mem_cons.mpr ⟨hup, h⟩
      | cons top rest =>
          obtain ⟨htop, hrest⟩ := List.forall_mem_cons.mp h
          cases top with
          | root => exact htop.elim
          | here => exact htop.elim
          | up => exact List.forall_mem_cons.mpr ⟨hup, h⟩
          | name text => exact hrest
  | name text => exact List.forall_mem_cons.mpr ⟨hcomponent.resolve_left (by simp), h⟩

theorem isStep_of_mem_cleanComponents {components : List Component}
    (h : ∀ step ∈ components, step = .here ∨ step.IsStep) :
    ∀ step ∈ cleanComponents components, step.IsStep := by
  have hfold (stack : List Component) (hstack : ∀ step ∈ stack, step.IsStep) :
      ∀ step ∈ components.foldl pushClean stack, step.IsStep := by
    induction components generalizing stack with
    | nil => exact hstack
    | cons first rest ih =>
        obtain ⟨hfirst, hrest⟩ := List.forall_mem_cons.mp h
        exact ih hrest _ (isStep_of_mem_pushClean hstack hfirst)
  intro step hstep
  exact hfold [] (by simp) step (List.mem_reverse.mp hstep)

theorem Component.IsStep.ofSegment?_text {step : Component} (h : step.IsStep) :
    ofSegment? step.text = some step := by
  cases step with
  | root => exact h.elim
  | here => exact h.elim
  | up => rfl
  | name text => exact IsName.ofSegment?_eq h

theorem Component.IsStep.noSlash {step : Component} (h : step.IsStep) : '/' ∉ step.text := by
  cases step with
  | root => exact h.elim
  | here => exact h.elim
  | up => simp [Component.text]
  | name text => exact IsName.noSlash h

/-- Steps are read back from the shortest text that has them. -/
theorem components_ofComponents {steps : List Component} (h : ∀ step ∈ steps, step.IsStep)
    (hne : steps ≠ []) : (ofComponents steps).components = steps := by
  have htext : textOf steps = joinWith '/' (steps.map Component.text) := by
    unfold textOf
    split
    · exact ((List.forall_mem_cons.mp h).1).elim
    · rfl
  have hsplit : splitOn '/' (ofComponents steps).text.toList = steps.map Component.text := by
    have hslash : ∀ segment ∈ steps.map Component.text, '/' ∉ segment := by
      intro segment hsegment
      obtain ⟨step, hstep, rfl⟩ := List.mem_map.mp hsegment
      exact (h step hstep).noSlash
    rw [ofComponents, String.toList_ofList, htext]
    exact splitOn_joinWith (by simpa using hne) hslash
  have hread : (steps.map Component.text).filterMap Component.ofSegment? = steps := by
    rw [List.filterMap_map]
    refine (List.filterMap_congr fun step hstep => ?_).trans (List.filterMap_some (l := steps))
    exact (h step hstep).ofSegment?_text
  obtain ⟨first, rest, rfl⟩ := List.exists_cons_of_ne_nil hne
  have hfirst := (List.forall_mem_cons.mp h).1.ofSegment?_text
  -- The first segment is neither empty nor `.`, since both stand for nothing.
  have hnil : first.text ≠ [] := by
    intro htext
    rw [htext] at hfirst
    cases hfirst
  have hhere : first.text ≠ ['.'] := by
    intro htext
    rw [htext] at hfirst
    cases hfirst
  unfold components componentsOf
  rw [hsplit, List.map_cons]
  rw [List.map_cons] at hread
  split
  · contradiction
  · rename_i hsegments
    exact absurd (List.cons.inj hsegments).1 hnil
  · rename_i hsegments
    exact absurd (List.cons.inj hsegments).1 hnil
  · rename_i hsegments
    exact absurd (List.cons.inj hsegments).1 hhere
  · exact hread

/-- A clean form is the shortest text with its components. -/
theorem ofComponents_components_clean (p : Path) : ofComponents p.clean.components = p.clean := by
  rcases p.components_cases with ⟨steps, hcomponents, hsteps⟩ | hsteps
  · obtain ⟨names, hnames, hstack⟩ : OnRoot (steps.foldl pushClean [.root]) :=
      OnRoot.foldl_pushClean hsteps ⟨[], by simp, rfl⟩
    have htexts : (names.reverse.map Component.name).map Component.text = names.reverse := by
      rw [List.map_map]
      exact List.map_id _
    rw [clean_eq_ofNames hcomponents hstack,
      components_ofNames fun name hname => hnames name (List.mem_reverse.mp hname)]
    show (⟨String.ofList ('/' :: joinWith '/' ((names.reverse.map Component.name).map
      Component.text))⟩ : Path) = _
    rw [htexts]
    rfl
  · have hclean := isStep_of_mem_cleanComponents hsteps
    unfold clean
    split
    · rfl
    · rename_i hne
      rw [components_ofComponents hclean hne]

/-- Clean forms that name the same place are one text. -/
theorem clean_eq_of_same {p q : Path} (h : p.clean.same q.clean = true) : p.clean = q.clean := by
  rw [← p.ofComponents_components_clean, beq_iff_eq.mp h, q.ofComponents_components_clean]

end Path
end BundleFront
