import BundleFront.FileSystem
import Mathlib.Data.List.Basic
import Mathlib.Tactic.Common

/-!
# Normal paths

A path is in normal form if it starts at the root and consists of names only.  Cleaning
brings every absolute path into this form: its components are pushed on a stack with the
root at the bottom, and a stack of names upon the root stays one, whatever is pushed.

The directory of a path in normal form is in normal form again, unless the path is the
root, which has none.
-/

namespace BundleFront

open Text

namespace Path

/-- A segment that can stand for a file or a directory. -/
structure IsName (segment : List Char) : Prop where
  ne_nil : segment ≠ []
  ne_here : segment ≠ ['.']
  ne_up : segment ≠ ['.', '.']
  noSlash : '/' ∉ segment

/-- The path from the root over the given names. -/
def ofNames (names : List (List Char)) : Path := ⟨String.ofList ('/' :: joinWith '/' names)⟩

/-- An absolute path of names: no segment is empty, `.` or `..`. -/
def IsNormal (p : Path) : Prop := ∃ names : List (List Char), (∀ name ∈ names, IsName name) ∧ p = ofNames names

/-- An absolute path without the components `.` and `..`. -/
def IsPlain (p : Path) : Prop :=
  p.isAbsolute = true ∧ ∀ component ∈ p.components, component ≠ .here ∧ component ≠ .up

theorem toList_ofNames (names : List (List Char)) :
    (ofNames names).text.toList = '/' :: joinWith '/' names := String.toList_ofList

theorem IsName.ofSegment?_eq {segment : List Char} (h : IsName segment) :
    Component.ofSegment? segment = some (.name segment) := by
  unfold Component.ofSegment?
  split
  · exact absurd rfl h.ne_nil
  · exact absurd rfl h.ne_here
  · exact absurd rfl h.ne_up
  · rfl

/-- The segments behind the root of a path are its names; the root itself has an empty one. -/
theorem splitOn_ofNames {names : List (List Char)} (h : ∀ name ∈ names, IsName name)
    (hne : names ≠ []) : splitOn '/' (ofNames names).text.toList = [] :: names := by
  rw [toList_ofNames, splitOn, if_pos rfl,
    splitOn_joinWith hne fun name hname => (h name hname).noSlash]

theorem components_ofNames {names : List (List Char)} (h : ∀ name ∈ names, IsName name) :
    (ofNames names).components = .root :: names.map .name := by
  unfold components componentsOf
  cases names with
  | nil => rfl
  | cons first more =>
      have hnames : (first :: more).filterMap Component.ofSegment? =
          (first :: more).filterMap fun name => some (.name name) :=
        List.filterMap_congr fun name hname => (h name hname).ofSegment?_eq
      rw [splitOn_ofNames h (List.cons_ne_nil _ _)]
      dsimp only
      rw [hnames, List.filterMap_eq_map']

/-- Names are neither `.` nor `..`. -/
theorem IsNormal.isPlain {p : Path} (h : p.IsNormal) : p.IsPlain := by
  obtain ⟨names, hnames, rfl⟩ := h
  refine ⟨by simp [isAbsolute, toList_ofNames], ?_⟩
  rw [components_ofNames hnames]
  simp

/-- What may stand behind the root. -/
def Component.IsStep : Component → Prop
  | .up => True
  | .name text => IsName text
  | _ => False

theorem Component.isStep_of_ofSegment? {segment : List Char} {component : Component}
    (hslash : '/' ∉ segment) (h : ofSegment? segment = some component) : component.IsStep := by
  unfold ofSegment? at h
  split at h
  · cases h
  · cases h
  · cases h
    trivial
  · rename_i hnil hhere hup
    cases h
    exact ⟨hnil, hhere, hup, hslash⟩

/-- The components of an absolute path are the root and what its segments stand for. -/
theorem components_eq_of_isAbsolute {p : Path} (h : p.isAbsolute = true) :
    p.components = .root :: (splitOn '/' p.text.toList).filterMap Component.ofSegment? := by
  obtain ⟨rest, hrest⟩ : ∃ rest, p.text.toList = '/' :: rest := by
    unfold isAbsolute at h
    cases hchars : p.text.toList with
    | nil => simp [hchars] at h
    | cons c rest => exact ⟨rest, by simpa [hchars] using h⟩
  have hsplit : splitOn '/' ('/' :: rest) = [] :: splitOn '/' rest := rfl
  unfold components componentsOf
  rw [hrest, hsplit]
  cases hsegments : splitOn '/' rest with
  | nil => exact absurd hsegments (splitOn_ne_nil '/' rest)
  | cons first more => rfl

/-- An absolute path is the root, followed by names and `..`. -/
theorem components_of_isAbsolute {p : Path} (h : p.isAbsolute = true) :
    ∃ steps, p.components = .root :: steps ∧ ∀ step ∈ steps, step.IsStep := by
  refine ⟨_, components_eq_of_isAbsolute h, ?_⟩
  intro step hstep
  obtain ⟨segment, hsegment, hcomponent⟩ := List.mem_filterMap.mp hstep
  exact Component.isStep_of_ofSegment? (not_mem_of_mem_splitOn hsegment) hcomponent

/-! ## Cleaning -/

/-- A stack of names upon the root. -/
def OnRoot (stack : List Component) : Prop :=
  ∃ names : List (List Char), (∀ name ∈ names, IsName name) ∧ stack = names.map .name ++ [.root]

/-- A name goes on top, and `..` takes at most a name away. -/
theorem OnRoot.pushClean {stack : List Component} (h : OnRoot stack) {step : Component}
    (hstep : step.IsStep) : OnRoot (pushClean stack step) := by
  obtain ⟨names, hnames, rfl⟩ := h
  cases step with
  | root => exact hstep.elim
  | here => exact hstep.elim
  | up =>
      -- Nothing leads above the root.
      cases names with
      | nil => exact ⟨[], hnames, rfl⟩
      | cons name rest => exact ⟨rest, (List.forall_mem_cons.mp hnames).2, rfl⟩
  | name text => exact ⟨text :: names, List.forall_mem_cons.mpr ⟨hstep, hnames⟩, rfl⟩

theorem OnRoot.foldl_pushClean {steps : List Component} (hsteps : ∀ step ∈ steps, step.IsStep)
    {stack : List Component} (h : OnRoot stack) : OnRoot (steps.foldl Path.pushClean stack) := by
  induction steps generalizing stack with
  | nil => exact h
  | cons step rest ih =>
      obtain ⟨hstep, hrest⟩ := List.forall_mem_cons.mp hsteps
      exact ih hrest (h.pushClean hstep)

/-- Cleaning leaves the names that are stacked upon the root in the end.  The stack grows at its
head, so they are read from the back. -/
theorem clean_eq_ofNames {p : Path} {steps : List Component} {names : List (List Char)}
    (hcomponents : p.components = .root :: steps)
    (hstack : steps.foldl pushClean [.root] = names.map .name ++ [.root]) :
    p.clean = ofNames names.reverse := by
  have hclean : cleanComponents p.components = .root :: names.reverse.map .name := by
    unfold cleanComponents
    rw [hcomponents]
    change (steps.foldl pushClean [.root]).reverse = _
    rw [hstack]
    simp
  have htexts : (names.reverse.map Component.name).map Component.text = names.reverse := by
    rw [List.map_map]
    exact List.map_id _
  unfold clean
  rw [hclean]
  change (⟨String.ofList ('/' :: joinWith '/' ((names.reverse.map Component.name).map
    Component.text))⟩ : Path) = _
  rw [htexts]
  rfl

/-- Cleaning an absolute path leaves the root and names. -/
theorem isNormal_clean {p : Path} (h : p.isAbsolute = true) : p.clean.IsNormal := by
  obtain ⟨steps, hcomponents, hsteps⟩ := components_of_isAbsolute h
  obtain ⟨names, hnames, hstack⟩ : OnRoot (steps.foldl pushClean [.root]) :=
    OnRoot.foldl_pushClean hsteps ⟨[], by simp, rfl⟩
  exact ⟨names.reverse, fun name hname => hnames name (List.mem_reverse.mp hname),
    clean_eq_ofNames hcomponents hstack⟩

/-! ## Directories -/

/-- Names at the end are not trimmed. -/
theorem trimSegments_eq_self {names : List (List Char)} (h : ∀ name ∈ names, IsName name) :
    trimSegments names = names := by
  unfold trimSegments
  cases hreverse : names.reverse with
  | nil => simpa using hreverse
  | cons last rest =>
      have hlast : IsName last := h last (List.mem_reverse.mp (hreverse ▸ List.mem_cons_self))
      rw [List.dropWhile_cons_of_neg (by simp [hlast.ofSegment?_eq]), ← hreverse,
        List.reverse_reverse]

/-- The root has no directory. -/
theorem directory_root : directory ⟨"/"⟩ = ⟨""⟩ := by decide

/-- The directory of a path is the path without its last name. -/
theorem directory_ofNames {names : List (List Char)} (h : ∀ name ∈ names, IsName name)
    (hne : names ≠ []) : (ofNames names).directory = ofNames names.dropLast := by
  have hparent : (ofNames names).parent? = some (ofNames names.dropLast) := by
    unfold parent?
    rw [splitOn_ofNames h hne]
    cases names with
    | nil => exact absurd rfl hne
    | cons first more =>
        have hinit : ∀ name ∈ (first :: more).dropLast, IsName name := fun name hname =>
          h name ((List.dropLast_sublist _).subset hname)
        dsimp only
        rw [trimSegments_eq_self h]
        dsimp only
        rw [trimSegments_eq_self hinit]
        rfl
  rw [directory, hparent, Option.getD_some]

/-- Apart from the root, the directory of a path in normal form is in normal form. -/
theorem IsNormal.directory {p : Path} (h : p.IsNormal) (hroot : p ≠ ⟨"/"⟩) :
    p.directory.IsNormal := by
  obtain ⟨names, hnames, rfl⟩ := h
  have hne : names ≠ [] := by
    rintro rfl
    exact hroot rfl
  rw [directory_ofNames hnames hne]
  exact ⟨names.dropLast, fun name hname => hnames name ((List.dropLast_sublist _).subset hname), rfl⟩

/-! ## Absolute forms -/

/-- What is seen from an absolute path is absolute. -/
theorem isAbsolute_join {base p : Path} (h : base.isAbsolute = true) :
    (base.join p).isAbsolute = true := by
  unfold join
  split
  · assumption
  · unfold isAbsolute at h ⊢
    cases hchars : base.text.toList with
    | nil => simp [hchars] at h
    | cons c rest => simpa [hchars] using h

end Path

/-- From an absolute working directory, every absolute form is in normal form. -/
theorem FileSystem.isNormal_of_absolute? {fs : FileSystem}
    (hbase : ∀ base, fs.workingDirectory = .ok base → base.isAbsolute = true) {p absolute : Path}
    (h : fs.absolute? p = some absolute) : absolute.IsNormal := by
  unfold absolute? at h
  by_cases habsolute : p.isAbsolute = true
  · rw [if_pos habsolute] at h
    cases h
    exact Path.isNormal_clean habsolute
  · rw [if_neg habsolute] at h
    cases hdirectory : fs.workingDirectory with
    | error error => simp [hdirectory] at h
    | ok base =>
        rw [hdirectory] at h
        cases h
        exact Path.isNormal_clean (Path.isAbsolute_join (hbase base hdirectory))

end BundleFront
