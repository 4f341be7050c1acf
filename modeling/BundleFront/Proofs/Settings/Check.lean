import BundleFront.Proofs.Checked
import BundleFront.Proofs.Table
import BundleFront.Settings.Plan

/-!
# What single checks come to

Each check of options has two equations here, one for its value and one for its
problems, and whole settings are put together from these.  A list of options has
one problem for each item that is not sound, in the order of the items
(`Problem.each`).

Paths follow one rule throughout.  The empty path is as good as none and never a
problem; any other path stands for its absolute form, and it is a problem to have
none.
-/

namespace BundleFront

namespace Problem

/-- One problem for each item that is not sound, in order. -/
def each {α : Type} (sound : α → Bool) (problem : α → Problem) (items : List α) : List Problem :=
  (items.filter fun item => !sound item).map problem

/-- The problem, where it is found. -/
def onlyIf (found : Bool) (problem : Problem) : List Problem := if found then [problem] else []

/-- What the first rule that applies has to say; nothing if none applies. -/
def firstRule : List (Bool × List Problem) → List Problem
  | [] => []
  | rule :: rest => if rule.1 then rule.2 else firstRule rest

@[simp] theorem onlyIf_eq_nil_iff {found : Bool} {problem : Problem} :
    onlyIf found problem = [] ↔ found = false := by
  cases found <;> simp [onlyIf]

theorem each_singleton {α : Type} (sound : α → Bool) (problem : α → Problem) (item : α) :
    each sound problem [item] = if sound item then [] else [problem item] := by
  cases h : sound item <;> simp [each, h]

/-- Checking the items one by one finds what checking them together finds. -/
theorem flatMap_each {α β : Type} (sound : α → Bool) (problem : α → Problem) (items : List β)
    (part : β → List α) :
    items.flatMap (fun item => each sound problem (part item)) =
      each sound problem (items.flatMap part) := by
  induction items with
  | nil => rfl
  | cons item rest ih =>
      rw [List.flatMap_cons, List.flatMap_cons, ih]
      simp [each]

theorem each_eq_nil_iff {α : Type} {sound : α → Bool} {problem : α → Problem} {items : List α} :
    each sound problem items = [] ↔ ∀ item ∈ items, sound item = true := by
  simp [each]

theorem exists_of_mem_each {α : Type} {sound : α → Bool} {problem : α → Problem} {items : List α}
    {p : Problem} (h : p ∈ each sound problem items) : ∃ item, p = problem item := by
  obtain ⟨item, -, rfl⟩ := List.mem_map.mp h
  exact ⟨item, rfl⟩

theorem eq_of_mem_onlyIf {found : Bool} {problem p : Problem} (h : p ∈ onlyIf found problem) :
    p = problem := by
  cases found with
  | false => cases h
  | true => exact List.mem_singleton.mp h

theorem exists_of_mem_firstRule {rules : List (Bool × List Problem)} {p : Problem}
    (h : p ∈ firstRule rules) : ∃ rule ∈ rules, p ∈ rule.2 := by
  induction rules with
  | nil => cases h
  | cons rule rest ih =>
      rw [firstRule] at h
      split at h
      · exact ⟨rule, List.mem_cons_self, h⟩
      · obtain ⟨other, hother, hp⟩ := ih h
        exact ⟨other, List.mem_cons_of_mem rule hother, hp⟩

end Problem

/-! ## Paths -/

namespace FileSystem

/-- Whether a path may stand where a path is asked for. -/
def reaches (fs : FileSystem) (p : Path) : Bool := p.isEmpty || (fs.absolute? p).isSome

/-- The absolute form of a path that is given; the empty path is not. -/
def absoluteOf? (fs : FileSystem) : Option Path → Option Path
  | none => none
  | some p => if p.isEmpty then none else fs.absolute? p

end FileSystem

@[simp] theorem value_checkPath (fs : FileSystem) (p : Path) :
    (checkPath fs p).value = fs.absoluteOf? (some p) := by
  unfold checkPath FileSystem.absoluteOf?
  by_cases hempty : p.isEmpty
  · simp [hempty]
  · cases h : fs.absolute? p <;> simp [hempty, h]

@[simp] theorem problems_checkPath (fs : FileSystem) (p : Path) :
    (checkPath fs p).problems = Problem.each fs.reaches .path [p] := by
  unfold checkPath
  rw [Problem.each_singleton, FileSystem.reaches]
  by_cases hempty : p.isEmpty
  · simp [hempty]
  · cases fs.absolute? p <;> simp [hempty]

@[simp] theorem value_checkOptionalPath (fs : FileSystem) (p : Option Path) :
    (checkOptionalPath fs p).value = fs.absoluteOf? p := by
  cases p with
  | none => rfl
  | some p => exact value_checkPath fs p

@[simp] theorem problems_checkOptionalPath (fs : FileSystem) (p : Option Path) :
    (checkOptionalPath fs p).problems = Problem.each fs.reaches .path p.toList := by
  cases p with
  | none => rfl
  | some p => exact problems_checkPath fs p

@[simp] theorem problems_checkStdin (fs : FileSystem) (stdin : Option StdinOptions) :
    (checkStdin fs stdin).problems =
      Problem.each fs.reaches .path (stdin.bind StdinOptions.resolveDir).toList := by
  cases stdin with
  | none => rfl
  | some stdin => simp [checkStdin]

/-- Whether a path is set; the empty path is as good as none. -/
def Path.isSet : Option Path → Bool
  | none => false
  | some p => !p.isEmpty

/-- Where paths are no problem, those that are set are those with an absolute form. -/
theorem FileSystem.isSome_absoluteOf? {fs : FileSystem} {p : Option Path}
    (hreaches : ∀ q ∈ p.toList, fs.reaches q = true) :
    (fs.absoluteOf? p).isSome = Path.isSet p := by
  cases p with
  | none => rfl
  | some q =>
      have hq : fs.reaches q = true := hreaches q (by simp)
      unfold FileSystem.reaches at hq
      cases hempty : q.isEmpty with
      | true => simp [FileSystem.absoluteOf?, Path.isSet, hempty]
      | false =>
          rw [hempty, Bool.false_or] at hq
          simp [FileSystem.absoluteOf?, Path.isSet, hempty, hq]

theorem FileSystem.bind_absolute?_of_absoluteOf? {fs : FileSystem} {p : Option Path}
    {absolute : Path} (h : fs.absoluteOf? p = some absolute) :
    p.bind fs.absolute? = some absolute := by
  cases p with
  | none => simp [FileSystem.absoluteOf?] at h
  | some q =>
      unfold FileSystem.absoluteOf? at h
      cases hempty : q.isEmpty with
      | true => simp [hempty] at h
      | false => simpa [hempty] using h

/-! ## Externals -/

/-- Whether an external is a package or a file with an absolute form. -/
def FileSystem.knowsExternal (fs : FileSystem) (text : String) : Bool :=
  isPackagePath text || (fs.absolute? ⟨text⟩).isSome

/-- The empty text names a package, so what names none is a path that is given. -/
theorem isEmpty_of_isPackagePath_eq_false {text : String} (h : isPackagePath text = false) :
    (Path.mk text).isEmpty = false := by
  rw [Bool.eq_false_iff]
  intro hempty
  have htext : text = "" := String.isEmpty_iff.mp hempty
  rw [htext] at h
  exact absurd h (by decide)

theorem value_checkExternal (fs : FileSystem) (text : String) :
    (checkExternal fs text).value =
      if isPackagePath text then some (.package text)
      else (fs.absolute? ⟨text⟩).map .file := by
  unfold checkExternal
  cases hpackage : isPackagePath text with
  | true => rfl
  | false => simp [FileSystem.absoluteOf?, isEmpty_of_isPackagePath_eq_false hpackage]

/-- Packages are kept as they were written. -/
theorem mem_packages_checkExternals {fs : FileSystem} {texts : List String} {name : String} :
    name ∈ (checkExternals fs texts).value.packages ↔
      name ∈ texts ∧ isPackagePath name = true := by
  simp only [checkExternals, Checked.value_bind, Checked.value_pure, Checked.value_filterMap,
    Table.mem_distinct, List.mem_filterMap, value_checkExternal]
  constructor
  · rintro ⟨external, ⟨text, htext, hexternal⟩, hname⟩
    split at hexternal
    · rename_i hpackage
      cases hexternal
      cases hname
      exact ⟨htext, hpackage⟩
    · obtain ⟨path, -, rfl⟩ := Option.map_eq_some_iff.mp hexternal
      cases hname
  · rintro ⟨htext, hpackage⟩
    exact ⟨.package name, ⟨name, htext, if_pos hpackage⟩, rfl⟩

/-- Files are kept in their absolute form. -/
theorem mem_files_checkExternals {fs : FileSystem} {texts : List String} {file : String} :
    file ∈ (checkExternals fs texts).value.files ↔
      ∃ text ∈ texts, ¬ isPackagePath text = true ∧ fs.absolute? ⟨text⟩ = some ⟨file⟩ := by
  simp only [checkExternals, Checked.value_bind, Checked.value_pure, Checked.value_filterMap,
    Table.mem_distinct, List.mem_filterMap, value_checkExternal]
  constructor
  · rintro ⟨external, ⟨text, htext, hexternal⟩, hfile⟩
    split at hexternal
    · cases hexternal
      cases hfile
    · rename_i hpackage
      obtain ⟨path, hpath, rfl⟩ := Option.map_eq_some_iff.mp hexternal
      cases hfile
      exact ⟨text, htext, hpackage, hpath⟩
  · rintro ⟨text, htext, hpackage, hfile⟩
    refine ⟨.file ⟨file⟩, ⟨text, htext, ?_⟩, rfl⟩
    rw [if_neg hpackage, hfile, Option.map_some]

theorem problems_checkExternals (fs : FileSystem) (texts : List String) :
    (checkExternals fs texts).problems =
      Problem.each fs.reaches .path
        ((texts.filter fun text => !isPackagePath text).map Path.mk) := by
  have hone (text : String) : (checkExternal fs text).problems =
      Problem.each fs.reaches .path (if isPackagePath text then [] else [⟨text⟩]) := by
    unfold checkExternal
    cases isPackagePath text with
    | true => rfl
    | false => simp
  simp only [checkExternals, Checked.problems_bind, Checked.problems_pure, List.append_nil,
    Checked.problems_filterMap, hone]
  rw [Problem.flatMap_each]
  congr 1
  induction texts with
  | nil => rfl
  | cons text rest ih =>
      cases hpackage : isPackagePath text <;> simp [hpackage, ih]

/-- Nothing is external exactly if no external is known. -/
theorem isEmpty_checkExternals (fs : FileSystem) (texts : List String) :
    (checkExternals fs texts).value.isEmpty = !texts.any fs.knowsExternal := by
  rw [Bool.eq_iff_iff, Bool.not_eq_true', List.any_eq_false]
  simp only [Externals.isEmpty, Bool.and_eq_true, List.isEmpty_iff, List.eq_nil_iff_forall_not_mem,
    mem_packages_checkExternals, mem_files_checkExternals, FileSystem.knowsExternal,
    Bool.or_eq_true, not_or]
  constructor
  · rintro ⟨hpackages, hfiles⟩ text htext
    have hpackage : ¬ isPackagePath text = true := fun h => hpackages text ⟨htext, h⟩
    refine ⟨hpackage, fun hsome => ?_⟩
    obtain ⟨path, hpath⟩ := Option.isSome_iff_exists.mp hsome
    exact hfiles path.text ⟨text, htext, hpackage, hpath⟩
  · intro hnone
    constructor
    · rintro name ⟨htext, hpackage⟩
      exact (hnone name htext).1 hpackage
    · rintro file ⟨text, htext, -, hfile⟩
      exact (hnone text htext).2 (Option.isSome_iff_exists.mpr ⟨_, hfile⟩)

/-! ## Texts -/

theorem problems_checkFeatures (target : Target) (engines : List Engine) :
    (checkFeatures target engines).problems =
      Problem.each (fun engine => (Version.parse? engine.version).isSome)
        (fun engine => .version engine.version) engines := by
  have hone (engine : Engine) : (checkEngine engine).problems =
      Problem.each (fun engine => (Version.parse? engine.version).isSome)
        (fun engine => .version engine.version) [engine] := by
    rw [Problem.each_singleton]
    unfold checkEngine
    cases Version.parse? engine.version <;> rfl
  simp only [checkFeatures, Checked.problems_bind, Checked.problems_pure, List.append_nil,
    Checked.problems_filterMap, hone]
  rw [Problem.flatMap_each, List.flatMap_singleton']

theorem problems_checkJsx (kind text : String) :
    (checkJsx kind text).problems =
      Problem.each (fun text => text.isEmpty || isIdentifierPath text) (.jsx kind) [text] := by
  rw [Problem.each_singleton]
  unfold checkJsx
  by_cases hempty : text.isEmpty
  · simp [hempty]
  · cases isIdentifierPath text <;> simp [hempty]

/-- What is wrong with a define: its key, or else its value. -/
def defineProblems (entry : String × String) : List Problem :=
  if isIdentifierPath entry.1 = false then [.defineKey entry.1]
  else Problem.onlyIf (DefineValue.parse? entry.2).isNone (.defineValue entry.2)

theorem problems_compileDefines (defines : List (String × String)) (pureFunctions : List String) :
    (compileDefines defines pureFunctions).problems =
      defines.flatMap defineProblems ++
        Problem.each isIdentifierPath .pureFunction pureFunctions := by
  have hdefine (entry : String × String) :
      (checkDefine entry).problems = defineProblems entry := by
    unfold checkDefine defineProblems
    cases isIdentifierPath entry.1 with
    | false => rfl
    | true => cases DefineValue.parse? entry.2 <;> rfl
  have hpure (key : String) : (checkPureFunction key).problems =
      Problem.each isIdentifierPath .pureFunction [key] := by
    rw [Problem.each_singleton]
    unfold checkPureFunction
    cases isIdentifierPath key <;> rfl
  unfold compileDefines
  by_cases hnone : (defines.isEmpty && pureFunctions.isEmpty) = true
  · -- Where there is nothing to compile, there is nothing to check either.
    obtain ⟨hdefines, hfunctions⟩ := Bool.and_eq_true_iff.mp hnone
    rw [if_pos hnone, List.isEmpty_iff.mp hdefines, List.isEmpty_iff.mp hfunctions]
    rfl
  · rw [if_neg hnone]
    simp only [Checked.problems_bind, Checked.problems_filterMap, Checked.problems_pure,
      List.append_nil, hdefine, hpure]
    rw [Problem.flatMap_each, List.flatMap_singleton']

/-- Checking options that builds and transforms share finds what is wrong with each of them. -/
theorem SharedOptions.problems_check (o : SharedOptions) :
    o.check.problems =
      Problem.each (fun engine => (Version.parse? engine.version).isSome)
        (fun engine => .version engine.version) o.engines ++
      (Problem.each (fun text => text.isEmpty || isIdentifierPath text) (.jsx "factory")
        [o.jsxFactory] ++
      (Problem.each (fun text => text.isEmpty || isIdentifierPath text) (.jsx "fragment")
        [o.jsxFragment] ++
      (o.defines.flatMap defineProblems ++
        Problem.each isIdentifierPath .pureFunction o.pureFunctions))) := by
  unfold SharedOptions.check
  simp only [Checked.problems_bind, Checked.problems_pure, List.append_nil,
    problems_checkFeatures, problems_checkJsx, problems_compileDefines]

theorem problems_checkResolveExtensions (extensions : Option (List String)) :
    (checkResolveExtensions extensions).problems =
      Problem.each isExtension .extension (extensions.getD []) := by
  cases extensions with
  | none => rfl
  | some extensions =>
      simp [checkResolveExtensions, Problem.each]

/-! ## Loaders -/

theorem problems_checkLoaders (loaders : List (String × Loader)) :
    (checkLoaders loaders).problems =
      Problem.each isExtension .extension (loaders.map Prod.fst) := by
  simp [checkLoaders, Problem.each]

theorem Loader.orJs_ne_none (loader : Loader) : loader.orJs ≠ .none := by
  cases loader <;> decide

theorem Loader.requiresOutputPath_orJs (loader : Loader) :
    loader.orJs.requiresOutputPath = loader.requiresOutputPath := by
  cases loader <;> rfl

theorem value_checkLoaders (loaders : List (String × Loader)) :
    (checkLoaders loaders).value = Table.overlay Loader.builtin loaders := rfl

/-- Whether the options end up with a loader that copies files; of several loaders for one
extension the last one counts. -/
def copiesFiles (loaders : List (String × Loader)) : Bool :=
  loaders.any fun entry => Table.last? entry.1 loaders == some .file

theorem get?_builtin_ne_file (extension : String) :
    Table.get? extension Loader.builtin ≠ some .file := by
  intro h
  have hmem := Table.mem_of_get?_eq_some h
  simp [Loader.builtin] at hmem

/-- Built-in loaders copy nothing, so a table has a loader that does only from the options. -/
theorem any_requiresOutputPath_checkLoaders (loaders : List (String × Loader)) :
    ((checkLoaders loaders).value.any fun entry => entry.2.requiresOutputPath) =
      copiesFiles loaders := by
  have hnodup : (Table.keys (Table.overlay Loader.builtin loaders)).Nodup :=
    Table.nodup_keys_overlay (by decide) loaders
  rw [value_checkLoaders, Bool.eq_iff_iff, List.any_eq_true, copiesFiles, List.any_eq_true]
  simp only [Loader.requiresOutputPath, beq_iff_eq]
  constructor
  · rintro ⟨⟨extension, loader⟩, hmem, rfl⟩
    have hget := (Table.mem_iff_get?_eq_some hnodup).mp hmem
    rw [Table.get?_overlay] at hget
    cases hlast : Table.last? extension loaders with
    | none =>
        rw [hlast, Option.none_or] at hget
        exact absurd hget (get?_builtin_ne_file extension)
    | some last =>
        rw [hlast, Option.some_or] at hget
        have hentry := Table.mem_of_get?_eq_some (hlast.trans hget)
        exact ⟨_, List.mem_reverse.mp hentry, hlast.trans hget⟩
  · rintro ⟨entry, -, hlast⟩
    refine ⟨(entry.1, .file), (Table.mem_iff_get?_eq_some hnodup).mpr ?_, rfl⟩
    rw [Table.get?_overlay, hlast, Option.some_or]

end BundleFront
