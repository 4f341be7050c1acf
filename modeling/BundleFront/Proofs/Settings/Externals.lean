import BundleFront.Proofs.FileSystem
import BundleFront.Proofs.Path.Spelling
import BundleFront.Proofs.Settings.Check
import BundleFront.Proofs.Table.Ascending

/-!
# Sorting out externals

An external is a package or a file, and its text alone decides which.  Packages are kept as they
were written.  Files are kept in their absolute form, so all spellings of one file come to the same,
and no two files do; an external that stands for a file without an absolute form is reported.

Both kinds are kept as sets: neither the order of the externals nor repetitions play a part.

* `NamesPackage` — the texts that name packages.
* `Externals.KeptAsOne` — two externals that share one file.
* `Externals.SortsOut` — what is kept of externals, text by text.
* `checkExternals_sortsOut` — what externals come to, what is reported for them, and what plays no
  part.
-/

namespace BundleFront

/-- Whether a text names a package: it starts neither at the root nor with a step through
directories, and it is no such step itself. -/
def NamesPackage (text : String) : Prop :=
  (¬ ['/'] <+: text.toList ∧ ¬ ['.', '/'] <+: text.toList ∧ ¬ ['.', '.', '/'] <+: text.toList) ∧
    text ≠ "." ∧ text ≠ ".."

instance (text : String) : Decidable (NamesPackage text) := inferInstanceAs (Decidable (_ ∧ _))

theorem isPackagePath_iff {text : String} : isPackagePath text = true ↔ NamesPackage text := by
  have htext (other : String) : text ≠ other ↔ text.toList ≠ other.toList :=
    not_congr String.toList_inj.symm
  unfold isPackagePath NamesPackage
  rw [htext, htext]
  split
  · rename_i rest h
    simp [h]
  · rename_i rest h
    simp [h]
  · rename_i rest h
    simp [h]
  · rename_i h
    simp [h]
  · rename_i h
    simp [h]
  · rename_i hroot hhere hup hdot hdots
    refine ⟨fun _ => ⟨⟨?_, ?_, ?_⟩, hdot, hdots⟩, fun _ => rfl⟩
    · rintro ⟨rest, h⟩
      exact hroot rest h.symm
    · rintro ⟨rest, h⟩
      exact hhere rest h.symm
    · rintro ⟨rest, h⟩
      exact hup rest h.symm

/-- Whether two externals are kept as one file. -/
def Externals.KeptAsOne (fs : FileSystem) (externals : Externals) (text other : String) : Prop :=
  ∃ file ∈ externals.files,
    fs.absolute? ⟨text⟩ = some ⟨file⟩ ∧ fs.absolute? ⟨other⟩ = some ⟨file⟩

/-- What is kept of externals. -/
structure Externals.SortsOut (fs : FileSystem) (texts : List String) (externals : Externals) :
    Prop where
  /-- Packages are kept as they were written. -/
  mem_packages : ∀ name, name ∈ externals.packages ↔ name ∈ texts ∧ NamesPackage name
  /-- Files are kept in their absolute form. -/
  mem_files : ∀ file, file ∈ externals.files ↔
    ∃ text ∈ texts, ¬ NamesPackage text ∧ fs.absolute? ⟨text⟩ = some ⟨file⟩
  nodup_packages : externals.packages.Nodup
  nodup_files : externals.files.Nodup
  /-- No file is kept under two spellings. -/
  eq_of_same : ∀ a ∈ externals.files, ∀ b ∈ externals.files, Path.same ⟨a⟩ ⟨b⟩ = true → a = b
  /-- From an absolute working directory, externals are kept as one file exactly if they lie in one
  place. -/
  kept_as_one_iff : ∀ base, fs.workingDirectory = .ok base → base.isAbsolute = true →
    ∀ text ∈ texts, ∀ other ∈ texts, ¬ NamesPackage text → ¬ NamesPackage other →
      (KeptAsOne fs externals text other ↔
        Path.walk [] (base.join ⟨text⟩) = Path.walk [] (base.join ⟨other⟩))
  /-- For absolute paths the working directory plays no part. -/
  kept_as_one_iff_of_isAbsolute : ∀ text ∈ texts, ∀ other ∈ texts,
    (⟨text⟩ : Path).isAbsolute = true → (⟨other⟩ : Path).isAbsolute = true →
      (KeptAsOne fs externals text other ↔ Path.walk [] ⟨text⟩ = Path.walk [] ⟨other⟩)

/-- An external that stands for a file shares it with exactly those that have its absolute form. -/
theorem keptAsOne_iff {fs : FileSystem} {texts : List String} {text other : String} {path : Path}
    (htext : text ∈ texts) (hpackage : ¬ NamesPackage text)
    (hpath : fs.absolute? ⟨text⟩ = some path) :
    (checkExternals fs texts).value.KeptAsOne fs text other ↔
      fs.absolute? ⟨text⟩ = fs.absolute? ⟨other⟩ := by
  constructor
  · rintro ⟨file, -, hfile, hother⟩
    rw [hfile, hother]
  · intro hsame
    have hfile : path.text ∈ (checkExternals fs texts).value.files :=
      mem_files_checkExternals.mpr ⟨text, htext, mt isPackagePath_iff.mp hpackage, hpath⟩
    exact ⟨path.text, hfile, hpath, hsame.symm.trans hpath⟩

theorem not_namesPackage_of_isAbsolute {text : String} (h : (⟨text⟩ : Path).isAbsolute = true) :
    ¬ NamesPackage text := by
  rintro ⟨⟨hroot, -⟩, -⟩
  obtain ⟨rest, hrest⟩ := List.head?_eq_some_iff.mp (beq_iff_eq.mp h)
  exact hroot ⟨rest, hrest.symm⟩

theorem sortsOut_checkExternals (fs : FileSystem) (texts : List String) :
    (checkExternals fs texts).value.SortsOut fs texts where
  mem_packages _ := by rw [mem_packages_checkExternals, isPackagePath_iff]
  mem_files _ := by simp only [mem_files_checkExternals, isPackagePath_iff]
  nodup_packages := Table.nodup_distinct _
  nodup_files := Table.nodup_distinct _
  eq_of_same := by
    intro a ha b hb hsame
    obtain ⟨text, -, -, htext⟩ := mem_files_checkExternals.mp ha
    obtain ⟨other, -, -, hother⟩ := mem_files_checkExternals.mp hb
    obtain ⟨p, hp⟩ := FileSystem.exists_clean_of_absolute? htext
    obtain ⟨q, hq⟩ := FileSystem.exists_clean_of_absolute? hother
    rw [hp, hq] at hsame
    have hclean : (⟨a⟩ : Path) = ⟨b⟩ := by
      rw [hp, hq]
      exact Path.clean_eq_of_same hsame
    exact congrArg Path.text hclean
  kept_as_one_iff := by
    intro base hbase habsolute text htext other _ hpackage _
    rw [← FileSystem.absolute?_eq_iff hbase habsolute]
    exact keptAsOne_iff htext hpackage (FileSystem.absolute?_of_workingDirectory hbase ⟨text⟩)
  kept_as_one_iff_of_isAbsolute := by
    intro text htext other _ habsolute hother
    have hpath := FileSystem.absolute?_of_isAbsolute fs habsolute
    rw [keptAsOne_iff htext (not_namesPackage_of_isAbsolute habsolute) hpath, hpath,
      FileSystem.absolute?_of_isAbsolute fs hother, Option.some.injEq]
    exact Path.clean_eq_iff habsolute hother

section
variable {fs : FileSystem} {texts : List String}

/-- What is kept is known by the members of the list alone. -/
theorem value_checkExternals_congr {others : List String}
    (h : ∀ text, text ∈ others ↔ text ∈ texts) :
    (checkExternals fs others).value = (checkExternals fs texts).value := by
  have hfound (external : External) :
      (external ∈ others.filterMap fun text => (checkExternal fs text).value) ↔
        external ∈ texts.filterMap fun text => (checkExternal fs text).value := by
    simp only [List.mem_filterMap, h]
  simp only [checkExternals, Checked.value_bind, Checked.value_pure, Checked.value_filterMap,
    Externals.mk.injEq]
  constructor
  · refine Table.distinct_eq_of_mem_iff fun name => ?_
    rw [List.mem_filterMap, List.mem_filterMap]
    simp only [hfound]
  · refine Table.distinct_eq_of_mem_iff fun file => ?_
    rw [List.mem_filterMap, List.mem_filterMap]
    simp only [hfound]

/-- The texts of files without an absolute form. -/
def unreachedExternals (fs : FileSystem) (texts : List String) : List String :=
  texts.filter fun text => ¬ NamesPackage text ∧ fs.absolute? ⟨text⟩ = none

theorem problems_checkExternals_eq (fs : FileSystem) (texts : List String) :
    (checkExternals fs texts).problems =
      (unreachedExternals fs texts).map fun text => .path ⟨text⟩ := by
  rw [problems_checkExternals, Problem.each, unreachedExternals, List.filter_map, List.map_map,
    List.filter_filter]
  congr 1
  refine List.filter_congr fun text _ => ?_
  simp only [Function.comp_apply, ← isPackagePath_iff]
  cases hpackage : isPackagePath text with
  | true => simp
  | false =>
      have hgiven := isEmpty_of_isPackagePath_eq_false hpackage
      cases habsolute : fs.absolute? ⟨text⟩ <;> simp [FileSystem.reaches, hgiven, habsolute]

/-- Without errors every external is kept. -/
theorem isEmpty_checkExternals_iff (h : unreachedExternals fs texts = []) :
    (checkExternals fs texts).value.isEmpty = true ↔ texts = [] := by
  rw [isEmpty_checkExternals, Bool.not_eq_true', List.any_eq_false]
  constructor
  · intro hnone
    refine List.eq_nil_iff_forall_not_mem.mpr fun text htext => hnone text htext ?_
    -- An external that is neither a package nor a file with an absolute form would be reported.
    by_contra hunknown
    have hunreached : text ∈ unreachedExternals fs texts := by
      rw [FileSystem.knowsExternal, Bool.or_eq_true, not_or, isPackagePath_iff,
        Option.isSome_iff_ne_none, not_not] at hunknown
      exact List.mem_filter.mpr ⟨htext, decide_eq_true hunknown⟩
    rw [h] at hunreached
    cases hunreached
  · rintro rfl
    simp

end

/-- Externals are sorted out text by text, and each one that stands for a file without an absolute
form is reported, in the order of the list.  What is kept is the same for every list with the same
members, and if nothing is reported, it is nothing only for the empty list. -/
theorem checkExternals_sortsOut (fs : FileSystem) (texts : List String) :
    (checkExternals fs texts).value.SortsOut fs texts ∧
      (∀ log, ((checkExternals fs texts).record log).2 = log ++
        (texts.filter fun text => ¬ NamesPackage text ∧ fs.absolute? ⟨text⟩ = none).map
          fun text => .error ("Invalid path: " ++ text)) ∧
      (∀ others : List String, (∀ text, text ∈ others ↔ text ∈ texts) →
        (checkExternals fs others).value = (checkExternals fs texts).value) ∧
      ∀ log, ((checkExternals fs texts).record log).2.errorCount = log.errorCount →
        ((checkExternals fs texts).value.isEmpty = true ↔ texts = []) := by
  refine ⟨sortsOut_checkExternals fs texts, ?_, ?_, ?_⟩
  · intro log
    rw [Checked.record, Checked.errors, problems_checkExternals_eq, List.map_map]
    rfl
  · intro others hmem
    exact value_checkExternals_congr hmem
  · intro log hlog
    rw [Checked.errorCount_record_eq_iff, problems_checkExternals_eq, List.map_eq_nil_iff] at hlog
    exact isEmpty_checkExternals_iff hlog

/-- Four spellings of one file beside the empty text, and a name with dots that is a package too. -/
theorem checkExternals_sortsOut_spellings :
    let fs := ({ workingDirectory := ⟨"/work"⟩ } : MemoryFiles).toFileSystem
    let texts := ["./a.js", "", "../work/b/../a.js", "..a", "/work//./a.js", "./a.js"]
    let externals := (checkExternals fs texts).value
    externals.SortsOut fs texts ∧ externals.packages = ["", "..a"] ∧
      externals.files = ["/work/a.js"] ∧ externals.KeptAsOne fs "./a.js" "../work/b/../a.js" ∧
      (checkExternals fs texts.reverse).value = externals ∧ externals.isEmpty = false := by
  intro fs texts externals
  obtain ⟨hsorts, hlog, hmembers, hempty⟩ := checkExternals_sortsOut fs texts
  have hsound : ((checkExternals fs texts).record []).2.errorCount = Log.errorCount [] := by
    decide +kernel
  have hone : externals.KeptAsOne fs "./a.js" "../work/b/../a.js" :=
    (hsorts.kept_as_one_iff ⟨"/work"⟩ rfl (by decide) "./a.js" (by simp [texts])
      "../work/b/../a.js" (by simp [texts]) (by decide) (by decide)).mpr (by decide)
  refine ⟨hsorts, by decide +kernel, by decide +kernel, hone, hmembers _ (by simp), ?_⟩
  rw [Bool.eq_false_iff]
  exact mt (hempty [] hsound).mp (by simp [texts])

end BundleFront
