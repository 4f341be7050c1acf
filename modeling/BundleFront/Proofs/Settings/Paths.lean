import BundleFront.Proofs.Path
import BundleFront.Proofs.Settings.Output

/-!
# The paths of a plan

Paths come into a plan in several ways: as the absolute form of a path that is set, as
the directory of such a form, or as the working directory itself.  From a plain working
directory, absolute forms are in normal form, and so are their directories; only the
root has none, so a build whose one output file is the root has no absolute output
directory.

Nothing is left out on the way but what is not set.  An entry point with the empty path
is not set, so it has no entry in the plan, and that is no problem.

* `BuildOptions.PathsSettled` — what is known of each path of a plan.
* `BuildOptions.entries_of_errorCount_eq` — the entries of a plan, by the options.
-/

namespace BundleFront

variable {fs : FileSystem}

/-- What a path that is set comes to is in normal form. -/
theorem FileSystem.isNormal_of_absoluteOf?
    (hbase : ∀ base, fs.workingDirectory = .ok base → base.IsPlain) {p : Option Path}
    {absolute : Path} (h : fs.absoluteOf? p = some absolute) : absolute.IsNormal := by
  have hbind := FileSystem.bind_absolute?_of_absoluteOf? h
  obtain ⟨q, -, hq⟩ := Option.bind_eq_some_iff.mp hbind
  exact isNormal_of_absolute? (fun base hok => (hbase base hok).1) hq

theorem isNormal_of_mem_checkExternals
    (hbase : ∀ base, fs.workingDirectory = .ok base → base.IsPlain) {texts : List String}
    {file : String} (h : file ∈ (checkExternals fs texts).value.files) :
    (Path.mk file).IsNormal := by
  obtain ⟨text, -, -, hfile⟩ := mem_files_checkExternals.mp h
  exact FileSystem.isNormal_of_absolute? (fun base hok => (hbase base hok).1) hfile

/-- The paths of an output are plain, and in normal form where they come from the options.  The
directory of output that goes to one file is that of the file, which the root does not have; output
that goes back to the host has the working directory, as the file system tells it. -/
structure OutputPlace.PathsSettled (fs : FileSystem) (place : OutputPlace) : Prop where
  file : ∀ p, place.destination = .file p → p.IsNormal
  directory : place.destination ≠ .file ⟨"/"⟩ →
    ∃ d, place.directory = some d ∧ d.IsPlain ∧ (place.destination ≠ .stdout → d.IsNormal)
  directory_of_root : place.destination = .file ⟨"/"⟩ → place.directory = some ⟨""⟩
  directory_of_stdout : place.destination = .stdout →
    ∃ base, fs.workingDirectory = .ok base ∧ place.directory = some base

/-- Of the possible places, one has no absolute directory. -/
theorem OutputRequest.Placed.pathsSettled
    (hbase : ∀ base, fs.workingDirectory = .ok base → base.IsPlain) {o : OutputRequest}
    {place : OutputPlace} (h : o.Placed fs place) (hfile : ∀ p, o.file = some p → p.IsNormal)
    (hdirectory : ∀ p, o.directory = some p → p.IsNormal) : place.PathsSettled fs := by
  cases h with
  | file path hpath =>
      have hnormal : path.IsNormal := hfile path hpath
      exact {
        file := by
          rintro p ⟨⟩
          exact hnormal
        -- Only the root is a file without a directory.
        directory := by
          intro hroot
          have hparent : path.directory.IsNormal := by
            refine hnormal.directory ?_
            rintro rfl
            exact hroot rfl
          exact ⟨path.directory, rfl, hparent.isPlain, fun _ => hparent⟩
        directory_of_root := by
          rintro ⟨⟩
          exact congrArg some Path.directory_root
        directory_of_stdout := nofun }
  | directory path _ hpath =>
      have hnormal : path.IsNormal := hdirectory path hpath
      exact {
        file := nofun
        directory := fun _ => ⟨path, rfl, hnormal.isPlain, fun _ => hnormal⟩
        directory_of_root := nofun
        directory_of_stdout := nofun }
  | stdout base _ _ _ _ _ _ _ hok =>
      exact {
        file := nofun
        directory := fun _ => ⟨base, rfl, hbase base hok, fun hstdout => absurd rfl hstdout⟩
        directory_of_root := nofun
        directory_of_stdout := fun _ => ⟨base, hok, rfl⟩ }

namespace BuildOptions

/-- Every path of a plan is in normal form, as far as it comes from a path that is set. -/
structure PathsSettled (fs : FileSystem) (plan : BuildPlan) : Prop where
  entries : ∀ p ∈ plan.entries, p.IsNormal
  metafile : ∀ p, plan.settings.metafile = some p → p.IsNormal
  externals : ∀ file ∈ plan.settings.externals.files, (Path.mk file).IsNormal
  resolveDirectory : ∀ p, plan.settings.stdin.bind StdinUnit.resolveDirectory = some p → p.IsNormal
  output : OutputPlace.PathsSettled fs
    ⟨plan.settings.destination, plan.settings.outputDirectory⟩

theorem entries_check (fs : FileSystem) (o : BuildOptions) :
    (o.check fs).value.entries = o.entryPoints.filterMap fun p => fs.absoluteOf? (some p) := by
  simp [BuildOptions.check]

theorem metafile_check (fs : FileSystem) (o : BuildOptions) :
    (o.check fs).value.settings.metafile = fs.absoluteOf? o.metafile := by
  simp [BuildOptions.check]

theorem resolveDirectory_check (fs : FileSystem) (o : BuildOptions) :
    (o.check fs).value.settings.stdin.bind StdinUnit.resolveDirectory =
      fs.absoluteOf? (o.stdin.bind StdinOptions.resolveDir) := by
  have hstdin : (o.check fs).value.settings.stdin = (checkStdin fs o.stdin).value := rfl
  rw [hstdin]
  cases o.stdin with
  | none => rfl
  | some stdin => simp [checkStdin]

theorem pathsSettled_check {o : BuildOptions}
    (hbase : ∀ base, fs.workingDirectory = .ok base → base.IsPlain)
    (h : (o.check fs).problems = []) : PathsSettled fs (o.check fs).value := by
  have hnormal {p : Option Path} {absolute : Path} (hp : fs.absoluteOf? p = some absolute) :
      absolute.IsNormal := FileSystem.isNormal_of_absoluteOf? hbase hp
  refine ⟨?entries, ?metafile, ?externals, ?resolve, ?output⟩
  case entries =>
    intro p hp
    rw [entries_check] at hp
    obtain ⟨entry, -, hentry⟩ := List.mem_filterMap.mp hp
    exact hnormal hentry
  case metafile =>
    intro p hp
    exact hnormal ((metafile_check fs o).symm.trans hp)
  case externals =>
    intro file hfile
    exact isNormal_of_mem_checkExternals hbase hfile
  case resolve =>
    intro p hp
    exact hnormal ((resolveDirectory_check fs o).symm.trans hp)
  case output =>
    exact (placed_settings h).pathsSettled hbase (fun _ hp => hnormal hp) fun _ hp => hnormal hp

/-- If planning a build adds no error to a log, and the working directory is plain, the paths of the
plan are in normal form: its entries, its one output file, its metafile, the files that are external,
and where the imports of an entry point without a file start.  So is its output directory, apart
from two cases.  The root has no directory, and output that goes back to the host has the working
directory. -/
theorem paths_settled_of_errorCount_eq (o : BuildOptions) (plugins : List Plugin)
    (fs : FileSystem) (cache : FilterCache) (log : Log)
    (hbase : ∀ base, fs.workingDirectory = .ok base → base.IsPlain)
    (h : ((o.plan plugins fs cache).1.record log).2.errorCount = log.errorCount) :
    PathsSettled fs (o.plan plugins fs cache).1.value := by
  have hsettled := pathsSettled_check hbase (problems_check_of_errorCount_eq h)
  exact ⟨hsettled.entries, hsettled.metafile, hsettled.externals, hsettled.resolveDirectory,
    hsettled.output⟩

/-- All paths of a plan at once, one of them above the root. -/
def scatteredPaths : BuildOptions where
  bundle := true
  outfile := some ⟨"../out//./app.js"⟩
  metafile := some ⟨"meta/../app.json"⟩
  externals := ["react", "./vendor/", "../../../lib.js"]
  stdin := some { contents := "a()", resolveDir := some ⟨"src/."⟩ }

theorem paths_settled_scatteredPaths :
    let fs := ({ workingDirectory := ⟨"/work"⟩ } : MemoryFiles).toFileSystem
    let plan := (scatteredPaths.plan [] fs {}).1
    (plan.record []).2.errorCount = Log.errorCount [] ∧ PathsSettled fs plan.value := by
  intro fs plan
  have hbase : ∀ base, fs.workingDirectory = .ok base → base.IsPlain := by
    rintro base ⟨⟩
    exact ⟨by decide, by decide⟩
  have h : (plan.record []).2.errorCount = Log.errorCount [] := by decide +kernel
  exact ⟨h, paths_settled_of_errorCount_eq scatteredPaths [] fs {} [] hbase h⟩

/-- Output to the one file `..` is no problem in a directory below the root, and leaves an output
directory that is not absolute. -/
theorem directory_of_rootFile :
    let fs := ({ workingDirectory := ⟨"/project"⟩ } : MemoryFiles).toFileSystem
    let plan := (BuildOptions.plan { outfile := some ⟨".."⟩ } [] fs {}).1
    Path.IsPlain ⟨"/project"⟩ ∧ (plan.record []).2.errorCount = 0 ∧
      ¬ ∃ d, plan.value.settings.outputDirectory = some d ∧ d.isAbsolute = true := by
  intro fs plan
  have hdirectory : plan.value.settings.outputDirectory = some ⟨""⟩ := by decide +kernel
  refine ⟨⟨by decide, by decide⟩, by decide +kernel, ?_⟩
  rintro ⟨d, hd, habsolute⟩
  rw [hdirectory] at hd
  cases hd
  exact absurd habsolute (by decide)

/-! ## Entry points -/

/-- Where entry points are no problem, those that are set come to their absolute forms, in order. -/
theorem map_some_entries {points : List Path} (h : ∀ p ∈ points, fs.reaches p = true) :
    (points.filterMap fun p => fs.absoluteOf? (some p)).map some =
      (points.filter fun p => !p.isEmpty).map fs.absolute? := by
  let form (p : Path) : Option Path := fs.absoluteOf? (some p)
  change (points.filterMap form).map some = _
  induction points with
  | nil => rfl
  | cons p rest ih =>
      obtain ⟨hp, hrest⟩ := List.forall_mem_cons.mp h
      cases hempty : p.isEmpty with
      | true =>
          -- The empty path would have an absolute form, but nobody asks for it.
          have hnone : form p = none := by simp [form, FileSystem.absoluteOf?, hempty]
          rw [List.filterMap_cons_none hnone, List.filter_cons_of_neg (by simp [hempty])]
          exact ih hrest
      | false =>
          have hsame : form p = fs.absolute? p := by simp [form, FileSystem.absoluteOf?, hempty]
          unfold FileSystem.reaches at hp
          rw [hempty, Bool.false_or] at hp
          obtain ⟨absolute, habsolute⟩ := Option.isSome_iff_exists.mp hp
          rw [List.filterMap_cons_some (hsame.trans habsolute),
            List.filter_cons_of_pos (by simp [hempty]), List.map_cons, List.map_cons, habsolute,
            ih hrest]

/-- If planning a build adds no error to a log, its entries are the absolute forms of the entry
points that are set, in their order.  So an entry point is left out exactly if it is the empty
path. -/
theorem entries_of_errorCount_eq (o : BuildOptions) (plugins : List Plugin) (fs : FileSystem)
    (cache : FilterCache) (log : Log)
    (h : ((o.plan plugins fs cache).1.record log).2.errorCount = log.errorCount) :
    let entries := (o.plan plugins fs cache).1.value.entries
    entries.map some = (o.entryPoints.filter fun p => !p.isEmpty).map fs.absolute? ∧
      (entries.length = o.entryPoints.length ↔ ∀ p ∈ o.entryPoints, p.isEmpty = false) := by
  have hpart : Problem.each fs.reaches .path o.entryPoints = [] :=
    problemPart_eq_nil (problems_check_of_errorCount_eq h) (by simp [problemParts])
  have hentries := map_some_entries (Problem.each_eq_nil_iff.mp hpart)
  rw [← entries_check] at hentries
  intro entries
  have hlength : entries.length = (o.entryPoints.filter fun p => !p.isEmpty).length := by
    rw [← List.length_map some, ← List.length_map fs.absolute?]
    exact congrArg List.length hentries
  refine ⟨hentries, ?_⟩
  rw [hlength, List.length_filter_eq_length_iff]
  simp

theorem entries_of_errorCount_eq_absoluteEntry :
    let fs := ({ workingDirectory := ⟨"/project"⟩ } : MemoryFiles).toFileSystem
    let options : BuildOptions :=
      { outdir := some ⟨"out"⟩, entryPoints := [⟨"a.js"⟩, ⟨"/b/../c.js"⟩, ⟨"."⟩] }
    let plan := (options.plan [] fs {}).1
    (plan.record []).2.errorCount = Log.errorCount [] ∧
      plan.value.entries.map some = options.entryPoints.map fs.absolute? ∧
      plan.value.entries.length = options.entryPoints.length := by
  intro fs options plan
  have h : (plan.record []).2.errorCount = Log.errorCount [] := by decide +kernel
  obtain ⟨hentries, hlength⟩ := entries_of_errorCount_eq options [] fs {} [] h
  exact ⟨h, hentries, hlength.mpr (by decide)⟩

/-- The empty path has an absolute form, but among entry points it is left out without a problem. -/
theorem emptyEntry_left_out :
    let fs := ({ workingDirectory := ⟨"/project"⟩ } : MemoryFiles).toFileSystem
    let options : BuildOptions :=
      { outdir := some ⟨"out"⟩, entryPoints := [⟨"a.js"⟩, ⟨""⟩] }
    let plan := (options.plan [] fs {}).1
    (plan.record []).2.errorCount = 0 ∧ fs.absolute? ⟨""⟩ = some ⟨"/project"⟩ ∧
      plan.value.entries = [⟨"/project/a.js"⟩] ∧
      plan.value.entries.length ≠ options.entryPoints.length := by
  decide +kernel

end BuildOptions
end BundleFront
