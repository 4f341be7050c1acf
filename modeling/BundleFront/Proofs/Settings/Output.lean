import BundleFront.Proofs.Settings.Problems

/-!
# What settings without problems say about the output

Rules about the output stand in several places: the chain that picks its place, the
choice of a format, and the demand that only some formats may be split.  The
settings of a build without problems satisfy all of them together.

* `OutputRequest.Placed` — the places that are possible, each with what the options
  must have said for it.
* `BuildOptions.PlaceSettled` — where output goes, and what that says about the options.
* `BuildOptions.FormatSettled` — the format of the output, and what only a bundle may have.
* `BuildOptions.loaders_of_errorCount_eq` — the loaders of output that goes back to the host.

The main statements start from any log and ask only that its number of errors does
not grow.
-/

namespace BundleFront

/-- A place of output, with what led to it. -/
inductive OutputRequest.Placed (fs : FileSystem) (o : OutputRequest) : OutputPlace → Prop
  | file (path : Path) (hfile : o.file = some path) (hdirectory : o.directory = none)
      (hcount : o.entryCount ≤ 1) (hsplitting : o.splitting = false) :
      Placed fs o ⟨.file path, some path.directory⟩
  | directory (path : Path) (hfile : o.file = none) (hdirectory : o.directory = some path) :
      Placed fs o ⟨.directory, some path⟩
  | stdout (base : Path) (hfile : o.file = none) (hdirectory : o.directory = none)
      (hcount : o.entryCount ≤ 1) (hsplitting : o.splitting = false)
      (hmap : o.sourceMap.requiresOutputPath = false) (hmetafile : o.metafile = none)
      (hloaders : (o.loaders.any fun entry => entry.2.requiresOutputPath) = false)
      (hbase : fs.workingDirectory = .ok base) :
      Placed fs o ⟨.stdout, some base⟩

/-- Output that goes back to the host without problems needs no path and has a base. -/
theorem checkStdout_eq_of_problems_eq_nil {fs : FileSystem} {sourceMap : SourceMap}
    {metafile : Option Path} {loaders : List (String × Loader)}
    (h : (checkStdout fs sourceMap metafile loaders).problems = []) :
    sourceMap.requiresOutputPath = false ∧ metafile = none ∧
      (loaders.any fun entry => entry.2.requiresOutputPath) = false ∧
      ∃ base, fs.workingDirectory = .ok base ∧
        (checkStdout fs sourceMap metafile loaders).value = ⟨.stdout, some base⟩ := by
  unfold checkStdout at h ⊢
  simp only [Checked.problems_bind, Checked.value_bind, List.append_eq_nil_iff,
    Checked.problems_note] at h ⊢
  obtain ⟨hmap, hmetafile, hloaders, hbase⟩ := h
  refine ⟨by simpa using hmap, by simpa using hmetafile, by simpa using hloaders, ?_⟩
  cases hdirectory : fs.workingDirectory with
  | ok base => exact ⟨base, rfl, rfl⟩
  | error error =>
      rw [hdirectory] at hbase
      simp at hbase

/-- A request without problems has one of the possible places. -/
theorem OutputRequest.placed_check {fs : FileSystem} {o : OutputRequest}
    (h : (o.check fs).problems = []) : o.Placed fs (o.check fs).value := by
  unfold OutputRequest.check at h ⊢
  cases hfile : o.file with
  | some file =>
      cases hdirectory : o.directory with
      | some directory =>
          rw [hfile, hdirectory] at h
          simp at h
      | none =>
          rw [hfile, hdirectory] at h
          dsimp only at h ⊢
          by_cases hcount : 1 < o.entryCount
          · rw [if_pos hcount] at h
            simp at h
          · rw [if_neg hcount] at h ⊢
            cases hsplitting : o.splitting with
            | true => simp [hsplitting] at h
            | false => exact .file file hfile hdirectory (by omega) hsplitting
  | none =>
      cases hdirectory : o.directory with
      | some directory => exact .directory directory hfile hdirectory
      | none =>
          rw [hfile, hdirectory] at h
          dsimp only at h ⊢
          by_cases hcount : 1 < o.entryCount
          · rw [if_pos hcount] at h
            simp at h
          · rw [if_neg hcount] at h ⊢
            cases hsplitting : o.splitting with
            | true => simp [hsplitting] at h
            | false =>
                simp only [hsplitting, Bool.false_eq_true, if_false] at h ⊢
                obtain ⟨hmap, hmetafile, hloaders, base, hbase, hvalue⟩ :=
                  checkStdout_eq_of_problems_eq_nil h
                rw [hvalue]
                exact .stdout base hfile hdirectory (by omega) hsplitting hmap hmetafile
                  hloaders hbase

namespace BuildOptions

/-- Where the output of a build goes, by its options. -/
structure PlaceSettled (fs : FileSystem) (o : BuildOptions) (s : Settings) : Prop where
  /-- There is one output file exactly if one is set. -/
  file_iff : (∃ f, s.destination = .file f) ↔ Path.isSet o.outfile = true
  file_eq : ∀ f, s.destination = .file f →
    o.outfile.bind fs.absolute? = some f ∧ s.outputDirectory = some f.directory
  /-- Outputs go to a directory exactly if one is set. -/
  directory_iff : s.destination = .directory ↔ Path.isSet o.outdir = true
  directory_eq : s.destination = .directory →
    ∃ d, o.outdir.bind fs.absolute? = some d ∧ s.outputDirectory = some d
  /-- Output goes back to the host exactly if nothing is set. -/
  stdout_iff : s.destination = .stdout ↔
    Path.isSet o.outfile = false ∧ Path.isSet o.outdir = false
  stdout_eq : s.destination = .stdout →
    (∃ base, fs.workingDirectory = .ok base ∧ s.outputDirectory = some base) ∧
      (s.sourceMap = .none ∨ s.sourceMap = .inline) ∧ s.metafile = none
  /-- Several entry points need a directory. -/
  entries : 1 < o.entryPoints.length + (if o.stdin.isSome then 1 else 0) →
    s.destination = .directory

/-- The format of the output of a build, by its options. -/
structure FormatSettled (o : BuildOptions) (s : Settings) : Prop where
  bundling_eq : s.bundling = o.bundle
  /-- A bundle has the format that is asked for; where none is, it is a function that calls itself
  for the browser and CommonJS for Node. -/
  bundle : s.bundling = true →
    s.format ≠ .preserve ∧
      s.format = match o.format, o.platform with
        | .default, .browser => .iife
        | .default, .node => .commonJs
        | .iife, _ => .iife
        | .cjs, _ => .commonJs
        | .esm, _ => .esModule
  /-- Without a bundle the format is that of the input and nothing is external. -/
  plain : s.bundling = false →
    s.format = .preserve ∧ s.externals.packages = [] ∧ s.externals.files = []

/-- Settings without problems get their place from the request that the options make. -/
theorem placed_settings {fs : FileSystem} {o : BuildOptions} (h : (o.check fs).problems = []) :
    (o.outputRequest fs).Placed fs
      ⟨(o.check fs).value.settings.destination, (o.check fs).value.settings.outputDirectory⟩ := by
  have hplace : ((o.outputRequest fs).check fs).problems = [] := by
    rw [problems_outputRequest_check]
    exact problemPart_eq_nil h (by simp [problemParts])
  have hvalue : (⟨(o.check fs).value.settings.destination,
      (o.check fs).value.settings.outputDirectory⟩ : OutputPlace) =
        ((o.outputRequest fs).check fs).value := by
    simp [BuildOptions.check, outputRequest]
  rw [hvalue]
  exact OutputRequest.placed_check hplace

/-- Without problems, a path that decides about the output is set exactly if it has an absolute
form. -/
theorem isSet_of_problems_eq_nil {fs : FileSystem} {o : BuildOptions}
    (h : (o.check fs).problems = []) :
    (fs.absoluteOf? o.outfile).isSome = Path.isSet o.outfile ∧
      (fs.absoluteOf? o.outdir).isSome = Path.isSet o.outdir := by
  have hfile : Problem.each fs.reaches .path o.outfile.toList = [] :=
    problemPart_eq_nil h (by simp [problemParts])
  have hdirectory : Problem.each fs.reaches .path o.outdir.toList = [] :=
    problemPart_eq_nil h (by simp [problemParts])
  exact ⟨FileSystem.isSome_absoluteOf? (Problem.each_eq_nil_iff.mp hfile),
    FileSystem.isSome_absoluteOf? (Problem.each_eq_nil_iff.mp hdirectory)⟩

/-- Settings without problems settle where the output goes, by cases on its place. -/
theorem placeSettled_check {fs : FileSystem} {o : BuildOptions} (h : (o.check fs).problems = []) :
    PlaceSettled fs o (o.check fs).value.settings := by
  have hplaced := placed_settings h
  obtain ⟨hfileSet, hdirectorySet⟩ := isSet_of_problems_eq_nil h
  have hmap : (o.check fs).value.settings.sourceMap = o.sourcemap := rfl
  have hmetafile : (o.check fs).value.settings.metafile = fs.absoluteOf? o.metafile := by
    simp [BuildOptions.check]
  -- What the place says about absolute forms, `isSet_of_problems_eq_nil` says about the options.
  generalize (o.check fs).value.settings = s at hplaced hmap hmetafile ⊢
  generalize hdestination : s.destination = destination at hplaced
  generalize houtput : s.outputDirectory = output at hplaced
  cases hplaced with
  | file path hfile hdirectory hcount hsplitting =>
      change fs.absoluteOf? o.outfile = some path at hfile
      change fs.absoluteOf? o.outdir = none at hdirectory
      change o.entryPoints.length + (if o.stdin.isSome then 1 else 0) ≤ 1 at hcount
      rw [hfile] at hfileSet
      rw [hdirectory] at hdirectorySet
      exact {
        file_iff := by simp [hdestination, ← hfileSet]
        file_eq := by
          intro f hf
          rw [hdestination] at hf
          injection hf with hpath
          rw [← hpath]
          exact ⟨FileSystem.bind_absolute?_of_absoluteOf? hfile, houtput⟩
        directory_iff := by simp [hdestination, ← hdirectorySet]
        directory_eq := by simp [hdestination]
        stdout_iff := by simp [hdestination, ← hfileSet]
        stdout_eq := by simp [hdestination]
        entries := fun hentries => absurd hentries (Nat.not_lt.mpr hcount) }
  | directory path hfile hdirectory =>
      change fs.absoluteOf? o.outfile = none at hfile
      change fs.absoluteOf? o.outdir = some path at hdirectory
      rw [hfile] at hfileSet
      rw [hdirectory] at hdirectorySet
      exact {
        file_iff := by simp [hdestination, ← hfileSet]
        file_eq := by simp [hdestination]
        directory_iff := by simp [hdestination, ← hdirectorySet]
        directory_eq := fun _ =>
          ⟨path, FileSystem.bind_absolute?_of_absoluteOf? hdirectory, houtput⟩
        stdout_iff := by simp [hdestination, ← hdirectorySet]
        stdout_eq := by simp [hdestination]
        entries := fun _ => hdestination }
  | stdout base hfile hdirectory hcount hsplitting hsource hnometafile hloaders hbase =>
      change fs.absoluteOf? o.outfile = none at hfile
      change fs.absoluteOf? o.outdir = none at hdirectory
      change o.entryPoints.length + (if o.stdin.isSome then 1 else 0) ≤ 1 at hcount
      change o.sourcemap.requiresOutputPath = false at hsource
      change fs.absoluteOf? o.metafile = none at hnometafile
      rw [hfile] at hfileSet
      rw [hdirectory] at hdirectorySet
      have hinline : s.sourceMap = .none ∨ s.sourceMap = .inline := by
        rw [hmap]
        cases hmode : o.sourcemap <;> simp [hmode, SourceMap.requiresOutputPath] at hsource ⊢
      exact {
        file_iff := by simp [hdestination, ← hfileSet]
        file_eq := by simp [hdestination]
        directory_iff := by simp [hdestination, ← hdirectorySet]
        directory_eq := by simp [hdestination]
        stdout_iff := by simp [hdestination, ← hfileSet, ← hdirectorySet]
        stdout_eq := fun _ =>
          ⟨⟨base, hbase, houtput⟩, hinline, hmetafile.trans hnometafile⟩
        entries := fun hentries => absurd hentries (Nat.not_lt.mpr hcount) }

/-- Settings without problems settle the format of the output. -/
theorem formatSettled_check {fs : FileSystem} {o : BuildOptions} (h : (o.check fs).problems = []) :
    FormatSettled o (o.check fs).value.settings := by
  have hbundle : o.bundleProblems fs = [] := problemPart_eq_nil h (by simp [problemParts])
  have hformat : (o.check fs).value.settings.format =
      (checkFormat o.bundle o.platform o.format (checkExternals fs o.externals).value).value := rfl
  have hexternals : (o.check fs).value.settings.externals =
      (checkExternals fs o.externals).value := rfl
  refine ⟨rfl, ?_, ?_⟩
  · intro hbundling
    change o.bundle = true at hbundling
    rw [hformat, hbundling]
    cases o.format <;> cases o.platform <;>
      simp [checkFormat, OutputFormat.ofPlatform, OutputFormat.ofFormat]
  · intro hbundling
    change o.bundle = false at hbundling
    unfold bundleProblems at hbundle
    rw [hbundling, Bool.not_false, Bool.true_and, Bool.true_and, List.append_eq_nil_iff,
      Problem.onlyIf_eq_nil_iff, Problem.onlyIf_eq_nil_iff] at hbundle
    obtain ⟨hdefault, hnone⟩ := hbundle
    have hempty := isEmpty_checkExternals fs o.externals
    rw [hnone, Bool.not_false, Externals.isEmpty, Bool.and_eq_true] at hempty
    rw [hformat, hexternals, hbundling]
    refine ⟨?_, List.isEmpty_iff.mp hempty.1, List.isEmpty_iff.mp hempty.2⟩
    rw [bne_eq_false_iff_eq] at hdefault
    rw [hdefault]
    rfl

/-- Only a bundle of modules that goes to a directory is split. -/
theorem split_check {fs : FileSystem} {o : BuildOptions} (h : (o.check fs).problems = [])
    (hsplitting : (o.check fs).value.settings.splitting = true) :
    (o.check fs).value.settings.bundling = true ∧
      (o.check fs).value.settings.format = .esModule ∧
      (o.check fs).value.settings.destination = .directory := by
  change o.splitting = true at hsplitting
  have hesm : o.format = .esm := by
    have hpart : Problem.onlyIf (o.splitting && o.format != .esm) .splittingWithoutEsm = [] :=
      problemPart_eq_nil h (by simp [problemParts])
    rw [Problem.onlyIf_eq_nil_iff, hsplitting, Bool.true_and] at hpart
    exact bne_eq_false_iff_eq.mp hpart
  have hformat : (o.check fs).value.settings.format = .esModule :=
    (value_checkFormat_eq_esModule_iff o _).mpr hesm
  refine ⟨?_, hformat, ?_⟩
  · -- Without a bundle the format would be that of the input.
    cases hbundling : (o.check fs).value.settings.bundling with
    | true => rfl
    | false =>
        have hplain := ((formatSettled_check h).plain hbundling).1
        rw [hformat] at hplain
        exact absurd hplain (by decide)
  · have hplaced := placed_settings h
    generalize (o.check fs).value.settings.destination = destination at hplaced ⊢
    generalize (o.check fs).value.settings.outputDirectory = output at hplaced
    cases hplaced with
    | file path _ _ _ hwhole => exact absurd (hsplitting.symm.trans hwhole) (by decide)
    | directory path _ _ => rfl
    | stdout base _ _ _ hwhole => exact absurd (hsplitting.symm.trans hwhole) (by decide)

/-- If planning a build adds no error to a log, its settings have settled where output goes and in
which format, and only a bundle of modules that goes to a directory is split. -/
theorem output_settled_of_errorCount_eq (o : BuildOptions) (plugins : List Plugin)
    (fs : FileSystem) (cache : FilterCache) (log : Log)
    (h : ((o.plan plugins fs cache).1.record log).2.errorCount = log.errorCount) :
    let s := (o.plan plugins fs cache).1.value.settings
    PlaceSettled fs o s ∧ FormatSettled o s ∧
      (s.splitting = true →
        s.bundling = true ∧ s.format = .esModule ∧ s.destination = .directory) := by
  have hcheck : (o.check fs).problems = [] := by
    rw [Checked.errorCount_record_eq_iff, problems_plan, ← problems_check] at h
    exact (List.append_eq_nil_iff.mp h).1
  have hplace := placeSettled_check hcheck
  have hformat := formatSettled_check hcheck
  intro s
  refine ⟨?_, ?_, split_check hcheck⟩
  · exact ⟨hplace.file_iff, hplace.file_eq, hplace.directory_iff, hplace.directory_eq,
      hplace.stdout_iff, hplace.stdout_eq, hplace.entries⟩
  · exact ⟨hformat.bundling_eq, hformat.bundle, hformat.plain⟩

/-- Two entry points that are bundled into modules with a shared part. -/
def sharedBundle : BuildOptions where
  bundle := true
  splitting := true
  format := .esm
  outdir := some ⟨"out"⟩
  defines := [("process.env", "null")]
  externals := ["react", "./vendor.js"]
  loaders := [(".png", .file)]
  entryPoints := [⟨"a.ts"⟩, ⟨"/work/b.ts"⟩]

theorem output_settled_sharedBundle :
    let fs := ({ workingDirectory := ⟨"/work"⟩ } : MemoryFiles).toFileSystem
    let plan := (sharedBundle.plan [[.setName "svg"]] fs {}).1
    let log : Log := [.error "found earlier"]
    let s := plan.value.settings
    (plan.record log).2.errorCount = log.errorCount ∧
      PlaceSettled fs sharedBundle s ∧ FormatSettled sharedBundle s ∧
      (s.splitting = true →
        s.bundling = true ∧ s.format = .esModule ∧ s.destination = .directory) := by
  intro fs plan log s
  have h : (plan.record log).2.errorCount = log.errorCount := by decide +kernel
  exact ⟨h, output_settled_of_errorCount_eq sharedBundle [[.setName "svg"]] fs {} log h⟩

/-! ## Loaders that need a path -/

/-- The options with another loader for the entry point that has no file. -/
def withStdinLoader (loader : Loader) (o : BuildOptions) : BuildOptions :=
  { o with stdin := o.stdin.map fun stdin => { stdin with loader } }

/-- No rule about the options looks at the loader of the entry point that has no file. -/
theorem optionProblems_withStdinLoader (fs : FileSystem) (loader : Loader) (o : BuildOptions) :
    (o.withStdinLoader loader).optionProblems fs = o.optionProblems fs := by
  have hresolveDir : (o.withStdinLoader loader).stdin.bind StdinOptions.resolveDir =
      o.stdin.bind StdinOptions.resolveDir := by
    show (o.stdin.map _).bind _ = _
    cases o.stdin <;> rfl
  have hcount : (o.withStdinLoader loader).entryCount = o.entryCount := by
    show o.entryPoints.length + (if (o.stdin.map _).isSome then 1 else 0) = _
    rw [Option.isSome_map]
    rfl
  have hplace : (o.withStdinLoader loader).placeProblems fs = o.placeProblems fs := by
    unfold placeProblems
    rw [hcount]
    rfl
  unfold optionProblems problemParts
  rw [hresolveDir, hplace]
  rfl

/-- The loader of the entry point that has no file, by the options alone. -/
theorem stdinLoader_check (fs : FileSystem) (o : BuildOptions) :
    (o.check fs).value.settings.stdin.map StdinUnit.loader =
      o.stdin.map fun stdin => stdin.loader.orJs := by
  show (checkStdin fs o.stdin).value.map _ = _
  cases o.stdin <;> rfl

/-- If planning a build adds no error to a log and its output goes back to the host, no loader of an
extension needs an output path, be it built in or given by the options.

The loader of the entry point that has no file is not held to this: it needs an output path exactly
if the options ask for such a loader, and whatever they ask for, the log is the same. -/
theorem loaders_of_errorCount_eq (o : BuildOptions) (plugins : List Plugin) (fs : FileSystem)
    (cache : FilterCache) (log : Log)
    (h : ((o.plan plugins fs cache).1.record log).2.errorCount = log.errorCount)
    (hstdout : (o.plan plugins fs cache).1.value.settings.destination = .stdout) :
    let s := (o.plan plugins fs cache).1.value.settings
    (∀ extension loader, Table.get? extension s.loaders = some loader →
        loader.requiresOutputPath = false) ∧
      (∀ entry ∈ s.loaders, entry.2.requiresOutputPath = false) ∧
      ((∃ unit, s.stdin = some unit ∧ unit.loader.requiresOutputPath = true) ↔
        ∃ stdin, o.stdin = some stdin ∧ stdin.loader.requiresOutputPath = true) ∧
      ∀ loader, (((o.withStdinLoader loader).plan plugins fs cache).1.record log).2 =
        ((o.plan plugins fs cache).1.record log).2 := by
  have hplaced := placed_settings (problems_check_of_errorCount_eq h)
  have hdestination : (o.check fs).value.settings.destination = .stdout := hstdout
  rw [hdestination] at hplaced
  have hnone : ∀ entry ∈ (checkLoaders o.loaders).value, entry.2.requiresOutputPath = false := by
    generalize (o.check fs).value.settings.outputDirectory = output at hplaced
    cases hplaced with
    | stdout base _ _ _ _ _ _ hloaders =>
        have hany : ((checkLoaders o.loaders).value.any fun entry =>
          entry.2.requiresOutputPath) = false := hloaders
        intro entry hentry
        exact Bool.eq_false_iff.mpr (List.any_eq_false.mp hany entry hentry)
  have hstdin := stdinLoader_check fs o
  intro s
  refine ⟨?_, hnone, ?_, ?_⟩
  · intro extension loader hget
    exact hnone (extension, loader) (Table.mem_of_get?_eq_some hget)
  · change (∃ unit, (o.check fs).value.settings.stdin = some unit ∧ _) ↔ _
    generalize (o.check fs).value.settings.stdin = planned at hstdin ⊢
    cases hasked : o.stdin with
    | none =>
        rw [hasked, Option.map_none, Option.map_eq_none_iff] at hstdin
        simp [hstdin]
    | some stdin =>
        rw [hasked, Option.map_some, Option.map_eq_some_iff] at hstdin
        obtain ⟨unit, rfl, hloader⟩ := hstdin
        simp [hloader, Loader.requiresOutputPath_orJs]
  · intro loader
    rw [log_record_plan, log_record_plan, optionProblems_withStdinLoader]

theorem loaders_of_errorCount_eq_imageAsText :
    let fs := ({ workingDirectory := ⟨"/work"⟩ } : MemoryFiles).toFileSystem
    let options : BuildOptions :=
      { loaders := [(".png", .file), (".svg", .text), (".png", .dataUrl)]
        stdin := some { contents := "import './a.png'" } }
    let plan := (options.plan [] fs {}).1
    (plan.record []).2.errorCount = Log.errorCount [] ∧
      plan.value.settings.destination = .stdout ∧
      ∀ entry ∈ plan.value.settings.loaders, entry.2.requiresOutputPath = false := by
  intro fs options plan
  have h : (plan.record []).2.errorCount = Log.errorCount [] := by decide +kernel
  have hstdout : plan.value.settings.destination = .stdout := by decide +kernel
  obtain ⟨-, hloaders, -⟩ := loaders_of_errorCount_eq options [] fs {} [] h hstdout
  exact ⟨h, hstdout, hloaders⟩

/-- The entry point that has no file may be one to copy, with no place to copy it to. -/
theorem stdinLoader_without_path :
    let fs := ({ workingDirectory := ⟨"/project"⟩ } : MemoryFiles).toFileSystem
    let options : BuildOptions := { stdin := some { contents := "a", loader := .file } }
    let plan := (options.plan [] fs {}).1
    (plan.record []).2 = [] ∧ plan.value.settings.destination = .stdout ∧
      plan.value.settings.stdin.map StdinUnit.loader = some .file ∧
      Loader.file.requiresOutputPath = true := by
  decide +kernel

end BuildOptions
end BundleFront
