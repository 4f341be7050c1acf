import BundleFront.Proofs.Settings.Check
import Mathlib.Data.List.Forall2

/-!
# Everything that is wrong with the options of a build

A build checks all of its options before it stops, so its log shows every problem
once, in a fixed order.  `BuildOptions.optionProblems` lists them by what the
options say: single options first, then the place of the output, for which only
the first rule that applies shows, then options that only a bundle may have.
Problems of plugins follow.

The rules about the place of the output see paths in their absolute form, but count
the entry points as they were given.  The main statement says that these problems,
and nothing else, are what checking a build appends to a log.
-/

namespace BundleFront
namespace BuildOptions

/-- What is wrong with output that goes back to the host.  A working directory is needed, since
relative externals start there. -/
def stdoutProblems (fs : FileSystem) (o : BuildOptions) : List Problem :=
  Problem.onlyIf (o.sourcemap == .linked || o.sourcemap == .external) .sourceMapWithoutPath ++
  Problem.onlyIf (fs.absoluteOf? o.metafile).isSome .metafileWithoutPath ++
  Problem.onlyIf (copiesFiles o.loaders) .fileLoaderWithoutPath ++
  match fs.workingDirectory with
  | .ok _ => []
  | .error error => [.noBase error]

/-- What is wrong with the place of the output. -/
def placeProblems (fs : FileSystem) (o : BuildOptions) : List Problem :=
  let file := fs.absoluteOf? o.outfile
  let directory := fs.absoluteOf? o.outdir
  Problem.firstRule [
    (directory.isNone && decide (1 < o.entryCount), [.entriesWithoutDirectory]),
    (directory.isNone && o.splitting, [.splittingWithoutDirectory]),
    (file.isSome && directory.isSome, [.fileAndDirectory]),
    (file.isNone && directory.isNone, o.stdoutProblems fs)]

/-- What is wrong with options that only a bundle may have. -/
def bundleProblems (fs : FileSystem) (o : BuildOptions) : List Problem :=
  Problem.onlyIf (!o.bundle && o.format != .default) .formatWithoutBundle ++
  Problem.onlyIf (!o.bundle && o.externals.any fs.knowsExternal) .externalWithoutBundle

/-- What is wrong with the options, rule by rule, plugins apart. -/
def problemParts (fs : FileSystem) (o : BuildOptions) : List (List Problem) := [
  Problem.each (fun engine => (Version.parse? engine.version).isSome)
    (fun engine => .version engine.version) o.engines,
  Problem.each (fun text => text.isEmpty || isIdentifierPath text) (.jsx "factory")
    [o.jsxFactory],
  Problem.each (fun text => text.isEmpty || isIdentifierPath text) (.jsx "fragment")
    [o.jsxFragment],
  o.defines.flatMap defineProblems,
  Problem.each isIdentifierPath .pureFunction o.pureFunctions,
  Problem.each fs.reaches .path o.metafile.toList,
  Problem.each isExtension .extension (o.loaders.map Prod.fst),
  Problem.each isExtension .extension (o.resolveExtensions.getD []),
  Problem.each fs.reaches .path
    ((o.externals.filter fun text => !isPackagePath text).map Path.mk),
  Problem.each fs.reaches .path o.outfile.toList,
  Problem.each fs.reaches .path o.outdir.toList,
  Problem.each fs.reaches .path o.entryPoints,
  Problem.each fs.reaches .path (o.stdin.bind StdinOptions.resolveDir).toList,
  o.placeProblems fs,
  o.bundleProblems fs,
  Problem.onlyIf (o.splitting && o.format != .esm) .splittingWithoutEsm]

/-- Everything that is wrong with the options, plugins apart. -/
def optionProblems (fs : FileSystem) (o : BuildOptions) : List Problem :=
  (o.problemParts fs).flatten

/-! ## The parts of a check -/

/-- What decides about the place of the output, by the options alone. -/
def outputRequest (fs : FileSystem) (o : BuildOptions) : OutputRequest where
  entryCount := o.entryCount
  splitting := o.splitting
  sourceMap := o.sourcemap
  metafile := fs.absoluteOf? o.metafile
  loaders := (checkLoaders o.loaders).value
  file := fs.absoluteOf? o.outfile
  directory := fs.absoluteOf? o.outdir

theorem problems_checkStdout (fs : FileSystem) (o : BuildOptions) :
    (checkStdout fs o.sourcemap (fs.absoluteOf? o.metafile)
      (checkLoaders o.loaders).value).problems = o.stdoutProblems fs := by
  unfold checkStdout stdoutProblems
  simp only [Checked.problems_bind, Checked.problems_note, any_requiresOutputPath_checkLoaders]
  rw [List.append_assoc, List.append_assoc]
  cases fs.workingDirectory <;> rfl

theorem problems_outputRequest_check (fs : FileSystem) (o : BuildOptions) :
    ((o.outputRequest fs).check fs).problems = o.placeProblems fs := by
  unfold OutputRequest.check placeProblems outputRequest
  dsimp only
  cases hfile : fs.absoluteOf? o.outfile with
  | some file =>
      cases hdirectory : fs.absoluteOf? o.outdir with
      | some directory => simp [Problem.firstRule]
      | none =>
          by_cases hcount : 1 < o.entryCount
          · simp [Problem.firstRule, hcount]
          · cases o.splitting <;> simp [Problem.firstRule, hcount]
  | none =>
      cases hdirectory : fs.absoluteOf? o.outdir with
      | some directory => simp [Problem.firstRule]
      | none =>
          by_cases hcount : 1 < o.entryCount
          · simp [Problem.firstRule, hcount]
          · cases o.splitting with
            | true => simp [Problem.firstRule, hcount]
            | false => simp [Problem.firstRule, hcount, problems_checkStdout fs o]

theorem problems_checkFormat (fs : FileSystem) (o : BuildOptions) :
    (checkFormat o.bundle o.platform o.format (checkExternals fs o.externals).value).problems =
      o.bundleProblems fs := by
  unfold checkFormat bundleProblems
  cases o.bundle with
  | true => rfl
  | false => simp [Problem.onlyIf, isEmpty_checkExternals]

/-- Only a host that asks for `esm` gets it, whatever the platform. -/
theorem value_checkFormat_eq_esModule_iff (o : BuildOptions) (externals : Externals) :
    (checkFormat o.bundle o.platform o.format externals).value = .esModule ↔
      o.format = .esm := by
  unfold checkFormat
  cases o.bundle <;> cases o.platform <;> cases o.format <;>
    simp [OutputFormat.ofPlatform, OutputFormat.ofFormat]

/-- Checking options finds what is wrong with them, and nothing twice. -/
theorem problems_check (fs : FileSystem) (o : BuildOptions) :
    (o.check fs).problems = o.optionProblems fs := by
  have hplace := problems_outputRequest_check fs o
  have hformat := problems_checkFormat fs o
  have hsplitting : (o.splitting &&
      (checkFormat o.bundle o.platform o.format (checkExternals fs o.externals).value).value !=
        .esModule) = (o.splitting && o.format != .esm) := by
    rw [Bool.eq_iff_iff]
    simp [value_checkFormat_eq_esModule_iff]
  -- The place and the format see what earlier checks came to; all others see single options.
  unfold outputRequest at hplace
  unfold BuildOptions.check optionProblems problemParts
  simp only [List.flatten_cons, List.flatten_nil, List.append_nil, List.append_assoc,
    Checked.problems_bind, Checked.problems_pure, SharedOptions.problems_check,
    problems_checkOptionalPath, value_checkOptionalPath, problems_checkLoaders,
    problems_checkResolveExtensions, problems_checkExternals, problems_checkPath,
    problems_checkStdin, Checked.problems_filterMap, Checked.problems_note, hplace, hformat,
    hsplitting]
  rw [Problem.flatMap_each, List.flatMap_singleton']
  rfl

-- An absolute path needs no working directory, and one rule about the place shows, the first.
example :
    (BuildOptions.check (.homeless "removed") {
      jsxFactory := "h-1"
      defines := [("a.b", "[]"), ("1", "[]")]
      metafile := some ⟨"meta.json"⟩
      entryPoints := [⟨"/a.ts"⟩, ⟨"b.ts"⟩]
      outfile := some ⟨"/out.js"⟩
      splitting := true }).problems = [
      .jsx "factory" "h-1", .defineValue "[]", .defineKey "1", .path ⟨"meta.json"⟩,
      .path ⟨"b.ts"⟩, .entriesWithoutDirectory, .splittingWithoutEsm] := by
  decide +kernel

/-- Options without problems break none of the rules. -/
theorem problemPart_eq_nil {fs : FileSystem} {o : BuildOptions} (h : (o.check fs).problems = [])
    {part : List Problem} (hpart : part ∈ o.problemParts fs) : part = [] := by
  rw [problems_check, optionProblems, List.flatten_eq_nil_iff] at h
  exact h part hpart

/-- Problems of plugins come last, and show whatever the options are. -/
theorem problems_plan (o : BuildOptions) (plugins : List Plugin) (fs : FileSystem)
    (cache : FilterCache) :
    (o.plan plugins fs cache).1.problems =
      o.optionProblems fs ++
        (Installation.ofPlugins plugins cache).problems.map Problem.setup := by
  simp only [plan, Checked.problems_bind, Checked.problems_pure, List.append_nil, problems_check]
  rfl

/-- A plan that adds no error to a log comes from options without problems. -/
theorem problems_check_of_errorCount_eq {o : BuildOptions} {plugins : List Plugin}
    {fs : FileSystem} {cache : FilterCache} {log : Log}
    (h : ((o.plan plugins fs cache).1.record log).2.errorCount = log.errorCount) :
    (o.check fs).problems = [] := by
  rw [Checked.errorCount_record_eq_iff, problems_plan, ← problems_check] at h
  exact (List.append_eq_nil_iff.mp h).1

theorem log_record_plan (o : BuildOptions) (plugins : List Plugin) (fs : FileSystem)
    (cache : FilterCache) (log : Log) :
    ((o.plan plugins fs cache).1.record log).2 =
      log ++ (o.optionProblems fs ++
        (Installation.ofPlugins plugins cache).problems.map Problem.setup).map
          fun problem => ⟨.error, ⟨problem.message, none⟩⟩ := by
  rw [Checked.record_log, problems_plan]

/-- Planning a build leaves a log as it was, followed by one error without a location for each
problem of the options and then of the plugins, with the text that belongs to the problem. -/
theorem record_plan_log (o : BuildOptions) (plugins : List Plugin) (fs : FileSystem)
    (cache : FilterCache) (log : Log) :
    ∃ texts : List String,
      List.Forall₂ Problem.Says
        (o.optionProblems fs ++
          (Installation.ofPlugins plugins cache).problems.map Problem.setup) texts ∧
      ((o.plan plugins fs cache).1.record log).2 =
        log ++ texts.map fun text => ⟨.error, ⟨text, none⟩⟩ := by
  refine ⟨(o.optionProblems fs ++ (Installation.ofPlugins plugins cache).problems.map
    Problem.setup).map Problem.message, ?_, ?_⟩
  · rw [List.forall₂_map_right_iff]
    exact List.forall₂_same.mpr fun problem _ => problem.says_message
  · rw [log_record_plan, List.map_map]
    rfl

end BuildOptions
end BundleFront
