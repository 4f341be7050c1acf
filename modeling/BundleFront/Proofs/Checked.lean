import BundleFront.Checked
import Mathlib.Data.List.Basic
import Mathlib.Tactic.Common

/-!
# Values and problems of checks

A check is read through two views: the value that it comes to and the problems
that it finds.  Each way to put checks together has one equation per view, so no
later proof opens a check.  The value of a check never depends on problems, which
is why a sequence of checks finds all problems of its parts, in order.

Recording a check in a log appends its problems as errors without a location.
The number of errors in the log stays the same exactly if there are no problems.

What such an error says is written out once for every kind of problem (`Problem.Says`).
-/

namespace BundleFront

/-! ## Texts of problems -/

/-- The texts about files that are missing and directories that are not known. -/
inductive FileError.Says : FileError → String → Prop
  | notFound (path : Path) : Says (.notFound path) ("File not found: " ++ path.text)
  | unreadable (cause : String) : Says (.unreadable cause) ("I/O error: " ++ cause)
  | noWorkingDirectory (cause : String) :
      Says (.noWorkingDirectory cause) ("Working directory unavailable: " ++ cause)

/-- The texts about steps of a setup; those about a filter name the plugin. -/
inductive SetupProblem.Says : SetupProblem → String → Prop
  | emptyName : Says .emptyName "Name of plugin cannot be empty"
  | repeatedName : Says .repeatedName "Name of plugin cannot be set multiple times"
  | loaderBeforeName : Says .loaderBeforeName "Set the plugin name before adding a loader"
  | missingFilter (plugin : String) :
      Says (.missingFilter plugin) ("[" ++ plugin ++ "] Loader is missing a filter")
  | invalidFilter (plugin pattern : String) :
      Says (.invalidFilter plugin pattern)
        ("[" ++ plugin ++ "] Loader filter is not a valid regular expression: " ++
          Text.quoted pattern)

/-- The texts about options.  A text that an option holds is quoted, a path is not. -/
inductive Problem.Says : Problem → String → Prop
  | version (text : String) : Says (.version text) ("Invalid version: " ++ Text.quoted text)
  | jsx (kind text : String) :
      Says (.jsx kind text) ("Invalid JSX " ++ kind ++ ": " ++ Text.quoted text)
  | defineKey (text : String) :
      Says (.defineKey text) ("Invalid define key: " ++ Text.quoted text)
  | defineValue (text : String) :
      Says (.defineValue text) ("Invalid define value: " ++ Text.quoted text)
  | pureFunction (text : String) :
      Says (.pureFunction text) ("Invalid pure function: " ++ Text.quoted text)
  | extension (text : String) :
      Says (.extension text) ("Invalid file extension: " ++ Text.quoted text)
  | path (p : Path) : Says (.path p) ("Invalid path: " ++ p.text)
  | entriesWithoutDirectory :
      Says .entriesWithoutDirectory "Must use outdir when there are multiple input files"
  | splittingWithoutDirectory :
      Says .splittingWithoutDirectory "Must use outdir when code splitting is enabled"
  | fileAndDirectory : Says .fileAndDirectory "Cannot use both outfile and outdir"
  | sourceMapWithoutPath :
      Says .sourceMapWithoutPath "Cannot use an external source map without an output path"
  | metafileWithoutPath :
      Says .metafileWithoutPath "Cannot use metafile without an output path"
  | fileLoaderWithoutPath :
      Says .fileLoaderWithoutPath "Cannot use the file loader without an output path"
  | noBase {error : FileError} {text : String} (h : error.Says text) : Says (.noBase error) text
  | formatWithoutBundle : Says .formatWithoutBundle "Cannot use format without bundle"
  | externalWithoutBundle : Says .externalWithoutBundle "Cannot use external without bundle"
  | splittingWithoutEsm :
      Says .splittingWithoutEsm "Splitting currently only works with the esm format"
  | linkedTransform : Says .linkedTransform "Cannot transform with linked source maps"
  | sourceMapWithoutName :
      Says .sourceMapWithoutName
        "Must use sourcefile with sourcemap to set the original file name"
  | setup {problem : SetupProblem} {text : String} (h : problem.Says text) :
      Says (.setup problem) text

theorem FileError.says_message (error : FileError) : error.Says error.message := by
  cases error <;> constructor

theorem SetupProblem.says_message (problem : SetupProblem) : problem.Says problem.message := by
  cases problem <;> constructor

theorem Problem.says_message (problem : Problem) : problem.Says problem.message := by
  cases problem with
  | noBase error => exact .noBase error.says_message
  | setup problem => exact .setup problem.says_message
  | _ => constructor

/-! ## Values and problems -/

namespace Checked

variable {α β : Type}

@[simp] theorem value_pure (a : α) : (pure a : Checked α).value = a := rfl

@[simp] theorem problems_pure (a : α) : (pure a : Checked α).problems = [] := rfl

@[simp] theorem value_bind (x : Checked α) (f : α → Checked β) :
    (x >>= f).value = (f x.value).value := rfl

@[simp] theorem problems_bind (x : Checked α) (f : α → Checked β) :
    (x >>= f).problems = x.problems ++ (f x.value).problems := rfl

@[simp] theorem value_ensure (value : α) (sound : Bool) (problem : Problem) :
    (ensure value sound problem).value = value := rfl

@[simp] theorem problems_ensure (value : α) (sound : Bool) (problem : Problem) :
    (ensure value sound problem).problems = if sound then [] else [problem] := rfl

@[simp] theorem problems_note (found : Bool) (problem : Problem) :
    (note found problem).problems = if found then [problem] else [] := by
  cases found <;> rfl

@[simp] theorem problems_all (sound : α → Bool) (problem : α → Problem) (items : List α) :
    (all sound problem items).problems =
      (items.filter fun item => !sound item).map problem := rfl

/-- What is kept is what the single checks come to. -/
@[simp] theorem value_filterMap (check : α → Checked (Option β)) (items : List α) :
    (filterMap check items).value = items.filterMap fun item => (check item).value := by
  induction items with
  | nil => rfl
  | cons item rest ih =>
      simp only [filterMap, value_bind, value_pure, ih]
      cases h : (check item).value with
      | none => simp [h]
      | some kept => simp [h]

/-- Every single check shows its problems, in the order of the items. -/
@[simp] theorem problems_filterMap (check : α → Checked (Option β)) (items : List α) :
    (filterMap check items).problems = items.flatMap fun item => (check item).problems := by
  induction items with
  | nil => rfl
  | cons item rest ih =>
      simp only [filterMap, problems_bind, problems_pure, List.append_nil, ih,
        List.flatMap_cons]

/-- A log only grows, by one error without a location for each problem. -/
theorem record_log (log : Log) (x : Checked α) :
    (x.record log).2 =
      log ++ x.problems.map fun problem => ⟨.error, ⟨problem.message, none⟩⟩ := rfl

theorem errorCount_errors (x : Checked α) : x.errors.errorCount = x.problems.length := by
  unfold errors Log.errorCount
  rw [List.countP_map, List.countP_eq_length]
  intro problem _
  rfl

/-- No error is added exactly if there is no problem. -/
theorem errorCount_record_eq_iff (log : Log) (x : Checked α) :
    (x.record log).2.errorCount = log.errorCount ↔ x.problems = [] := by
  have hcount : (x.record log).2.errorCount = log.errorCount + x.problems.length := by
    rw [← errorCount_errors]
    exact List.countP_append
  rw [hcount, ← List.length_eq_zero_iff]
  omega

/-- Every recorded problem is an error, so the errors of a check are none only without problems. -/
theorem hasErrors_errors_eq_false_iff (x : Checked α) :
    Log.hasErrors x.errors = false ↔ x.problems = [] := by
  unfold errors Log.hasErrors
  cases x.problems with
  | nil => simp
  | cons problem rest => simp [Diagnostic.error, Diagnostic.isError]

end Checked
end BundleFront
