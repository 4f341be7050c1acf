import BundleFront.Diagnostic.Basic
import BundleFront.FileSystem

/-!
# Checked values

Checking options never stops at the first problem.  A checked value comes with
every problem that was found on the way to it, in order, so one pass shows as
many mistakes as possible.  Whoever uses the value has to look at the problems
first.
-/

namespace BundleFront

/-- What is wrong with a step of a plugin's setup. -/
inductive SetupProblem
  | emptyName
  | repeatedName
  | loaderBeforeName
  | missingFilter (plugin : String)
  | invalidFilter (plugin pattern : String)
deriving DecidableEq, Repr

def SetupProblem.message : SetupProblem → String
  | emptyName => "Name of plugin cannot be empty"
  | repeatedName => "Name of plugin cannot be set multiple times"
  | loaderBeforeName => "Set the plugin name before adding a loader"
  | missingFilter plugin => "[" ++ plugin ++ "] Loader is missing a filter"
  | invalidFilter plugin pattern =>
      "[" ++ plugin ++ "] Loader filter is not a valid regular expression: " ++ Text.quoted pattern

/-- What is wrong with options. -/
inductive Problem
  | version (text : String)
  | jsx (kind text : String)
  | defineKey (text : String)
  | defineValue (text : String)
  | pureFunction (text : String)
  | extension (text : String)
  | path (p : Path)
  | entriesWithoutDirectory
  | splittingWithoutDirectory
  | fileAndDirectory
  | sourceMapWithoutPath
  | metafileWithoutPath
  | fileLoaderWithoutPath
  | noBase (error : FileError)
  | formatWithoutBundle
  | externalWithoutBundle
  | splittingWithoutEsm
  | linkedTransform
  | sourceMapWithoutName
  | setup (problem : SetupProblem)
deriving DecidableEq, Repr

def Problem.message : Problem → String
  | version text => "Invalid version: " ++ Text.quoted text
  | jsx kind text => "Invalid JSX " ++ kind ++ ": " ++ Text.quoted text
  | defineKey text => "Invalid define key: " ++ Text.quoted text
  | defineValue text => "Invalid define value: " ++ Text.quoted text
  | pureFunction text => "Invalid pure function: " ++ Text.quoted text
  | extension text => "Invalid file extension: " ++ Text.quoted text
  | path p => "Invalid path: " ++ p.text
  | entriesWithoutDirectory => "Must use outdir when there are multiple input files"
  | splittingWithoutDirectory => "Must use outdir when code splitting is enabled"
  | fileAndDirectory => "Cannot use both outfile and outdir"
  | sourceMapWithoutPath => "Cannot use an external source map without an output path"
  | metafileWithoutPath => "Cannot use metafile without an output path"
  | fileLoaderWithoutPath => "Cannot use the file loader without an output path"
  | noBase error => error.message
  | formatWithoutBundle => "Cannot use format without bundle"
  | externalWithoutBundle => "Cannot use external without bundle"
  | splittingWithoutEsm => "Splitting currently only works with the esm format"
  | linkedTransform => "Cannot transform with linked source maps"
  | sourceMapWithoutName => "Must use sourcefile with sourcemap to set the original file name"
  | setup problem => problem.message

/-- A value with the problems that were found on the way to it. -/
structure Checked (α : Type) where
  value : α
  problems : List Problem := []

namespace Checked

instance : Monad Checked where
  pure value := { value }
  bind x f := { f x.value with problems := x.problems ++ (f x.value).problems }

/-- The value, with one problem unless `sound`. -/
def ensure {α : Type} (value : α) (sound : Bool) (problem : Problem) : Checked α :=
  { value, problems := if sound then [] else [problem] }

/-- Note a problem if `found`. -/
def note (found : Bool) (problem : Problem) : Checked Unit := ensure () (!found) problem

/-- Note a problem for each item that is not sound. -/
def all {α : Type} (sound : α → Bool) (problem : α → Problem) (items : List α) : Checked Unit :=
  { value := (), problems := (items.filter fun item => !sound item).map problem }

/-- Check each item in turn and keep what is found for it, if anything. -/
def filterMap {α β : Type} (check : α → Checked (Option β)) : List α → Checked (List β)
  | [] => pure []
  | a :: rest => do
      let b ← check a
      let bs ← filterMap check rest
      return b.toList ++ bs

/-- The problems as errors without a location. -/
def errors {α : Type} (x : Checked α) : Log := x.problems.map fun problem => .error problem.message

/-- The value, and the log with the problems behind what it held. -/
def record {α : Type} (log : Log) (x : Checked α) : α × Log := (x.value, log ++ x.errors)

end Checked
end BundleFront
