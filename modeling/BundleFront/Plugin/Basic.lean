import BundleFront.Diagnostic.Basic
import BundleFront.Filter
import BundleFront.Loader

/-!
# Loaders of plugins

A plugin may load files in its own way.  Whenever a file is loaded, the loaders
of all plugins are asked in the order in which they were registered, and the
first whose filter accepts the path supplies the contents.
-/

namespace BundleFront

/-- What a callback returns for a file. -/
structure LoaderOutput where
  contents : String := ""
  /-- How the contents are to be understood -/
  loader : Loader := .none
  errors : List Message := []
  warnings : List Message := []
deriving DecidableEq, Repr, Inhabited

/-- A callback gets an absolute path; if it fails it says why. -/
abbrev LoaderCallback := Path → Except String LoaderOutput

/-- What came of a callback. -/
inductive LoadResult
  | failure (text : String)
  /-- New contents, with what the callback found, in the order of presentation -/
  | success (contents : String) (loader : Loader) (diagnostics : List Diagnostic)
deriving DecidableEq, Repr

namespace LoadResult

def ofOutput (output : LoaderOutput) : LoadResult :=
  .success output.contents output.loader
    (Diagnostic.sorted
      (Diagnostic.ofMessages .error output.errors ++
        Diagnostic.ofMessages .warning output.warnings))

def ofCallback : Except String LoaderOutput → LoadResult
  | .error text => .failure text
  | .ok output => ofOutput output

def isFailure : LoadResult → Bool
  | failure _ => true
  | success .. => false

/-- The new contents, and the log with what was found: a failure is one error. -/
def record (log : Log) : LoadResult → Option (String × Loader) × Log
  | failure text => (none, log.addError text)
  | success contents loader diagnostics => (some (contents, loader), log.addBatch diagnostics)

end LoadResult

/-- A registered loader. -/
structure LoaderPlugin where
  /-- The plugin that registered it -/
  plugin : String
  filter : Filter
  /-- Whether it also loads files that only exist within the build -/
  matchInternal : Bool
  callback : LoaderCallback

namespace LoaderPlugin

/-- Whether the loader is meant for a path. -/
def appliesTo (loader : LoaderPlugin) (path : Path) (internal : Bool) : Bool :=
  (!internal || loader.matchInternal) && loader.filter.accepts path

def load (loader : LoaderPlugin) (path : Path) : LoadResult :=
  .ofCallback (loader.callback path)

/-- Load a file and note in the log what was found. -/
def loadInto (loader : LoaderPlugin) (path : Path) (log : Log) : Option (String × Loader) × Log :=
  (loader.load path).record log

/-- The first loader that is meant for a path. -/
def find? (loaders : List LoaderPlugin) (path : Path) (internal : Bool) : Option LoaderPlugin :=
  loaders.find? fun loader => loader.appliesTo path internal

end LoaderPlugin
end BundleFront
