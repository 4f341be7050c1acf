import BundleFront.Plugin.Setup
import BundleFront.Toolchain.Basic

/-!
# Toolchains and callbacks that follow a script

A scripted toolchain reports what its script says, loads the files that it names
and hands back fixed units.  It tells of every file what became of it.

A scripted callback does the same for every file.  The mark that stands for the
path is replaced by the path in every text that it returns.
-/

namespace BundleFront

/-- Replace every `mark` in a text, from the left. -/
def replaceMark (mark filling : List Char) (s : List Char) : List Char :=
  go s 0
where
  /-- The text with its marks replaced, after `skipped` characters that belong to a mark. -/
  go : List Char → (skipped : Nat) → List Char
    | [], _ => []
    | _ :: rest, skipped + 1 => go rest skipped
    | c :: rest, 0 =>
        if mark.isPrefixOf (c :: rest) then filling ++ go rest (mark.length - 1)
        else c :: go rest 0

/-- What a scripted callback does. -/
inductive ScriptedLoad
  /-- Fail with a text; a context, if there is one, is what shows of the failure. -/
  | fail (text : String) (context : Option String)
  | succeed (output : LoaderOutput)
deriving DecidableEq, Repr

namespace ScriptedLoad

/-- What stands for the path. -/
def mark : List Char := ['\x7b', 'p', 'a', 't', 'h', '\x7d']

def fill (path : Path) (text : String) : String :=
  String.ofList (replaceMark mark path.text.toList text.toList)

def callback : ScriptedLoad → LoaderCallback
  | fail text context, path => .error (fill path (context.getD text))
  | succeed output, path => .ok { output with contents := fill path output.contents }

end ScriptedLoad

/-- Something to report. -/
inductive ScriptedReport
  | error (text : String)
  | warning (text : String)
  | batch (diagnostics : List Diagnostic)
deriving DecidableEq, Repr

/-- The log with one more report. -/
def ScriptedReport.addTo (log : Log) : ScriptedReport → Log
  | error text => log.addError text
  | warning text => log.addWarning text
  | batch diagnostics => log.addBatch diagnostics

inductive ScanStep
  | report (report : ScriptedReport)
  | load (path : Path) (internal : Bool)
  | loadEntries (internal : Bool)
deriving DecidableEq, Repr

/-- The path of a unit: given, or made from the path of the output. -/
inductive ScriptedPath
  | given (path : Path)
  | output (suffix : String)
deriving DecidableEq, Repr

structure ScriptedUnit where
  path : ScriptedPath
  contents : List UInt8
deriving DecidableEq, Repr

structure Script where
  resolver : List ScriptedReport := []
  scan : List ScanStep := []
  compile : List ScriptedReport := []
  units : List ScriptedUnit := []
deriving DecidableEq, Repr

/-- Where the contents of a file came from. -/
inductive LoadSource
  /-- A plugin's loader, which may have failed -/
  | plugin (name : String) (loaded : Option (String × Loader))
  | file (contents : String)
  | failed (error : FileError)
deriving DecidableEq, Repr

/-- What became of a file. -/
inductive LoadEvent
  /-- Its path has no absolute form. -/
  | unreachable (path : Path)
  /-- It was tried to load; so many errors are in the log. -/
  | tried (path : Path) (source : LoadSource) (errors : Nat)
deriving DecidableEq, Repr

namespace Script

/-- Load the file at an absolute path: by the first loader that is meant for it, or else from the
file system. -/
def loadFile (fs : FileSystem) (settings : Settings) (internal : Bool) (log : Log) (path : Path) :
    LoadEvent × Log :=
  match LoaderPlugin.find? settings.loaderPlugins path internal with
  | some loader =>
      let (loaded, log) := loader.loadInto path log
      (.tried path (.plugin loader.plugin loaded) log.errorCount, log)
  | none =>
      match fs.read path with
      | .ok contents => (.tried path (.file contents) log.errorCount, log)
      | .error error =>
          let log := log.addError error.message
          (.tried path (.failed error) log.errorCount, log)

/-- Load several files one after the other. -/
def loadFiles (fs : FileSystem) (settings : Settings) (internal : Bool) (log : Log) :
    List Path → List LoadEvent × Log
  | [] => ([], log)
  | path :: rest =>
      let (event, log) := loadFile fs settings internal log path
      let (events, log) := loadFiles fs settings internal log rest
      (event :: events, log)

def scanStep (fs : FileSystem) (settings : Settings) (entries : List Path) (log : Log) :
    ScanStep → List LoadEvent × Log
  | .report report => ([], report.addTo log)
  | .load path internal =>
      match fs.absolute? path with
      | some absolute => loadFiles fs settings internal log [absolute]
      | none => ([.unreachable path], log)
  | .loadEntries internal => loadFiles fs settings internal log entries

def scanSteps (fs : FileSystem) (settings : Settings) (entries : List Path) (log : Log) :
    List ScanStep → List LoadEvent × Log
  | [] => ([], log)
  | step :: rest =>
      let (events, log) := scanStep fs settings entries log step
      let (later, log) := scanSteps fs settings entries log rest
      (events ++ later, log)

/-- The path that output starts from. -/
def outputBase (settings : Settings) : Path :=
  settings.outputFile?.getD ((settings.outputDirectory.getD ⟨""⟩).join ⟨"out.js"⟩)

def ScriptedUnit.toOutput (settings : Settings) (unit : ScriptedUnit) : OutputUnit where
  path := match unit.path with
    | .given path => path
    | .output suffix => (outputBase settings).append suffix
  contents := unit.contents

/-- The toolchain that follows a script.  Its module graph is the list of entry points. -/
def toolchain (script : Script) : Toolchain LoadEvent Unit (List Path) where
  resolver _ log _ :=
    { value := (), found := (script.resolver.foldl ScriptedReport.addTo log).drop log.length }
  scan log fs _ entries settings :=
    let (events, log') := scanSteps fs settings entries log script.scan
    { value := entries, found := log'.drop log.length, events }
  compile _ log settings :=
    { value := script.units.map (ScriptedUnit.toOutput settings)
      found := (script.compile.foldl ScriptedReport.addTo log).drop log.length }

end Script

end BundleFront
