import BundleFront.Settings.Plan
import BundleFront.Text.Utf8
import BundleFront.Toolchain.Basic

/-!
# Builds, transforms and sessions

A build checks its options, runs the toolchain and hands back what was compiled.
It writes nothing itself.  There is output only if no stage found an error.

A transform compiles one text and hands back code.  The toolchain works without
entry points and without files, so it never sees more than the text.  It may
return the code alone or the code and its source map, in either order.

The calls of a session share one filter cache.
-/

namespace BundleFront

/-! ## Builds -/

/-- A file that a build hands back. -/
structure OutputFile where
  path : Path
  contents : List UInt8
deriving DecidableEq, Repr

namespace OutputFile

/-- The path of output that has no file of its own. -/
def stdoutPath : Path := ⟨"<stdout>"⟩

def text (file : OutputFile) : String := Text.ofBytes file.contents

def isStdout (file : OutputFile) : Bool := file.path == stdoutPath

/-- The files for compiled units. -/
def ofUnits (settings : Settings) (units : List OutputUnit) : List OutputFile :=
  units.map fun unit =>
    { path := if settings.writesToStdout then stdoutPath else unit.path
      contents := unit.contents }

end OutputFile

structure BuildResult where
  errors : List Message := []
  warnings : List Message := []
  outputFiles : List OutputFile := []
deriving DecidableEq, Repr

def BuildResult.isSuccess (result : BuildResult) : Bool := result.errors.isEmpty

/-- All that a build leaves. -/
structure BuildOutcome (ε ρ γ : Type) where
  result : BuildResult
  /-- What it reports to its user -/
  reported : List ReportLine
  trace : List (TraceEntry ε ρ γ)

/-- Build with the plan that the options came to. -/
def BuildPlan.run {ε ρ γ : Type} (plan : Checked BuildPlan) (fs : FileSystem)
    (toolchain : Toolchain ε ρ γ) : BuildOutcome ε ρ γ :=
  let (plan, log) := plan.record []
  let run := toolchain.run log fs plan.entries plan.settings
  let (errors, warnings) := Diagnostic.partition run.log
  { result := {
      errors
      warnings
      outputFiles := OutputFile.ofUnits plan.settings (run.units.getD []) }
    reported := run.log.report plan.settings.log
    trace := run.trace }

/-- Build, and hand the cache on to the next call. -/
def build {ε ρ γ : Type} (options : BuildOptions) (plugins : List Plugin) (fs : FileSystem)
    (toolchain : Toolchain ε ρ γ) (cache : FilterCache) : BuildOutcome ε ρ γ × FilterCache :=
  let (plan, cache) := options.plan plugins fs cache
  (BuildPlan.run plan fs toolchain, cache)

/-! ## Transforms -/

structure TransformResult where
  errors : List Message := []
  warnings : List Message := []
  code : String := ""
  sourceMap : Option String := none
deriving DecidableEq, Repr

def TransformResult.isSuccess (result : TransformResult) : Bool := result.errors.isEmpty

/-- Whether one unit is the source map of another: its path ends in `.map` after the other's. -/
def OutputUnit.isMapOf (map code : OutputUnit) : Bool := map.path == code.path.append ".map"

/-- Code with its source map, as bytes. -/
structure Compiled where
  code : List UInt8 := []
  sourceMap : Option (List UInt8) := none
deriving DecidableEq, Repr

namespace Compiled

/-- Neither code nor a map, for a number of units that no text compiles to. -/
def unexpected (count : Nat) : Compiled × List Diagnostic :=
  ({}, [.error
    ("Internal error: unexpected compiler output (" ++ toString count ++ " files)")])

/-- Tell code and source map apart, or say that the units are neither. -/
def ofUnits : List OutputUnit → Compiled × List Diagnostic
  | [unit] => ({ code := unit.contents }, [])
  | [first, second] =>
      if first.isMapOf second then
        ({ code := second.contents, sourceMap := some first.contents }, [])
      else if second.isMapOf first then
        ({ code := first.contents, sourceMap := some second.contents }, [])
      else unexpected 2
  | units => unexpected units.length

end Compiled

/-- All that a transform leaves. -/
structure TransformOutcome (ε ρ γ : Type) where
  result : TransformResult
  reported : List ReportLine
  trace : List (TraceEntry ε ρ γ)

/-- Transform a text. -/
def transform {ε ρ γ : Type} (input : String) (options : TransformOptions)
    (toolchain : Toolchain ε ρ γ) : TransformOutcome ε ρ γ :=
  let (settings, log) := (options.plan input).record []
  let run := toolchain.run log ({} : MemoryFiles).toFileSystem [] settings
  let (compiled, found) := match run.units with
    | some units => Compiled.ofUnits units
    | none => ({}, [])
  let log : Log := run.log ++ found
  let (errors, warnings) := Diagnostic.partition log
  { result := {
      errors
      warnings
      code := Text.ofBytes compiled.code
      sourceMap := compiled.sourceMap.map Text.ofBytes }
    reported := log.report settings.log
    trace := run.trace }

/-! ## Sessions -/

/-- A call of a session. -/
inductive Request (ε ρ γ : Type)
  | build (options : BuildOptions) (plugins : List Plugin) (fs : FileSystem)
      (toolchain : Toolchain ε ρ γ)
  | transform (input : String) (options : TransformOptions) (toolchain : Toolchain ε ρ γ)

/-- What a call of a session leaves. -/
inductive Response (ε ρ γ : Type)
  | build (outcome : BuildOutcome ε ρ γ)
  | transform (outcome : TransformOutcome ε ρ γ)

variable {ε ρ γ : Type}

/-- Answer a call; a transform has no plugins and leaves the cache alone. -/
def Request.answer (cache : FilterCache) : Request ε ρ γ → Response ε ρ γ × FilterCache
  | .build options plugins fs toolchain =>
      let (outcome, cache) := BundleFront.build options plugins fs toolchain cache
      (.build outcome, cache)
  | .transform input options toolchain =>
      (.transform (BundleFront.transform input options toolchain), cache)

/-- Answer the calls of a session in order, each with the cache after it. -/
def Request.answerAll (cache : FilterCache) :
    List (Request ε ρ γ) → List (Response ε ρ γ × FilterCache)
  | [] => []
  | request :: rest =>
      let answered := request.answer cache
      answered :: answerAll answered.2 rest

end BundleFront
