import BundleFront.FileSystem
import BundleFront.Settings.Basic

/-!
# Toolchains

A toolchain resolves, scans and compiles.  Its methods get the log of the call
and hand back, beside their value, the diagnostics that they add to it and
whatever they tell about their work.  `Toolchain.run` calls the methods in order.
It looks at the log before the first method and before the last: where the log
holds an error, the run ends.

The trace of a run lists every call with its arguments.
-/

namespace BundleFront

/-- A compiled file. -/
structure OutputUnit where
  path : Path
  contents : List UInt8
deriving DecidableEq, Repr

/-- What a method hands back. -/
structure Reply (ε α : Type) where
  value : α
  /-- What it adds to the log -/
  found : List Diagnostic := []
  /-- What it tells about its work -/
  events : List ε := []

/-- A toolchain with events `ε`, resolvers `ρ` and module graphs `γ`. -/
structure Toolchain (ε ρ γ : Type) where
  resolver : FileSystem → Log → Settings → Reply ε ρ
  scan : Log → FileSystem → ρ → (entries : List Path) → Settings → Reply ε γ
  compile : γ → Log → Settings → Reply ε (List OutputUnit)

/-- A call of a method, with its arguments. -/
inductive ToolchainCall (ρ γ : Type)
  | resolver (fs : FileSystem) (log : Log) (settings : Settings)
  | scan (log : Log) (fs : FileSystem) (resolver : ρ) (entries : List Path) (settings : Settings)
  | compile (graph : γ) (log : Log) (settings : Settings)

/-- The log that a method was given. -/
def ToolchainCall.log {ρ γ : Type} : ToolchainCall ρ γ → Log
  | resolver _ log _ => log
  | scan log .. => log
  | compile _ log _ => log

/-- A call that was made, with what the method told about it. -/
structure TraceEntry (ε ρ γ : Type) where
  call : ToolchainCall ρ γ
  events : List ε

/-- What a run comes to; there are no units if it stopped at an error. -/
structure ToolchainRun (ε ρ γ : Type) where
  log : Log
  trace : List (TraceEntry ε ρ γ) := []
  units : Option (List OutputUnit) := none

namespace Toolchain

variable {ε ρ γ : Type}

/-- Call the methods as long as the log holds no error. -/
def run (toolchain : Toolchain ε ρ γ) (log : Log) (fs : FileSystem) (entries : List Path)
    (settings : Settings) : ToolchainRun ε ρ γ :=
  if log.hasErrors then { log }
  else
    let resolver := toolchain.resolver fs log settings
    let resolved := log ++ resolver.found
    let graph := toolchain.scan resolved fs resolver.value entries settings
    let scanned := resolved ++ graph.found
    let trace := [⟨.resolver fs log settings, resolver.events⟩,
      ⟨.scan resolved fs resolver.value entries settings, graph.events⟩]
    if scanned.hasErrors then { log := scanned, trace }
    else
      let units := toolchain.compile graph.value scanned settings
      let compiled := scanned ++ units.found
      { log := compiled
        trace := trace ++ [⟨.compile graph.value scanned settings, units.events⟩]
        units := if compiled.hasErrors then none else some units.value }

end Toolchain
end BundleFront
