import BundleFront.Toolchain.Basic
import Mathlib.Data.List.Basic
import Mathlib.Tactic.Common

/-!
# How far a run of a toolchain gets

A run calls the methods of its toolchain in order and stops at an error.  To say
what it should have done, `Toolchain.replies` lets every method answer whatever the
others found; a run is then described by how much of these answers it takes.

* `Toolchain.gated_run` — a run ends before the first method, before the last, or not
  at all.
* `Toolchain.gates_run` — which methods are called, what the log is afterwards, and
  when there are units.
* `Toolchain.trace_run_follows` — with which arguments they are called.

The gates stand before the resolver and before the compiler.  An error that the
resolver reports does not keep the scanner from running.
-/

namespace BundleFront

/-- The methods of a toolchain. -/
inductive Stage
  | resolver
  | scan
  | compile
deriving DecidableEq, Repr

variable {ε ρ γ : Type}

def ToolchainCall.stage : ToolchainCall ρ γ → Stage
  | resolver .. => .resolver
  | scan .. => .scan
  | compile .. => .compile

/-- The methods that a trace tells of, in the order of their calls. -/
def stages (trace : List (TraceEntry ε ρ γ)) : List Stage :=
  trace.map fun entry => entry.call.stage

/-- What the methods of a toolchain hand back. -/
structure Replies (ε ρ γ : Type) where
  resolver : Reply ε ρ
  scan : Reply ε γ
  compile : Reply ε (List OutputUnit)

/-- What one of the methods adds to the log. -/
def Replies.found (replies : Replies ε ρ γ) : Stage → List Diagnostic
  | .resolver => replies.resolver.found
  | .scan => replies.scan.found
  | .compile => replies.compile.found

/-- The log of a call once everything is scanned. -/
def Replies.scanned (replies : Replies ε ρ γ) (log : Log) : Log :=
  log ++ replies.found .resolver ++ replies.found .scan

namespace Toolchain

/-- The replies of the methods where each gets what the ones before it left, errors or not. -/
def replies (toolchain : Toolchain ε ρ γ) (log : Log) (fs : FileSystem) (entries : List Path)
    (settings : Settings) : Replies ε ρ γ :=
  let resolver := toolchain.resolver fs log settings
  let scan := toolchain.scan (log ++ resolver.found) fs resolver.value entries settings
  let compile := toolchain.compile scan.value (log ++ resolver.found ++ scan.found) settings
  { resolver, scan, compile }

/-- The trace of a run that no error ends. -/
def fullTrace (toolchain : Toolchain ε ρ γ) (log : Log) (fs : FileSystem) (entries : List Path)
    (settings : Settings) : List (TraceEntry ε ρ γ) :=
  let r := toolchain.replies log fs entries settings
  [⟨.resolver fs log settings, r.resolver.events⟩,
    ⟨.scan (log ++ r.resolver.found) fs r.resolver.value entries settings, r.scan.events⟩,
    ⟨.compile r.scan.value (r.scanned log) settings, r.compile.events⟩]

/-- What a run may come to, by the log it starts with, the replies and the full trace. -/
inductive Gated (log : Log) (r : Replies ε ρ γ) (full : List (TraceEntry ε ρ γ)) :
    ToolchainRun ε ρ γ → Prop
  | unstarted (hlog : log.hasErrors = true) : Gated log r full { log }
  | uncompiled (hlog : log.hasErrors = false) (hscanned : (r.scanned log).hasErrors = true) :
      Gated log r full { log := r.scanned log, trace := full.take 2 }
  | compiled (hlog : log.hasErrors = false) (hscanned : (r.scanned log).hasErrors = false) :
      Gated log r full
        { log := r.scanned log ++ r.found .compile
          trace := full
          units := if (r.scanned log ++ r.found .compile).hasErrors then none
            else some r.compile.value }

theorem gated_run (toolchain : Toolchain ε ρ γ) (log : Log) (fs : FileSystem)
    (entries : List Path) (settings : Settings) :
    Gated log (toolchain.replies log fs entries settings)
      (toolchain.fullTrace log fs entries settings) (toolchain.run log fs entries settings) := by
  set r := toolchain.replies log fs entries settings
  unfold run
  cases hlog : log.hasErrors with
  | true => exact .unstarted hlog
  | false =>
      rw [if_neg Bool.false_ne_true]
      -- The second gate looks at what the first two methods have left in the log.
      change Gated log r _ (if (r.scanned log).hasErrors then _ else _)
      cases hscanned : (r.scanned log).hasErrors with
      | true => exact .uncompiled hlog hscanned
      | false => exact .compiled hlog hscanned

/-- What the gates of a run guarantee, by the log it starts with and the replies. -/
structure Gates (log : Log) (r : Replies ε ρ γ) (run : ToolchainRun ε ρ γ) : Prop where
  resolver_iff : .resolver ∈ stages run.trace ↔ log.hasErrors = false
  scan_iff : .scan ∈ stages run.trace ↔ log.hasErrors = false
  compile_iff : .compile ∈ stages run.trace ↔
    log.hasErrors = false ∧ (r.scanned log).hasErrors = false
  /-- Nothing is compiled only if an error stands in the way. -/
  compile_of_sound : run.log.hasErrors = false → .compile ∈ stages run.trace
  /-- The log grows by what the called methods found. -/
  log_eq : run.log = log ++ (stages run.trace).flatMap r.found
  /-- There are units exactly if there are no errors. -/
  units_eq : run.units = if run.log.hasErrors then none else some r.compile.value

/-- A run keeps the gates, wherever it ends. -/
theorem gates_run (toolchain : Toolchain ε ρ γ) (log : Log) (fs : FileSystem)
    (entries : List Path) (settings : Settings) :
    Gates log (toolchain.replies log fs entries settings)
      (toolchain.run log fs entries settings) := by
  have hgated := toolchain.gated_run log fs entries settings
  have hfull : stages (toolchain.fullTrace log fs entries settings) =
      [.resolver, .scan, .compile] := rfl
  -- From here on it only matters how much of the full trace there is.
  generalize toolchain.fullTrace log fs entries settings = full at hgated hfull
  generalize toolchain.replies log fs entries settings = r at hgated ⊢
  generalize toolchain.run log fs entries settings = run at hgated ⊢
  cases hgated with
  | unstarted hlog =>
      exact {
        resolver_iff := by simp [stages, hlog]
        scan_iff := by simp [stages, hlog]
        compile_iff := by simp [stages, hlog]
        compile_of_sound := fun hsound => by simp [hlog] at hsound
        log_eq := by simp [stages]
        units_eq := by simp [hlog] }
  | uncompiled hlog hscanned =>
      have hstages : stages (full.take 2) = [.resolver, .scan] := by
        unfold stages at hfull ⊢
        rw [List.map_take, hfull]
        rfl
      exact {
        resolver_iff := by simp [hstages, hlog]
        scan_iff := by simp [hstages, hlog]
        compile_iff := by simp [hstages, hscanned]
        compile_of_sound := fun hsound => by simp [hscanned] at hsound
        log_eq := by simp [hstages, Replies.scanned]
        units_eq := by simp [hscanned] }
  | compiled hlog hscanned =>
      exact {
        resolver_iff := by simp [hfull, hlog]
        scan_iff := by simp [hfull, hlog]
        compile_iff := by simp [hfull, hlog, hscanned]
        compile_of_sound := fun _ => by simp [hfull]
        log_eq := by simp [hfull, Replies.scanned]
        units_eq := rfl }

/-- The methods are called in order, each with what the ones before it left. -/
theorem trace_run_follows (toolchain : Toolchain ε ρ γ) (log : Log) (fs : FileSystem)
    (entries : List Path) (settings : Settings) :
    (toolchain.run log fs entries settings).trace <+:
      toolchain.fullTrace log fs entries settings := by
  have hgated := toolchain.gated_run log fs entries settings
  generalize toolchain.run log fs entries settings = run at hgated ⊢
  cases hgated with
  | unstarted hlog => exact List.nil_prefix
  | uncompiled hlog hscanned => exact List.take_prefix 2 _
  | compiled hlog hscanned => exact List.prefix_rfl

end Toolchain
end BundleFront
