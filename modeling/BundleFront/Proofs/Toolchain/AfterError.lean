import BundleFront.Proofs.Build
import BundleFront.Proofs.Transform
import BundleFront.Toolchain.Script

/-!
# Methods that start on a log with an error

A run looks at its log in front of the resolver and in front of the compiler.  In front
of the scanner it does not look.  So the scanner is the one method that ever starts on a
log that holds an error, and it does whenever the resolver has just reported one.

* `Replies.before` — the log on which each method starts.
* `Toolchain.hasErrors_log_iff` — whose log holds an error, in any run.
* `started_after_error_iff` — the same for every build and every transform.
-/

namespace BundleFront

variable {ε ρ γ : Type}

theorem Log.hasErrors_append (log : Log) (found : List Diagnostic) :
    Log.hasErrors (log ++ found) = (log.hasErrors || Log.hasErrors found) := List.any_append

/-- The log of a call when a method starts. -/
def Replies.before (replies : Replies ε ρ γ) (log : Log) : Stage → Log
  | .resolver => log
  | .scan => log ++ replies.found .resolver
  | .compile => replies.scanned log

namespace Toolchain

variable {toolchain : Toolchain ε ρ γ} {log : Log} {fs : FileSystem} {entries : List Path}
  {settings : Settings} {entry : TraceEntry ε ρ γ}

theorem log_of_mem_fullTrace (h : entry ∈ toolchain.fullTrace log fs entries settings) :
    entry.call.log = (toolchain.replies log fs entries settings).before log entry.call.stage := by
  simp only [fullTrace, List.mem_cons, List.not_mem_nil, or_false] at h
  rcases h with rfl | rfl | rfl
  · rfl
  · rfl
  · rfl

/-- A method that is called starts on a log with an error exactly if it is the scanner and the
resolver reported one. -/
theorem hasErrors_log_iff (h : entry ∈ (toolchain.run log fs entries settings).trace) :
    entry.call.log.hasErrors = true ↔ entry.call.stage = .scan ∧
      Log.hasErrors ((toolchain.replies log fs entries settings).found .resolver) = true := by
  have hgates := toolchain.gates_run log fs entries settings
  have hfollows := toolchain.trace_run_follows log fs entries settings
  have hcalled : entry.call.stage ∈ stages (toolchain.run log fs entries settings).trace :=
    List.mem_map_of_mem h
  rw [log_of_mem_fullTrace (hfollows.subset h)]
  cases hstage : entry.call.stage with
  | resolver =>
      rw [hstage] at hcalled
      have hlog := hgates.resolver_iff.mp hcalled
      simp [Replies.before, hlog]
  | scan =>
      rw [hstage] at hcalled
      have hlog := hgates.scan_iff.mp hcalled
      simp [Replies.before, Log.hasErrors_append, hlog]
  | compile =>
      rw [hstage] at hcalled
      have hscanned := (hgates.compile_iff.mp hcalled).2
      simp [Replies.before, hscanned]

end Toolchain

/-- In every build and every transform, a method starts on a log that holds an error exactly if it
is the scanner and the resolver has reported an error. -/
theorem started_after_error_iff (toolchain : Toolchain ε ρ γ) :
    (∀ (options : BuildOptions) (plugins : List Plugin) (fs : FileSystem) (cache : FilterCache),
      let plan := (options.plan plugins fs cache).1
      ∀ entry ∈ (build options plugins fs toolchain cache).1.trace,
        (entry.call.log.hasErrors = true ↔ entry.call.stage = .scan ∧
          Log.hasErrors ((BuildPlan.replies plan fs toolchain).found .resolver) = true)) ∧
    ∀ (input : String) (options : TransformOptions),
      ∀ entry ∈ (transform input options toolchain).trace,
        (entry.call.log.hasErrors = true ↔ entry.call.stage = .scan ∧
          Log.hasErrors ((options.replies input toolchain).found .resolver) = true) := by
  refine ⟨?build, ?transform⟩
  case build =>
    intro options plugins fs cache plan entry hentry
    exact Toolchain.hasErrors_log_iff hentry
  case transform =>
    intro input options entry hentry
    exact Toolchain.hasErrors_log_iff hentry

/-- The call of the scanner behind a resolver that reported an error. -/
theorem started_after_error_iff_failingResolver :
    let failing := Script.toolchain { resolver := [.error "resolver failed"] }
    ∃ entry ∈ (transform "let x" {} failing).trace,
      entry.call.stage = .scan ∧ entry.call.log.hasErrors = true := by
  intro failing
  obtain ⟨entry, hentry, hstage⟩ :
      ∃ entry ∈ (transform "let x" {} failing).trace, entry.call.stage = .scan := by
    decide +kernel
  have hresolver : Log.hasErrors
      ((TransformOptions.replies "let x" {} failing).found .resolver) = true := by
    decide +kernel
  exact ⟨entry, hentry, hstage,
    ((started_after_error_iff failing).2 "let x" {} entry hentry).mpr ⟨hstage, hresolver⟩⟩

/-- When the resolver fails, its error does not keep the scanner from running. -/
theorem scan_starts_after_resolver_failed :
    let failing := Script.toolchain { resolver := [.error "resolver failed"] }
    let files : MemoryFiles := { workingDirectory := ⟨"/project"⟩ }
    let options : BuildOptions := { entryPoints := [⟨"src/a.js"⟩] }
    (¬ ∀ entry ∈ (build options [] files.toFileSystem failing {}).1.trace,
      entry.call.log.hasErrors = false) ∧
    ¬ ∀ entry ∈ (transform "let x" {} failing).trace, entry.call.log.hasErrors = false := by
  decide +kernel

end BundleFront
