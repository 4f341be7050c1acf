import BundleFront.Proofs.Checked
import BundleFront.Proofs.Diagnostic.Partition
import BundleFront.Proofs.Toolchain.Gates
import BundleFront.Proofs.Toolchain.Respect
import BundleFront.Session

/-!
# What a build hands back

A build hands back three lists: the errors, the warnings and the files.  They belong
together: the errors and warnings are all that the checks and the called methods
found, and there are files only if none of it is an error.  Then there is one file for
each compiled unit.

* `BuildPlan.split_run` — the two lists of messages.
* `BuildPlan.outputFiles_run` — the files, by the errors beside them.
* `BuildPlan.Alike.result_eq` — plans that are alike to the toolchain hand back the same.
* `build_gated` — both, with the calls that are made, for every toolchain.
-/

namespace BundleFront

variable {ε ρ γ : Type}

/-- A file that hands back a unit.  Only output without a file of its own is renamed. -/
structure OutputFile.Carries (destination : Destination) (file : OutputFile)
    (unit : OutputUnit) : Prop where
  path_of_stdout : destination = .stdout → file.path = ⟨"<stdout>"⟩
  path_of_file : destination ≠ .stdout → file.path = unit.path
  contents_eq : file.contents = unit.contents

theorem Settings.writesToStdout_iff (settings : Settings) :
    settings.writesToStdout = true ↔ settings.destination = .stdout := by
  unfold writesToStdout
  cases settings.destination <;> simp

/-- Each unit has its own file, in the order of the units. -/
theorem OutputFile.carries_ofUnits (settings : Settings) (units : List OutputUnit) :
    List.Forall₂ (Carries settings.destination) (ofUnits settings units) units := by
  induction units with
  | nil => exact .nil
  | cons unit rest ih =>
      refine .cons ?_ ih
      by_cases hstdout : settings.writesToStdout = true
      · have hdestination := settings.writesToStdout_iff.mp hstdout
        exact {
          path_of_stdout := fun _ => if_pos hstdout
          path_of_file := fun h => absurd hdestination h
          contents_eq := rfl }
      · have hdestination := mt settings.writesToStdout_iff.mpr hstdout
        exact {
          path_of_stdout := fun h => absurd h hdestination
          path_of_file := fun _ => if_neg hstdout
          contents_eq := rfl }

namespace BuildPlan

variable (plan : Checked BuildPlan) (fs : FileSystem) (toolchain : Toolchain ε ρ γ)

/-- The replies that a toolchain has for a checked plan. -/
def replies : Replies ε ρ γ :=
  toolchain.replies plan.errors fs plan.value.entries plan.value.settings

theorem gates_run :
    Toolchain.Gates plan.errors (replies plan fs toolchain)
      (toolchain.run plan.errors fs plan.value.entries plan.value.settings) :=
  toolchain.gates_run plan.errors fs plan.value.entries plan.value.settings

/-- Everything that a build collects, in order. -/
def collected : Log :=
  (toolchain.run plan.errors fs plan.value.entries plan.value.settings).log

theorem collected_eq :
    collected plan fs toolchain =
      plan.errors ++
        (stages (run plan fs toolchain).trace).flatMap (replies plan fs toolchain).found :=
  (gates_run plan fs toolchain).log_eq

theorem result_run :
    (run plan fs toolchain).result = {
      errors := (Diagnostic.partition (collected plan fs toolchain)).1
      warnings := (Diagnostic.partition (collected plan fs toolchain)).2
      outputFiles := OutputFile.ofUnits plan.value.settings
        ((toolchain.run plan.errors fs plan.value.entries plan.value.settings).units.getD []) } :=
  rfl

theorem reported_run :
    (run plan fs toolchain).reported =
      (collected plan fs toolchain).report plan.value.settings.log := rfl

/-- A build shows what its checks found, and then what the called methods found. -/
theorem split_run :
    Diagnostic.Split
      (plan.errors ++
        (stages (run plan fs toolchain).trace).flatMap (replies plan fs toolchain).found)
      (run plan fs toolchain).result.errors (run plan fs toolchain).result.warnings := by
  rw [← collected_eq, result_run]
  exact Diagnostic.split_partition _

/-- There are files only without errors, and then all that the units make. -/
theorem outputFiles_run :
    (run plan fs toolchain).result.outputFiles =
      if (run plan fs toolchain).result.errors = [] then
        OutputFile.ofUnits plan.value.settings (replies plan fs toolchain).compile.value
      else [] := by
  have hunits := (gates_run plan fs toolchain).units_eq
  have hsplit := Diagnostic.split_partition
    (toolchain.run plan.errors fs plan.value.entries plan.value.settings).log
  change OutputFile.ofUnits plan.value.settings (Option.getD (toolchain.run plan.errors fs
    plan.value.entries plan.value.settings).units []) = _
  rw [hunits]
  by_cases herrors : (run plan fs toolchain).result.errors = []
  · rw [if_pos herrors, hsplit.errors_eq_nil_iff.mp herrors]
    rfl
  · have hlog := Bool.of_not_eq_false (mt hsplit.errors_eq_nil_iff.mpr herrors)
    rw [if_neg herrors, hlog]
    rfl

end BuildPlan

/-! ## Plans that are alike -/

namespace BuildPlan

/-- Plans with the same entries and problems, and with settings that are alike. -/
structure Alike (same : Settings → Settings → Prop) (p q : Checked BuildPlan) : Prop where
  settings : same p.value.settings q.value.settings
  entries_eq : p.value.entries = q.value.entries
  problems_eq : p.problems = q.problems

variable {fs : FileSystem} {toolchain : Toolchain ε ρ γ} {same : Settings → Settings → Prop}
  {sameResolver : ρ → ρ → Prop} {sameGraph : γ → γ → Prop} {p q : Checked BuildPlan}

theorem Alike.alike_run (h : Alike same p q)
    (hrespects : toolchain.Respects same sameResolver sameGraph) :
    ToolchainRun.Alike same sameResolver sameGraph
      (toolchain.run p.errors fs p.value.entries p.value.settings)
      (toolchain.run q.errors fs q.value.entries q.value.settings) := by
  have herrors : p.errors = q.errors := by
    unfold Checked.errors
    rw [h.problems_eq]
  rw [herrors, h.entries_eq]
  exact hrespects.alike_run h.settings _ fs _

/-- A toolchain that does not tell the settings apart collects the same for either plan. -/
theorem Alike.collected_eq (h : Alike same p q)
    (hrespects : toolchain.Respects same sameResolver sameGraph) :
    collected p fs toolchain = collected q fs toolchain :=
  (h.alike_run hrespects).log_eq

theorem Alike.trace (h : Alike same p q)
    (hrespects : toolchain.Respects same sameResolver sameGraph) :
    List.Forall₂ (TraceEntry.Alike same sameResolver sameGraph) (run p fs toolchain).trace
      (run q fs toolchain).trace :=
  (h.alike_run hrespects).trace

/-- It also hands back the same, if the output goes to the same place. -/
theorem Alike.result_eq (h : Alike same p q)
    (hrespects : toolchain.Respects same sameResolver sameGraph)
    (hdestination : p.value.settings.destination = q.value.settings.destination) :
    (run p fs toolchain).result = (run q fs toolchain).result := by
  have hfiles (units : List OutputUnit) : OutputFile.ofUnits p.value.settings units =
      OutputFile.ofUnits q.value.settings units := by
    unfold OutputFile.ofUnits Settings.writesToStdout
    rw [hdestination]
  rw [result_run, result_run, h.collected_eq hrespects, (h.alike_run hrespects).units_eq, hfiles]

end BuildPlan

/-- A build calls the resolver and the scanner exactly if its options are sound, and the compiler
exactly if nothing is wrong after that.  Its messages are all that was found, in order.  With an
error among them there are no files, and without one each compiled unit has its file. -/
theorem build_gated (options : BuildOptions) (plugins : List Plugin) (fs : FileSystem)
    (toolchain : Toolchain ε ρ γ) (cache : FilterCache) :
    let plan := (options.plan plugins fs cache).1
    let settings := plan.value.settings
    let replies := toolchain.replies plan.errors fs plan.value.entries settings
    let outcome := (build options plugins fs toolchain cache).1
    let result := outcome.result
    let ran := stages outcome.trace
    outcome.trace <+: toolchain.fullTrace plan.errors fs plan.value.entries settings ∧
    (.resolver ∈ ran ↔ plan.problems = []) ∧
    (.scan ∈ ran ↔ plan.problems = []) ∧
    (.compile ∈ ran ↔ plan.problems = [] ∧ (replies.scanned plan.errors).hasErrors = false) ∧
    Diagnostic.Split (plan.errors ++ ran.flatMap replies.found) result.errors result.warnings ∧
    (Diagnostic.ofMessages .error result.errors ++
      Diagnostic.ofMessages .warning result.warnings).Perm
        (plan.errors ++ ran.flatMap replies.found) ∧
    (result.errors ≠ [] → result.outputFiles = []) ∧
    (result.errors = [] → List.Forall₂ (OutputFile.Carries settings.destination)
      result.outputFiles replies.compile.value) := by
  intro plan settings replies outcome result ran
  have hgates := BuildPlan.gates_run plan fs toolchain
  have hsound := Checked.hasErrors_errors_eq_false_iff plan
  have hsplit := BuildPlan.split_run plan fs toolchain
  have hfiles := BuildPlan.outputFiles_run plan fs toolchain
  refine ⟨?calls, ?resolver, ?scan, ?compile, hsplit, hsplit.perm, ?failed, ?succeeded⟩
  case calls => exact toolchain.trace_run_follows plan.errors fs plan.value.entries settings
  case resolver => exact hgates.resolver_iff.trans hsound
  case scan => exact hgates.scan_iff.trans hsound
  case compile => exact hgates.compile_iff.trans (and_congr_left fun _ => hsound)
  case failed =>
    intro herrors
    exact hfiles.trans (if_neg herrors)
  case succeeded =>
    intro herrors
    have hunits : result.outputFiles = OutputFile.ofUnits settings replies.compile.value :=
      hfiles.trans (if_pos herrors)
    rw [hunits]
    exact OutputFile.carries_ofUnits settings replies.compile.value

end BundleFront
