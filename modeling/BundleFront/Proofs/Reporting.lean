import BundleFront.Proofs.Build
import BundleFront.Proofs.Toolchain.Script
import BundleFront.Proofs.Transform

/-!
# How a call reports

The level, the error limit and the colour of a report travel through a whole call, inside
its options and then inside its settings, and are looked at once, in the end.  Nothing but
the report depends on them, provided that the toolchain does not look at them either.

* `BuildOptions.plan_reporting` and `TransformOptions.plan_reporting` — options for
  another report come to the same settings for another report.
* `reporting_unseen` — builds and transforms with one another's reports: everything else
  is the same, and either report is made of what both have collected.
-/

namespace BundleFront

/-- Settings that differ at most in how a call reports. -/
def Settings.AlikeButLog (s t : Settings) : Prop := { s with log := t.log } = t

/-- Scripts never ask how a call reports. -/
theorem Script.respects_alikeButLog (script : Script) :
    script.toolchain.Respects Settings.AlikeButLog Eq Eq := by
  have hfield {α : Type} {s t : Settings} (h : s.AlikeButLog t) (field : Settings → α) :
      field { s with log := t.log } = field t := congrArg field h
  refine script.respects_toolchain (fun h => ?_) (hfield · Settings.destination)
    (hfield · Settings.outputDirectory)
  rw [← hfield h Settings.loaderPlugins]
  exact List.forall₂_same.mpr fun loader _ => .refl loader

/-- The options for the same build, with another report. -/
def BuildOptions.reporting (o : BuildOptions) (log : LogOptions) : BuildOptions :=
  { o with logLevel := log.level, errorLimit := log.errorLimit, color := log.color }

/-- The options for the same transform, with another report. -/
def TransformOptions.reporting (o : TransformOptions) (log : LogOptions) : TransformOptions :=
  { o with logLevel := log.level, errorLimit := log.errorLimit, color := log.color }

section
variable (plugins : List Plugin) (fs : FileSystem) (cache : FilterCache) (log : LogOptions)

/-- Only the report changes in a plan, and the cache does not notice. -/
theorem BuildOptions.plan_reporting (o : BuildOptions) :
    (o.reporting log).plan plugins fs cache =
      let plan := (o.plan plugins fs cache).1
      ({ plan with value := { plan.value with settings := { plan.value.settings with log } } },
        (o.plan plugins fs cache).2) := rfl

theorem TransformOptions.plan_reporting (o : TransformOptions) (input : String) :
    (o.reporting log).plan input =
      { o.plan input with value := { (o.plan input).value with log } } := rfl

theorem BuildOptions.log_plan (o : BuildOptions) :
    (o.plan plugins fs cache).1.value.settings.log = o.logOptions := rfl

theorem TransformOptions.log_plan (o : TransformOptions) (input : String) :
    (o.plan input).value.log = o.logOptions := rfl

theorem BuildOptions.alike_plan_reporting (o : BuildOptions) :
    BuildPlan.Alike Settings.AlikeButLog (o.plan plugins fs cache).1
      ((o.reporting log).plan plugins fs cache).1 := by
  rw [plan_reporting]
  exact ⟨rfl, rfl, rfl⟩

end

variable {ε ρ γ : Type} {toolchain : Toolchain ε ρ γ} {sameResolver : ρ → ρ → Prop}
  {sameGraph : γ → γ → Prop}

namespace TransformOptions

variable (hrespects : toolchain.Respects Settings.AlikeButLog sameResolver sameGraph)
  (log : LogOptions) (input : String) (o : TransformOptions)
include hrespects

/-- Transforms with different reports run the toolchain to the same end. -/
theorem alike_toolchainRun_reporting :
    ToolchainRun.Alike Settings.AlikeButLog sameResolver sameGraph
      (o.toolchainRun input toolchain) ((o.reporting log).toolchainRun input toolchain) := by
  have hsettings : Settings.AlikeButLog (o.plan input).value { (o.plan input).value with log } :=
    rfl
  unfold toolchainRun
  rw [plan_reporting]
  exact hrespects.alike_run hsettings _ _ _

theorem unpacked_reporting :
    (o.reporting log).unpacked input toolchain = o.unpacked input toolchain := by
  unfold unpacked
  rw [(o.alike_toolchainRun_reporting hrespects log input).units_eq]

theorem collected_reporting :
    (o.reporting log).collected input toolchain = o.collected input toolchain := by
  unfold collected
  rw [(o.alike_toolchainRun_reporting hrespects log input).log_eq,
    o.unpacked_reporting hrespects log input]

end TransformOptions

/-- Reports are all that depends on how calls report.  With any other level, error limit and colour
a build or transform hands back the same, leaves the same cache and makes the same calls in the same
order.  The messages that it hands back are those that it has collected, and either report is made
from all of these. -/
theorem reporting_unseen
    (hrespects : toolchain.Respects Settings.AlikeButLog sameResolver sameGraph)
    (log : LogOptions) :
    (∀ (options : BuildOptions) (plugins : List Plugin) (fs : FileSystem) (cache : FilterCache),
      let plan := (options.plan plugins fs cache).1
      let replies := toolchain.replies plan.errors fs plan.value.entries plan.value.settings
      let outcome := (build options plugins fs toolchain cache).1
      let other := (build (options.reporting log) plugins fs toolchain cache).1
      let collected : Log := plan.errors ++ (stages outcome.trace).flatMap replies.found
      other.result = outcome.result ∧
        (build (options.reporting log) plugins fs toolchain cache).2 =
          (build options plugins fs toolchain cache).2 ∧
        List.Forall₂ (TraceEntry.Alike Settings.AlikeButLog sameResolver sameGraph)
          outcome.trace other.trace ∧
        Diagnostic.Split collected outcome.result.errors outcome.result.warnings ∧
        outcome.reported = collected.report options.logOptions ∧
        other.reported = collected.report log) ∧
      ∀ (input : String) (options : TransformOptions),
        let plan := options.plan input
        let replies := toolchain.replies plan.errors ({} : MemoryFiles).toFileSystem [] plan.value
        let outcome := transform input options toolchain
        let other := transform input (options.reporting log) toolchain
        let collected := options.collected input toolchain
        other.result = outcome.result ∧
          List.Forall₂ (TraceEntry.Alike Settings.AlikeButLog sameResolver sameGraph)
            outcome.trace other.trace ∧
          plan.errors ++ (stages outcome.trace).flatMap replies.found <+: collected ∧
          Diagnostic.Split collected outcome.result.errors outcome.result.warnings ∧
          outcome.reported = collected.report options.logOptions ∧
          other.reported = collected.report log := by
  refine ⟨?build, ?transform⟩
  case build =>
    intro options plugins fs cache plan replies outcome other collected
    let planOther := ((options.reporting log).plan plugins fs cache).1
    have halike : BuildPlan.Alike Settings.AlikeButLog plan planOther :=
      options.alike_plan_reporting plugins fs cache log
    have hcollected : BuildPlan.collected plan fs toolchain = collected :=
      BuildPlan.collected_eq plan fs toolchain
    have hother : BuildPlan.collected planOther fs toolchain = collected := by
      rw [← halike.collected_eq hrespects, hcollected]
    refine ⟨(halike.result_eq hrespects rfl).symm, rfl, halike.trace hrespects,
      BuildPlan.split_run plan fs toolchain, ?_, ?_⟩
    · rw [← hcollected, ← options.log_plan plugins fs cache]
      exact BuildPlan.reported_run plan fs toolchain
    · rw [← hother]
      exact BuildPlan.reported_run planOther fs toolchain
  case transform =>
    intro input options plan replies outcome other collected
    have hunpacked := options.unpacked_reporting hrespects log input
    have hcollected := options.collected_reporting hrespects log input
    refine ⟨?_, (options.alike_toolchainRun_reporting hrespects log input).trace,
      options.prefix_collected input toolchain, Diagnostic.split_partition collected, ?_, ?_⟩
    · unfold other outcome
      rw [result_transform, result_transform, hunpacked, hcollected]
    · unfold outcome
      rw [reported_transform, options.log_plan]
    · unfold other
      rw [reported_transform, hcollected, TransformOptions.log_plan]
      rfl

/-- A build that fails and reports one error of two, and the same build in silence; a transform
whose units are no code, in either way. -/
theorem reporting_unseen_silent :
    let broken : Script :=
      { scan := [.report (.error "first"), .report (.warning "odd"), .report (.error "second")] }
    let silent : LogOptions := { level := .silent }
    let options : BuildOptions := { entryPoints := [⟨"/a.js"⟩], errorLimit := 1 }
    let builds (options : BuildOptions) :=
      (build options [] ({} : MemoryFiles).toFileSystem broken.toolchain {}).1
    let transforms (options : TransformOptions) := transform "" options ({} : Script).toolchain
    broken.toolchain.Respects Settings.AlikeButLog Eq Eq ∧
      (builds (options.reporting silent)).result =
        { errors := [⟨"first", none⟩, ⟨"second", none⟩], warnings := [⟨"odd", none⟩] } ∧
      (builds options).reported =
        [⟨.error, "first"⟩, ⟨.warning, "odd"⟩, ⟨.error, "1 more errors"⟩] ∧
      (builds (options.reporting silent)).reported = [] ∧
      (transforms (TransformOptions.reporting {} silent)).result =
        { errors := [⟨"Internal error: unexpected compiler output (0 files)", none⟩] } ∧
      (transforms {}).reported =
        [⟨.error, "Internal error: unexpected compiler output (0 files)"⟩] := by
  intro broken silent options builds transforms
  have hrespects := broken.respects_alikeButLog
  have hbuild := (reporting_unseen hrespects silent).1 options [] ({} : MemoryFiles).toFileSystem {}
  have htransform := (reporting_unseen ({} : Script).respects_alikeButLog silent).2 "" {}
  refine ⟨hrespects, hbuild.1.trans ?_, ?_, ?_, htransform.1.trans ?_, ?_⟩
  · decide +kernel
  · decide +kernel
  · decide +kernel
  · decide +kernel
  · decide +kernel

end BundleFront
