import BundleFront.Proofs.Plugin.Alike
import BundleFront.Proofs.Toolchain.Respect
import BundleFront.Toolchain.Script

/-!
# What a script sees of the settings

A scripted toolchain asks the settings for two things only: which loader is meant for a
path, and where the output goes.  Neither the place of a filter nor the way to report
shows in what it does.

* `Script.respects_toolchain` — settings with alike loaders and the same place of output
  are alike to every scripted toolchain, with equal resolvers and equal graphs.
-/

namespace BundleFront.Script

section
variable {s t : Settings}
  (hloaders : List.Forall₂ LoaderPlugin.Alike s.loaderPlugins t.loaderPlugins)
include hloaders

theorem loadFile_eq (fs : FileSystem) (internal : Bool) (log : Log) (path : Path) :
    loadFile fs s internal log path = loadFile fs t internal log path := by
  have hfound := LoaderPlugin.find?_alike hloaders path internal
  unfold loadFile
  generalize LoaderPlugin.find? s.loaderPlugins path internal = found at hfound ⊢
  generalize LoaderPlugin.find? t.loaderPlugins path internal = other at hfound ⊢
  cases hfound with
  | none => rfl
  | some halike =>
      dsimp only
      rw [halike.loadInto_eq, halike.plugin_eq]

theorem loadFiles_eq (fs : FileSystem) (internal : Bool) (log : Log) (paths : List Path) :
    loadFiles fs s internal log paths = loadFiles fs t internal log paths := by
  induction paths generalizing log with
  | nil => rfl
  | cons path rest ih => simp only [loadFiles, loadFile_eq hloaders, ih]

theorem scanStep_eq (fs : FileSystem) (entries : List Path) (log : Log) (step : ScanStep) :
    scanStep fs s entries log step = scanStep fs t entries log step := by
  cases step with
  | report => rfl
  | load path internal => simp only [scanStep, loadFiles_eq hloaders]
  | loadEntries internal => simp only [scanStep, loadFiles_eq hloaders]

theorem scanSteps_eq (fs : FileSystem) (entries : List Path) (log : Log) (steps : List ScanStep) :
    scanSteps fs s entries log steps = scanSteps fs t entries log steps := by
  induction steps generalizing log with
  | nil => rfl
  | cons step rest ih => simp only [scanSteps, scanStep_eq hloaders, ih]

end

theorem toOutput_eq {s t : Settings} (hdestination : s.destination = t.destination)
    (hdirectory : s.outputDirectory = t.outputDirectory) (unit : ScriptedUnit) :
    ScriptedUnit.toOutput s unit = ScriptedUnit.toOutput t unit := by
  unfold ScriptedUnit.toOutput outputBase Settings.outputFile?
  rw [hdestination, hdirectory]

/-- A scripted toolchain does not look at anything but the loaders and the place of the output. -/
theorem respects_toolchain (script : Script) {same : Settings → Settings → Prop}
    (hloaders : ∀ {s t : Settings}, same s t →
      List.Forall₂ LoaderPlugin.Alike s.loaderPlugins t.loaderPlugins)
    (hdestination : ∀ {s t : Settings}, same s t → s.destination = t.destination)
    (hdirectory : ∀ {s t : Settings}, same s t → s.outputDirectory = t.outputDirectory) :
    script.toolchain.Respects same Eq Eq := by
  refine ⟨?resolver, ?scan, ?compile⟩
  case resolver =>
    intro fs log s t _
    exact ⟨rfl, rfl, rfl⟩
  case scan =>
    rintro log fs entries r _ s t rfl hsame
    have hsteps := scanSteps_eq (hloaders hsame) fs entries log script.scan
    refine ⟨rfl, ?_, ?_⟩
    · simp only [toolchain, hsteps]
    · simp only [toolchain, hsteps]
  case compile =>
    rintro log graph _ s t rfl hsame
    refine ⟨?_, rfl, rfl⟩
    exact List.map_congr_left fun unit _ =>
      toOutput_eq (hdestination hsame) (hdirectory hsame) unit

end BundleFront.Script
