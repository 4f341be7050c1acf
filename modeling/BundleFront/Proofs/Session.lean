import BundleFront.Proofs.Build
import BundleFront.Proofs.Plugin.Alike
import BundleFront.Proofs.Settings.Problems
import BundleFront.Proofs.Toolchain.Script

/-!
# Builds that take turns on a cache

Builds may share a cache of filters, and each finds there what the ones before it have
left.  This saves work and shows nowhere else: a build hands back what it would hand back
with a cache of its own, provided that its toolchain tells filters apart by their patterns
and by what they match.

* `BuildOptions.alike_plan` — a plan depends on the cache in the places of filters only.
* `BuildCall.result_eq` — on any two caches a build hands back the same.
* `BuildCall.sharing_unseen` — all builds of a sequence, by induction on the sequence.
* `Request.builds_answerAll` and `Request.answerAll_unseen` — the same for a session, where
  transforms may stand between the builds.
-/

namespace BundleFront

/-- Settings that differ at most in the places of the filters of their loaders. -/
structure Settings.AlikeInFilters (s t : Settings) : Prop where
  loaderPlugins : List.Forall₂ LoaderPlugin.Alike s.loaderPlugins t.loaderPlugins
  rest_eq : { s with loaderPlugins := t.loaderPlugins } = t

theorem Settings.AlikeInFilters.destination_eq {s t : Settings} (h : s.AlikeInFilters t) :
    s.destination = t.destination := by
  have hfield := congrArg Settings.destination h.rest_eq
  exact hfield

theorem Settings.AlikeInFilters.outputDirectory_eq {s t : Settings} (h : s.AlikeInFilters t) :
    s.outputDirectory = t.outputDirectory := by
  have hfield := congrArg Settings.outputDirectory h.rest_eq
  exact hfield

/-- Scripts never ask for the place of a filter. -/
theorem Script.respects_alikeInFilters (script : Script) :
    script.toolchain.Respects Settings.AlikeInFilters Eq Eq :=
  script.respects_toolchain (fun h => h.loaderPlugins) (fun h => h.destination_eq)
    fun h => h.outputDirectory_eq

theorem FilterCache.reachable_new : FilterCache.Reachable {} := ⟨[], .nil _⟩

/-- Only the loaders of a plan come from the cache. -/
theorem BuildOptions.alike_plan (o : BuildOptions) (plugins : List Plugin) (fs : FileSystem)
    {cache other : FilterCache} (hcache : cache.Reachable) (hother : other.Reachable) :
    BuildPlan.Alike Settings.AlikeInFilters (o.plan plugins fs cache).1
      (o.plan plugins fs other).1 := by
  have hinstalled := Installation.alike_ofPlugins plugins hcache hother
  refine ⟨⟨hinstalled.loaders, rfl⟩, rfl, ?_⟩
  rw [problems_plan, problems_plan, hinstalled.problems_eq]

/-- A build that somebody asks for, with a toolchain of its own kind. -/
structure BuildCall where
  {ε ρ γ : Type}
  options : BuildOptions
  plugins : List Plugin
  fs : FileSystem
  toolchain : Toolchain ε ρ γ

namespace BuildCall

/-- What the options come to on a cache. -/
def plan (call : BuildCall) (cache : FilterCache) : Checked BuildPlan :=
  (call.options.plan call.plugins call.fs cache).1

def result (call : BuildCall) (cache : FilterCache) : BuildResult :=
  (build call.options call.plugins call.fs call.toolchain cache).1.result

/-- The cache that the build leaves. -/
def after (call : BuildCall) (cache : FilterCache) : FilterCache :=
  (build call.options call.plugins call.fs call.toolchain cache).2

/-- Builds one after the other, each with the cache that the ones before it left. -/
def inTurn : FilterCache → List BuildCall → List (BuildCall × FilterCache)
  | _, [] => []
  | cache, call :: rest => (call, cache) :: inTurn (call.after cache) rest

/-- Whatever the toolchain learns about a filter is its pattern or whether it matches some path. -/
def SeesOnlyMatches (call : BuildCall) : Prop :=
  ∃ (sameResolver : call.ρ → call.ρ → Prop) (sameGraph : call.γ → call.γ → Prop),
    call.toolchain.Respects Settings.AlikeInFilters sameResolver sameGraph

variable {cache other : FilterCache}

theorem reachable_after (call : BuildCall) (hcache : cache.Reachable) :
    (call.after cache).Reachable :=
  hcache.after (Installation.calls_ofPlugins call.plugins cache)

theorem alike_plan (call : BuildCall) (hcache : cache.Reachable) (hother : other.Reachable) :
    BuildPlan.Alike Settings.AlikeInFilters (call.plan cache) (call.plan other) :=
  call.options.alike_plan call.plugins call.fs hcache hother

/-- On any two caches a build hands back the same. -/
theorem result_eq (call : BuildCall) (hsees : call.SeesOnlyMatches) (hcache : cache.Reachable)
    (hother : other.Reachable) : call.result cache = call.result other := by
  obtain ⟨sameResolver, sameGraph, hrespects⟩ := hsees
  have hplan := call.alike_plan hcache hother
  exact hplan.result_eq hrespects hplan.settings.destination_eq

/-- Builds that take turns on a cache hand back, one by one, what each hands back on a new cache of
its own.  Their plans differ from those at most in the places of filters. -/
theorem sharing_unseen (calls : List BuildCall) (hcache : cache.Reachable)
    (hsees : ∀ call ∈ calls, call.SeesOnlyMatches) :
    ((inTurn cache calls).map fun used => used.1.result used.2) =
        (calls.map fun call => call.result {}) ∧
      List.Forall₂ (BuildPlan.Alike Settings.AlikeInFilters)
        ((inTurn cache calls).map fun used => used.1.plan used.2)
        (calls.map fun call => call.plan {}) := by
  induction calls generalizing cache with
  | nil => exact ⟨rfl, .nil⟩
  | cons call rest ih =>
      obtain ⟨hsee, hrest⟩ := List.forall_mem_cons.mp hsees
      obtain ⟨hresults, hplans⟩ := ih (call.reachable_after hcache) hrest
      have hresult := call.result_eq hsee hcache FilterCache.reachable_new
      have hplan := call.alike_plan hcache FilterCache.reachable_new
      exact ⟨congrArg₂ List.cons hresult hresults, .cons hplan hplans⟩

/-- A build that fails for a filter, and one that uses the filter that this build has left.  Both
find a cache in use, so their filters are in other places than on a new one. -/
theorem sharing_unseen_yaml :
    let callback : LoaderCallback := fun _ => .ok { contents := "1", warnings := [⟨"old", none⟩] }
    let script : Script := {
      scan := [.load ⟨"/a.yaml"⟩ false]
      units := [{ path := .given ⟨"/a.js"⟩, contents := [49] }] }
    let good : Plugin := [.setName "yaml", .addLoader "yaml$" false callback]
    let bad : Plugin := good ++ [.addLoader "(" false callback]
    let call (plugin : Plugin) : BuildCall := {
      options := { entryPoints := [⟨"/a.yaml"⟩] }
      plugins := [plugin]
      fs := ({} : MemoryFiles).toFileSystem
      toolchain := script.toolchain }
    let cache := (({} : FilterCache).lookup "svg$").2
    let calls := [call bad, call good]
    cache.Reachable ∧ (∀ call ∈ calls, call.SeesOnlyMatches) ∧
      ((inTurn cache calls).map fun used => used.1.result used.2) =
        (calls.map fun call => call.result {}) ∧
      (calls.map fun call => call.result {}) = [
        { errors := [⟨"[yaml] Loader filter is not a valid regular expression: \"(\"", none⟩] },
        { warnings := [⟨"old", none⟩], outputFiles := [⟨⟨"<stdout>"⟩, [49]⟩] }] ∧
      ((inTurn cache calls).flatMap fun used =>
        (used.1.plan used.2).value.settings.loaderPlugins.map (·.filter.slot)) = [1, 1] ∧
      (calls.flatMap fun call =>
        (call.plan {}).value.settings.loaderPlugins.map (·.filter.slot)) = [0, 0] := by
  intro callback script good bad call cache calls
  have hcache : cache.Reachable := ⟨_, .singleton {} "svg$"⟩
  have hsees : ∀ call ∈ calls, call.SeesOnlyMatches := by
    have hscript (plugin : Plugin) : (call plugin).SeesOnlyMatches :=
      ⟨Eq, Eq, script.respects_alikeInFilters⟩
    exact List.forall_mem_cons.mpr ⟨hscript bad, List.forall_mem_singleton.mpr (hscript good)⟩
  refine ⟨hcache, hsees, (sharing_unseen calls hcache hsees).1, ?_, ?_, ?_⟩
  · decide +kernel
  · decide +kernel
  · decide +kernel

end BuildCall

/-! ## Sessions -/

section
variable {ε ρ γ : Type}

/-- The build that a call of a session is, if it is one. -/
def Request.buildCall? : Request ε ρ γ → Option BuildCall
  | .build options plugins fs toolchain => some ⟨options, plugins, fs, toolchain⟩
  | .transform .. => none

/-- What a call of a session hands back. -/
def Response.result : Response ε ρ γ → BuildResult ⊕ TransformResult
  | .build outcome => .inl outcome.result
  | .transform outcome => .inr outcome.result

/-- The builds of a session take turns on its cache, which transforms leave as it is. -/
theorem Request.builds_answerAll (cache : FilterCache) (requests : List (Request ε ρ γ)) :
    (answerAll cache requests).filterMap (fun answered => answered.1.result.getLeft?) =
      (BuildCall.inTurn cache (requests.filterMap buildCall?)).map fun used =>
        used.1.result used.2 := by
  induction requests generalizing cache with
  | nil => rfl
  | cons request rest ih =>
      cases request with
      | build options plugins fs toolchain =>
          exact congrArg (List.cons _) (ih _)
      | transform input options toolchain =>
          exact ih cache

/-- A call whose toolchain learns nothing else of filters hands back the same on any two caches. -/
theorem Request.result_answer_eq {request : Request ε ρ γ}
    (hsees : ∀ call ∈ request.buildCall?, call.SeesOnlyMatches) {cache other : FilterCache}
    (hcache : cache.Reachable) (hother : other.Reachable) :
    (request.answer cache).1.result = (request.answer other).1.result := by
  cases request with
  | build options plugins fs toolchain =>
      have hsee := hsees ⟨options, plugins, fs, toolchain⟩ rfl
      have hresult := BuildCall.result_eq ⟨options, plugins, fs, toolchain⟩ hsee hcache hother
      exact congrArg Sum.inl hresult
  | transform input options toolchain => rfl

theorem Request.reachable_answer (request : Request ε ρ γ) {cache : FilterCache}
    (hcache : cache.Reachable) : (request.answer cache).2.Reachable := by
  cases request with
  | build options plugins fs toolchain =>
      exact BuildCall.reachable_after ⟨options, plugins, fs, toolchain⟩ hcache
  | transform input options toolchain => exact hcache

/-- The calls of a session hand back, one by one, what each hands back on a new cache. -/
theorem Request.answerAll_unseen (requests : List (Request ε ρ γ)) {cache : FilterCache}
    (hcache : cache.Reachable)
    (hsees : ∀ request ∈ requests, ∀ call ∈ request.buildCall?, call.SeesOnlyMatches) :
    ((answerAll cache requests).map fun answered => answered.1.result) =
      requests.map fun request => (request.answer {}).1.result := by
  induction requests generalizing cache with
  | nil => rfl
  | cons request rest ih =>
      obtain ⟨hsee, hrest⟩ := List.forall_mem_cons.mp hsees
      have hresult := result_answer_eq hsee hcache FilterCache.reachable_new
      exact congrArg₂ List.cons hresult (ih (request.reachable_answer hcache) hrest)

end

end BundleFront
