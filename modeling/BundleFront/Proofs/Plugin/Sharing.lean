import BundleFront.Proofs.Plugin.Setup

/-!
# Builds that share a cache

A cache may be asked for filters directly, and plugins that are set up ask for more.
Either way it is asked for one pattern after the other, so whatever a new cache is used
for, its counters, its answers and the sharing of its filters come to the same account.

* `Plugin.filters_setup` — the filters of a plugin's loaders are the lookups of its
  setup that succeed, in order.
* `FilterCache.account_of_uses` — the account of a cache, for every sequence of uses.
-/

namespace BundleFront

/-! ## The filters of loaders -/

namespace Registration

theorem filters_addLoader (r : Registration) (plugin pattern : String) (matchInternal : Bool)
    (callback : LoaderCallback) :
    (r.addLoader plugin pattern matchInternal callback).loaders.map LoaderPlugin.filter =
      r.loaders.map LoaderPlugin.filter ++ FilterCache.handedOut [⟨r.cache, pattern⟩] := by
  unfold addLoader FilterCache.handedOut FilterCache.Call.answer
  split
  next filter cache hlookup => simp [hlookup, Except.toOption]
  next cache hlookup => simp [hlookup, Except.toOption, refuse]
  next invalid cache hlookup => simp [hlookup, Except.toOption, refuse]

/-- A step installs a loader exactly with the filter that its lookup hands out. -/
theorem filters_step (r : Registration) (step : SetupStep) :
    (r.step step).loaders.map LoaderPlugin.filter =
      r.loaders.map LoaderPlugin.filter ++ FilterCache.handedOut (r.callsOf step) := by
  cases step with
  | setName text =>
      obtain ⟨name, problems, hnext⟩ := r.step_setName text
      rw [hnext]
      exact (List.append_nil _).symm
  | addLoader pattern matchInternal callback =>
      cases hname : r.name with
      | none => simp [callsOf, Registration.step, refuse, hname, FilterCache.handedOut]
      | some plugin => simp [callsOf, Registration.step, hname, filters_addLoader]

theorem filters_run (r : Registration) (steps : List SetupStep) :
    (steps.foldl Registration.step r).loaders.map LoaderPlugin.filter =
      r.loaders.map LoaderPlugin.filter ++ FilterCache.handedOut (r.calls steps) := by
  induction steps generalizing r with
  | nil => exact (List.append_nil _).symm
  | cons step rest ih =>
      rw [List.foldl_cons, ih, filters_step, calls, FilterCache.handedOut_append,
        List.append_assoc]

end Registration

theorem Plugin.filters_setup (plugin : Plugin) (cache : FilterCache) :
    (plugin.setup cache).loaders.map LoaderPlugin.filter =
      FilterCache.handedOut (plugin.calls cache) :=
  Registration.filters_run { cache } plugin

theorem Installation.filters_ofPlugins (plugins : List Plugin) (cache : FilterCache) :
    (ofPlugins plugins cache).loaders.map LoaderPlugin.filter =
      FilterCache.handedOut (calls plugins cache) := by
  rw [loaders_ofPlugins, calls, List.map_flatMap, FilterCache.handedOut_flatMap]
  exact List.flatMap_congr fun setup _ => setup.1.filters_setup setup.2

namespace FilterCache

/-! ## Uses of a cache -/

/-- What a cache is used for: a lookup, or the setups of plugins. -/
inductive Use
  | lookup (pattern : String)
  | setup (plugins : List Plugin)

namespace Use

/-- The cache that a use leaves. -/
def after (cache : FilterCache) : Use → FilterCache
  | lookup pattern => (cache.lookup pattern).2
  | setup plugins => (Installation.ofPlugins plugins cache).cache

/-- The filters that a use gets, of the lookup or of the loaders that are installed. -/
def filters (cache : FilterCache) : Use → List Filter
  | lookup pattern => (cache.lookup pattern).1.toOption.toList
  | setup plugins => (Installation.ofPlugins plugins cache).loaders.map LoaderPlugin.filter

/-- The lookups that a use makes. -/
def calls (cache : FilterCache) : Use → List Call
  | lookup pattern => [⟨cache, pattern⟩]
  | setup plugins => Installation.calls plugins cache

theorem calls_after (cache : FilterCache) (use : Use) :
    Calls cache (use.calls cache) (use.after cache) := by
  cases use with
  | lookup pattern => exact .singleton cache pattern
  | setup plugins => exact Installation.calls_ofPlugins plugins cache

theorem filters_eq (cache : FilterCache) (use : Use) :
    use.filters cache = handedOut (use.calls cache) := by
  cases use with
  | lookup pattern =>
      unfold filters calls handedOut Call.answer
      cases hanswer : (cache.lookup pattern).1.toOption <;> simp [hanswer]
  | setup plugins => exact Installation.filters_ofPlugins plugins cache

end Use

/-- The uses of a cache one after the other, each with what the ones before it left. -/
def useEach : FilterCache → List Use → List (FilterCache × Use)
  | _, [] => []
  | cache, use :: rest => (cache, use) :: useEach (use.after cache) rest

/-- The lookups of all uses. -/
def callsOfUses (cache : FilterCache) (uses : List Use) : List Call :=
  (cache.useEach uses).flatMap fun used => used.2.calls used.1

theorem calls_uses (cache : FilterCache) (uses : List Use) :
    Calls cache (cache.callsOfUses uses) (uses.foldl Use.after cache) := by
  induction uses generalizing cache with
  | nil => exact .nil cache
  | cons use rest ih =>
      rw [callsOfUses, useEach, List.flatMap_cons]
      exact (use.calls_after cache).append (ih (use.after cache))

/-- Whatever a new cache is used for, the lookups that this takes are made one after the other and
account for the cache.  The filters that the uses get are those that the lookups hand out. -/
theorem account_of_uses (uses : List Use) :
    Calls {} (callsOfUses {} uses) (uses.foldl Use.after {}) ∧
      (uses.foldl Use.after {}).Account (callsOfUses {} uses) ∧
      (useEach {} uses).flatMap (fun used => used.2.filters used.1) =
        handedOut (callsOfUses {} uses) := by
  have hcalls := calls_uses {} uses
  refine ⟨hcalls, hcalls.account, ?_⟩
  rw [callsOfUses, handedOut_flatMap]
  refine List.flatMap_congr fun used _ => ?_
  exact used.2.filters_eq used.1

end FilterCache
end BundleFront
