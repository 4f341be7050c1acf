import BundleFront.Proofs.Plugin.Setup
import Mathlib.Data.List.Forall2

/-!
# Loaders with filters from different caches

A filter tells which place of a cache it comes from.  Everything else about it is
decided by its pattern, so caches that have been asked for different patterns still
give filters that no path tells apart, and refuse the same patterns.

* `FilterCache.Looked.map_node` — a lookup answers what compiling answers, whatever is kept.
* `Registration.Alike.run` — the steps of a plugin come to the same on any two caches,
  but for the places of the filters.
* `Installation.alike_ofPlugins` — so do the setups of all plugins.
* `LoaderPlugin.find?_alike` — a path finds loaders that are alike.
-/

namespace BundleFront

/-- Filters of one pattern that match the same paths. -/
structure Filter.Alike (f g : Filter) : Prop where
  pattern_eq : f.pattern = g.pattern
  accepts_eq : ∀ path, f.accepts path = g.accepts path

/-- Loaders that differ at most in the place of their filters. -/
structure LoaderPlugin.Alike (a b : LoaderPlugin) : Prop where
  plugin_eq : a.plugin = b.plugin
  filter : a.filter.Alike b.filter
  matchInternal_eq : a.matchInternal = b.matchInternal
  callback_eq : a.callback = b.callback

/-! ## Choosing a loader -/

namespace LoaderPlugin

theorem Alike.refl (loader : LoaderPlugin) : loader.Alike loader :=
  ⟨rfl, ⟨rfl, fun _ => rfl⟩, rfl, rfl⟩

theorem Alike.appliesTo_eq {a b : LoaderPlugin} (h : a.Alike b) (path : Path) (internal : Bool) :
    a.appliesTo path internal = b.appliesTo path internal := by
  unfold appliesTo
  rw [h.matchInternal_eq, h.filter.accepts_eq]

theorem Alike.loadInto_eq {a b : LoaderPlugin} (h : a.Alike b) (path : Path) (log : Log) :
    a.loadInto path log = b.loadInto path log := by
  unfold loadInto load
  rw [h.callback_eq]

/-- Among alike loaders a path finds alike ones, or none on either side. -/
theorem find?_alike {loaders others : List LoaderPlugin} (h : List.Forall₂ Alike loaders others)
    (path : Path) (internal : Bool) :
    Option.Rel Alike (find? loaders path internal) (find? others path internal) := by
  unfold find?
  induction h with
  | nil => exact .none
  | @cons a b loaders others hab _ ih =>
      rw [List.find?_cons, List.find?_cons, ← hab.appliesTo_eq]
      cases a.appliesTo path internal with
      | true => exact .some hab
      | false => exact ih

end LoaderPlugin

/-! ## Lookups -/

/-- The node of a pattern, or why there is none; no cache is asked. -/
def Pattern.compiled (pattern : String) : Except FilterError Pattern.Node :=
  if pattern.isEmpty then .error .empty
  else match Pattern.compile? pattern with
    | none => .error (.invalid pattern)
    | some node => .ok node

namespace FilterCache

/-- A lookup hands out the node that its pattern compiles to, kept or not, and fails as compiling
fails. -/
theorem Looked.map_node {cache after : FilterCache} {patterns : List String} {pattern : String}
    {answer : Except FilterError Filter} (h : Looked cache pattern answer after)
    (hserves : cache.Serves patterns) : answer.map Filter.node = Pattern.compiled pattern := by
  unfold Pattern.compiled
  cases h with
  | empty => rfl
  | hit hpattern hkept =>
      rw [if_neg (mt String.isEmpty_iff.mp hpattern), (hserves.eq_of_find? hkept).2]
      rfl
  | invalid hpattern hkept hnode =>
      rw [if_neg (mt String.isEmpty_iff.mp hpattern), hnode]
      rfl
  | compiled hpattern hkept hnode =>
      rw [if_neg (mt String.isEmpty_iff.mp hpattern), hnode]
      rfl

theorem Looked.pattern_eq {cache after : FilterCache} {patterns : List String} {pattern : String}
    {filter : Filter} (h : Looked cache pattern (.ok filter) after)
    (hserves : cache.Serves patterns) : filter.pattern = pattern := by
  cases h with
  | hit hpattern hkept => exact (hserves.eq_of_find? hkept).1
  | compiled => rfl

/-- Answers that differ at most in the place of a filter. -/
inductive AnswersAlike : Except FilterError Filter → Except FilterError Filter → Prop
  | ok {f g : Filter} (h : f.Alike g) : AnswersAlike (.ok f) (.ok g)
  | error (error : FilterError) : AnswersAlike (.error error) (.error error)

/-- Two caches answer alike, whatever each has been asked for before. -/
theorem lookup_alike {cache other : FilterCache} (hcache : cache.Reachable)
    (hother : other.Reachable) (pattern : String) :
    AnswersAlike (cache.lookup pattern).1 (other.lookup pattern).1 := by
  obtain ⟨patterns, hserves⟩ := hcache.exists_serves
  obtain ⟨others, hserves'⟩ := hother.exists_serves
  have hfirst := cache.looked_lookup pattern
  have hsecond := other.looked_lookup pattern
  have hnodes : (cache.lookup pattern).1.map Filter.node =
      (other.lookup pattern).1.map Filter.node :=
    (hfirst.map_node hserves).trans (hsecond.map_node hserves').symm
  generalize (cache.lookup pattern).1 = first at hfirst hnodes
  generalize (other.lookup pattern).1 = second at hsecond hnodes
  cases first with
  | error error =>
      cases second with
      | error =>
          obtain rfl : error = _ := Except.error.inj hnodes
          exact .error error
      | ok => cases hnodes
  | ok f =>
      cases second with
      | error => cases hnodes
      | ok g =>
          have hnode : f.node = g.node := Except.ok.inj hnodes
          refine .ok ⟨?_, ?_⟩
          · rw [hfirst.pattern_eq hserves, hsecond.pattern_eq hserves']
          · intro path
            unfold Filter.accepts
            rw [hnode]

end FilterCache

/-! ## Setups -/

namespace Registration

/-- Setups that differ at most in their caches and in the places of the filters. -/
structure Alike (r q : Registration) : Prop where
  name_eq : r.name = q.name
  loaders : List.Forall₂ LoaderPlugin.Alike r.loaders q.loaders
  problems_eq : r.problems = q.problems

variable {r q : Registration}

theorem Alike.refuse (h : r.Alike q) (problem : SetupProblem) :
    (r.refuse problem).Alike (q.refuse problem) :=
  ⟨h.name_eq, h.loaders, congrArg (· ++ [problem]) h.problems_eq⟩

theorem Alike.addLoader (h : r.Alike q) (hr : r.cache.Reachable) (hq : q.cache.Reachable)
    (plugin pattern : String) (matchInternal : Bool) (callback : LoaderCallback) :
    (r.addLoader plugin pattern matchInternal callback).Alike
      (q.addLoader plugin pattern matchInternal callback) := by
  have hanswers := FilterCache.lookup_alike hr hq pattern
  unfold Registration.addLoader
  generalize r.cache.lookup pattern = first at hanswers ⊢
  generalize q.cache.lookup pattern = second at hanswers ⊢
  obtain ⟨answer, after⟩ := first
  obtain ⟨other, last⟩ := second
  cases hanswers with
  | ok hfilter =>
      refine ⟨h.name_eq, ?_, h.problems_eq⟩
      exact List.rel_append h.loaders (.cons ⟨rfl, hfilter, rfl, rfl⟩ .nil)
  | error error =>
      have hkept : Alike { r with cache := after } { q with cache := last } :=
        ⟨h.name_eq, h.loaders, h.problems_eq⟩
      cases error with
      | empty => exact hkept.refuse _
      | invalid pattern => exact hkept.refuse _

/-- A step comes to the same on either side. -/
theorem Alike.step (h : r.Alike q) (hr : r.cache.Reachable) (hq : q.cache.Reachable)
    (step : SetupStep) : (r.step step).Alike (q.step step) := by
  unfold Registration.step
  rw [← h.name_eq]
  cases step with
  | setName text =>
      dsimp only
      split_ifs
      · exact h.refuse _
      · exact h.refuse _
      · exact ⟨rfl, h.loaders, h.problems_eq⟩
  | addLoader pattern matchInternal callback =>
      cases r.name with
      | none => exact h.refuse _
      | some plugin => exact h.addLoader hr hq plugin pattern matchInternal callback

theorem Alike.run (h : r.Alike q) (hr : r.cache.Reachable) (hq : q.cache.Reachable)
    (steps : List SetupStep) :
    (steps.foldl Registration.step r).Alike (steps.foldl Registration.step q) := by
  induction steps generalizing r q with
  | nil => exact h
  | cons step rest ih =>
      exact ih (h.step hr hq step) (hr.after (r.calls_step step)) (hq.after (q.calls_step step))

end Registration

theorem Plugin.alike_setup (plugin : Plugin) {cache other : FilterCache}
    (hcache : cache.Reachable) (hother : other.Reachable) :
    (plugin.setup cache).Alike (plugin.setup other) := by
  have hnew : Registration.Alike { cache } { cache := other } := ⟨rfl, .nil, rfl⟩
  exact hnew.run hcache hother plugin

namespace Installation

/-- Installations that differ at most in their caches and in the places of the filters. -/
structure Alike (a b : Installation) : Prop where
  loaders : List.Forall₂ LoaderPlugin.Alike a.loaders b.loaders
  problems_eq : a.problems = b.problems

/-- Plugins install the same on any two caches, and leave the same problems. -/
theorem alike_ofPlugins (plugins : List Plugin) {cache other : FilterCache}
    (hcache : cache.Reachable) (hother : other.Reachable) :
    (ofPlugins plugins cache).Alike (ofPlugins plugins other) := by
  induction plugins generalizing cache other with
  | nil => exact ⟨.nil, rfl⟩
  | cons plugin rest ih =>
      have hfirst := plugin.alike_setup hcache hother
      have hothers := ih (hcache.after (plugin.calls_setup cache))
        (hother.after (plugin.calls_setup other))
      refine ⟨List.rel_append hfirst.loaders hothers.loaders, ?_⟩
      exact congrArg₂ (· ++ ·) hfirst.problems_eq hothers.problems_eq

end Installation
end BundleFront
