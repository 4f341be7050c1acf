import BundleFront.Plugin.Setup
import BundleFront.Proofs.Checked
import BundleFront.Proofs.Filter

/-!
# How plugins are set up

A step of a setup is either carried out or refused.  A refused step leaves one problem
and nothing else, so a misused plugin keeps the name and the loaders that it already
has, and the cache does not notice.

* `SetupStep.isAccepted` — which steps are carried out, by the name so far;
  `Registration.Refusal` — the reasons for refusing a step, in the order in which they
  are looked for.
* `Registration.obeys_step` — every step obeys this, on every cache that lookups lead to.
* `Registration.calls_run` — a setup looks filters up one after the other.
* `Plugin.follows` — a whole setup: the first name that is given counts and stays, and
  every step names, installs a loader or leaves a problem.
* `Installation.ofPlugins_follows` — plugins are set up one after the other, each by the
  same rules and with a name of its own.
-/

namespace BundleFront

/-- Whether lookups lead to a cache from a new one. -/
def FilterCache.Reachable (cache : FilterCache) : Prop :=
  ∃ calls : List FilterCache.Call, FilterCache.Calls {} calls cache

theorem FilterCache.Reachable.exists_serves {cache : FilterCache} (h : cache.Reachable) :
    ∃ patterns : List String, cache.Serves patterns := by
  obtain ⟨calls, hcalls⟩ := h
  exact ⟨_, hcalls.serves FilterCache.serves_new⟩

theorem FilterCache.Reachable.after {cache last : FilterCache} (h : cache.Reachable)
    {calls : List FilterCache.Call} (hcalls : FilterCache.Calls cache calls last) :
    last.Reachable := by
  obtain ⟨earlier, hearlier⟩ := h
  exact ⟨earlier ++ calls, hearlier.append hcalls⟩

namespace SetupStep

/-- The name that a step gives to a plugin that has none. -/
def givenName? : SetupStep → Option String
  | setName text => if text.isEmpty then none else some text
  | addLoader .. => none

/-- Whether a step is carried out for a plugin with this name, or with none. -/
def isAccepted (name : Option String) : SetupStep → Bool
  | setName text => !text.isEmpty && name.isNone
  | addLoader pattern _ _ => name.isSome && Pattern.isUsable pattern

end SetupStep

/-! ## One step -/

namespace Registration

/-- Why a step is refused, by the name that the plugin has so far. -/
inductive Refusal (name : Option String) : SetupStep → SetupProblem → Prop
  | emptyName : Refusal name (.setName "") .emptyName
  | repeatedName {text : String} (htext : text ≠ "") (hnamed : name.isSome = true) :
      Refusal name (.setName text) .repeatedName
  | loaderBeforeName {pattern : String} {matchInternal : Bool} {callback : LoaderCallback}
      (hunnamed : name = none) :
      Refusal name (.addLoader pattern matchInternal callback) .loaderBeforeName
  | missingFilter {plugin : String} {matchInternal : Bool} {callback : LoaderCallback}
      (hnamed : name = some plugin) :
      Refusal name (.addLoader "" matchInternal callback) (.missingFilter plugin)
  | invalidFilter {plugin pattern : String} {matchInternal : Bool} {callback : LoaderCallback}
      (hnamed : name = some plugin) (hpattern : pattern ≠ "")
      (hnode : Pattern.compile? pattern = none) :
      Refusal name (.addLoader pattern matchInternal callback) (.invalidFilter plugin pattern)

/-- A step that is refused leaves one problem and changes neither the name nor the loaders nor the
cache. -/
def Refuses (r : Registration) (step : SetupStep) (next : Registration) : Prop :=
  ∃ problem : SetupProblem, Refusal r.name step problem ∧
    next = { r with problems := r.problems ++ [problem] }

/-- A step that is carried out names the plugin, or it installs one loader: with the plugin's name,
and with the filter that the cache answers for the pattern.  It leaves no problem. -/
inductive Performs (r : Registration) : SetupStep → Registration → Prop
  | named (text : String) : Performs r (.setName text) { r with name := some text }
  | installed {pattern : String} {matchInternal : Bool} {callback : LoaderCallback}
      {plugin : String} {filter : Filter} (hnamed : r.name = some plugin)
      (hanswer : (r.cache.lookup pattern).1 = .ok filter) (hpattern : filter.pattern = pattern)
      (hnode : Pattern.compile? pattern = some filter.node) :
      Performs r (.addLoader pattern matchInternal callback)
        { r with
          cache := (r.cache.lookup pattern).2
          loaders := r.loaders ++ [⟨plugin, filter, matchInternal, callback⟩] }

/-- The rule for a step: it is carried out if it is accepted, and refused otherwise. -/
structure Obeys (r : Registration) (step : SetupStep) (next : Registration) : Prop where
  performs_iff : r.Performs step next ↔ step.isAccepted r.name = true
  refuses_iff : r.Refuses step next ↔ step.isAccepted r.name = false

section
variable {r next : Registration} {step : SetupStep}

theorem Performs.problems_eq (h : r.Performs step next) : next.problems = r.problems := by
  cases h with
  | named => rfl
  | installed => rfl

/-- The problem that a refused step leaves shows that it is not carried out. -/
theorem Refuses.not_performs (h : r.Refuses step next) : ¬ r.Performs step next := by
  obtain ⟨problem, hrefusal, rfl⟩ := h
  intro hperforms
  simpa using hperforms.problems_eq

theorem Obeys.of_performs (haccepted : step.isAccepted r.name = true)
    (h : r.Performs step next) : r.Obeys step next := by
  refine ⟨iff_of_true h haccepted, iff_of_false ?_ (by simp [haccepted])⟩
  exact fun hrefuses => hrefuses.not_performs h

theorem Obeys.of_refuses (haccepted : step.isAccepted r.name = false)
    (h : r.Refuses step next) : r.Obeys step next :=
  ⟨iff_of_false h.not_performs (by simp [haccepted]), iff_of_true h haccepted⟩

end

variable {r : Registration}

/-- A name is taken if it is the first and says something. -/
theorem obeys_setName (text : String) : r.Obeys (.setName text) (r.step (.setName text)) := by
  unfold Registration.step
  by_cases htext : text = ""
  · subst htext
    exact .of_refuses rfl ⟨_, .emptyName, rfl⟩
  · have hempty : text.isEmpty = false := by
      rwa [Bool.eq_false_iff, Ne, String.isEmpty_iff]
    dsimp only
    rw [hempty]
    cases hname : r.name with
    | none => exact .of_performs (by simp [SetupStep.isAccepted, hempty, hname]) (.named text)
    | some plugin =>
        refine .of_refuses (by simp [SetupStep.isAccepted, hname]) ?_
        exact ⟨_, .repeatedName htext (by simp [hname]), rfl⟩

/-- Adding a loader to a named plugin follows the answer of the cache. -/
theorem obeys_addLoader (hcache : r.cache.Reachable) {plugin : String}
    (hnamed : r.name = some plugin) (pattern : String) (matchInternal : Bool)
    (callback : LoaderCallback) :
    r.Obeys (.addLoader pattern matchInternal callback)
      (r.addLoader plugin pattern matchInternal callback) := by
  obtain ⟨patterns, hserves⟩ := hcache.exists_serves
  have hlooked := r.cache.looked_lookup pattern
  have hsucceeds := hlooked.isSome_toOption hserves
  have haccepted : SetupStep.isAccepted r.name (.addLoader pattern matchInternal callback) =
      Pattern.isUsable pattern := by
    simp [SetupStep.isAccepted, hnamed]
  unfold addLoader
  rcases hlookup : r.cache.lookup pattern with ⟨answer, after⟩
  rw [hlookup] at hlooked hsucceeds
  rw [← hsucceeds] at haccepted
  cases answer with
  | ok filter =>
      -- Kept before or new, the filter is kept now, and what is kept is compiled from its pattern.
      have hkept := (hlooked.serves hserves).eq_of_find? hlooked.find?_of_ok
      have hperforms : r.Performs (.addLoader pattern matchInternal callback) _ :=
        .installed hnamed (by rw [hlookup]) hkept.1 hkept.2
      rw [hlookup] at hperforms
      exact .of_performs haccepted hperforms
  | error error =>
      -- The cache that comes back from a failed lookup is the one that was there.
      have hafter : after = r.cache := hlooked.eq_of_error
      subst hafter
      cases hlooked with
      | empty => exact .of_refuses haccepted ⟨_, .missingFilter hnamed, rfl⟩
      | invalid hpattern hkept hnode =>
          exact .of_refuses haccepted ⟨_, .invalidFilter hnamed hpattern hnode, rfl⟩

/-- Every step obeys the rule. -/
theorem obeys_step (hcache : r.cache.Reachable) (step : SetupStep) :
    r.Obeys step (r.step step) := by
  cases step with
  | setName text => exact obeys_setName text
  | addLoader pattern matchInternal callback =>
      unfold Registration.step
      dsimp only
      cases hname : r.name with
      | none =>
          refine .of_refuses (by simp [SetupStep.isAccepted, hname]) ?_
          exact ⟨_, .loaderBeforeName hname, rfl⟩
      | some plugin => exact obeys_addLoader hcache hname pattern matchInternal callback

/-- What a step leaves behind, counted: a name, loaders and problems. -/
def marks (r : Registration) : Nat :=
  r.loaders.length + r.problems.length + if r.name.isSome then 1 else 0

/-- Every step leaves exactly one mark. -/
theorem marks_step (hcache : r.cache.Reachable) (step : SetupStep) :
    (r.step step).marks = r.marks + 1 := by
  have hobeys := obeys_step hcache step
  cases haccepted : step.isAccepted r.name with
  | false =>
      obtain ⟨problem, hrefusal, hnext⟩ := hobeys.refuses_iff.mpr haccepted
      simp only [hnext, marks, List.length_append, List.length_singleton]
      omega
  | true =>
      have hperforms := hobeys.performs_iff.mpr haccepted
      generalize r.step step = next at hperforms
      cases hperforms with
      | named text =>
          have hunnamed : r.name = none := by
            simpa [SetupStep.isAccepted] using (Bool.and_eq_true_iff.mp haccepted).2
          simp [marks, hunnamed]
      | installed hnamed hanswer hpattern hnode =>
          simp only [marks, List.length_append, List.length_singleton]
          omega

/-! ## The names and the lookups of several steps -/

@[simp] theorem name_addLoader (r : Registration) (plugin pattern : String) (matchInternal : Bool)
    (callback : LoaderCallback) :
    (r.addLoader plugin pattern matchInternal callback).name = r.name := by
  unfold addLoader
  split <;> rfl

@[simp] theorem cache_addLoader (r : Registration) (plugin pattern : String)
    (matchInternal : Bool) (callback : LoaderCallback) :
    (r.addLoader plugin pattern matchInternal callback).cache = (r.cache.lookup pattern).2 := by
  unfold addLoader
  split <;> simp_all [refuse]

/-- A name that is there stays, and a step may give the first. -/
theorem name_step (r : Registration) (step : SetupStep) :
    (r.step step).name = r.name.or step.givenName? := by
  cases step with
  | setName text =>
      cases hempty : text.isEmpty with
      | true => simp [Registration.step, SetupStep.givenName?, refuse, hempty]
      | false =>
          cases hname : r.name <;>
            simp [Registration.step, SetupStep.givenName?, refuse, hempty, hname]
  | addLoader pattern matchInternal callback =>
      cases hname : r.name <;> simp [Registration.step, SetupStep.givenName?, refuse, hname]

/-- Only the name and the problems depend on a step that gives a name. -/
theorem step_setName (r : Registration) (text : String) :
    ∃ (name : Option String) (problems : List SetupProblem),
      r.step (.setName text) = { r with name, problems } := by
  unfold Registration.step refuse
  dsimp only
  split_ifs
  · exact ⟨_, _, rfl⟩
  · exact ⟨_, _, rfl⟩
  · exact ⟨_, _, rfl⟩

/-- The lookups that a step makes: one if a named plugin adds a loader. -/
def callsOf (r : Registration) : SetupStep → List FilterCache.Call
  | .setName _ => []
  | .addLoader pattern _ _ => if r.name.isSome then [⟨r.cache, pattern⟩] else []

/-- The lookups that steps make. -/
def calls (r : Registration) : List SetupStep → List FilterCache.Call
  | [] => []
  | step :: rest => r.callsOf step ++ (r.step step).calls rest

theorem calls_step (r : Registration) (step : SetupStep) :
    FilterCache.Calls r.cache (r.callsOf step) (r.step step).cache := by
  cases step with
  | setName text =>
      obtain ⟨name, problems, hnext⟩ := r.step_setName text
      rw [hnext]
      exact .nil _
  | addLoader pattern matchInternal callback =>
      cases hname : r.name with
      | none => simpa [callsOf, Registration.step, refuse, hname] using .nil _
      | some plugin => simpa [callsOf, Registration.step, hname] using .singleton _ _

/-- The steps of a setup look filters up one after the other. -/
theorem calls_run (r : Registration) (steps : List SetupStep) :
    FilterCache.Calls r.cache (r.calls steps) (steps.foldl Registration.step r).cache := by
  induction steps generalizing r with
  | nil => exact .nil _
  | cons step rest ih => exact (r.calls_step step).append (ih (r.step step))

theorem marks_run (hcache : r.cache.Reachable) (steps : List SetupStep) :
    (steps.foldl Registration.step r).marks = r.marks + steps.length := by
  induction steps generalizing r with
  | nil => rfl
  | cons step rest ih =>
      rw [List.foldl_cons, ih (hcache.after (r.calls_step step)), marks_step hcache,
        List.length_cons]
      omega

theorem name_run (r : Registration) (steps : List SetupStep) :
    (steps.foldl Registration.step r).name =
      r.name.or (steps.findSome? SetupStep.givenName?) := by
  induction steps generalizing r with
  | nil => simp
  | cons step rest ih =>
      rw [List.foldl_cons, ih, name_step, Option.or_assoc, List.findSome?_cons]
      cases step.givenName? <;> simp

end Registration

/-! ## A whole setup -/

namespace Plugin

/-- The first name that a plugin gives itself. -/
def givenName? (plugin : Plugin) : Option String := plugin.findSome? SetupStep.givenName?

/-- What holds of a plugin's setup on a cache, from the first step to the last. -/
structure Follows (plugin : Plugin) (cache : FilterCache) : Prop where
  /-- Nothing is left from plugins before this one but the cache. -/
  starts : Plugin.setup [] cache = { cache, name := none, loaders := [], problems := [] }
  /-- Each step finds the first name that the steps before it have given, and obeys the rule. -/
  obeys : ∀ before step after, plugin = before ++ step :: after →
    (Plugin.setup before cache).name = Plugin.givenName? before ∧
      (Plugin.setup before cache).Obeys step (Plugin.setup (before ++ [step]) cache)
  name_eq : (plugin.setup cache).name = plugin.givenName?
  /-- A name that is given is the name in the end. -/
  name_stays : ∀ before after name, plugin = before ++ after →
    Plugin.givenName? before = some name → (plugin.setup cache).name = some name
  /-- Every step gives the name, installs a loader or leaves a problem. -/
  length_eq : plugin.length = (plugin.setup cache).loaders.length +
    (plugin.setup cache).problems.length + if plugin.givenName?.isSome then 1 else 0

variable {cache : FilterCache}

theorem name_setup (plugin : Plugin) (cache : FilterCache) :
    (plugin.setup cache).name = plugin.givenName? := by
  unfold setup givenName?
  rw [Registration.name_run, Option.none_or]

/-- The lookups that a setup makes. -/
def calls (plugin : Plugin) (cache : FilterCache) : List FilterCache.Call :=
  Registration.calls { cache } plugin

theorem calls_setup (plugin : Plugin) (cache : FilterCache) :
    FilterCache.Calls cache (plugin.calls cache) (plugin.setup cache).cache :=
  Registration.calls_run { cache } plugin

theorem follows (hcache : cache.Reachable) (plugin : Plugin) : plugin.Follows cache := by
  refine ⟨rfl, ?_, plugin.name_setup cache, ?_, ?_⟩
  · rintro before step after -
    refine ⟨name_setup before cache, ?_⟩
    have hnext : Plugin.setup (before ++ [step]) cache = (Plugin.setup before cache).step step := by
      unfold setup
      rw [List.foldl_append, List.foldl_cons, List.foldl_nil]
    rw [hnext]
    exact Registration.obeys_step (hcache.after (calls_setup before cache)) step
  · rintro before after name rfl hname
    unfold givenName? at hname
    rw [name_setup, givenName?, List.findSome?_append, hname, Option.some_or]
  · have hmarks := Registration.marks_run (r := { cache }) hcache plugin
    rw [← plugin.name_setup cache]
    exact (Nat.zero_add _).symm.trans hmarks.symm

end Plugin

/-! ## Several plugins -/

namespace Installation

/-- The plugins, each with the cache that its setup starts on. -/
def setups : List Plugin → FilterCache → List (Plugin × FilterCache)
  | [], _ => []
  | plugin :: rest, cache => (plugin, cache) :: setups rest (plugin.setup cache).cache

/-- The lookups that the setups of plugins make. -/
def calls (plugins : List Plugin) (cache : FilterCache) : List FilterCache.Call :=
  (setups plugins cache).flatMap fun setup => setup.1.calls setup.2

theorem map_fst_setups (plugins : List Plugin) (cache : FilterCache) :
    (setups plugins cache).map Prod.fst = plugins := by
  induction plugins generalizing cache with
  | nil => rfl
  | cons plugin rest ih => rw [setups, List.map_cons, ih]

theorem loaders_ofPlugins (plugins : List Plugin) (cache : FilterCache) :
    (ofPlugins plugins cache).loaders =
      (setups plugins cache).flatMap fun setup => (setup.1.setup setup.2).loaders := by
  induction plugins generalizing cache with
  | nil => rfl
  | cons plugin rest ih => rw [setups, List.flatMap_cons, ← ih]; rfl

theorem problems_ofPlugins (plugins : List Plugin) (cache : FilterCache) :
    (ofPlugins plugins cache).problems =
      (setups plugins cache).flatMap fun setup => (setup.1.setup setup.2).problems := by
  induction plugins generalizing cache with
  | nil => rfl
  | cons plugin rest ih => rw [setups, List.flatMap_cons, ← ih]; rfl

/-- Plugins look filters up one after the other, each on what the ones before it left. -/
theorem calls_ofPlugins (plugins : List Plugin) (cache : FilterCache) :
    FilterCache.Calls cache (calls plugins cache) (ofPlugins plugins cache).cache := by
  induction plugins generalizing cache with
  | nil => exact .nil _
  | cons plugin rest ih =>
      rw [calls, setups, List.flatMap_cons]
      exact (plugin.calls_setup cache).append (ih (plugin.setup cache).cache)

theorem forall_mem_setups (plugins : List Plugin) {cache : FilterCache}
    (hcache : cache.Reachable) :
    ∀ setup ∈ setups plugins cache, setup.2.Reachable ∧ setup.1.Follows setup.2 := by
  induction plugins generalizing cache with
  | nil => simp [setups]
  | cons plugin rest ih =>
      rw [setups, List.forall_mem_cons]
      exact ⟨⟨hcache, plugin.follows hcache⟩, ih (hcache.after (plugin.calls_setup cache))⟩

/-- Plugins are set up one after the other, and each follows the rules with a name of its own.  What
they come to are their loaders in turn; the log grows by one error for each of their problems. -/
theorem ofPlugins_follows (plugins : List Plugin) {cache : FilterCache}
    (hcache : cache.Reachable) (log : Log) :
    (setups plugins cache).map Prod.fst = plugins ∧
      (∀ setup ∈ setups plugins cache, setup.2.Reachable ∧ setup.1.Follows setup.2) ∧
      (ofPlugins plugins cache).checked.record log =
        ((setups plugins cache).flatMap fun setup => (setup.1.setup setup.2).loaders,
          log ++ (setups plugins cache).flatMap fun setup =>
            (setup.1.setup setup.2).problems.map fun problem =>
              ⟨.error, ⟨problem.message, none⟩⟩) ∧
      (ofPlugins plugins cache).cache.Reachable := by
  refine ⟨map_fst_setups plugins cache, forall_mem_setups plugins hcache, ?_,
    hcache.after (calls_ofPlugins plugins cache)⟩
  refine Prod.ext (loaders_ofPlugins plugins cache) ?_
  rw [Checked.record_log, checked, List.map_map, problems_ofPlugins, List.map_flatMap]
  rfl

/-- A plugin that makes every mistake still installs its loader, with a filter that was kept; the
next plugin has no name. -/
theorem ofPlugins_follows_careless :
    let callback : LoaderCallback := fun _ => .error "unused"
    let plugins : List Plugin := [
      [.addLoader "svg$" false callback, .setName "", .setName "svg", .setName "png",
        .addLoader "" false callback, .addLoader "(" false callback,
        .addLoader "svg$" true callback],
      [.addLoader "svg$" true callback]]
    let cache := (({} : FilterCache).lookup "svg$").2
    cache.Reachable ∧
      (∀ setup ∈ setups plugins cache, setup.2.Reachable ∧ setup.1.Follows setup.2) ∧
      (ofPlugins plugins cache).loaders.map LoaderPlugin.plugin = ["svg"] ∧
      (ofPlugins plugins cache).problems =
        [.loaderBeforeName, .emptyName, .repeatedName, .missingFilter "svg",
          .invalidFilter "svg" "(", .loaderBeforeName] ∧
      (ofPlugins plugins cache).cache.compiles = 1 ∧ (ofPlugins plugins cache).cache.hits = 1 := by
  intro callback plugins cache
  have hcache : cache.Reachable := ⟨_, .singleton {} "svg$"⟩
  refine ⟨hcache, (ofPlugins_follows plugins hcache []).2.1, ?_, ?_, ?_, ?_⟩
  · decide +kernel
  · decide +kernel
  · decide +kernel
  · decide +kernel

end Installation
end BundleFront
