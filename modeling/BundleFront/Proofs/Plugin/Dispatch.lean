import BundleFront.Proofs.Plugin.Setup
import Mathlib.Data.List.Induction

/-!
# Which loader a path finds

A path is offered to the loaders in the order in which plugins have registered them.
Which one it finds can be told from the plugins themselves: it is the loader of the first
step that is accepted and meant for the path, in the first plugin that has such a step.

* `SetupStep.isFor` — the steps that install a loader for a path, by the name so far.
* `Plugin.Chooses` — the loader of the first of these steps in a plugin.
* `Installation.Chosen` — the loader of the first plugin that has such a step.
* `Installation.loaders_of_refused` — a step that is refused does not change which loaders there
  are, so leaving it out changes no choice.
* `Installation.find?_ofPlugins` — choosing among the installed loaders finds just this.
-/

namespace BundleFront

namespace SetupStep

/-- Whether a step installs a loader that is meant for a path, in a plugin with this name so far. -/
def isFor (path : Path) (internal : Bool) (name : Option String) : SetupStep → Bool
  | setName _ => false
  | addLoader pattern matchInternal callback =>
      (addLoader pattern matchInternal callback).isAccepted name && (!internal || matchInternal) &&
        (Pattern.compile? pattern).any fun node => node.matchesIn path.text

/-- A loader that is what a step asks for, in a plugin with this name. -/
inductive Describes (name : Option String) : SetupStep → LoaderPlugin → Prop
  | intro {pattern : String} {matchInternal : Bool} {callback : LoaderCallback}
      {plugin : String} {filter : Filter} (hname : name = some plugin)
      (hpattern : filter.pattern = pattern) (hnode : Pattern.compile? pattern = some filter.node) :
      Describes name (.addLoader pattern matchInternal callback)
        ⟨plugin, filter, matchInternal, callback⟩

variable {path : Path} {internal : Bool} {name : Option String} {step : SetupStep}

theorem isAccepted_of_isFor (h : step.isFor path internal name = true) :
    step.isAccepted name = true := by
  cases step with
  | setName => cases h
  | addLoader pattern matchInternal callback =>
      simp only [isFor, Bool.and_eq_true] at h
      exact h.1.1

/-- A step is for the paths that its loader is meant for. -/
theorem Describes.isFor_eq {loader : LoaderPlugin} (h : step.Describes name loader)
    (haccepted : step.isAccepted name = true) (path : Path) (internal : Bool) :
    step.isFor path internal name = loader.appliesTo path internal := by
  cases h with
  | intro hname hpattern hnode =>
      simp only [isFor, haccepted, hnode, Bool.true_and, Option.any_some]
      rfl

end SetupStep

namespace LoaderPlugin

theorem find?_append (loaders others : List LoaderPlugin) (path : Path) (internal : Bool) :
    find? (loaders ++ others) path internal =
      (find? loaders path internal).or (find? others path internal) :=
  List.find?_append

theorem find?_singleton (loader : LoaderPlugin) (path : Path) (internal : Bool) :
    find? [loader] path internal = if loader.appliesTo path internal then some loader else none :=
  List.find?_singleton

/-- Files within the build are left to the loaders that are meant for them. -/
theorem find?_internal (loaders : List LoaderPlugin) (path : Path) :
    find? loaders path true = find? (loaders.filter (·.matchInternal)) path false := by
  rw [find?, find?, List.find?_filter]
  refine congrArg (loaders.find? ·) (funext fun loader => ?_)
  simp [appliesTo]

end LoaderPlugin

/-! ## One plugin -/

namespace Registration

variable {r : Registration} {path : Path} {internal : Bool}

/-- A step installs the loader that it describes, or leaves the loaders as they were. -/
inductive Extends (r : Registration) (step : SetupStep) : List LoaderPlugin → Prop
  | installed {loader : LoaderPlugin} (haccepted : step.isAccepted r.name = true)
      (hloader : step.Describes r.name loader) : Extends r step (r.loaders ++ [loader])
  | unchanged (hstep : ∀ path internal, step.isFor path internal r.name = false) :
      Extends r step r.loaders

theorem extends_step (hcache : r.cache.Reachable) (step : SetupStep) :
    r.Extends step (r.step step).loaders := by
  have hobeys := obeys_step hcache step
  cases haccepted : step.isAccepted r.name with
  | false =>
      obtain ⟨problem, -, hnext⟩ := hobeys.refuses_iff.mpr haccepted
      rw [hnext]
      refine .unchanged fun path internal => ?_
      exact Bool.eq_false_iff.mpr fun hfor => by
        simp [SetupStep.isAccepted_of_isFor hfor] at haccepted
  | true =>
      have hperforms := hobeys.performs_iff.mpr haccepted
      generalize r.step step = next at hperforms
      cases hperforms with
      | named text => exact .unchanged fun _ _ => rfl
      | installed hnamed hanswer hpattern hnode =>
          exact .installed haccepted (.intro hnamed hpattern hnode)

/-- The loaders that are there come first. -/
theorem loaders_prefix_run (hcache : r.cache.Reachable) (steps : List SetupStep) :
    r.loaders <+: (steps.foldl Registration.step r).loaders := by
  induction steps generalizing r with
  | nil => exact List.prefix_rfl
  | cons step rest ih =>
      refine List.IsPrefix.trans ?_ (ih (hcache.after (r.calls_step step)))
      have hextends := extends_step hcache step
      generalize (r.step step).loaders = loaders at hextends
      cases hextends with
      | installed => exact List.prefix_append _ _
      | unchanged => exact List.prefix_rfl

/-- Problems that are there change nothing but the problems that are there afterwards. -/
theorem step_problems (r : Registration) (problems : List SetupProblem) (step : SetupStep) :
    ∃ after : List SetupProblem,
      ({ r with problems } : Registration).step step = { r.step step with problems := after } := by
  cases step with
  | setName text =>
      unfold Registration.step refuse
      dsimp only
      split_ifs
      · exact ⟨_, rfl⟩
      · exact ⟨_, rfl⟩
      · exact ⟨_, rfl⟩
  | addLoader pattern matchInternal callback =>
      unfold Registration.step addLoader refuse
      dsimp only
      cases r.name with
      | none => exact ⟨_, rfl⟩
      | some plugin =>
          rcases r.cache.lookup pattern with ⟨(_ | invalid) | filter, kept⟩
          · exact ⟨_, rfl⟩
          · exact ⟨_, rfl⟩
          · exact ⟨_, rfl⟩

theorem run_problems (r : Registration) (problems : List SetupProblem) (steps : List SetupStep) :
    ∃ after : List SetupProblem,
      steps.foldl Registration.step { r with problems } =
        { steps.foldl Registration.step r with problems := after } := by
  induction steps generalizing r problems with
  | nil => exact ⟨problems, rfl⟩
  | cons step rest ih =>
      obtain ⟨after, hstep⟩ := r.step_problems problems step
      rw [List.foldl_cons, hstep]
      exact ih (r.step step) after

end Registration

namespace Plugin

/-- Some step of the plugin installs a loader for a path. -/
def Offers (path : Path) (internal : Bool) (plugin : Plugin) : Prop :=
  ∃ before step after, plugin = before ++ step :: after ∧
    step.isFor path internal (givenName? before) = true

/-- The loader of the first step that installs one for a path, in a setup that starts on a cache. -/
inductive Chooses (cache : FilterCache) (path : Path) (internal : Bool) :
    Plugin → LoaderPlugin → Prop
  | intro {before after : Plugin} {step : SetupStep} {loader : LoaderPlugin}
      (hbefore : ¬ Offers path internal before)
      (hstep : step.isFor path internal (givenName? before) = true)
      (hloader : step.Describes (givenName? before) loader)
      (hinstalled : (setup (before ++ [step]) cache).loaders =
        (setup before cache).loaders ++ [loader]) :
      Chooses cache path internal (before ++ step :: after) loader

variable {cache : FilterCache} {path : Path} {internal : Bool}

theorem setup_append (before after : Plugin) (cache : FilterCache) :
    setup (before ++ after) cache = after.foldl Registration.step (setup before cache) :=
  List.foldl_append

theorem reachable_setup (hcache : cache.Reachable) (plugin : Plugin) :
    (plugin.setup cache).cache.Reachable :=
  hcache.after (plugin.calls_setup cache)

theorem not_offers_nil : ¬ Offers path internal [] := by
  rintro ⟨before, step, after, hplugin, -⟩
  simp at hplugin

/-- One step more offers what the steps before it do, and what it does itself. -/
theorem offers_append_singleton {before : Plugin} {step : SetupStep} :
    Offers path internal (before ++ [step]) ↔
      Offers path internal before ∨ step.isFor path internal (givenName? before) = true := by
  constructor
  · rintro ⟨first, found, rest, hplugin, hfor⟩
    rcases List.eq_nil_or_concat rest with rfl | ⟨init, last, rfl⟩
    · obtain ⟨rfl, hstep⟩ := List.append_inj' hplugin rfl
      obtain rfl : step = found := by simpa using hstep
      exact .inr hfor
    · rw [List.concat_eq_append, ← List.cons_append, ← List.append_assoc] at hplugin
      obtain ⟨rfl, -⟩ := List.append_inj' hplugin rfl
      exact .inl ⟨first, found, init, rfl, hfor⟩
  · rintro (⟨first, found, rest, rfl, hfor⟩ | hfor)
    · exact ⟨first, found, rest ++ [step], by simp, hfor⟩
    · exact ⟨before, step, [], rfl, hfor⟩

/-- What one more step adds to the loaders of a plugin. -/
theorem extends_setup (hcache : cache.Reachable) (before : Plugin) (step : SetupStep) :
    (setup before cache).Extends step (setup (before ++ [step]) cache).loaders := by
  rw [setup_append]
  exact Registration.extends_step (reachable_setup hcache before) step

/-- None of the loaders of a plugin is meant for a path if no step offers one. -/
theorem find?_setup_eq_none_iff (hcache : cache.Reachable) (plugin : Plugin) :
    LoaderPlugin.find? (plugin.setup cache).loaders path internal = none ↔
      ¬ Offers path internal plugin := by
  -- A step finds the name that the steps before it gave, so the induction takes steps off the end.
  induction plugin using List.reverseRecOn with
  | nil => exact iff_of_true rfl not_offers_nil
  | append_singleton before step ih =>
      have hextends := extends_setup hcache before step
      rw [offers_append_singleton, not_or, ← ih]
      generalize (setup (before ++ [step]) cache).loaders = loaders at hextends
      cases hextends with
      | @installed loader haccepted hloader =>
          rw [name_setup] at haccepted hloader
          rw [LoaderPlugin.find?_append, Option.or_eq_none_iff, LoaderPlugin.find?_singleton,
            hloader.isFor_eq haccepted]
          exact and_congr_right fun _ => by simp
      | unchanged hstep =>
          rw [← name_setup before cache, hstep]
          simp

/-- More steps do not change what is chosen. -/
theorem Chooses.append {plugin : Plugin} {loader : LoaderPlugin}
    (h : plugin.Chooses cache path internal loader) (more : Plugin) :
    Chooses cache path internal (plugin ++ more) loader := by
  cases h with
  | intro hbefore hstep hloader hinstalled =>
      rw [List.append_assoc]
      exact .intro hbefore hstep hloader hinstalled

/-- What a plugin chooses is found among its loaders. -/
theorem Chooses.find?_setup {plugin : Plugin} {loader : LoaderPlugin}
    (h : plugin.Chooses cache path internal loader) (hcache : cache.Reachable) :
    LoaderPlugin.find? (plugin.setup cache).loaders path internal = some loader := by
  cases h with
  | @intro before after step _ hbefore hstep hloader hinstalled =>
      have hearlier := (find?_setup_eq_none_iff hcache before).mpr hbefore
      have happlies := hloader.isFor_eq (SetupStep.isAccepted_of_isFor hstep) path internal
      rw [hstep] at happlies
      obtain ⟨rest, hrest⟩ :=
        Registration.loaders_prefix_run (reachable_setup hcache (before ++ [step])) after
      rw [← setup_append, hinstalled] at hrest
      have hsplit : before ++ step :: after = before ++ [step] ++ after := by simp
      rw [hsplit, ← hrest, LoaderPlugin.find?_append, LoaderPlugin.find?_append, hearlier,
        LoaderPlugin.find?_singleton, ← happlies]
      rfl

/-- What is found among the loaders of a plugin is what the plugin chooses. -/
theorem find?_setup_eq_some_iff (hcache : cache.Reachable) (plugin : Plugin)
    (loader : LoaderPlugin) :
    LoaderPlugin.find? (plugin.setup cache).loaders path internal = some loader ↔
      plugin.Chooses cache path internal loader := by
  refine ⟨?_, fun hchooses => hchooses.find?_setup hcache⟩
  induction plugin using List.reverseRecOn with
  | nil => exact fun hfound => nomatch hfound
  | append_singleton before step ih =>
      intro hfound
      have hextends := extends_setup hcache before step
      generalize hloaders : (setup (before ++ [step]) cache).loaders = loaders
        at hfound hextends
      cases hextends with
      | @installed last haccepted hloader =>
          rw [name_setup] at haccepted hloader
          rw [LoaderPlugin.find?_append, Option.or_eq_some_iff] at hfound
          rcases hfound with hearlier | ⟨hearlier, hlast⟩
          · exact (ih hearlier).append [step]
          · -- No loader before this one is for the path, so the step is the first that is.
            have hnone := (find?_setup_eq_none_iff hcache before).mp hearlier
            rw [LoaderPlugin.find?_singleton, Option.ite_none_right_eq_some] at hlast
            obtain ⟨happlies, ⟨⟩⟩ := hlast
            rw [← hloader.isFor_eq haccepted] at happlies
            exact .intro hnone happlies hloader hloaders
      | unchanged => exact (ih hfound).append [step]

/-- Without a step that is refused, a setup differs in the problems only. -/
theorem setup_of_refused (hcache : cache.Reachable) {before : Plugin} {step : SetupStep}
    (hrefused : step.isAccepted (givenName? before) = false) (after : Plugin) :
    ∃ problems : List SetupProblem,
      setup (before ++ step :: after) cache = { setup (before ++ after) cache with problems } := by
  have hobeys := Registration.obeys_step (reachable_setup hcache before) step
  rw [← name_setup before cache] at hrefused
  obtain ⟨problem, -, hnext⟩ := hobeys.refuses_iff.mpr hrefused
  rw [setup_append, setup_append, List.foldl_cons, hnext]
  exact Registration.run_problems _ _ after

end Plugin

/-! ## Several plugins -/

namespace Installation

variable {cache : FilterCache} {path : Path} {internal : Bool}

/-- The loader of the first plugin that has one for a path, chosen when this plugin is set up after
the ones in front of it. -/
inductive Chosen (cache : FilterCache) (path : Path) (internal : Bool) :
    List Plugin → LoaderPlugin → Prop
  | intro {front back : List Plugin} {plugin : Plugin} {loader : LoaderPlugin}
      (hfront : ∀ earlier ∈ front, ¬ earlier.Offers path internal)
      (hplugin : plugin.Chooses (ofPlugins front cache).cache path internal loader) :
      Chosen cache path internal (front ++ plugin :: back) loader

/-- Plugins that follow others are set up on the cache that these leave. -/
theorem ofPlugins_append (front back : List Plugin) (cache : FilterCache) :
    ofPlugins (front ++ back) cache = {
      loaders := (ofPlugins front cache).loaders ++
        (ofPlugins back (ofPlugins front cache).cache).loaders
      problems := (ofPlugins front cache).problems ++
        (ofPlugins back (ofPlugins front cache).cache).problems
      cache := (ofPlugins back (ofPlugins front cache).cache).cache } := by
  induction front generalizing cache with
  | nil => rfl
  | cons plugin rest ih => simp [ofPlugins, ih]

theorem reachable_ofPlugins (hcache : cache.Reachable) (plugins : List Plugin) :
    (ofPlugins plugins cache).cache.Reachable :=
  hcache.after (calls_ofPlugins plugins cache)

theorem find?_ofPlugins_append (front back : List Plugin) (cache : FilterCache) :
    LoaderPlugin.find? (ofPlugins (front ++ back) cache).loaders path internal =
      (LoaderPlugin.find? (ofPlugins front cache).loaders path internal).or
        (LoaderPlugin.find? (ofPlugins back (ofPlugins front cache).cache).loaders path
          internal) := by
  rw [ofPlugins_append]
  exact LoaderPlugin.find?_append _ _ path internal

theorem find?_ofPlugins_cons (plugin : Plugin) (rest : List Plugin) (cache : FilterCache) :
    LoaderPlugin.find? (ofPlugins (plugin :: rest) cache).loaders path internal =
      (LoaderPlugin.find? (plugin.setup cache).loaders path internal).or
        (LoaderPlugin.find? (ofPlugins rest (plugin.setup cache).cache).loaders path internal) :=
  LoaderPlugin.find?_append _ _ path internal

/-- No loader is found for a path if no plugin has one for it. -/
theorem find?_ofPlugins_eq_none_iff (plugins : List Plugin) (hcache : cache.Reachable) :
    LoaderPlugin.find? (ofPlugins plugins cache).loaders path internal = none ↔
      ∀ plugin ∈ plugins, ¬ plugin.Offers path internal := by
  induction plugins generalizing cache with
  | nil => simp [ofPlugins, LoaderPlugin.find?]
  | cons plugin rest ih =>
      rw [find?_ofPlugins_cons, Option.or_eq_none_iff, List.forall_mem_cons,
        Plugin.find?_setup_eq_none_iff hcache, ih (Plugin.reachable_setup hcache plugin)]

/-- What is found among the loaders of all plugins is what is chosen from the plugins. -/
theorem find?_ofPlugins_eq_some_iff (plugins : List Plugin) (hcache : cache.Reachable)
    (loader : LoaderPlugin) :
    LoaderPlugin.find? (ofPlugins plugins cache).loaders path internal = some loader ↔
      Chosen cache path internal plugins loader := by
  constructor
  · induction plugins generalizing cache with
    | nil => exact fun hfound => nomatch hfound
    | cons plugin rest ih =>
        intro hfound
        rw [find?_ofPlugins_cons, Option.or_eq_some_iff] at hfound
        rcases hfound with hfirst | ⟨hnone, hlater⟩
        · have hchooses := (Plugin.find?_setup_eq_some_iff hcache plugin loader).mp hfirst
          have hfront : ∀ earlier ∈ ([] : List Plugin), ¬ earlier.Offers path internal := by simp
          exact .intro hfront hchooses
        · have hchosen := ih (Plugin.reachable_setup hcache plugin) hlater
          rw [Plugin.find?_setup_eq_none_iff hcache] at hnone
          cases hchosen with
          | intro hfront hchooses =>
              exact .intro (List.forall_mem_cons.mpr ⟨hnone, hfront⟩) hchooses
  · rintro ⟨hfront, hchooses⟩
    have hnone := (find?_ofPlugins_eq_none_iff _ hcache).mpr hfront
    rw [find?_ofPlugins_append, hnone, Option.none_or, find?_ofPlugins_cons,
      hchooses.find?_setup (reachable_ofPlugins hcache _), Option.some_or]

/-- Without a step that is refused, plugins differ in the problems only. -/
theorem loaders_of_refused (hcache : cache.Reachable) {front back : List Plugin}
    {before after : Plugin} {step : SetupStep}
    (hrefused : step.isAccepted (Plugin.givenName? before) = false) :
    (ofPlugins (front ++ (before ++ step :: after) :: back) cache).loaders =
      (ofPlugins (front ++ (before ++ after) :: back) cache).loaders := by
  obtain ⟨problems, hsetup⟩ :=
    Plugin.setup_of_refused (reachable_ofPlugins hcache front) hrefused after
  rw [ofPlugins_append, ofPlugins_append]
  simp only [ofPlugins, hsetup]

/-- Choosing among the loaders of plugins is choosing among their accepted steps, by the place of
the plugin and then by the place of the step: the first that is for the path installs the loader
that is found, and nothing is found if there is none.  So plugins that come later change nothing for
a path that has a loader, a file within the build gets what it would get if there were only loaders
for such files, and a step that is refused may as well be left out. -/
theorem find?_ofPlugins (plugins : List Plugin) (hcache : cache.Reachable) (path : Path)
    (internal : Bool) :
    (∀ loader : LoaderPlugin,
        LoaderPlugin.find? (ofPlugins plugins cache).loaders path internal = some loader ↔
          Chosen cache path internal plugins loader) ∧
      (LoaderPlugin.find? (ofPlugins plugins cache).loaders path internal = none ↔
        ∀ plugin ∈ plugins, ¬ plugin.Offers path internal) ∧
      (∀ (more : List Plugin) (loader : LoaderPlugin),
        LoaderPlugin.find? (ofPlugins plugins cache).loaders path internal = some loader →
          LoaderPlugin.find? (ofPlugins (plugins ++ more) cache).loaders path internal =
            some loader) ∧
      LoaderPlugin.find? (ofPlugins plugins cache).loaders path true =
        LoaderPlugin.find? ((ofPlugins plugins cache).loaders.filter (·.matchInternal)) path
          false ∧
      (∀ (front back : List Plugin) (before after : Plugin) (step : SetupStep),
        plugins = front ++ (before ++ step :: after) :: back →
        step.isAccepted (Plugin.givenName? before) = false →
          LoaderPlugin.find? (ofPlugins plugins cache).loaders path internal =
            LoaderPlugin.find? (ofPlugins (front ++ (before ++ after) :: back) cache).loaders path
              internal) := by
  refine ⟨find?_ofPlugins_eq_some_iff plugins hcache, find?_ofPlugins_eq_none_iff plugins hcache,
    ?_, ?_, ?_⟩
  · intro more loader hfound
    rw [find?_ofPlugins_append, hfound, Option.some_or]
  · exact LoaderPlugin.find?_internal _ path
  · rintro front back before after step rfl hrefused
    rw [loaders_of_refused hcache hrefused]

/-- Two plugins with two refused steps and overlapping filters: the loader of the first plugin is
for files on disk only, so the second one gets the files within the build. -/
theorem find?_ofPlugins_overlapping :
    let callback : LoaderCallback := fun _ => .error "unused"
    let bad : SetupStep := .addLoader "(" true callback
    let first : Plugin := [.setName "first", bad, .addLoader "txt$" false callback]
    let second : Plugin := [.addLoader "txt$" true callback, .setName "second",
      .addLoader "a" true callback, .addLoader "txt$" true callback]
    let cache := (({} : FilterCache).lookup "txt$").2
    let names (plugins : List Plugin) (path : String) (internal : Bool) :=
      (LoaderPlugin.find? (ofPlugins plugins cache).loaders ⟨path⟩ internal).map
        fun loader => (loader.plugin, loader.filter.pattern)
    cache.Reachable ∧ bad.isAccepted (some "first") = false ∧
      names [first, second] "/a.txt" false = some ("first", "txt$") ∧
      names [first, second] "/a.txt" true = some ("second", "a") ∧
      names [first, second] "/b.txt" true = some ("second", "txt$") ∧
      names [first, second] "/b.css" false = none ∧
      (∃ loader, Chosen cache ⟨"/a.txt"⟩ false [first, second] loader) ∧
      (∀ plugin ∈ [first, second], ¬ plugin.Offers ⟨"/b.css"⟩ false) := by
  intro callback bad first second cache names
  have hcache : cache.Reachable := ⟨_, .singleton {} "txt$"⟩
  have hfound : (LoaderPlugin.find? (ofPlugins [first, second] cache).loaders ⟨"/a.txt"⟩
      false).isSome = true := by
    decide +kernel
  refine ⟨hcache, by decide +kernel, by decide +kernel, by decide +kernel, by decide +kernel,
    by decide +kernel, ?_, ?_⟩
  · obtain ⟨loader, hloader⟩ := Option.isSome_iff_exists.mp hfound
    exact ⟨loader, ((find?_ofPlugins [first, second] hcache ⟨"/a.txt"⟩ false).1 loader).mp hloader⟩
  · have hnone := find?_ofPlugins [first, second] hcache ⟨"/b.css"⟩ false
    exact hnone.2.1.mp (Option.isNone_iff_eq_none.mp (by decide +kernel))

end Installation
end BundleFront
