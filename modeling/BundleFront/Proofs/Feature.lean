import BundleFront.Proofs.Checked
import BundleFront.Proofs.Table
import BundleFront.Proofs.Version
import BundleFront.Settings.Check

/-!
# Features that runners lack

A runner lacks a feature if the feature is not listed for it, or is listed only from a
later version on.  The output must not use what the edition of the target lacks, and
what an engine lacks in the last version that is given for it and can be read.

Versions that cannot be read count for nothing, and it does not matter how engines of
different names are mixed.

* `Feature.mem_unsupported_iff` — what a table of constraints rules out.
* `get?_constraintsOf_engine` — the constraint that a list of engines comes to.
* `checkFeatures_by_lastVersions` — the features that a target and engines rule out.
-/

namespace BundleFront

namespace Feature

/-- Whether a runner lacks the feature: none of its versions is listed, or only a later one. -/
def LackedBy (feature : Feature) (runner : Runner) (version : Version) : Prop :=
  (∀ first, (runner, first) ∉ feature.support) ∨
    ∃ first, (runner, first) ∈ feature.support ∧ version.Below first

theorem mem_all (feature : Feature) : feature ∈ all := by
  cases feature <;> decide

/-- A feature is listed at most once for each runner. -/
theorem nodup_keys_support (feature : Feature) : (Table.keys feature.support).Nodup := by
  cases feature <;> decide

theorem missingOn_iff {feature : Feature} {runner : Runner} {version : Version} :
    feature.missingOn runner version = true ↔ feature.LackedBy runner version := by
  have hlisted (first : Version) :
      (runner, first) ∈ feature.support ↔ Table.get? runner feature.support = some first :=
    Table.mem_iff_get?_eq_some feature.nodup_keys_support
  unfold missingOn LackedBy
  simp only [hlisted]
  cases Table.get? runner feature.support with
  | none => simp
  | some first => simp [← Version.order_eq_lt_iff, Ordering.isLT_iff_eq_lt]

theorem mem_unsupported_iff {constraints : Constraints}
    (hnodup : (Table.keys constraints).Nodup) {feature : Feature} :
    feature ∈ unsupported constraints ↔
      ∃ runner version, Table.get? runner constraints = some version ∧
        feature.LackedBy runner version := by
  simp only [unsupported, List.mem_filter, feature.mem_all, true_and, List.any_eq_true,
    missingOn_iff, Prod.exists, Table.mem_iff_get?_eq_some hnodup]

/-- Sets of features are listed in one order, so they are known by their members. -/
theorem unsupported_eq_of_mem_iff {constraints others : Constraints}
    (h : ∀ feature, feature ∈ unsupported constraints ↔ feature ∈ unsupported others) :
    unsupported constraints = unsupported others := by
  refine List.filter_congr fun feature hfeature => ?_
  have hmem := h feature
  simp only [unsupported, List.mem_filter, hfeature, true_and] at hmem
  exact Bool.eq_iff_iff.mpr hmem

end Feature

/-! ## Constraints -/

/-- The versions given for an engine that can be read, in order. -/
def Engine.versionsOf (name : EngineName) (engines : List Engine) : List Version :=
  (engines.filter fun engine => engine.name = name).filterMap fun engine =>
    Version.parse? engine.version

/-- What a target and engines demand, in the order in which it is put into a table. -/
def demands (target : Target) (engines : List Engine) : Constraints :=
  (target.edition?.toList.map fun number => (.edition, [number])) ++
    engines.filterMap fun engine =>
      (Version.parse? engine.version).map fun version => (.engine engine.name, version)

theorem value_checkFeatures (target : Target) (engines : List Engine) :
    (checkFeatures target engines).value =
      Feature.unsupported (Table.overlay [] (demands target engines)) := by
  have hone (engine : Engine) : (checkEngine engine).value =
      (Version.parse? engine.version).map fun version => (.engine engine.name, version) := by
    unfold checkEngine
    cases Version.parse? engine.version <;> rfl
  simp only [checkFeatures, Checked.value_bind, Checked.value_pure, Checked.value_filterMap, hone]
  rfl

/-- Of what engines demand, only what is demanded of its own name counts for an engine. -/
theorem filter_demands_engine (target : Target) (engines : List Engine) (name : EngineName) :
    ((demands target engines).filter fun entry => entry.1 = .engine name).map Prod.snd =
      Engine.versionsOf name engines := by
  have hedition : (target.edition?.toList.map fun number => (Runner.edition, [number])).filter
      (fun entry => entry.1 = .engine name) = [] := by
    cases target.edition? <;> simp
  rw [demands, List.filter_append, hedition, List.nil_append]
  unfold Engine.versionsOf
  induction engines with
  | nil => rfl
  | cons engine rest ih =>
      by_cases hname : engine.name = name
      · cases hversion : Version.parse? engine.version <;> simp [hname, hversion, ih]
      · cases hversion : Version.parse? engine.version <;> simp [hname, hversion, ih]

theorem filter_demands_edition (target : Target) (engines : List Engine) :
    ((demands target engines).filter fun entry => entry.1 = .edition).map Prod.snd =
      target.edition?.toList.map fun number => [number] := by
  have hengines : (engines.filterMap fun engine => (Version.parse? engine.version).map fun version =>
      (Runner.engine engine.name, version)).filter (fun entry => entry.1 = .edition) = [] := by
    simp only [List.filter_eq_nil_iff, List.mem_filterMap, Option.map_eq_some_iff]
    rintro _ ⟨engine, -, version, -, rfl⟩
    simp
  rw [demands, List.filter_append, hengines, List.append_nil]
  cases target.edition? <;> simp

/-- The features that a target and engines rule out are those that the edition lacks, or an engine in
the last version that is given for it and can be read. -/
theorem mem_value_checkFeatures_iff (target : Target) (engines : List Engine) (feature : Feature) :
    feature ∈ (checkFeatures target engines).value ↔
      (∃ edition, target.edition? = some edition ∧ feature.LackedBy .edition [edition]) ∨
        ∃ name version, (Engine.versionsOf name engines).getLast? = some version ∧
          feature.LackedBy (.engine name) version := by
  have hnodup : (Table.keys (Table.overlay [] (demands target engines))).Nodup :=
    Table.nodup_keys_overlay (by simp [Table.keys]) _
  have hget (runner : Runner) : Table.get? runner (Table.overlay [] (demands target engines)) =
      (((demands target engines).filter fun entry => entry.1 = runner).map Prod.snd).getLast? := by
    rw [Table.get?_overlay, ← Table.last?_eq_getLast?]
    exact Option.or_none
  rw [value_checkFeatures, Feature.mem_unsupported_iff hnodup]
  -- A runner is the edition or an engine, and no demand on the one is a demand on the other.
  constructor
  · rintro ⟨runner, version, hversion, hlacked⟩
    rw [hget] at hversion
    cases runner with
    | edition =>
        rw [filter_demands_edition] at hversion
        cases hedition : target.edition? with
        | none => simp [hedition] at hversion
        | some edition =>
            rw [hedition] at hversion
            cases hversion
            exact .inl ⟨edition, rfl, hlacked⟩
    | engine name =>
        rw [filter_demands_engine] at hversion
        exact .inr ⟨name, version, hversion, hlacked⟩
  · rintro (⟨edition, hedition, hlacked⟩ | ⟨name, version, hversion, hlacked⟩)
    · refine ⟨.edition, [edition], ?_, hlacked⟩
      rw [hget, filter_demands_edition, hedition]
      rfl
    · refine ⟨.engine name, version, ?_, hlacked⟩
      rw [hget, filter_demands_engine, hversion]

/-- Engines with the same last versions rule out the same features. -/
theorem value_checkFeatures_congr {target : Target} {engines others : List Engine}
    (h : ∀ name, (Engine.versionsOf name engines).getLast? =
      (Engine.versionsOf name others).getLast?) :
    (checkFeatures target engines).value = (checkFeatures target others).value := by
  rw [value_checkFeatures, value_checkFeatures]
  refine Feature.unsupported_eq_of_mem_iff fun feature => ?_
  rw [← value_checkFeatures, ← value_checkFeatures, mem_value_checkFeatures_iff,
    mem_value_checkFeatures_iff]
  simp only [h]

/-- A target and engines rule out the features that the edition lacks, if the target has one, and
those that an engine lacks in the last version that is given for it and can be read.  Versions that
cannot be read may be left out, and engines of different names may change places. -/
theorem checkFeatures_by_lastVersions (target : Target) (engines : List Engine) :
    (∀ feature, feature ∈ (checkFeatures target engines).value ↔
      (∃ edition, target.edition? = some edition ∧ feature.LackedBy .edition [edition]) ∨
        ∃ name version, (Engine.versionsOf name engines).getLast? = some version ∧
          feature.LackedBy (.engine name) version) ∧
    (checkFeatures target (engines.filter fun engine =>
      (Version.parse? engine.version).isSome)).value = (checkFeatures target engines).value ∧
    ∀ others : List Engine,
      (∀ name, (others.filter fun engine => engine.name = name) =
        engines.filter fun engine => engine.name = name) →
      (checkFeatures target others).value = (checkFeatures target engines).value := by
  refine ⟨mem_value_checkFeatures_iff target engines, ?unread, ?mixed⟩
  case unread =>
    refine value_checkFeatures_congr fun name => congrArg List.getLast? ?_
    unfold Engine.versionsOf
    rw [List.filter_filter, List.filterMap_filter, List.filterMap_filter]
    refine List.filterMap_congr fun engine _ => ?_
    cases Version.parse? engine.version <;> simp
  case mixed =>
    intro others hothers
    refine value_checkFeatures_congr fun name => ?_
    unfold Engine.versionsOf
    rw [hothers name]

/-- The edition rules out a feature that the engine has, and the engine one that the edition and an
earlier version of the engine have; versions that cannot be read stand among the others. -/
theorem checkFeatures_by_lastVersions_olderChrome :
    let engines : List Engine := [⟨.chrome, "80"⟩, ⟨.node, "latest"⟩, ⟨.safari, "14"⟩,
      ⟨.chrome, "65"⟩, ⟨.chrome, "v90"⟩]
    let others : List Engine := [⟨.safari, "14"⟩, ⟨.chrome, "80"⟩, ⟨.chrome, "65"⟩,
      ⟨.chrome, "v90"⟩, ⟨.node, "latest"⟩]
    (∀ name, (others.filter fun engine => engine.name = name) =
        engines.filter fun engine => engine.name = name) ∧
      (checkFeatures .es2019 others).value = (checkFeatures .es2019 engines).value ∧
      (Feature.importMeta.LackedBy .edition [2019] ∧
        (.engine .chrome, [64]) ∈ Feature.importMeta.support ∧
        .importMeta ∈ (checkFeatures .es2019 engines).value) ∧
      (Engine.versionsOf .chrome engines).getLast? = some [65] ∧
        Feature.optionalCatchBinding.LackedBy (.engine .chrome) [65] ∧
        .optionalCatchBinding ∈ (checkFeatures .es2019 engines).value := by
  intro engines others
  obtain ⟨hmem, -, hmixed⟩ := checkFeatures_by_lastVersions .es2019 engines
  have hothers : ∀ name, (others.filter fun engine => engine.name = name) =
      engines.filter fun engine => engine.name = name := by
    intro name
    cases name <;> rfl
  have hedition : Feature.importMeta.LackedBy .edition [2019] :=
    .inr ⟨[2020], by decide, 0, by simp, by decide⟩
  have hlast : (Engine.versionsOf .chrome engines).getLast? = some [65] := by decide +kernel
  have hchrome : Feature.optionalCatchBinding.LackedBy (.engine .chrome) [65] :=
    .inr ⟨[66], by decide, 0, by simp, by decide⟩
  exact ⟨hothers, hmixed others hothers,
    ⟨hedition, by decide, (hmem .importMeta).mpr (.inl ⟨2019, rfl, hedition⟩)⟩, hlast, hchrome,
    (hmem .optionalCatchBinding).mpr (.inr ⟨.chrome, [65], hlast, hchrome⟩)⟩

end BundleFront
