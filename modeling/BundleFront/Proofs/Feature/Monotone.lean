import BundleFront.Proofs.Feature

/-!
# Features ruled out by tables of constraints

A table of constraints rules out a feature as soon as one of its runners lacks it.  So two
tables for different runners rule out together what either of them rules out, and a table
that demands higher versions of the same runners rules out no more.

* `Feature.mem_unsupported_overlay_iff` — two tables for different runners.
* `Feature.unsupported_subset` — higher versions for the same runners, carried by the
  transitivity of the order of versions.
* `Feature.unsupported_monotone` — both, and versions that differ only in zeros.
-/

namespace BundleFront

namespace Constraints

variable {constraints others : Constraints} {r : Version → Version → Prop} {runner : Runner}

/-- Tables that constrain the same runners, by versions that are related one by one. -/
def Related (r : Version → Version → Prop) (constraints others : Constraints) : Prop :=
  ∀ runner, Option.Rel r (Table.get? runner constraints) (Table.get? runner others)

theorem Related.exists_left (h : constraints.Related r others) {other : Version}
    (hother : Table.get? runner others = some other) :
    ∃ version, Table.get? runner constraints = some version ∧ r version other := by
  have hrunner := h runner
  rw [hother] at hrunner
  generalize Table.get? runner constraints = found at hrunner ⊢
  cases hrunner with
  | some hr => exact ⟨_, rfl, hr⟩

theorem Related.exists_right (h : constraints.Related r others) {version : Version}
    (hversion : Table.get? runner constraints = some version) :
    ∃ other, Table.get? runner others = some other ∧ r version other := by
  have hrunner := h runner
  rw [hversion] at hrunner
  generalize Table.get? runner others = found at hrunner ⊢
  cases hrunner with
  | some hr => exact ⟨_, rfl, hr⟩

theorem related_singleton {version other : Version} (h : r version other) :
    Related r [(runner, version)] [(runner, other)] := by
  intro asked
  unfold Table.get?
  split_ifs with hrunner
  · exact .some h
  · exact .none

end Constraints

namespace Feature

variable {constraints others : Constraints}

/-- What a version of a runner lacks, no lower version has. -/
theorem LackedBy.of_sequence_le {feature : Feature} {runner : Runner} {version higher : Version}
    (h : feature.LackedBy runner higher) (hle : version.sequence ≤ higher.sequence) :
    feature.LackedBy runner version := by
  rcases h with hunlisted | ⟨first, hfirst, hbelow⟩
  · exact .inl hunlisted
  · refine .inr ⟨first, hfirst, ?_⟩
    rw [Version.below_iff_sequence_lt] at hbelow ⊢
    exact hle.trans_lt hbelow

/-- One constraint rules out what its runner lacks. -/
theorem mem_unsupported_singleton_iff {feature : Feature} {runner : Runner} {version : Version} :
    feature ∈ unsupported [(runner, version)] ↔ feature.LackedBy runner version := by
  simp only [unsupported, List.mem_filter, feature.mem_all, true_and, List.any_cons, List.any_nil,
    Bool.or_false, missingOn_iff]

theorem mem_unsupported_overlay_iff (hnodup : (Table.keys constraints).Nodup)
    (hothers : (Table.keys others).Nodup)
    (hdisjoint : ∀ runner ∈ Table.keys constraints, runner ∉ Table.keys others)
    {feature : Feature} :
    feature ∈ unsupported (Table.overlay constraints others) ↔
      feature ∈ unsupported constraints ∨ feature ∈ unsupported others := by
  rw [mem_unsupported_iff (Table.nodup_keys_overlay hnodup others), mem_unsupported_iff hnodup,
    mem_unsupported_iff hothers]
  simp only [Table.get?_overlay_of_nodup _ _ hothers]
  -- The table laid over the other answers first, but it has nothing to say on the other's runners.
  constructor
  · rintro ⟨runner, version, hversion, hlacked⟩
    cases hother : Table.get? runner others with
    | none =>
        rw [hother, Option.none_or] at hversion
        exact .inl ⟨runner, version, hversion, hlacked⟩
    | some other =>
        rw [hother, Option.some_or] at hversion
        exact .inr ⟨runner, version, hother.trans hversion, hlacked⟩
  · rintro (⟨runner, version, hversion, hlacked⟩ | ⟨runner, version, hversion, hlacked⟩)
    · have hkey : runner ∈ Table.keys constraints :=
        List.mem_map.mpr ⟨_, Table.mem_of_get?_eq_some hversion, rfl⟩
      refine ⟨runner, version, ?_, hlacked⟩
      rw [Table.get?_eq_none_iff.mpr (hdisjoint runner hkey), Option.none_or]
      exact hversion
    · refine ⟨runner, version, ?_, hlacked⟩
      rw [hversion, Option.some_or]

/-- Where every runner is constrained by no higher a version already, nothing more is ruled out. -/
theorem unsupported_subset (hnodup : (Table.keys constraints).Nodup)
    (hothers : (Table.keys others).Nodup)
    (hlower : ∀ runner higher, Table.get? runner others = some higher →
      ∃ version, Table.get? runner constraints = some version ∧
        version.sequence ≤ higher.sequence) :
    unsupported others ⊆ unsupported constraints := by
  intro feature hfeature
  rw [mem_unsupported_iff hothers] at hfeature
  rw [mem_unsupported_iff hnodup]
  obtain ⟨runner, higher, hhigher, hlacked⟩ := hfeature
  obtain ⟨version, hversion, hle⟩ := hlower runner higher hhigher
  exact ⟨runner, version, hversion, hlacked.of_sequence_le hle⟩

/-- One constraint rules out what its runner lacks.  Constraints on different runners rule out
together what they rule out alone, so one more runner takes nothing back.  Higher versions of the
same runners rule out no more, and versions that differ only in zeros at their ends rule out the
same. -/
theorem unsupported_monotone (hnodup : (Table.keys constraints).Nodup)
    (hothers : (Table.keys others).Nodup) :
    unsupported [] = [] ∧
      (∀ feature runner version,
        feature ∈ unsupported [(runner, version)] ↔ feature.LackedBy runner version) ∧
      ((∀ runner ∈ Table.keys constraints, runner ∉ Table.keys others) →
        ∀ feature, feature ∈ unsupported (Table.overlay constraints others) ↔
          feature ∈ unsupported constraints ∨ feature ∈ unsupported others) ∧
      (∀ runner version, runner ∉ Table.keys constraints →
        unsupported constraints ⊆ unsupported (Table.put runner version constraints)) ∧
      (constraints.Related (fun version higher => version.order higher ≠ .gt) others →
        unsupported others ⊆ unsupported constraints) ∧
      (constraints.Related Version.SameButZeros others →
        unsupported others = unsupported constraints) := by
  refine ⟨?empty, fun _ _ _ => mem_unsupported_singleton_iff, ?union, ?new, ?higher, ?zeros⟩
  case empty => simp [unsupported]
  case union => exact fun hdisjoint feature => mem_unsupported_overlay_iff hnodup hothers hdisjoint
  case new =>
    intro runner version hnew feature hfeature
    have hone : (Table.keys [(runner, version)]).Nodup := List.pairwise_singleton _ runner
    have hdisjoint : ∀ other ∈ Table.keys constraints,
        other ∉ Table.keys [(runner, version)] := by
      intro other hother hmem
      rw [List.mem_singleton.mp hmem] at hother
      exact hnew hother
    exact (mem_unsupported_overlay_iff hnodup hone hdisjoint).mpr (.inl hfeature)
  case higher =>
    intro hrelated
    refine unsupported_subset hnodup hothers fun runner higher hhigher => ?_
    obtain ⟨version, hversion, horder⟩ := hrelated.exists_left hhigher
    exact ⟨version, hversion, Version.order_ne_gt_iff.mp horder⟩
  case zeros =>
    intro hrelated
    -- Versions with the same sequence are at most as high as each other, so nothing more is ruled
    -- out either way.
    have hsubset : unsupported others ⊆ unsupported constraints := by
      refine unsupported_subset hnodup hothers fun runner other hother => ?_
      obtain ⟨version, hversion, hsame⟩ := hrelated.exists_left hother
      exact ⟨version, hversion, hsame.sequence_eq.le⟩
    have hsuperset : unsupported constraints ⊆ unsupported others := by
      refine unsupported_subset hothers hnodup fun runner version hversion => ?_
      obtain ⟨other, hother, hsame⟩ := hrelated.exists_right hversion
      exact ⟨other, hother, hsame.sequence_eq.ge⟩
    exact unsupported_eq_of_mem_iff fun feature => ⟨@hsubset feature, @hsuperset feature⟩

/-- Node has big integers from version 10.4 on: a lower version rules out more, a version with one
more zero the same, and an edition adds what it lacks. -/
theorem unsupported_monotone_node :
    let old : Constraints := [(.engine .node, [10, 3])]
    let new : Constraints := [(.engine .node, [10, 4])]
    let longer : Constraints := [(.engine .node, [10, 4, 0])]
    let edition : Constraints := [(.edition, [2019])]
    (Table.keys old).Nodup ∧ (Table.keys new).Nodup ∧ (Table.keys longer).Nodup ∧
      (Table.keys edition).Nodup ∧
      unsupported longer ⊆ unsupported old ∧ .bigInt ∈ unsupported old ∧
      unsupported longer = unsupported new ∧
      ∀ feature, feature ∈ unsupported (Table.overlay longer edition) ↔
        feature ∈ unsupported longer ∨ feature ∈ unsupported edition := by
  intro old new longer edition
  have hold : (Table.keys old).Nodup := by decide
  have hnew : (Table.keys new).Nodup := by decide
  have hlonger : (Table.keys longer).Nodup := by decide
  have hedition : (Table.keys edition).Nodup := by decide
  obtain ⟨-, -, -, -, hhigher, -⟩ := unsupported_monotone hold hlonger
  obtain ⟨-, -, -, -, -, hzeros⟩ := unsupported_monotone hnew hlonger
  obtain ⟨-, hone, hunion, -, -, -⟩ := unsupported_monotone hlonger hedition
  have hbelow (more : List UInt32) : Version.Below [10, 3] (10 :: 4 :: more) := by
    refine ⟨1, ?_, (by decide : (3 : UInt32) < 4)⟩
    intro earlier hearlier
    rw [Nat.lt_one_iff.mp hearlier]
    rfl
  have hraised : Version.order [10, 3] [10, 4, 0] ≠ .gt := by
    rw [Version.order_eq_lt_iff.mpr (hbelow [0])]
    decide
  refine ⟨hold, hnew, hlonger, hedition, hhigher (Constraints.related_singleton hraised), ?_,
    hzeros (Constraints.related_singleton ⟨1, 0, rfl⟩), hunion (by decide)⟩
  exact (hone .bigInt (.engine .node) [10, 3]).mpr (.inr ⟨[10, 4], by decide, hbelow []⟩)

end Feature
end BundleFront
