import BundleFront.Proofs.Checked
import BundleFront.Proofs.Diagnostic.Partition
import BundleFront.Proofs.Text.Utf8
import BundleFront.Proofs.Toolchain.Gates
import BundleFront.Session
import Mathlib.Data.List.Permutation

/-!
# What a transform hands back

A transform can still fail after the last method is through: what was compiled has to
be code, alone or with its source map.  The messages and the code belong together all
the same.

A toolchain may hand back code and source map in either order.  Which of the two units is
the map is decided by their paths alone, and never both ways, so the order does not show.
Units are either handed back whole or reported; none is dropped in silence.

* `Compiled.Unpacks` — the units that are code, alone or with its source map.
* `Compiled.ofUnits_of_unpacks` and `Compiled.ofUnits_of_not_unpacks` — telling them
  apart finds all such units, and nothing else.
* `Compiled.ofUnits_keeps_or_reports` — units in whatever order, handed back whole or
  reported.
* `ends_transform` — the three ends of a transform.
* `transform_gated` — its calls, messages and code, for every toolchain.
-/

namespace BundleFront

variable {ε ρ γ : Type}

/-- A source map is not the code of its code: its path is the longer one. -/
theorem OutputUnit.isMapOf_eq_false_of_isMapOf {map code : OutputUnit}
    (h : map.isMapOf code = true) : code.isMapOf map = false := by
  have hmap : map.path = code.path.append ".map" := eq_of_beq h
  rw [isMapOf, beq_eq_false_iff_ne]
  intro hcode
  -- Each path would be longer than the other.
  have hlength : (map.path.append ".map").text.length = code.path.text.length := by
    rw [← hcode]
  rw [hmap] at hlength
  simp only [Path.append, String.length_append] at hlength
  have hsuffix : ".map".length = 4 := rfl
  omega

namespace Compiled

/-- The units that are code, alone or before or behind its source map. -/
inductive Unpacks : List OutputUnit → Compiled → Prop
  | alone (code : OutputUnit) : Unpacks [code] ⟨code.contents, none⟩
  | mapLast {code map : OutputUnit} (hmap : map.path = code.path.append ".map") :
      Unpacks [code, map] ⟨code.contents, some map.contents⟩
  | mapFirst {code map : OutputUnit} (hmap : map.path = code.path.append ".map") :
      Unpacks [map, code] ⟨code.contents, some map.contents⟩

/-- There is a source map exactly if there are two units. -/
theorem Unpacks.isSome_sourceMap_iff {units : List OutputUnit} {compiled : Compiled}
    (h : Unpacks units compiled) : compiled.sourceMap.isSome = true ↔ units.length = 2 := by
  cases h with
  | alone code => simp
  | mapLast hmap => simp
  | mapFirst hmap => simp

theorem ofUnits_of_unpacks {units : List OutputUnit} {compiled : Compiled}
    (h : Unpacks units compiled) : ofUnits units = (compiled, []) := by
  cases h with
  | alone code => rfl
  | @mapLast code map hmap =>
      have hlast : map.isMapOf code = true := beq_iff_eq.mpr hmap
      have hfirst := OutputUnit.isMapOf_eq_false_of_isMapOf hlast
      simp only [ofUnits, hfirst, hlast, Bool.false_eq_true, if_false, if_true]
  | @mapFirst code map hmap =>
      have hfirst : map.isMapOf code = true := beq_iff_eq.mpr hmap
      simp only [ofUnits, hfirst, if_true]

theorem ofUnits_of_not_unpacks {units : List OutputUnit}
    (h : ¬ ∃ compiled, Unpacks units compiled) : ofUnits units = unexpected units.length := by
  match units with
  | [] => rfl
  | [code] => exact absurd ⟨_, .alone code⟩ h
  | [first, second] =>
      have hfirst : first.isMapOf second = false := by
        by_contra hmap
        exact h ⟨_, .mapFirst (eq_of_beq (Bool.of_not_eq_false hmap))⟩
      have hlast : second.isMapOf first = false := by
        by_contra hmap
        exact h ⟨_, .mapLast (eq_of_beq (Bool.of_not_eq_false hmap))⟩
      simp only [ofUnits, hfirst, hlast, Bool.false_eq_true, if_false, List.length_cons,
        List.length_nil]
  | _ :: _ :: _ :: _ => rfl

end Compiled

/-! ## Units in whatever order -/

namespace Compiled

variable {units others : List OutputUnit} {compiled : Compiled}

theorem Unpacks.of_perm (h : Unpacks units compiled) (hperm : others.Perm units) :
    Unpacks others compiled := by
  cases h with
  | alone code =>
      rw [List.perm_singleton.mp hperm]
      exact .alone code
  | mapLast hmap =>
      rcases List.perm_pair.mp hperm with rfl | rfl
      · exact .mapLast hmap
      · exact .mapFirst hmap
  | mapFirst hmap =>
      rcases List.perm_pair.mp hperm with rfl | rfl
      · exact .mapFirst hmap
      · exact .mapLast hmap

theorem Unpacks.contents_perm (h : Unpacks units compiled) :
    (compiled.code :: compiled.sourceMap.toList).Perm (units.map OutputUnit.contents) := by
  cases h with
  | alone code => exact .refl _
  | mapLast hmap => exact .refl _
  | mapFirst hmap => exact .swap _ _ _

theorem ofUnits_eq_of_perm (hperm : others.Perm units) : ofUnits others = ofUnits units := by
  by_cases hunits : ∃ compiled, Unpacks units compiled
  · obtain ⟨compiled, hcompiled⟩ := hunits
    rw [ofUnits_of_unpacks hcompiled, ofUnits_of_unpacks (hcompiled.of_perm hperm)]
  · have hothers : ¬ ∃ compiled, Unpacks others compiled := by
      rintro ⟨compiled, hcompiled⟩
      exact hunits ⟨compiled, hcompiled.of_perm hperm.symm⟩
    rw [ofUnits_of_not_unpacks hunits, ofUnits_of_not_unpacks hothers, hperm.length_eq]

/-- The order of units does not show in what they are unpacked to, nor in what is reported.  Units
that are code, alone or with its source map, are handed back whole and nothing is reported; of all
others nothing is handed back, and one error reports their number.  Of two units at most one is the
source map of the other. -/
theorem ofUnits_keeps_or_reports (units : List OutputUnit) :
    (∀ others : List OutputUnit, others.Perm units → ofUnits others = ofUnits units) ∧
      ((∃ compiled, Unpacks units compiled ∧ ofUnits units = (compiled, []) ∧
          (compiled.code :: compiled.sourceMap.toList).Perm (units.map OutputUnit.contents)) ∨
        (¬ ∃ compiled, Unpacks units compiled) ∧
          ofUnits units = ({ code := [], sourceMap := none }, [.error
            ("Internal error: unexpected compiler output (" ++ toString units.length ++
              " files)")])) ∧
      ∀ first second : OutputUnit, first.path = second.path.append ".map" →
        second.path ≠ first.path.append ".map" := by
  refine ⟨fun others hperm => ofUnits_eq_of_perm hperm, ?whole, ?oneWay⟩
  case whole =>
    by_cases hunits : ∃ compiled, Unpacks units compiled
    · obtain ⟨compiled, hcompiled⟩ := hunits
      exact .inl ⟨compiled, hcompiled, ofUnits_of_unpacks hcompiled, hcompiled.contents_perm⟩
    · exact .inr ⟨hunits, ofUnits_of_not_unpacks hunits⟩
  case oneWay =>
    intro first second hmap
    have hother : second.isMapOf first = false :=
      OutputUnit.isMapOf_eq_false_of_isMapOf (beq_iff_eq.mpr hmap)
    exact beq_eq_false_iff_ne.mp hother

/-- A unit whose path ends in `.map` may be code all the same. -/
example : ofUnits [⟨⟨"a.map.map"⟩, [1]⟩, ⟨⟨"a.map"⟩, [2]⟩] =
    ({ code := [2], sourceMap := some [1] }, []) := by
  decide +kernel

end Compiled

/-! ## The ends of a transform -/

/-- A call of a method that sees no files and no entry points. -/
def ToolchainCall.Isolated : ToolchainCall ρ γ → Prop
  | resolver fs .. => ∀ path, fs.read path = .error (.notFound path)
  | scan _ fs _ entries _ => entries = [] ∧ ∀ path, fs.read path = .error (.notFound path)
  | compile .. => True

theorem Toolchain.isolated_of_mem_fullTrace {toolchain : Toolchain ε ρ γ} {log : Log}
    {settings : Settings} {entry : TraceEntry ε ρ γ}
    (h : entry ∈ toolchain.fullTrace log ({} : MemoryFiles).toFileSystem [] settings) :
    entry.call.Isolated := by
  have hempty : ∀ path, ({} : MemoryFiles).toFileSystem.read path = .error (.notFound path) :=
    fun _ => rfl
  simp only [fullTrace, List.mem_cons, List.not_mem_nil, or_false] at h
  rcases h with rfl | rfl | rfl
  · exact hempty
  · exact ⟨rfl, hempty⟩
  · trivial

/-- The ends of a transform, by the log and the units of its run. -/
inductive TransformResult.Ends (log : Log) (units : List OutputUnit) : TransformResult → Prop
  | failed {errors warnings : List Message} (hlog : log.hasErrors = true)
      (hsplit : Diagnostic.Split log errors warnings) : Ends log units { errors, warnings }
  | unpacked {errors warnings : List Message} {compiled : Compiled}
      (hlog : log.hasErrors = false) (hunits : Compiled.Unpacks units compiled)
      (hsplit : Diagnostic.Split log errors warnings) :
      Ends log units {
        errors
        warnings
        code := Text.ofBytes compiled.code
        sourceMap := compiled.sourceMap.map Text.ofBytes }
  | unexpected {errors warnings : List Message} (hlog : log.hasErrors = false)
      (hunits : ¬ ∃ compiled, Compiled.Unpacks units compiled)
      (hsplit : Diagnostic.Split (log ++ (Compiled.unexpected units.length).2)
        errors warnings) : Ends log units { errors, warnings }

namespace TransformResult.Ends

variable {log : Log} {units : List OutputUnit} {result : TransformResult}

/-- Units that are no code are one error more, behind everything else. -/
theorem split_of_unpaired (h : Ends log units result) (hlog : log.hasErrors = false)
    (hunits : ¬ ∃ compiled, Compiled.Unpacks units compiled) :
    Diagnostic.Split (log ++ (Compiled.unexpected units.length).2)
      result.errors result.warnings := by
  cases h with
  | failed hfailed hsplit =>
      rw [hlog] at hfailed
      contradiction
  | unpacked _ hcompiled hsplit => exact absurd ⟨_, hcompiled⟩ hunits
  | unexpected _ _ hsplit => exact hsplit

theorem split_of_not_unpaired (h : Ends log units result)
    (hnot : ¬ (log.hasErrors = false ∧ ¬ ∃ compiled, Compiled.Unpacks units compiled)) :
    Diagnostic.Split log result.errors result.warnings := by
  cases h with
  | failed _ hsplit => exact hsplit
  | unpacked _ _ hsplit => exact hsplit
  | unexpected hlog hunits hsplit => exact absurd ⟨hlog, hunits⟩ hnot

/-- A transform with errors hands back nothing else. -/
theorem code_of_errors_ne_nil (h : Ends log units result) (herrors : result.errors ≠ []) :
    result.code = "" ∧ result.sourceMap = none := by
  cases h with
  | failed _ hsplit => exact ⟨rfl, rfl⟩
  | unpacked hlog _ hsplit => exact absurd (hsplit.errors_eq_nil_iff.mpr hlog) herrors
  | unexpected _ _ hsplit => exact ⟨rfl, rfl⟩

/-- A transform without errors hands back what its units hold. -/
theorem unpacks_of_errors_eq_nil (h : Ends log units result) (herrors : result.errors = []) :
    ∃ compiled, Compiled.Unpacks units compiled ∧
      result.code = Text.ofBytes compiled.code ∧
      result.sourceMap = compiled.sourceMap.map Text.ofBytes := by
  cases h with
  | failed hlog hsplit =>
      rw [hsplit.errors_eq_nil_iff.mp herrors] at hlog
      contradiction
  | @unpacked errors warnings compiled _ hcompiled hsplit => exact ⟨compiled, hcompiled, rfl, rfl⟩
  | unexpected _ _ hsplit =>
      have hsound := hsplit.errors_eq_nil_iff.mp herrors
      simp [Log.hasErrors, Compiled.unexpected, Diagnostic.error, Diagnostic.isError] at hsound

end TransformResult.Ends

section Transform

variable (input : String) (options : TransformOptions) (toolchain : Toolchain ε ρ γ)

/-- The run of the toolchain in a transform. -/
def TransformOptions.toolchainRun : ToolchainRun ε ρ γ :=
  toolchain.run (options.plan input).errors ({} : MemoryFiles).toFileSystem []
    (options.plan input).value

/-- The replies that a toolchain has for a transform. -/
def TransformOptions.replies : Replies ε ρ γ :=
  toolchain.replies (options.plan input).errors ({} : MemoryFiles).toFileSystem []
    (options.plan input).value

theorem TransformOptions.gates_toolchainRun :
    Toolchain.Gates (options.plan input).errors (options.replies input toolchain)
      (options.toolchainRun input toolchain) :=
  toolchain.gates_run (options.plan input).errors ({} : MemoryFiles).toFileSystem []
    (options.plan input).value

/-- The code that the units of a run are, with the error if they are none; without units nothing. -/
def TransformOptions.unpacked : Compiled × List Diagnostic :=
  match (options.toolchainRun input toolchain).units with
  | some units => Compiled.ofUnits units
  | none => ({}, [])

/-- Everything that a transform collects, in order. -/
def TransformOptions.collected : Log :=
  (options.toolchainRun input toolchain).log ++ (options.unpacked input toolchain).2

theorem result_transform :
    (transform input options toolchain).result = {
      errors := (Diagnostic.partition (options.collected input toolchain)).1
      warnings := (Diagnostic.partition (options.collected input toolchain)).2
      code := Text.ofBytes (options.unpacked input toolchain).1.code
      sourceMap := (options.unpacked input toolchain).1.sourceMap.map Text.ofBytes } := rfl

theorem reported_transform :
    (transform input options toolchain).reported =
      (options.collected input toolchain).report (options.plan input).value.log := rfl

/-- What the checks and the called methods found comes first. -/
theorem TransformOptions.prefix_collected :
    (options.plan input).errors ++
        (stages (transform input options toolchain).trace).flatMap
          (options.replies input toolchain).found <+:
      options.collected input toolchain := by
  have hlog : (options.toolchainRun input toolchain).log = (options.plan input).errors ++
      (stages (transform input options toolchain).trace).flatMap
        (options.replies input toolchain).found :=
    (options.gates_toolchainRun input toolchain).log_eq
  rw [collected, hlog]
  exact List.prefix_append _ _

/-- A transform comes to one of its ends. -/
theorem ends_transform :
    TransformResult.Ends (options.toolchainRun input toolchain).log
      (options.replies input toolchain).compile.value
      (transform input options toolchain).result := by
  have hunits := (options.gates_toolchainRun input toolchain).units_eq
  rw [result_transform, TransformOptions.collected, TransformOptions.unpacked]
  -- There are units exactly if the log of the run is sound, so this log decides first.
  generalize options.toolchainRun input toolchain = run at hunits ⊢
  generalize (options.replies input toolchain).compile.value = units at hunits ⊢
  cases hlog : run.log.hasErrors with
  | true =>
      rw [hunits, hlog, if_pos rfl]
      dsimp only
      rw [List.append_nil]
      exact .failed hlog (Diagnostic.split_partition run.log)
  | false =>
      rw [hunits, hlog, if_neg Bool.false_ne_true]
      dsimp only
      by_cases hunpacks : ∃ compiled, Compiled.Unpacks units compiled
      · obtain ⟨compiled, hcompiled⟩ := hunpacks
        rw [Compiled.ofUnits_of_unpacks hcompiled, List.append_nil]
        exact .unpacked hlog hcompiled (Diagnostic.split_partition run.log)
      · rw [Compiled.ofUnits_of_not_unpacks hunpacks]
        exact .unexpected hlog hunpacks (Diagnostic.split_partition _)

/-- A transform calls the resolver and the scanner exactly if its options are sound, and the
compiler exactly if nothing is wrong after that; no method sees files or entry points.  Its messages
are all that was found, in order, and one more if the units are no code.  With an error among
them there is no code, and without one the code and its map are what the bytes of the units say. -/
theorem transform_gated :
    let plan := options.plan input
    let fs := ({} : MemoryFiles).toFileSystem
    let replies := toolchain.replies plan.errors fs [] plan.value
    let units := replies.compile.value
    let outcome := transform input options toolchain
    let result := outcome.result
    let ran := stages outcome.trace
    let found : Log := plan.errors ++ ran.flatMap replies.found
    let unpaired := .compile ∈ ran ∧ found.hasErrors = false ∧
      ¬ ∃ compiled, Compiled.Unpacks units compiled
    outcome.trace <+: toolchain.fullTrace plan.errors fs [] plan.value ∧
    (∀ entry ∈ outcome.trace, entry.call.Isolated) ∧
    (.resolver ∈ ran ↔ plan.problems = []) ∧
    (.scan ∈ ran ↔ plan.problems = []) ∧
    (.compile ∈ ran ↔ plan.problems = [] ∧ (replies.scanned plan.errors).hasErrors = false) ∧
    (unpaired → Diagnostic.Split (found ++ [.error
      ("Internal error: unexpected compiler output (" ++ toString units.length ++ " files)")])
      result.errors result.warnings) ∧
    (¬ unpaired → Diagnostic.Split found result.errors result.warnings) ∧
    (result.errors ≠ [] → result.code = "" ∧ result.sourceMap = none) ∧
    (result.errors = [] → ∃ compiled, Compiled.Unpacks units compiled ∧
      Text.Decodes compiled.code result.code.toList ∧
      Option.Rel (fun bytes map => Text.Decodes bytes map.toList)
        compiled.sourceMap result.sourceMap ∧
      (result.sourceMap.isSome = true ↔ units.length = 2)) := by
  intro plan fs replies units outcome result ran found unpaired
  have hgates := options.gates_toolchainRun input toolchain
  have hends : TransformResult.Ends found units result := by
    have hlog : (options.toolchainRun input toolchain).log = found := hgates.log_eq
    rw [← hlog]
    exact ends_transform input options toolchain
  have hcompile : found.hasErrors = false → .compile ∈ ran := by
    intro hfound
    refine hgates.compile_of_sound ?_
    rw [hgates.log_eq]
    exact hfound
  have hsound := Checked.hasErrors_errors_eq_false_iff plan
  have hcalls := toolchain.trace_run_follows plan.errors fs [] plan.value
  refine ⟨hcalls, ?isolated, hgates.resolver_iff.trans hsound, hgates.scan_iff.trans hsound,
    hgates.compile_iff.trans (and_congr_left fun _ => hsound), ?unpaired, ?split,
    hends.code_of_errors_ne_nil, ?code⟩
  case isolated =>
    intro entry hentry
    exact Toolchain.isolated_of_mem_fullTrace (hcalls.subset hentry)
  case unpaired =>
    rintro ⟨_, hfound, hunits⟩
    exact hends.split_of_unpaired hfound hunits
  case split =>
    intro hnot
    refine hends.split_of_not_unpaired ?_
    rintro ⟨hfound, hunits⟩
    exact hnot ⟨hcompile hfound, hfound, hunits⟩
  case code =>
    intro herrors
    obtain ⟨compiled, hunits, hcode, hmap⟩ := hends.unpacks_of_errors_eq_nil herrors
    refine ⟨compiled, hunits, ?_, ?_, ?_⟩
    · rw [hcode]
      exact Text.decodes_ofBytes compiled.code
    · rw [hmap]
      exact Text.decodes_map_ofBytes compiled.sourceMap
    · rw [hmap, Option.isSome_map]
      exact hunits.isSome_sourceMap_iff

end Transform

end BundleFront
