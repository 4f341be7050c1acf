import BundleFront.Proofs.Settings.Problems
import BundleFront.Settings.Plan

/-!
# What builds and transforms share

Builds and transforms are planned apart, and each of the two hands over the options that they share
one by one.  Where these options are the same, the settings that follow from them are the same, and
so is what is wrong with them: it stands first among the problems of a build, and it is all that can
be wrong with a transform, but for a source map that a comment names.

A transform also checks that its text has a name.  By then every text has one, so nothing is ever
found.

* `BuildOptions.Shares` — a build and a transform with the same shared options.
* `Settings.FollowsShared` — settings with what the shared options of a transform come to.
* `BuildOptions.plan_agrees_transform` — the settings and the problems of both, side by side.
-/

namespace BundleFront

/-- A build and a transform with the same shared options. -/
structure BuildOptions.Shares (b : BuildOptions) (t : TransformOptions) : Prop where
  target : b.target = t.target
  engines : b.engines = t.engines
  strict : b.strict = t.strict
  jsxFactory : b.jsxFactory = t.jsxFactory
  jsxFragment : b.jsxFragment = t.jsxFragment
  defines : b.defines = t.defines
  pureFunctions : b.pureFunctions = t.pureFunctions
  sourcemap : b.sourcemap = t.sourcemap
  minifySyntax : b.minifySyntax = t.minifySyntax
  minifyWhitespace : b.minifyWhitespace = t.minifyWhitespace
  minifyIdentifiers : b.minifyIdentifiers = t.minifyIdentifiers

namespace Settings

/-- Settings that agree where shared options decide. -/
structure AgreesOnShared (s r : Settings) : Prop where
  unsupported : s.unsupported = r.unsupported
  strict : s.strict = r.strict
  jsxFactory : s.jsxFactory = r.jsxFactory
  jsxFragment : s.jsxFragment = r.jsxFragment
  defines : s.defines = r.defines
  sourceMap : s.sourceMap = r.sourceMap
  minifySyntax : s.minifySyntax = r.minifySyntax
  minifyWhitespace : s.minifyWhitespace = r.minifyWhitespace
  minifyIdentifiers : s.minifyIdentifiers = r.minifyIdentifiers

/-- Settings with what the shared options of a transform come to, each by its own check. -/
structure FollowsShared (s : Settings) (t : TransformOptions) : Prop where
  unsupported : s.unsupported = (checkFeatures t.target t.engines).value
  strict : s.strict = t.strict
  jsxFactory : s.jsxFactory = (checkJsx "factory" t.jsxFactory).value
  jsxFragment : s.jsxFragment = (checkJsx "fragment" t.jsxFragment).value
  defines : s.defines = (compileDefines t.defines t.pureFunctions).value
  sourceMap : s.sourceMap = t.sourcemap
  minifySyntax : s.minifySyntax = t.minifySyntax
  minifyWhitespace : s.minifyWhitespace = t.minifyWhitespace
  minifyIdentifiers : s.minifyIdentifiers = t.minifyIdentifiers

theorem FollowsShared.agrees {s r : Settings} {t : TransformOptions} (hs : s.FollowsShared t)
    (hr : r.FollowsShared t) : s.AgreesOnShared r where
  unsupported := hs.unsupported.trans hr.unsupported.symm
  strict := hs.strict.trans hr.strict.symm
  jsxFactory := hs.jsxFactory.trans hr.jsxFactory.symm
  jsxFragment := hs.jsxFragment.trans hr.jsxFragment.symm
  defines := hs.defines.trans hr.defines.symm
  sourceMap := hs.sourceMap.trans hr.sourceMap.symm
  minifySyntax := hs.minifySyntax.trans hr.minifySyntax.symm
  minifyWhitespace := hs.minifyWhitespace.trans hr.minifyWhitespace.symm
  minifyIdentifiers := hs.minifyIdentifiers.trans hr.minifyIdentifiers.symm

end Settings

/-! ## Problems of shared options -/

namespace Problem

/-- Whether something is wrong with an option that builds and transforms share. -/
def concernsShared : Problem → Bool
  | version _ | jsx _ _ | defineKey _ | defineValue _ | pureFunction _ => true
  | _ => false

theorem head?_toList_append {front : String} {c : Char} (h : front.toList.head? = some c)
    (rest : String) : (front ++ rest).toList.head? = some c := by
  rw [String.toList_append, List.head?_append, h, Option.some_or]

/-- Problems of shared options are told from all that ask for something by their first letter. -/
theorem head?_message_of_concernsShared {p : Problem} (h : p.concernsShared = true) :
    p.message.toList.head? = some 'I' := by
  cases p with
  | version _ | defineKey _ | defineValue _ | pureFunction _ =>
      exact head?_toList_append (by decide +kernel) _
  | jsx kind text =>
      have hkind : ("Invalid JSX " ++ kind).toList.head? = some 'I' :=
        head?_toList_append (by decide +kernel) kind
      exact head?_toList_append (head?_toList_append hkind _) _
  | _ => cases h

end Problem

theorem concernsShared_of_mem_defineProblems {entry : String × String} {p : Problem}
    (h : p ∈ defineProblems entry) : p.concernsShared = true := by
  unfold defineProblems at h
  split at h
  · obtain rfl := List.mem_singleton.mp h
    rfl
  · rw [Problem.eq_of_mem_onlyIf h]
    rfl

theorem SharedOptions.concernsShared_of_mem_check {o : SharedOptions} {p : Problem}
    (h : p ∈ o.check.problems) : p.concernsShared = true := by
  simp only [SharedOptions.problems_check, List.mem_append] at h
  rcases h with hversion | hfactory | hfragment | hdefine | hpure
  · obtain ⟨engine, rfl⟩ := Problem.exists_of_mem_each hversion
    rfl
  · obtain ⟨text, rfl⟩ := Problem.exists_of_mem_each hfactory
    rfl
  · obtain ⟨text, rfl⟩ := Problem.exists_of_mem_each hfragment
    rfl
  · obtain ⟨entry, -, hentry⟩ := List.mem_flatMap.mp hdefine
    exact concernsShared_of_mem_defineProblems hentry
  · obtain ⟨key, rfl⟩ := Problem.exists_of_mem_each hpure
    rfl

namespace BuildOptions

/-- What is wrong with the options that only a build has, plugins apart. -/
def ownProblems (fs : FileSystem) (b : BuildOptions) : List Problem :=
  ((b.problemParts fs).drop 5).flatten

/-- Shared options are checked first. -/
theorem optionProblems_eq (fs : FileSystem) (b : BuildOptions) :
    b.optionProblems fs = b.shared.check.problems ++ b.ownProblems fs := by
  simp [optionProblems, ownProblems, problemParts, SharedOptions.problems_check,
    BuildOptions.shared]

theorem not_concernsShared_of_mem_stdout {fs : FileSystem} {b : BuildOptions} {p : Problem}
    (h : p ∈ b.stdoutProblems fs) : p.concernsShared = false := by
  simp only [stdoutProblems, List.mem_append] at h
  rcases h with ((hmap | hmetafile) | hloader) | hbase
  · rw [Problem.eq_of_mem_onlyIf hmap]
    rfl
  · rw [Problem.eq_of_mem_onlyIf hmetafile]
    rfl
  · rw [Problem.eq_of_mem_onlyIf hloader]
    rfl
  · split at hbase
    · cases hbase
    · rw [List.mem_singleton.mp hbase]
      rfl

theorem not_concernsShared_of_mem_place {fs : FileSystem} {b : BuildOptions} {p : Problem}
    (h : p ∈ b.placeProblems fs) : p.concernsShared = false := by
  obtain ⟨rule, hrule, hp⟩ := Problem.exists_of_mem_firstRule h
  simp only [List.mem_cons, List.not_mem_nil, or_false] at hrule
  rcases hrule with rfl | rfl | rfl | rfl
  · rw [List.mem_singleton.mp hp]
    rfl
  · rw [List.mem_singleton.mp hp]
    rfl
  · rw [List.mem_singleton.mp hp]
    rfl
  · exact not_concernsShared_of_mem_stdout hp

theorem not_concernsShared_of_mem_own {fs : FileSystem} {b : BuildOptions} {p : Problem}
    (h : p ∈ b.ownProblems fs) : p.concernsShared = false := by
  simp only [ownProblems, problemParts, List.drop_succ_cons, List.drop_zero, List.flatten_cons,
    List.flatten_nil, List.append_nil, List.mem_append] at h
  rcases h with h | h | h | h | h | h | h | h | hplace | hbundle | hsplitting
  -- Eight options are checked item by item, for paths or for extensions.
  iterate 8
    · obtain ⟨item, rfl⟩ := Problem.exists_of_mem_each h
      rfl
  · exact not_concernsShared_of_mem_place hplace
  · rcases List.mem_append.mp hbundle with hformat | hexternal
    · rw [Problem.eq_of_mem_onlyIf hformat]
      rfl
    · rw [Problem.eq_of_mem_onlyIf hexternal]
      rfl
  · rw [Problem.eq_of_mem_onlyIf hsplitting]
    rfl

theorem Shares.shared_eq {b : BuildOptions} {t : TransformOptions} (h : b.Shares t) :
    b.shared = t.shared := by
  simp only [BuildOptions.shared, TransformOptions.shared, h.target, h.engines, h.strict,
    h.jsxFactory, h.jsxFragment, h.defines, h.pureFunctions, h.sourcemap, h.minifySyntax,
    h.minifyWhitespace, h.minifyIdentifiers]

end BuildOptions

/-! ## Plans -/

namespace TransformOptions

theorem sourceName_ne_empty (t : TransformOptions) : t.sourceName ≠ "" := by
  unfold sourceName
  split
  · decide
  · rename_i hgiven
    intro hname
    exact hgiven (String.isEmpty_iff.mpr hname)

/-- The check for the name of the text finds nothing. -/
theorem problems_plan (t : TransformOptions) (input : String) :
    (t.plan input).problems =
      t.shared.check.problems ++ Problem.onlyIf (t.sourcemap == .linked) .linkedTransform := by
  have hname : t.sourceName.isEmpty = false := by
    rw [Bool.eq_false_iff]
    intro hempty
    exact t.sourceName_ne_empty (String.isEmpty_iff.mp hempty)
  simp [plan, hname, Problem.onlyIf]

theorem followsShared_plan (t : TransformOptions) (input : String) :
    (t.plan input).value.FollowsShared t :=
  ⟨rfl, rfl, rfl, rfl, rfl, rfl, rfl, rfl, rfl⟩

theorem message_ne_of_mem_problems_plan {t : TransformOptions} {input : String} {p : Problem}
    (h : p ∈ (t.plan input).problems) : p.message ≠ Problem.sourceMapWithoutName.message := by
  intro hmessage
  have hhead : Problem.sourceMapWithoutName.message.toList.head? = some 'M' := by decide +kernel
  rw [← hmessage] at hhead
  rw [problems_plan] at h
  rcases List.mem_append.mp h with hp | hlinked
  · rw [Problem.head?_message_of_concernsShared
      (SharedOptions.concernsShared_of_mem_check hp)] at hhead
    exact absurd hhead (by decide)
  · rw [Problem.eq_of_mem_onlyIf hlinked] at hhead
    exact absurd hhead (by decide +kernel)

end TransformOptions

namespace BuildOptions

theorem Shares.followsShared_plan {b : BuildOptions} {t : TransformOptions} (h : b.Shares t)
    (plugins : List Plugin) (fs : FileSystem) (cache : FilterCache) :
    (b.plan plugins fs cache).1.value.settings.FollowsShared t where
  unsupported := by rw [← h.target, ← h.engines]; rfl
  strict := h.strict
  jsxFactory := by rw [← h.jsxFactory]; rfl
  jsxFragment := by rw [← h.jsxFragment]; rfl
  defines := by rw [← h.defines, ← h.pureFunctions]; rfl
  sourceMap := h.sourcemap
  minifySyntax := h.minifySyntax
  minifyWhitespace := h.minifyWhitespace
  minifyIdentifiers := h.minifyIdentifiers

/-- Where a build and a transform have the same shared options, what these options come to is the
same for both, each by its own check.  What is wrong with them stands first among the errors of the
build, and the transform has just these errors, in the same order, with one more behind them exactly
if a comment would name the source map.

Whatever the text is, it has a name and a loader, so no error ever asks for its name. -/
theorem plan_agrees_transform (b : BuildOptions) (t : TransformOptions) (plugins : List Plugin)
    (fs : FileSystem) (cache : FilterCache) (input : String) (h : b.Shares t) :
    let build := (b.plan plugins fs cache).1
    let transform := t.plan input
    build.value.settings.AgreesOnShared transform.value ∧
      transform.value.FollowsShared t ∧
      (∃ shared own : List Problem,
        (∀ p ∈ shared, p.concernsShared = true) ∧ (∀ p ∈ own, p.concernsShared = false) ∧
        (∀ log, (build.record log).2 = log ++
          shared.map (fun p => .error p.message) ++ own.map (fun p => .error p.message)) ∧
        ∀ log, (transform.record log).2 = log ++
          shared.map (fun p => .error p.message) ++
          if t.sourcemap = .linked then [.error "Cannot transform with linked source maps"]
          else []) ∧
      (∀ d ∈ transform.errors,
        d.message.text ≠ "Must use sourcefile with sourcemap to set the original file name") ∧
      ∃ unit, transform.value.stdin = some unit ∧ unit.loader ≠ .none ∧ unit.sourceFile ≠ "" ∧
        unit.contents = input := by
  intro build transform
  refine ⟨(h.followsShared_plan plugins fs cache).agrees (t.followsShared_plan input),
    t.followsShared_plan input, ?_, ?_, ?_⟩
  · refine ⟨t.shared.check.problems, b.ownProblems fs ++
      (Installation.ofPlugins plugins cache).problems.map Problem.setup,
      fun p hp => SharedOptions.concernsShared_of_mem_check hp, ?_, ?_, ?_⟩
    · intro p hp
      rcases List.mem_append.mp hp with hown | hsetup
      · exact not_concernsShared_of_mem_own hown
      · obtain ⟨problem, -, rfl⟩ := List.mem_map.mp hsetup
        rfl
    · intro log
      rw [Checked.record, Checked.errors, problems_plan, optionProblems_eq, h.shared_eq,
        List.append_assoc, List.map_append, List.append_assoc]
    · intro log
      rw [Checked.record, Checked.errors, TransformOptions.problems_plan, List.map_append,
        List.append_assoc]
      by_cases hlinked : t.sourcemap = .linked
      · rw [if_pos hlinked, hlinked]
        rfl
      · rw [if_neg hlinked, Problem.onlyIf, if_neg (by simpa using hlinked), List.map_nil]
  · intro d hd
    obtain ⟨p, hp, rfl⟩ := List.mem_map.mp hd
    exact TransformOptions.message_ne_of_mem_problems_plan hp
  · refine ⟨_, rfl, ?_, t.sourceName_ne_empty, rfl⟩
    exact t.loader.orJs_ne_none

/-- A build and a transform with one sound and one unsound path, and a source map that a comment
would name. -/
theorem plan_agrees_transform_linked :
    let b : BuildOptions := {
      jsxFactory := "h", jsxFragment := "1", sourcemap := .linked, minifyWhitespace := true }
    let t : TransformOptions := {
      jsxFactory := "h", jsxFragment := "1", sourcemap := .linked, minifyWhitespace := true }
    b.Shares t ∧
      (b.plan [] (.homeless "removed") {}).1.value.settings.AgreesOnShared (t.plan "a").value ∧
      ∃ unit, (t.plan "a").value.stdin = some unit ∧ unit.sourceFile ≠ "" := by
  intro b t
  have h : b.Shares t := ⟨rfl, rfl, rfl, rfl, rfl, rfl, rfl, rfl, rfl, rfl, rfl⟩
  obtain ⟨hagrees, -, -, -, unit, hstdin, -, hname, -⟩ :=
    plan_agrees_transform b t [] (.homeless "removed") {} "a" h
  exact ⟨h, hagrees, unit, hstdin, hname⟩

end BuildOptions
end BundleFront
