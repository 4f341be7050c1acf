import BundleFront.Proofs.Diagnostic.Collector
import Mathlib.Data.List.Basic

/-!
# Sorting into the order of presentation

Any two diagnostics can be compared, in either direction with the same outcome, and
comparisons chain.  So a batch has an order of presentation; it has only one in which ties
stay as they were, and sorting finds it.  Having no location counts for more than any text:
what has none comes first, and behind it the rest is sorted as if it were alone.

* `Diagnostic.order_eq_lt_of_isLocated` — the one comparison that looks at no key.
* `Diagnostic.sorted_eq_append` — diagnostics without a location and those with one are sorted
  apart.
* `Diagnostic.sorted_stably` — the order and the sorting together.

A loader adds to the log and takes nothing away.  A callback that fails leaves one
error with its text.  A callback that succeeds leaves its errors and its warnings in
the order of presentation, each under its own severity; where presentation has no
order for them, errors come before warnings, and each of the two lists keeps its
sequence.

What a callback finds is sorted when it is handed over and once more when it is added;
the second time changes nothing.

* `LoaderPlugin.load_of_ok` — what is handed over is the one stable order of what was
  found.
* `LoaderPlugin.loadInto_appends` — the log behind a loader, for every callback.
-/

namespace BundleFront
namespace Diagnostic

/-- Whether a diagnostic points to a place in a file. -/
def isLocated (d : Diagnostic) : Bool := d.message.location.isSome

theorem order_eq_lt_of_isLocated {a b : Diagnostic} (ha : a.isLocated = false)
    (hb : b.isLocated = true) : order a b = .lt := by
  have hnone : a.message.location = none := by simpa [isLocated] using ha
  obtain ⟨place, hplace⟩ := Option.isSome_iff_exists.mp hb
  unfold order
  rw [hnone, hplace]

/-- Where one has a location and the other has none there is no tie. -/
theorem isLocated_eq_of_tied {a b : Diagnostic} (h : tied a b = true) :
    a.isLocated = b.isLocated := by
  have hposition := congrArg Option.isSome (tied_iff.mp h).1
  simpa [position?, isLocated] using hposition

/-- What has no location comes first, and neither part plays a role in how the other is sorted. -/
theorem sorted_eq_append (ds : List Diagnostic) :
    sorted ds = sorted (ds.filter fun d => !d.isLocated) ++ sorted (ds.filter isLocated) := by
  refine (isStableSort_iff.mp ⟨?perm, ?pairwise, ?ties⟩).symm
  case perm =>
    have hparts := List.filter_append_perm (fun d => !isLocated d) ds
    simp only [Bool.not_not] at hparts
    exact ((sorted_perm _).append (sorted_perm _)).trans hparts
  case pairwise =>
    refine List.pairwise_append.mpr ⟨pairwise_sorted _, pairwise_sorted _, ?_⟩
    intro a ha b hb
    have hunlocated : a.isLocated = false := by
      simpa using (List.mem_filter.mp ((sorted_perm _).subset ha)).2
    have hlocated := (List.mem_filter.mp ((sorted_perm _).subset hb)).2
    rw [order_eq_lt_of_isLocated hunlocated hlocated]
    rfl
  case ties =>
    intro d
    rw [List.filter_append, filter_tied_sorted, filter_tied_sorted, List.filter_filter,
      List.filter_filter]
    -- All that is tied with `d` is in the part to which `d` belongs.
    have hlocated : ∀ e ∈ ds, (tied d e && e.isLocated) = (tied d e && d.isLocated) := by
      intro e _
      cases he : tied d e with
      | false => rfl
      | true => rw [isLocated_eq_of_tied he]
    have hunlocated : ∀ e ∈ ds, (tied d e && !e.isLocated) = (tied d e && !d.isLocated) := by
      intro e _
      cases he : tied d e with
      | false => rfl
      | true => rw [isLocated_eq_of_tied he]
    rw [List.filter_congr hunlocated, List.filter_congr hlocated]
    cases d.isLocated <;> simp

/-- The order compares any two diagnostics, in both directions alike, and its comparisons chain;
what has no location precedes what has one.  Sorting gives the one list in this order that has the
diagnostics of the batch and keeps ties as they stand, so sorting again changes nothing, and those
without a location come out in front, as if either part were sorted alone. -/
theorem sorted_stably :
    (∀ a : Diagnostic, order a a = .eq) ∧
    (∀ a b : Diagnostic, order b a = (order a b).swap) ∧
    (∀ a b c : Diagnostic, (order a b).isLE = true → (order b c).isLE = true →
      (order a c).isLE = true) ∧
    (∀ a b : Diagnostic, a.message.location = none → b.message.location ≠ none →
      order a b = .lt) ∧
    ∀ batch : List Diagnostic,
      (sorted batch).Perm batch ∧
      (sorted batch).Pairwise (fun a b => (order a b).isLE = true) ∧
      (∀ d, (sorted batch).filter (fun e => order d e == .eq) =
        batch.filter fun e => order d e == .eq) ∧
      (∀ ordered, IsStableSort batch ordered → ordered = sorted batch) ∧
      sorted batch =
        sorted (batch.filter fun d => !d.isLocated) ++ sorted (batch.filter isLocated) ∧
      sorted (sorted batch) = sorted batch := by
  refine ⟨?reflexive, ?oriented, ?transitive, ?unlocated, ?sorting⟩
  case reflexive => exact fun a => order_eq_of_tied (tied_self a) (tied_self a)
  case oriented => exact fun a b => Std.OrientedCmp.eq_swap
  case transitive => exact fun a b c => Std.TransCmp.isLE_trans
  case unlocated =>
    intro a b ha hb
    have hlocated : b.isLocated = true := Option.isSome_iff_ne_none.mpr hb
    exact order_eq_lt_of_isLocated (by rw [isLocated, ha]; rfl) hlocated
  case sorting =>
    intro batch
    have hsort := isStableSort_sorted batch
    exact ⟨hsort.perm, hsort.pairwise, hsort.ties_eq, fun _ => isStableSort_iff.mp,
      sorted_eq_append batch, sorted_sorted batch⟩

/-- A warning and an error at one place with one text stay as they stand, and what has no location
passes both, whatever its text. -/
theorem sorted_stably_mixedBatch :
    let note : Diagnostic := ⟨.error, ⟨"unused", none⟩⟩
    let place : Location := ⟨"a.js", 1, 0, 1, "let x"⟩
    let first : Diagnostic := ⟨.warning, ⟨"shadowed", some place⟩⟩
    let second : Diagnostic := ⟨.error, ⟨"shadowed", some { place with length := 5 }⟩⟩
    IsStableSort [first, note, second] [note, first, second] ∧
      sorted [first, note, second] = [note, first, second] ∧
      order note first = .lt ∧ (order first second).isLE = true ∧
      (order note second).isLE = true := by
  intro note place first second
  have hsort : IsStableSort [first, note, second] [note, first, second] := by
    refine ⟨List.Perm.swap _ _ _, by decide +kernel, ?_⟩
    intro d
    cases hnote : tied d note with
    | false => simp [List.filter_cons, hnote]
    | true =>
        have hfirst : tied d first = false := by
          by_contra htied
          have hsame := isLocated_eq_of_tied (by simpa using htied)
          rw [isLocated_eq_of_tied hnote] at hsame
          cases hsame
        simp [List.filter_cons, hnote, hfirst]
  obtain ⟨-, -, htransitive, hunlocated, hsorting⟩ := sorted_stably
  have hle : (order first second).isLE = true := by decide +kernel
  have hlt : order note first = .lt := hunlocated note first rfl nofun
  refine ⟨hsort, ((hsorting _).2.2.2.1 _ hsort).symm, hlt, hle, ?_⟩
  exact htransitive note first second (by rw [hlt]; rfl) hle

end Diagnostic

/-! ## What a loader leaves in the log -/

namespace LoaderPlugin

variable {loader : LoaderPlugin} {path : Path}

theorem load_of_ok {output : LoaderOutput} (h : loader.callback path = .ok output) :
    loader.load path = .success output.contents output.loader
      (Diagnostic.sorted (Diagnostic.ofMessages .error output.errors ++
        Diagnostic.ofMessages .warning output.warnings)) := by
  rw [load, h]
  rfl

theorem loadInto_of_error {text : String} (h : loader.callback path = .error text) (log : Log) :
    loader.loadInto path log = (none, log ++ [.error text]) := by
  rw [loadInto, load, h]
  rfl

/-- A loader only adds to the log: one error without a location if its callback fails, and else one
run of what the callback found.  The run is in the order of presentation; among diagnostics that are
tied errors come before warnings, as they were collected.  It is the run that was handed over, though
it is sorted again, and there is no other of this kind. -/
theorem loadInto_appends (loader : LoaderPlugin) (path : Path) (log : Log) :
    match loader.callback path with
    | .error text => loader.loadInto path log = (none, log ++ [⟨.error, ⟨text, none⟩⟩])
    | .ok output =>
        let errors := Diagnostic.ofMessages .error output.errors
        let warnings := Diagnostic.ofMessages .warning output.warnings
        ∃ run : List Diagnostic,
          loader.loadInto path log = (some (output.contents, output.loader), log ++ run) ∧
          run.Perm (errors ++ warnings) ∧
          run.Pairwise (fun a b => (Diagnostic.order a b).isLE = true) ∧
          (∀ d, run.filter (Diagnostic.tied d) =
            errors.filter (Diagnostic.tied d) ++ warnings.filter (Diagnostic.tied d)) ∧
          loader.load path = .success output.contents output.loader run ∧
          ∀ other, Diagnostic.IsStableSort (errors ++ warnings) other → other = run := by
  cases h : loader.callback path with
  | error text => exact loadInto_of_error h log
  | ok output =>
      have hsort := Diagnostic.isStableSort_sorted (Diagnostic.ofMessages .error output.errors ++
        Diagnostic.ofMessages .warning output.warnings)
      refine ⟨_, loadInto_of_ok h log, hsort.perm, hsort.pairwise, ?ties, load_of_ok h, ?only⟩
      case ties =>
        intro d
        rw [hsort.ties_eq, List.filter_append]
      case only => exact fun other hother => Diagnostic.isStableSort_iff.mp hother

end LoaderPlugin
end BundleFront
