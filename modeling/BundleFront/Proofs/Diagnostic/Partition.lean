import BundleFront.Diagnostic.Basic
import Mathlib.Data.List.Basic
import Mathlib.Tactic.Common

/-!
# Errors and warnings of a log

A log is handed to a host as two lists.  `Diagnostic.Split` says what that means
without saying how it is done: every diagnostic is the next one of exactly one of the
two lists, its severity decides of which, and nothing else is in them.

* `Diagnostic.split_iff` — partitioning computes the one split that a log has.
* `Diagnostic.Split.perm` — the two lists together hold what the log held, each
  diagnostic as often as before.
-/

namespace BundleFront
namespace Diagnostic

/-- The errors and the warnings of a log, each in the order of the log. -/
inductive Split : List Diagnostic → List Message → List Message → Prop
  | nil : Split [] [] []
  | error {message : Message} {ds : List Diagnostic} {errors warnings : List Message}
      (rest : Split ds errors warnings) :
      Split (⟨.error, message⟩ :: ds) (message :: errors) warnings
  | warning {message : Message} {ds : List Diagnostic} {errors warnings : List Message}
      (rest : Split ds errors warnings) :
      Split (⟨.warning, message⟩ :: ds) errors (message :: warnings)

theorem messagesOf_cons (kind : Severity) (d : Diagnostic) (ds : List Diagnostic) :
    messagesOf kind (d :: ds) =
      if d.kind = kind then d.message :: messagesOf kind ds else messagesOf kind ds := by
  unfold messagesOf
  by_cases hkind : d.kind = kind
  · rw [List.filter_cons_of_pos (by simp [hkind]), if_pos hkind, List.map_cons]
  · rw [List.filter_cons_of_neg (by simp [hkind]), if_neg hkind]

theorem split_partition (ds : List Diagnostic) :
    Split ds (partition ds).1 (partition ds).2 := by
  induction ds with
  | nil => exact .nil
  | cons d rest ih =>
      obtain ⟨kind, message⟩ := d
      -- The two lists are computed apart, and the head stays in only one of them.
      change Split (⟨kind, message⟩ :: rest) (messagesOf .error (⟨kind, message⟩ :: rest))
        (messagesOf .warning (⟨kind, message⟩ :: rest))
      rw [messagesOf_cons, messagesOf_cons]
      cases kind with
      | error => exact .error ih
      | warning => exact .warning ih

/-- A log has only one split. -/
theorem split_iff {ds : List Diagnostic} {errors warnings : List Message} :
    Split ds errors warnings ↔ partition ds = (errors, warnings) := by
  constructor
  · intro h
    induction h with
    | nil => rfl
    | @error message ds errors warnings rest ih =>
        obtain ⟨herrors, hwarnings⟩ := Prod.mk.inj ih
        unfold partition
        rw [messagesOf_cons, messagesOf_cons, herrors, hwarnings]
        rfl
    | @warning message ds errors warnings rest ih =>
        obtain ⟨herrors, hwarnings⟩ := Prod.mk.inj ih
        unfold partition
        rw [messagesOf_cons, messagesOf_cons, herrors, hwarnings]
        rfl
  · intro h
    have hsplit := split_partition ds
    rw [h] at hsplit
    exact hsplit

/-- No diagnostic is lost, and none shows twice. -/
theorem Split.perm {ds : List Diagnostic} {errors warnings : List Message}
    (h : Split ds errors warnings) :
    (ofMessages .error errors ++ ofMessages .warning warnings).Perm ds := by
  induction h with
  | nil => exact .nil
  | error rest ih => exact ih.cons _
  | warning rest ih => exact List.perm_middle.trans (ih.cons _)

/-- There is nothing among the errors exactly if the log has none. -/
theorem Split.errors_eq_nil_iff {ds : List Diagnostic} {errors warnings : List Message}
    (h : Split ds errors warnings) : errors = [] ↔ Log.hasErrors ds = false := by
  induction h with
  | nil => exact iff_of_true rfl rfl
  | error rest ih => simp [Log.hasErrors, isError]
  | warning rest ih =>
      rw [ih]
      simp [Log.hasErrors, isError]

end Diagnostic
end BundleFront
