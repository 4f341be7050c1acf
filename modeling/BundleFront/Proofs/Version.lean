import BundleFront.Feature
import Mathlib.Data.List.Basic
import Mathlib.Order.PiLex
import Mathlib.Tactic.Common

/-!
# Versions as sequences of numbers

A version stands for a sequence without end, in which every number that is not given
is zero.  One version is below another if it has the lower number at the first place
where the two sequences differ; this is what comparing the numbers given computes, also
where one of the versions is longer.  So versions are compared as linearly as sequences
are, and versions that differ only in zeros at their ends are the same to it.

* `Version.order_eq_lt_iff` and `Version.order_eq_gt_iff` — comparing finds which of two
  versions is below the other.
* `Version.order_ne_gt_iff` — versions are in order if their sequences are.
* `Version.SameButZeros.sequence_eq` — zeros at the end change no sequence.
-/

namespace BundleFront
namespace Version

/-- The number at a place; one that is not given counts as zero. -/
def number (v : Version) (place : Nat) : UInt32 := v.getD place 0

/-- Whether the first number that is not the same in both is lower in `v`. -/
def Below (v w : Version) : Prop :=
  ∃ place, (∀ earlier < place, v.number earlier = w.number earlier) ∧
    v.number place < w.number place

theorem number_succ (v : Version) (place : Nat) : v.number (place + 1) = number v.tail place := by
  cases v <;> rfl

/-- The order looks at the first numbers, and behind them if they are the same. -/
theorem order_eq_then (v w : Version) :
    order v w = (compare (v.number 0) (w.number 0)).then (order v.tail w.tail) := by
  cases v <;> cases w <;> simp [order, number]

theorem below_iff (v w : Version) :
    Below v w ↔ v.number 0 < w.number 0 ∨ v.number 0 = w.number 0 ∧ Below v.tail w.tail := by
  constructor
  · rintro ⟨place, hsame, hlower⟩
    cases place with
    | zero => exact .inl hlower
    | succ place =>
        rw [number_succ, number_succ] at hlower
        refine .inr ⟨hsame 0 (Nat.succ_pos _), place, ?_, hlower⟩
        intro earlier hearlier
        rw [← number_succ, ← number_succ]
        exact hsame (earlier + 1) (Nat.succ_lt_succ hearlier)
  · rintro (hlower | ⟨hfirst, place, hsame, hlower⟩)
    · exact ⟨0, by simp, hlower⟩
    · refine ⟨place + 1, ?_, ?_⟩
      · intro earlier hearlier
        cases earlier with
        | zero => exact hfirst
        | succ earlier =>
            rw [number_succ, number_succ]
            exact hsame earlier (Nat.lt_of_succ_lt_succ hearlier)
      · rw [number_succ, number_succ]
        exact hlower

theorem not_below_self (v : Version) : ¬ Below v v := by
  rintro ⟨place, -, hlower⟩
  exact UInt32.lt_irrefl _ hlower

/-- Comparing goes from the first numbers to what is behind them, until both versions have ended.  A
version that has ended goes on with zeros, so the steps are all the same. -/
@[elab_as_elim]
theorem tail_induction {p : Version → Version → Prop} (nil : p [] [])
    (step : ∀ v w, p v.tail w.tail → p v w) (v w : Version) : p v w := by
  induction v, w using order.induct with
  | case1 => exact nil
  | case2 a v ih => exact step (a :: v) [] ih
  | case3 b w ih => exact step [] (b :: w) ih
  | case4 a v b w ih => exact step (a :: v) (b :: w) ih

/-- Comparing the numbers given decides which version is below the other. -/
theorem order_eq_lt_iff {v w : Version} : order v w = .lt ↔ Below v w := by
  induction v, w using tail_induction with
  | nil => exact iff_of_false (by simp [order]) (not_below_self [])
  | step v w ih =>
      rw [order_eq_then, below_iff, Ordering.then_eq_lt, ih, Std.compare_eq_lt,
        Std.compare_eq_iff_eq]

/-- Comparing the other way round gives the opposite answer. -/
theorem order_swap (v w : Version) : (order v w).swap = order w v := by
  induction v, w using tail_induction with
  | nil => simp [order]
  | step v w ih =>
      have hfirst : (compare (v.number 0) (w.number 0)).swap =
          compare (w.number 0) (v.number 0) := Std.OrientedCmp.eq_swap.symm
      rw [order_eq_then v w, order_eq_then w v, Ordering.swap_then, ih, hfirst]

theorem order_eq_gt_iff {v w : Version} : order v w = .gt ↔ Below w v := by
  rw [← order_eq_lt_iff, ← order_swap v w, Ordering.swap_eq_lt]

/-! ## Sequences -/

/-- The sequence that a version stands for, among the sequences in lexicographic order. -/
def sequence (v : Version) : Lex (ℕ → ℕ) := toLex fun place => (v.number place).toNat

theorem below_iff_sequence_lt {v w : Version} : Below v w ↔ v.sequence < w.sequence := by
  refine exists_congr fun place => and_congr (forall₂_congr fun earlier _ => ?_) ?_
  · exact UInt32.toNat_inj.symm
  · exact UInt32.lt_iff_toNat_lt

theorem order_ne_gt_iff {v w : Version} : order v w ≠ .gt ↔ v.sequence ≤ w.sequence := by
  rw [Ne, order_eq_gt_iff, below_iff_sequence_lt]
  exact not_lt

/-- Whether two versions differ at most in the number of zeros at their ends. -/
def SameButZeros (v w : Version) : Prop :=
  ∃ zeros more : Nat, v ++ List.replicate zeros 0 = w ++ List.replicate more 0

/-- Zeros at the end change no number: behind the end of the version stands a zero or nothing, and
nothing counts as zero. -/
theorem number_append_zeros (v : Version) (zeros place : Nat) :
    number (v ++ List.replicate zeros 0) place = v.number place := by
  unfold number
  rw [List.getD_eq_getElem?_getD, List.getD_eq_getElem?_getD, List.getElem?_append]
  split_ifs with hplace
  · rfl
  · rw [List.getElem?_eq_none (Nat.le_of_not_lt hplace), List.getElem?_replicate]
    split_ifs <;> rfl

theorem sequence_append_zeros (v : Version) (zeros : Nat) :
    sequence (v ++ List.replicate zeros 0) = v.sequence := by
  refine congrArg toLex (funext fun place => congrArg UInt32.toNat ?_)
  exact number_append_zeros v zeros place

theorem SameButZeros.sequence_eq {v w : Version} (h : SameButZeros v w) :
    v.sequence = w.sequence := by
  obtain ⟨zeros, more, heq⟩ := h
  rw [← sequence_append_zeros v zeros, heq, sequence_append_zeros]

end Version
end BundleFront
