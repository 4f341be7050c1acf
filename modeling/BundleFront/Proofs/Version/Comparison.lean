import BundleFront.Proofs.Version
import Mathlib.Data.List.DropRight
import Mathlib.Data.List.GetD

/-!
# Comparing versions

Comparing the numbers of two versions gives the outcome of comparing their sequences.  So
versions have the order of sequences, except that a tie does not make them the same: versions
that tie are the same list of numbers once the zeros at their ends are taken away.

* `Version.order_eq_compare` — what is computed is how the sequences compare.
* `Version.sequence_eq_iff_trimmed_eq` — versions stand for one sequence if they agree up to
  their last number that is not zero.
* `Version.order_lexicographic` — the order, its ties, and zeros put at the ends.
-/

namespace BundleFront
namespace Version

/-- Comparing the numbers given compares the sequences, also at a tie. -/
theorem order_eq_compare (v w : Version) : order v w = compare v.sequence w.sequence := by
  cases horder : order v w with
  | lt => exact (compare_lt_iff_lt.mpr (below_iff_sequence_lt.mp (order_eq_lt_iff.mp horder))).symm
  | gt => exact (compare_gt_iff_gt.mpr (below_iff_sequence_lt.mp (order_eq_gt_iff.mp horder))).symm
  | eq =>
      -- At a tie neither version is above the other, so neither sequence is.
      have hswap : order w v = .eq := by
        rw [← order_swap v w, horder]
        rfl
      have hle : v.sequence ≤ w.sequence := order_ne_gt_iff.mp (by rw [horder]; decide)
      have hge : w.sequence ≤ v.sequence := order_ne_gt_iff.mp (by rw [hswap]; decide)
      exact (compare_eq_iff_eq.mpr (hle.antisymm hge)).symm

/-- How versions compare depends on their sequences only. -/
theorem order_congr {v v' w w' : Version} (hv : v.sequence = v'.sequence)
    (hw : w.sequence = w'.sequence) : order v w = order v' w' := by
  rw [order_eq_compare, order_eq_compare, hv, hw]

/-! ## Ties -/

/-- A version without the zeros at its end. -/
def trimmed (v : Version) : Version := v.rdropWhile (· == 0)

theorem trimmed_append_zeros (v : Version) (zeros : Nat) :
    trimmed (v ++ List.replicate zeros 0) = v.trimmed := by
  unfold trimmed
  induction zeros with
  | zero => rw [List.replicate_zero, List.append_nil]
  | succ zeros ih =>
      rw [List.replicate_succ', ← List.append_assoc, List.rdropWhile_concat_pos _ _ _ (by simp), ih]

/-- What is taken away are zeros. -/
theorem sameButZeros_trimmed (v : Version) : SameButZeros v.trimmed v := by
  have hzeros : v.rtakeWhile (· == 0) = List.replicate (v.rtakeWhile (· == 0)).length 0 :=
    List.eq_replicate_of_mem fun n hn => by simpa using List.mem_rtakeWhile_imp hn
  refine ⟨(v.rtakeWhile (· == 0)).length, 0, ?_⟩
  rw [← hzeros, List.replicate_zero, List.append_nil]
  exact List.rdropWhile_append_rtakeWhile

/-- A version that is filled up with zeros lists the first numbers of its sequence. -/
theorem append_zeros_eq_map_number {v : Version} {places : Nat} (h : v.length ≤ places) :
    v ++ List.replicate (places - v.length) 0 = (List.range places).map v.number := by
  refine List.ext_getElem ?_ ?_
  · rw [List.length_append, List.length_replicate, List.length_map, List.length_range]
    omega
  · intro place hplace _
    rw [List.getElem_map, List.getElem_range, ← number_append_zeros v (places - v.length) place]
    exact (List.getD_eq_getElem _ 0 hplace).symm

/-- Filled up to the same length, versions with one sequence are one list. -/
theorem sameButZeros_of_sequence_eq {v w : Version} (h : v.sequence = w.sequence) :
    SameButZeros v w := by
  have hnumber : v.number = w.number := by
    funext place
    exact UInt32.toNat_inj.mp (congrFun (toLex.injective h) place)
  refine ⟨max v.length w.length - v.length, max v.length w.length - w.length, ?_⟩
  rw [append_zeros_eq_map_number (Nat.le_max_left _ _),
    append_zeros_eq_map_number (Nat.le_max_right _ _), hnumber]

theorem SameButZeros.trimmed_eq {v w : Version} (h : SameButZeros v w) :
    v.trimmed = w.trimmed := by
  obtain ⟨zeros, more, heq⟩ := h
  rw [← trimmed_append_zeros v zeros, heq, trimmed_append_zeros]

theorem sequence_eq_iff_trimmed_eq {v w : Version} :
    v.sequence = w.sequence ↔ v.trimmed = w.trimmed := by
  constructor
  · exact fun h => (sameButZeros_of_sequence_eq h).trimmed_eq
  · intro h
    calc
      v.sequence = v.trimmed.sequence := (sameButZeros_trimmed v).sequence_eq.symm
      _ = w.trimmed.sequence := by rw [h]
      _ = w.sequence := (sameButZeros_trimmed w).sequence_eq

/-- Versions compare as their sequences do, which go on with zeros and are in lexicographic order:
the other way round with the opposite outcome, and in chains.  Versions tie exactly if they are the
same list without the zeros at their ends, so zeros put there change no outcome. -/
theorem order_lexicographic :
    (∀ v w : Version, order v w = compare v.sequence w.sequence) ∧
      (∀ v w : Version, order w v = (order v w).swap) ∧
      (∀ u v w : Version, order u v ≠ .gt → order v w ≠ .gt → order u w ≠ .gt) ∧
      (∀ v w : Version, order v w = .eq ↔ v.trimmed = w.trimmed) ∧
      ∀ (v w : Version) (zeros more : Nat),
        order (v ++ List.replicate zeros 0) (w ++ List.replicate more 0) = order v w := by
  refine ⟨order_eq_compare, fun v w => (order_swap v w).symm, ?chain, ?ties, ?zeros⟩
  case chain =>
    intro u v w huv hvw
    rw [order_ne_gt_iff] at huv hvw ⊢
    exact huv.trans hvw
  case ties =>
    intro v w
    rw [order_eq_compare, compare_eq_iff_eq, sequence_eq_iff_trimmed_eq]
  case zeros =>
    intro v w zeros more
    exact order_congr (sequence_append_zeros v zeros) (sequence_append_zeros w more)

/-- Three versions of different lengths in a chain: the last two tie, and the zeros at the ends of
the first and of the last change no outcome. -/
theorem order_lexicographic_unequalLengths :
    let early : Version := [9, 12, 0, 0]
    let short : Version := [10]
    let long : Version := [10, 0, 0]
    order early short ≠ .gt ∧ order short long ≠ .gt ∧ order early long ≠ .gt ∧
      short.trimmed = long.trimmed ∧ order short long = .eq ∧
      order early long = order [9, 12] short := by
  intro early short long
  obtain ⟨-, -, hchain, hties, hzeros⟩ := order_lexicographic
  have hbelow : early.Below short := ⟨0, by simp, by decide⟩
  have hearly : order early short ≠ .gt := by
    rw [order_eq_lt_iff.mpr hbelow]
    decide
  have htrimmed : short.trimmed = long.trimmed := by decide
  have htie : order short long = .eq := (hties short long).mpr htrimmed
  have hshort : order short long ≠ .gt := by
    rw [htie]
    decide
  exact ⟨hearly, hshort, hchain early short long hearly hshort, htrimmed, htie,
    hzeros [9, 12] short 2 2⟩

end Version
end BundleFront
