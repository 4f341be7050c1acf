import BundleFront.Proofs.Double.Rounding
import Mathlib

/-!
# What a double holds

The bits of a double are a sign, a field for the exponent and a field for the mantissa.  They are
split here into the parts as numbers, once for each range of the exponent field.  That packing is
inverse to reading the bits is known; here it is shown that reading is inverse to packing, on all
that has room.

A finite double then holds a sign and a magnitude, which is a rational number.

* `unpack_pack_finite` and `unpack_pack_infinite` — a mantissa and an exponent come back as they
  are, unless they are out of range.
* `zero_or_finite_of_isFinite` — what comes from the bits of a finite double.
* `Holds.unique` and `Holds.magnitude_eq` — sign and magnitude determine a double, and it them.
-/

namespace BundleFront.Double

open Float.Model (Format UnpackedFloat)
open Float.Model.UnpackedFloat

/-- The bits of a double with the given sign, exponent field and mantissa field. -/
def parts (s : Sign) (a k : ℕ) : BitVec 64 :=
  packComponents Format.binary64 s (.ofNat 11 a) (.ofNat 52 k)

/-- The bits of every double have these parts. -/
theorem exists_parts (b : BitVec 64) : ∃ s a k, a < 2 ^ 11 ∧ k < 2 ^ 52 ∧ b = parts s a k := by
  let sign := @unpackSign Format.binary64 b
  let exponent := @unpackExponent Format.binary64 b
  let mantissa := @unpackMantissa Format.binary64 b
  refine ⟨Sign.ofBitVec sign, exponent.toNat, mantissa.toNat, exponent.isLt, mantissa.isLt, ?_⟩
  rw [parts, BitVec.ofNat_toNat, BitVec.ofNat_toNat]
  exact (@packComponents_unpackSign_unpackExponent_unpackMantissa Format.binary64 b).symm

theorem unpack_parts_zero (s : Sign) : unpack Format.binary64 (parts s 0 0) = .zero s := by
  unfold unpack parts
  simp only [unpackMantissa_packComponents, unpackExponent_packComponents,
    unpackSign_packComponents, Sign.ofBitVec_toBitVec]
  rfl

theorem unpack_parts_subnormal (s : Sign) {k : ℕ} (hk : k < 2 ^ 52) (hpos : 0 < k) :
    unpack Format.binary64 (parts s 0 k) = .finite s k (-1074) hpos := by
  have hfield : (BitVec.ofNat 52 k).toNat = k := Nat.mod_eq_of_lt hk
  have hne : (BitVec.ofNat 52 k) ≠ 0#52 := by
    intro hzero
    have hnat := congrArg BitVec.toNat hzero
    rw [hfield] at hnat
    exact hpos.ne' hnat
  unfold unpack parts
  simp only [unpackMantissa_packComponents, unpackExponent_packComponents,
    unpackSign_packComponents, Sign.ofBitVec_toBitVec]
  rw [if_neg (by decide), if_pos trivial, dif_neg hne]
  simp only [hfield]
  rfl

/-- The first digit of a mantissa with all digits is left out. -/
theorem toNat_one_append_ofNat {m : ℕ} (hfull : 2 ^ 52 ≤ m) (hlt : m < 2 ^ 53) :
    (1#1 ++ BitVec.ofNat 52 m).toNat = m := by
  obtain ⟨k, rfl⟩ := Nat.exists_eq_add_of_le hfull
  have hk : k < 2 ^ 52 := by omega
  have hmantissa : (BitVec.ofNat 52 (2 ^ 52 + k)).toNat = k := by
    rw [BitVec.toNat_ofNat, Nat.add_mod_left, Nat.mod_eq_of_lt hk]
  rw [BitVec.toNat_append, hmantissa]
  change 2 ^ 52 ||| k = _
  rw [Nat.or_comm, Nat.or_two_pow_eq_add_of_lt hk, Nat.add_comm]

theorem unpack_parts_normal (s : Sign) {a m : ℕ} (hpos : 0 < a) (ha : a < 2047)
    (hfull : 2 ^ 52 ≤ m) (hlt : m < 2 ^ 53) :
    unpack Format.binary64 (parts s a m) = .finite s m (a - 1075) (by omega) := by
  have hexponent : (BitVec.ofNat 11 a).toNat = a := Nat.mod_eq_of_lt (by omega)
  have hone : BitVec.ofNat 11 a ≠ -1#11 := by
    intro h
    have hnat := congrArg BitVec.toNat h
    rw [hexponent] at hnat
    change a = 2047 at hnat
    omega
  have hzero : BitVec.ofNat 11 a ≠ 0#11 := by
    intro h
    have hnat := congrArg BitVec.toNat h
    rw [hexponent] at hnat
    change a = 0 at hnat
    omega
  unfold unpack parts
  simp only [unpackMantissa_packComponents, unpackExponent_packComponents,
    unpackSign_packComponents, Sign.ofBitVec_toBitVec]
  rw [if_neg hone, if_neg hzero]
  simp only [toNat_one_append_ofNat hfull hlt, hexponent]
  rfl

/-- The last field of the exponent is for what is no number. -/
theorem isFinite_unpack_parts (s : Sign) (k : ℕ) :
    (unpack Format.binary64 (parts s 2047 k)).isFinite = false := by
  unfold unpack parts
  simp only [unpackMantissa_packComponents, unpackExponent_packComponents,
    unpackSign_packComponents, Sign.ofBitVec_toBitVec]
  rw [if_pos (by decide)]
  split <;> rfl

/-! ## Packing -/

/-- The mantissas and exponents of doubles.  A mantissa has all of its 53 digits, unless the
exponent is the smallest one. -/
structure Fits (m : ℕ) (e : ℤ) : Prop where
  lt : m < 2 ^ 53
  ge : -1074 ≤ e
  full : 2 ^ 52 ≤ m ∨ e = -1074

theorem log2_eq_of_full {m : ℕ} (hlow : 2 ^ 52 ≤ m) (hhigh : m < 2 ^ 53) : m.log2 = 52 := by
  have hm : m ≠ 0 := by omega
  have hge := (Nat.le_log2 hm).mpr hlow
  have hlt := (Nat.log2_lt hm).mpr hhigh
  omega

theorem pack_finite {m : ℕ} {e : ℤ} (h : Fits m e) (he : e ≤ 971) (s : Sign) (hm : 0 < m) :
    pack Format.binary64 (.finite s m e hm) =
      parts s (if 2 ^ 52 ≤ m then (e + 1075).toNat else 0) m := by
  have hge := h.ge
  have hlt := h.lt
  have hbias : (e + Format.binary64.exponentBias + (52 : ℕ)).toNat = (e + 1075).toNat := by
    change (e + 1023 + 52).toNat = _
    omega
  unfold pack
  dsimp only
  rw [hbias, if_neg (by change ¬ 2048 ≤ _; omega)]
  by_cases hfull : 2 ^ 52 ≤ m
  · have hlog : m.log2 + 1 = Format.binary64.mantissaBits := by
      rw [log2_eq_of_full hfull hlt]
      rfl
    rw [if_pos hlog, if_pos hfull]
    rfl
  · have hlog : m.log2 + 1 ≠ Format.binary64.mantissaBits := by
      have hsmall : m.log2 < 52 := (Nat.log2_lt hm.ne').mpr (by omega)
      change m.log2 + 1 ≠ 53
      omega
    rw [if_neg hlog, if_neg hfull]
    rfl

theorem unpack_pack_finite {m : ℕ} {e : ℤ} (h : Fits m e) (he : e ≤ 971) (s : Sign) (hm : 0 < m) :
    (Float.Model.pack (.finite s m e hm)).unpack = .finite s m e hm := by
  change unpack Format.binary64 (pack Format.binary64 (.finite s m e hm)) = _
  have hge := h.ge
  rw [pack_finite h he]
  by_cases hfull : 2 ^ 52 ≤ m
  · have hexponent : ((e + 1075).toNat : ℤ) - 1075 = e := by omega
    rw [if_pos hfull, unpack_parts_normal s (by omega) (by omega) hfull h.lt]
    simp only [hexponent]
  · obtain rfl : e = -1074 := h.full.resolve_left hfull
    rw [if_neg hfull]
    exact unpack_parts_subnormal s (by omega) hm

/-- What is too large becomes infinite. -/
theorem unpack_pack_infinite {m : ℕ} {e : ℤ} (he : 971 < e) (s : Sign) (hm : 0 < m) :
    (Float.Model.pack (.finite s m e hm)).unpack = .infinity s := by
  change unpack Format.binary64 (pack Format.binary64 (.finite s m e hm)) = _
  have hbias : 2 ^ 11 ≤ (e + Format.binary64.exponentBias + (52 : ℕ)).toNat + 1 := by
    change 2048 ≤ (e + 1023 + 52).toNat + 1
    omega
  unfold pack
  dsimp only
  rw [if_pos hbias]
  cases s <;> rfl

theorem unpack_pack_zero (s : Sign) : (Float.Model.pack (.zero s)).unpack = .zero s :=
  unpack_packedZero

/-- Every finite double is zero or has a mantissa and an exponent that fit. -/
theorem zero_or_finite_of_isFinite {b : BitVec 64}
    (h : (unpack Format.binary64 b).isFinite = true) :
    (∃ s, unpack Format.binary64 b = .zero s) ∨
      ∃ s m e hm, unpack Format.binary64 b = .finite s m e hm ∧ Fits m e ∧ e ≤ 971 := by
  obtain ⟨s, a, k, ha, hk, rfl⟩ := exists_parts b
  rcases Nat.eq_zero_or_pos a with rfl | hpos
  · rcases Nat.eq_zero_or_pos k with rfl | hk'
    · exact .inl ⟨s, unpack_parts_zero s⟩
    · have hfits : Fits k (-1074) := ⟨by omega, le_rfl, .inr rfl⟩
      exact .inr ⟨s, k, -1074, hk', unpack_parts_subnormal s hk hk', hfits, by omega⟩
  rcases Nat.lt_or_ge a 2047 with hlt | hge
  · -- The digit that was left out comes back.
    have hparts : parts s a k = parts s a (2 ^ 52 + k) := by
      have hfield : BitVec.ofNat 52 (2 ^ 52 + k) = BitVec.ofNat 52 k := by
        apply BitVec.eq_of_toNat_eq
        rw [BitVec.toNat_ofNat, BitVec.toNat_ofNat, Nat.add_mod_left]
      rw [parts, parts, hfield]
    have hfits : Fits (2 ^ 52 + k) (a - 1075) := ⟨by omega, by omega, .inl (by omega)⟩
    rw [hparts]
    exact .inr ⟨s, 2 ^ 52 + k, a - 1075, by omega,
      unpack_parts_normal s hpos hlt (by omega) (by omega), hfits, by omega⟩
  · obtain rfl : a = 2047 := by omega
    rw [isFinite_unpack_parts] at h
    contradiction

/-! ## Magnitudes -/

/-- A finite double has this sign and this magnitude. -/
inductive Holds (x : Float) (s : Sign) (q : ℚ) : Prop
  | zero (h : x.toModel.unpack = .zero s) (hq : q = 0)
  | finite {m : ℕ} {e : ℤ} {hm : 0 < m} (h : x.toModel.unpack = .finite s m e hm)
      (hq : q = m * 2 ^ e)

/-- The mantissa and the exponent of a double are told by its magnitude. -/
theorem Fits.eq_of_mul_eq {m n : ℕ} {e k : ℤ} (hm : Fits m e) (hn : Fits n k)
    (h : (m * 2 ^ e : ℚ) = n * 2 ^ k) (hle : e ≤ k) : m = n ∧ e = k := by
  have hmultiple := two_zpow_eq hle
  rw [hmultiple, ← mul_assoc] at h
  have hnat : m = n * 2 ^ (k - e).toNat := by
    exact_mod_cast mul_right_cancel₀ (two_zpow_pos e).ne' h
  rcases hle.eq_or_lt with rfl | hlt
  · refine ⟨?_, rfl⟩
    rw [hnat, Int.sub_self, Int.toNat_zero, pow_zero, mul_one]
  · -- The second mantissa has all digits, so the first one would have more.
    have hfull : 2 ^ 52 ≤ n := hn.full.resolve_right (by have hge := hm.ge; omega)
    obtain ⟨j, hj⟩ : ∃ j, (k - e).toNat = j + 1 := ⟨(k - e).toNat - 1, by omega⟩
    have htwice : 2 ^ 53 ≤ m := by
      have hdigit : 2 ^ 1 ≤ 2 ^ (j + 1) := Nat.pow_le_pow_right two_pos (by omega)
      rw [hnat, hj]
      exact Nat.mul_le_mul hfull hdigit
    have hlt := hm.lt
    omega

theorem Fits.unique {m n : ℕ} {e k : ℤ} (hm : Fits m e) (hn : Fits n k)
    (h : (m * 2 ^ e : ℚ) = n * 2 ^ k) : m = n ∧ e = k := by
  rcases le_total e k with hle | hle
  · exact hm.eq_of_mul_eq hn h hle
  · obtain ⟨rfl, rfl⟩ := hn.eq_of_mul_eq hm h.symm hle
    exact ⟨rfl, rfl⟩

/-- Of the numbers with such mantissas, those with larger exponents are out of range. -/
theorem Fits.lt_iff {m : ℕ} {e : ℤ} (h : Fits m e) : (m * 2 ^ e : ℚ) < 2 ^ 1024 ↔ e ≤ 971 := by
  have hlimit {k : ℕ} {j : ℤ} (hsum : k + j = 1024) : (2 : ℚ) ^ k * 2 ^ j = 2 ^ 1024 := by
    rw [← zpow_natCast, ← zpow_add₀ two_ne_zero, hsum]
    rfl
  constructor
  · intro hlt
    by_contra he
    have hfull : 2 ^ 52 ≤ m := h.full.resolve_right (by omega)
    refine absurd hlt (not_lt.mpr ?_)
    calc (2 : ℚ) ^ 1024 = 2 ^ 52 * 2 ^ (972 : ℤ) := (hlimit (by norm_num)).symm
      _ ≤ m * 2 ^ e := mul_le_mul (by exact_mod_cast hfull)
          (zpow_le_zpow_right₀ one_le_two (by omega)) (two_zpow_pos _).le (Nat.cast_nonneg m)
  · intro he
    calc (m * 2 ^ e : ℚ) < 2 ^ 53 * 2 ^ e :=
          mul_lt_mul_of_pos_right (by exact_mod_cast h.lt) (two_zpow_pos e)
      _ ≤ 2 ^ 53 * 2 ^ (971 : ℤ) :=
          mul_le_mul_of_nonneg_left (zpow_le_zpow_right₀ one_le_two he) (by positivity)
      _ = 2 ^ 1024 := hlimit (by norm_num)

theorem fits_of_unpack {f : Float.Model} {s : Sign} {m : ℕ} {e : ℤ} {hm : 0 < m}
    (h : f.unpack = .finite s m e hm) : Fits m e ∧ e ≤ 971 := by
  have hfinite : (unpack Format.binary64 f.toBits.toBitVec).isFinite = true := by
    change f.unpack.isFinite = true
    rw [h]
    rfl
  rcases zero_or_finite_of_isFinite hfinite with
    ⟨s', hzero⟩ | ⟨s', m', e', hm', hs, hfits, he⟩
  · cases h.symm.trans hzero
  · cases h.symm.trans hs
    exact ⟨hfits, he⟩

namespace Holds

variable {x y : Float} {s t : Sign} {q r : ℚ}

theorem isDouble (h : Holds x s q) : IsDouble q := by
  cases h with
  | zero h hq => exact ⟨0, 0, by norm_num, by norm_num, by simp [hq]⟩
  | finite h hq =>
      obtain ⟨hfits, -⟩ := fits_of_unpack h
      exact ⟨_, _, hfits.lt, hfits.ge, hq⟩

theorem nonneg (h : Holds x s q) : 0 ≤ q := by
  cases h with
  | zero h hq => exact hq.ge
  | finite h hq =>
      rw [hq]
      exact mul_nonneg (Nat.cast_nonneg _) (two_zpow_pos _).le

theorem lt (h : Holds x s q) : q < 2 ^ 1024 := by
  cases h with
  | zero h hq =>
      rw [hq]
      positivity
  | finite h hq =>
      obtain ⟨hfits, he⟩ := fits_of_unpack h
      rw [hq]
      exact hfits.lt_iff.mpr he

theorem ne_zero_of_finite {m : ℕ} {e : ℤ} (hm : 0 < m) : (m * 2 ^ e : ℚ) ≠ 0 :=
  mul_ne_zero (by exact_mod_cast hm.ne') (two_zpow_pos e).ne'

/-- Sign and magnitude determine a double. -/
theorem unique (hx : Holds x s q) (hy : Holds y s q) : x = y := by
  have hunpack : x.toModel.unpack = y.toModel.unpack := by
    cases hx with
    | zero hx hq =>
        cases hy with
        | zero hy => exact hx.trans hy.symm
        | @finite m e hm hy hq' => exact absurd (hq'.symm.trans hq) (ne_zero_of_finite hm)
    | @finite m e hm hx hq =>
        cases hy with
        | zero hy hq' => exact absurd (hq.symm.trans hq') (ne_zero_of_finite hm)
        | @finite n k hn hy hq' =>
            obtain ⟨hfits, -⟩ := fits_of_unpack hx
            obtain ⟨hfits', -⟩ := fits_of_unpack hy
            obtain ⟨rfl, rfl⟩ := hfits.unique hfits' (hq.symm.trans hq')
            exact hx.trans hy.symm
  have hbits := (unpack_inj_of_valid x.toModel.valid y.toModel.valid).mp hunpack
  exact Float.toBits_inj.mp (UInt64.toBitVec_inj.mp hbits)

/-- A double has one sign and one magnitude. -/
theorem magnitude_eq (h : Holds x s q) (h' : Holds x t r) : s = t ∧ q = r := by
  cases h with
  | zero h hq =>
      cases h' with
      | zero h' hr =>
          cases h.symm.trans h'
          exact ⟨rfl, hq.trans hr.symm⟩
      | finite h' hr => cases h.symm.trans h'
  | finite h hq =>
      cases h' with
      | zero h' hr => cases h.symm.trans h'
      | finite h' hr =>
          cases h.symm.trans h'
          exact ⟨rfl, hq.trans hr.symm⟩

end Holds

end BundleFront.Double
