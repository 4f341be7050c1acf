import BundleFront.Proofs.Double.Packing

/-!
# Arithmetic of doubles

A result is calculated with some digits more than a double has, then shifted to its last place and
rounded.  Shifting must not forget what it drops: a digit that decides, and whether there is
anything but zeros behind it.  `digits` says for a rational number what there is to know about it
at some place, and shifting by one place is halving the number.

So whatever mantissa an operation starts from, if it knows the digits of the exact result from
some place on that is not above the last one (`Reads`), what comes out is the nearest double.

* `Reads.rounded` — what is rounded is the exact result.
* `Holds.mul`, `Holds.div` and `Holds.neg` — products and quotients are rounded once, and the sign
  is turned exactly.
* `rounds_ofScientific` — so is a natural number times a power of ten.
-/

namespace BundleFront.Double

open Float.Model (Format UnpackedFloat totalExponent)
open Float.Model.UnpackedFloat

/-- The digits of a number before the point, and what rounding has to know of those behind it. -/
def digits (q : ℚ) : ExtendedMantissa where
  mantissa := ⌊q⌋₊
  roundBit := decide (1 / 2 ≤ Int.fract q)
  stickyBit := decide (Int.fract q ≠ 0 ∧ Int.fract q ≠ 1 / 2)

theorem digits_natCast (m : ℕ) : digits m = .ofMantissaAndAccuracy m .exact := by
  simp [digits, ExtendedMantissa.ofMantissaAndAccuracy]

theorem roundedMantissa_digits (q : ℚ) : (digits q).roundedMantissa = roundEven q := by
  have hfract := Int.fract_nonneg q
  unfold ExtendedMantissa.roundedMantissa digits roundEven
  rcases lt_trichotomy (Int.fract q) (1 / 2) with hlt | heq | hgt
  · rw [if_pos hlt, decide_eq_false (not_le.mpr hlt)]
    cases decide (Int.fract q ≠ 0 ∧ Int.fract q ≠ 1 / 2) <;> rfl
  · rw [heq, if_neg (lt_irrefl _), if_neg (lt_irrefl _), decide_eq_true le_rfl,
      decide_eq_false (by simp)]
    rfl
  · rw [if_neg hgt.le.not_gt, if_pos hgt, decide_eq_true hgt.le,
      decide_eq_true ⟨by linarith, hgt.ne'⟩]
    rfl

/-- Halving moves the last digit behind the point. -/
theorem fract_div_two {q : ℚ} (hq : 0 ≤ q) :
    Int.fract (q / 2) = ((⌊q⌋₊ % 2 : ℕ) + Int.fract q) / 2 := by
  have hsum := floor_add_fract hq
  have hhalf := floor_add_fract (div_nonneg hq zero_le_two)
  rw [Nat.floor_div_ofNat] at hhalf
  have hdigit : ((⌊q⌋₊ % 2 : ℕ) : ℚ) + 2 * ((⌊q⌋₊ / 2 : ℕ) : ℚ) = ⌊q⌋₊ := by
    exact_mod_cast Nat.mod_add_div ⌊q⌋₊ 2
  linarith

/-- A digit that goes behind the point decides whether there is one half or more, and does not
change whether there is anything but one half. -/
theorem half_le_iff_and_ne_zero_iff {d : ℕ} (hd : d = 0 ∨ d = 1) {f : ℚ} (hlow : 0 ≤ f)
    (hhigh : f < 1) :
    (1 / 2 ≤ (d + f) / 2 ↔ d = 1) ∧ (f ≠ 0 ↔ (d + f) / 2 ≠ 0 ∧ (d + f) / 2 ≠ 1 / 2) := by
  rcases hd with rfl | rfl
  · rw [Nat.cast_zero]
    refine ⟨iff_of_false (by linarith) zero_ne_one, fun hne => ⟨?_, ?_⟩, fun h hzero => ?_⟩
    · exact fun hhalf => hne (by linarith)
    · exact fun hhalf => by linarith
    · exact h.1 (by linarith)
  · rw [Nat.cast_one]
    refine ⟨iff_of_true (by linarith) rfl, fun hne => ⟨?_, ?_⟩, fun h hzero => ?_⟩
    · exact fun hhalf => by linarith
    · exact fun hhalf => hne (by linarith)
    · exact h.2 (by linarith)

theorem shiftRightOne_digits {q : ℚ} (hq : 0 ≤ q) : (digits q).shiftRightOne = digits (q / 2) := by
  unfold ExtendedMantissa.shiftRightOne digits
  dsimp only
  rw [fract_div_two hq, Nat.floor_div_ofNat]
  -- Anything behind the old point is now behind the digit that decides.
  have hsticky : (decide (1 / 2 ≤ Int.fract q) || decide (Int.fract q ≠ 0 ∧ Int.fract q ≠ 1 / 2)) =
      decide (Int.fract q ≠ 0) := by
    rw [← Bool.decide_or, decide_eq_decide]
    constructor
    · rintro (hhalf | ⟨hne, -⟩)
      · linarith
      · exact hne
    · intro hne
      by_cases hhalf : Int.fract q = 1 / 2
      · exact .inl hhalf.ge
      · exact .inr ⟨hne, hhalf⟩
  have hdigit := Nat.mod_two_eq_zero_or_one ⌊q⌋₊
  obtain ⟨hround, hrest⟩ :=
    half_le_iff_and_ne_zero_iff hdigit (Int.fract_nonneg q) (Int.fract_lt_one q)
  have hbit : (⌊q⌋₊ % 2 != 0) = decide (⌊q⌋₊ % 2 = 1) := by
    rcases hdigit with hmod | hmod <;> rw [hmod] <;> rfl
  rw [hsticky, hbit, decide_eq_decide.mpr hround, decide_eq_decide.mpr hrest]

theorem shiftRight_digits {q : ℚ} (hq : 0 ≤ q) (n : ℕ) : digits q >>> n = digits (q / 2 ^ n) := by
  change n.repeat ExtendedMantissa.shiftRightOne (digits q) = _
  induction n with
  | zero => simp [Nat.repeat]
  | succ n ih =>
      rw [Nat.repeat, ih, shiftRightOne_digits (by positivity), div_div, ← pow_succ]

/-! ## Rounding -/

theorem targetExponent_binary64 (t : ℤ) :
    Format.binary64.targetExponent t = max (t - 53) (-1074) := rfl

/-- A mantissa and an exponent with what the mantissa leaves out, where the exponent is not above
the last place. -/
structure Reads (q : ℚ) (m : ℕ) (e : ℤ) (accuracy : Accuracy) : Prop where
  pos : 0 < q
  le : e ≤ lastPlace q
  digits_eq : digits (q / 2 ^ e) = .ofMantissaAndAccuracy m accuracy

namespace Reads

variable {q : ℚ} {m : ℕ} {e : ℤ} {accuracy : Accuracy}

theorem floor_eq (h : Reads q m e accuracy) : ⌊q / 2 ^ e⌋₊ = m := by
  have hmantissa := congrArg ExtendedMantissa.mantissa h.digits_eq
  rcases accuracy with _ | ⟨_ | _ | _⟩ <;> exact hmantissa

theorem mul_le_and_lt (h : Reads q m e accuracy) : m * 2 ^ e ≤ q ∧ q < (m + 1) * 2 ^ e := by
  obtain ⟨hlow, hhigh⟩ := (Nat.floor_eq_iff (div_two_zpow_nonneg h.pos.le e)).mp h.floor_eq
  exact ⟨(le_div_iff₀ (two_zpow_pos e)).mp hlow, (div_lt_iff₀ (two_zpow_pos e)).mp hhigh⟩

/-- A mantissa is zero only below the smallest place. -/
theorem lastPlace_eq_of_zero (h : Reads q 0 e accuracy) : lastPlace q = -1074 := by
  have hsmall : q < 2 ^ e := by
    have hhigh := h.mul_le_and_lt.2
    rwa [Nat.cast_zero, zero_add, one_mul] at hhigh
  by_contra hne
  have hfirst := two_zpow_lastPlace_le h.pos (lt_of_le_of_ne (neg_le_lastPlace q) (Ne.symm hne))
  have hle : (2 : ℚ) ^ e ≤ 2 ^ (lastPlace q + 52) :=
    zpow_le_zpow_right₀ one_le_two (by have hplace := h.le; omega)
  exact absurd (hsmall.trans_le hle) hfirst.not_gt

theorem log_eq (h : Reads q m e accuracy) (hm : 0 < m) : Int.log 2 q = m.log2 + e := by
  obtain ⟨hlow, hhigh⟩ := h.mul_le_and_lt
  have hge : ((2 : ℕ) : ℚ) ^ ((m.log2 : ℤ) + e) ≤ q := by
    rw [Nat.cast_ofNat, zpow_add₀ two_ne_zero, zpow_natCast]
    refine (mul_le_mul_of_nonneg_right ?_ (two_zpow_pos e).le).trans hlow
    exact_mod_cast Nat.log2_self_le hm.ne'
  have hlt : q < ((2 : ℕ) : ℚ) ^ ((m.log2 : ℤ) + e + 1) := by
    rw [Nat.cast_ofNat, add_right_comm, zpow_add₀ two_ne_zero]
    refine hhigh.trans_le (mul_le_mul_of_nonneg_right ?_ (two_zpow_pos e).le)
    exact_mod_cast Nat.lt_log2_self
  rw [Int.zpow_le_iff_le_log one_lt_two h.pos] at hge
  rw [Int.lt_zpow_iff_log_lt one_lt_two h.pos] at hlt
  omega

theorem targetExponent_eq (h : Reads q m e accuracy) :
    Format.binary64.targetExponent (totalExponent m e) = lastPlace q := by
  have hplace := h.le
  rw [targetExponent_binary64, totalExponent]
  rcases Nat.eq_zero_or_pos m with rfl | hm
  · rw [h.lastPlace_eq_of_zero] at hplace ⊢
    rw [Nat.log2_zero]
    omega
  · rw [lastPlace, h.log_eq hm]
    congr 1
    omega

/-- The first shift brings a mantissa to the last place. -/
theorem shiftToTargetExponent_eq (h : Reads q m e accuracy) :
    shiftToTargetExponent Format.binary64 m e accuracy =
      (digits (q / 2 ^ lastPlace q), lastPlace q) := by
  have hplace := h.le
  have hsum : e + ((lastPlace q - e).toNat : ℤ) = lastPlace q := by omega
  have hpower : (2 : ℚ) ^ e * 2 ^ (lastPlace q - e).toNat = 2 ^ lastPlace q := by
    rw [← zpow_natCast, ← zpow_add₀ two_ne_zero, hsum]
  unfold shiftToTargetExponent shiftToExponent
  dsimp only
  rw [h.targetExponent_eq, ← h.digits_eq, shiftRight_digits (div_two_zpow_nonneg h.pos.le e),
    div_div, hpower, hsum]

end Reads

/-- Mantissas that have room stay where they are. -/
theorem shiftToTargetExponent_of_lt {r : ℕ} {p : ℤ} (hr : r < 2 ^ 53) (hp : -1074 ≤ p) :
    shiftToTargetExponent Format.binary64 r p .exact = (digits r, p) := by
  have hlog : r.log2 ≤ 52 := by
    rcases Nat.eq_zero_or_pos r with rfl | hpos
    · simp
    · exact Nat.le_of_lt_succ ((Nat.log2_lt hpos.ne').mpr hr)
  have htarget : Format.binary64.targetExponent (totalExponent r p) ≤ p := by
    rw [targetExponent_binary64, totalExponent]
    omega
  have hshift : (Format.binary64.targetExponent (totalExponent r p) - p).toNat = 0 := by omega
  unfold shiftToTargetExponent shiftToExponent
  dsimp only
  rw [hshift, digits_natCast, Nat.cast_zero, add_zero]
  rfl

/-- A mantissa that has become too long by rounding loses its last digit, which is zero. -/
theorem shiftToTargetExponent_of_eq {p : ℤ} (hp : -1074 ≤ p) :
    shiftToTargetExponent Format.binary64 (2 ^ 53) p .exact = (digits (2 ^ 52 : ℕ), p + 1) := by
  have htarget : Format.binary64.targetExponent (totalExponent (2 ^ 53) p) = p + 1 := by
    rw [targetExponent_binary64, totalExponent, Nat.log2_two_pow]
    omega
  have hshift : (p + 1 - p).toNat = 1 := by omega
  have hhalf : ((2 ^ 53 : ℕ) : ℚ) / 2 ^ 1 = (2 ^ 52 : ℕ) := by norm_num
  unfold shiftToTargetExponent shiftToExponent
  dsimp only
  rw [htarget, hshift, ← digits_natCast, shiftRight_digits (Nat.cast_nonneg _), hhalf]
  rfl

/-- What a number is rounded to, before it is packed. -/
inductive Rounded (u : UnpackedFloat) (s : Sign) (q : ℚ) : Prop
  | zero (h : u = .zero s) (hq : q = 0)
  | finite {m : ℕ} {e : ℤ} {hm : 0 < m} (h : u = .finite s m e hm) (hfits : Fits m e)
      (hq : q = m * 2 ^ e)

theorem Reads.rounded {q : ℚ} {m : ℕ} {e : ℤ} {accuracy : Accuracy} (h : Reads q m e accuracy)
    (s : Sign) : Rounded (roundWithAccuracy Format.binary64 s m e accuracy) s (nearest q) := by
  have hplace := neg_le_lastPlace q
  have hle := roundEven_le_two_pow h.pos.le
  have hnearest : nearest q = roundEven (q / 2 ^ lastPlace q) * 2 ^ lastPlace q := rfl
  -- Rounding keeps the first digit, where the last place leaves room for all of them.
  have hfull : 2 ^ 52 ≤ roundEven (q / 2 ^ lastPlace q) ∨ lastPlace q = -1074 := by
    rcases hplace.eq_or_lt with heq | hlt
    · exact .inr heq.symm
    · refine .inl (le_roundEven ?_)
      have hfirst := two_zpow_lastPlace_le h.pos hlt
      rw [zpow_add₀ two_ne_zero, mul_comm] at hfirst
      rw [le_div_iff₀ (two_zpow_pos _)]
      exact_mod_cast hfirst
  unfold roundWithAccuracy
  rw [h.shiftToTargetExponent_eq]
  dsimp only
  rw [roundedMantissa_digits]
  generalize roundEven (q / 2 ^ lastPlace q) = r at *
  generalize lastPlace q = p at *
  rcases hle.lt_or_eq with hlt | rfl
  · rw [shiftToTargetExponent_of_lt hlt hplace, digits_natCast]
    dsimp only [ExtendedMantissa.ofMantissaAndAccuracy]
    rcases Nat.eq_zero_or_pos r with rfl | hpos
    · exact .zero (dif_pos rfl) (by simpa using hnearest)
    · exact .finite (dif_neg hpos.ne') ⟨hlt, hplace, hfull⟩ hnearest
  · rw [shiftToTargetExponent_of_eq hplace, digits_natCast]
    dsimp only [ExtendedMantissa.ofMantissaAndAccuracy]
    refine .finite (dif_neg (by decide)) ⟨by decide, by omega, .inl le_rfl⟩ ?_
    rw [hnearest, zpow_add_one₀ two_ne_zero]
    push_cast
    ring

/-! ## Operations -/

/-- A double is what a number is rounded to, and infinite if this is out of range. -/
structure Rounds (x : Float) (s : Sign) (q : ℚ) : Prop where
  holds : nearest q < 2 ^ 1024 → Holds x s (nearest q)
  infinite : 2 ^ 1024 ≤ nearest q → x.toModel.unpack = .infinity s

theorem Rounded.rounds {u : UnpackedFloat} {s : Sign} {q : ℚ} (h : Rounded u s (nearest q)) :
    Rounds (.ofModel (.pack u)) s q := by
  cases h with
  | zero hu hq =>
      subst hu
      refine ⟨fun _ => .zero (unpack_pack_zero s) hq, fun hlarge => ?_⟩
      rw [hq] at hlarge
      exact absurd hlarge (not_le.mpr (by positivity))
  | @finite m e hm hu hfits hq =>
      subst hu
      constructor
      · intro hlt
        rw [hq, hfits.lt_iff] at hlt
        exact .finite (unpack_pack_finite hfits hlt s hm) hq
      · intro hlarge
        rw [hq, ← not_lt, hfits.lt_iff, not_le] at hlarge
        exact unpack_pack_infinite hlarge s hm

/-- A mantissa that leaves nothing out. -/
theorem reads_exact {n : ℕ} {e : ℤ} (hn : 0 < n) (h : e ≤ -1074 ∨ 2 ^ 52 ≤ n) :
    Reads (n * 2 ^ e) n e .exact := by
  refine ⟨mul_pos (by exact_mod_cast hn) (two_zpow_pos e), ?_, ?_⟩
  · rcases h with hsmall | hfull
    · exact hsmall.trans (neg_le_lastPlace _)
    · refine le_lastPlace ?_
      rw [zpow_add₀ two_ne_zero, mul_comm]
      exact mul_le_mul_of_nonneg_right (by exact_mod_cast hfull) (two_zpow_pos e).le
  · rw [mul_div_cancel_right₀ _ (two_zpow_pos e).ne', digits_natCast]

section
variable {x y : Float} {s t : Sign} {q r : ℚ}

/-- A product is rounded once. -/
theorem Holds.mul (hx : Holds x s q) (hy : Holds y t r) : Rounds (x * y) (s * t) (q * r) := by
  have hmul : x * y =
      .ofModel (.pack (UnpackedFloat.mul Format.binary64 x.toModel.unpack y.toModel.unpack)) := rfl
  rw [hmul]
  apply Rounded.rounds
  cases hx with
  | zero hx hq =>
      have hzero : nearest (q * r) = 0 := by rw [hq, zero_mul, nearest_zero]
      cases hy with
      | zero hy hr => exact .zero (by rw [hx, hy]; rfl) hzero
      | finite hy hr => exact .zero (by rw [hx, hy]; rfl) hzero
  | @finite m e hm hx hq =>
      cases hy with
      | zero hy hr => exact .zero (by rw [hx, hy]; rfl) (by rw [hr, mul_zero, nearest_zero])
      | @finite n k hn hy hr =>
          obtain ⟨hfits, -⟩ := fits_of_unpack hx
          obtain ⟨hfits', -⟩ := fits_of_unpack hy
          have hprod : q * r = (m * n : ℕ) * 2 ^ (e + k) := by
            rw [hq, hr, zpow_add₀ two_ne_zero, Nat.cast_mul]
            ring
          rw [hx, hy, hprod]
          refine (reads_exact (Nat.mul_pos hm hn) ?_).rounded (s * t)
          -- One factor has all digits, or both are down at the smallest place.
          rcases hfits.full with hfull | he
          · exact .inr (hfull.trans (Nat.le_mul_of_pos_right m hn))
          rcases hfits'.full with hfull | hk
          · exact .inr (hfull.trans (Nat.le_mul_of_pos_left n hm))
          · exact .inl (by omega)

/-- What a whole quotient leaves out, by its remainder. -/
theorem digits_div (n : ℕ) {d : ℕ} (hd : 0 < d) :
    digits ((n : ℚ) / d) = .ofMantissaAndAccuracy (n / d) (accuracyOfFraction (n % d) d) := by
  have hpos : (0 : ℚ) < d := by exact_mod_cast hd
  have hfract : Int.fract ((n : ℚ) / d) = ((n % d : ℕ) : ℚ) / d :=
    Int.fract_div_natCast_eq_div_natCast_mod
  unfold digits accuracyOfFraction
  rw [hfract, Nat.floor_div_eq_div]
  generalize n % d = k
  rcases Nat.eq_zero_or_pos k with rfl | hk
  · simp [ExtendedMantissa.ofMantissaAndAccuracy]
  have hne : (k : ℚ) / d ≠ 0 := (div_pos (by exact_mod_cast hk) hpos).ne'
  rw [if_neg hk.ne']
  rcases lt_trichotomy (2 * k) d with hlt | heq | hgt
  · have hsmall : (k : ℚ) / d < 1 / 2 := by
      rw [div_lt_div_iff₀ hpos two_pos, one_mul, mul_comm]
      exact_mod_cast hlt
    rw [Nat.compare_eq_lt.mpr hlt, decide_eq_false hsmall.not_ge, decide_eq_true ⟨hne, hsmall.ne⟩]
    rfl
  · have hhalf : (k : ℚ) / d = 1 / 2 := by
      rw [div_eq_div_iff hpos.ne' two_ne_zero, one_mul, mul_comm]
      exact_mod_cast heq
    rw [Nat.compare_eq_eq.mpr heq, hhalf, decide_eq_true le_rfl, decide_eq_false (by simp)]
    rfl
  · have hlarge : 1 / 2 < (k : ℚ) / d := by
      rw [div_lt_div_iff₀ two_pos hpos, one_mul, mul_comm (k : ℚ)]
      exact_mod_cast hgt
    rw [Nat.compare_eq_gt.mpr hgt, decide_eq_true hlarge.le, decide_eq_true ⟨hne, hlarge.ne'⟩]
    rfl

/-- A quotient of mantissas has all digits, or goes down to the smallest place. -/
theorem reads_divCore {m n : ℕ} (hm : 0 < m) (hn : 0 < n) (e k : ℤ) :
    let core := divCore Format.binary64 m e n k
    Reads (m * 2 ^ e / (n * 2 ^ k)) core.1 core.2.1 core.2.2 := by
  have hmpos : (0 : ℚ) < m := by exact_mod_cast hm
  have hnpos : (0 : ℚ) < n := by exact_mod_cast hn
  unfold divCore
  dsimp only
  rw [targetExponent_binary64, totalExponent, totalExponent]
  generalize hplace : min (e - k) (max ((m.log2 + 1 + e) - (n.log2 + 1 + k) - 53) (-1074)) = p
  have hshift : e - k - p = ((e - k - p).toNat : ℤ) := by omega
  have hdenominator : (0 : ℚ) < n * 2 ^ k := mul_pos hnpos (two_zpow_pos k)
  refine ⟨div_pos (mul_pos hmpos (two_zpow_pos e)) hdenominator, ?_, ?_⟩
  · rcases le_or_gt p (-1074) with hsmall | hlarge
    · exact hsmall.trans (neg_le_lastPlace _)
    refine le_lastPlace ((le_div_iff₀ hdenominator).mpr ?_)
    have hlog : (2 : ℚ) ^ m.log2 ≤ m := by exact_mod_cast Nat.log2_self_le hm.ne'
    have hlog' : (n : ℚ) ≤ 2 ^ (n.log2 + 1) := by exact_mod_cast Nat.lt_log2_self.le
    calc (2 : ℚ) ^ (p + 52) * (n * 2 ^ k)
        ≤ 2 ^ (p + 52) * (2 ^ (n.log2 + 1) * 2 ^ k) :=
          mul_le_mul_of_nonneg_left (mul_le_mul_of_nonneg_right hlog' (two_zpow_pos k).le)
            (two_zpow_pos _).le
      _ = 2 ^ (p + 52 + ((n.log2 + 1 : ℕ) + k)) := by
          rw [zpow_add₀ two_ne_zero (p + 52), zpow_add₀ two_ne_zero _ k, zpow_natCast]
      _ ≤ 2 ^ ((m.log2 : ℤ) + e) := zpow_le_zpow_right₀ one_le_two (by omega)
      _ = 2 ^ m.log2 * 2 ^ e := by rw [zpow_add₀ two_ne_zero, zpow_natCast]
      _ ≤ m * 2 ^ e := mul_le_mul_of_nonneg_right hlog (two_zpow_pos e).le
  · have hpower : (2 : ℚ) ^ e = 2 ^ (e - k - p).toNat * 2 ^ k * 2 ^ p := by
      rw [← zpow_natCast, ← hshift, ← zpow_add₀ two_ne_zero, ← zpow_add₀ two_ne_zero]
      congr 1
      omega
    rw [← digits_div _ hn, Nat.shiftLeft_eq, hpower]
    congr 1
    have hk := (two_zpow_pos k).ne'
    have hp := (two_zpow_pos p).ne'
    push_cast
    field_simp

/-- A quotient is rounded once. -/
theorem Holds.div (hx : Holds x s q) (hy : Holds y t r) (hr : r ≠ 0) :
    Rounds (x / y) (s / t) (q / r) := by
  have hdiv : x / y =
      .ofModel (.pack (UnpackedFloat.div Format.binary64 x.toModel.unpack y.toModel.unpack)) := rfl
  rw [hdiv]
  apply Rounded.rounds
  cases hy with
  | zero hy hzero => exact absurd hzero hr
  | @finite n k hn hy hr' =>
      cases hx with
      | zero hx hq => exact .zero (by rw [hx, hy]; rfl) (by rw [hq, zero_div, nearest_zero])
      | @finite m e hm hx hq =>
          rw [hx, hy, hq, hr']
          exact (reads_divCore hm hn e k).rounded (s / t)

/-- A natural number is rounded once. -/
theorem rounds_ofNat (n : ℕ) :
    Rounds (.ofModel (.pack (UnpackedFloat.ofNat Format.binary64 n))) .positive n := by
  apply Rounded.rounds
  unfold UnpackedFloat.ofNat UnpackedFloat.ofInt UnpackedFloat.normalize
  rcases Nat.eq_zero_or_pos n with rfl | hn
  · exact .zero rfl (by simp)
  have hcompare : compare (n : ℤ) 0 = .gt := by
    rw [compare_gt_iff_gt]
    exact_mod_cast hn
  rw [hcompare]
  dsimp only [UnpackedFloat.round, decreaseExponent]
  rw [targetExponent_binary64, totalExponent, Int.toNat_natCast, Nat.shiftLeft_eq]
  generalize hshift : (0 - max ((n.log2 : ℤ) + 1 + 0 - 53) (-1074)).toNat = k
  have hfull : 2 ^ 52 ≤ n * 2 ^ k :=
    calc 2 ^ 52 ≤ 2 ^ (n.log2 + k) := Nat.pow_le_pow_right two_pos (by omega)
      _ = 2 ^ n.log2 * 2 ^ k := pow_add _ _ _
      _ ≤ n * 2 ^ k := Nat.mul_le_mul_right _ (Nat.log2_self_le hn.ne')
  have hvalue : (n : ℚ) = (n * 2 ^ k : ℕ) * 2 ^ (0 - (k : ℤ)) := by
    rw [zero_sub, zpow_neg, zpow_natCast, Nat.cast_mul, Nat.cast_pow, Nat.cast_ofNat,
      mul_assoc, mul_inv_cancel₀ (by positivity), mul_one]
  have hreads := (reads_exact (Nat.mul_pos hn (Nat.two_pow_pos k)) (.inr hfull)
    (e := 0 - (k : ℤ))).rounded .positive
  rwa [← hvalue] at hreads

/-- The powers of ten that are doubles. -/
theorem holds_powerOfTen {k : ℕ} (hk : k ≤ 22)
    (h : k < Float.exactlyRepresentablePowersOfTen.size) :
    Holds (Float.exactlyRepresentablePowersOfTen[k]) .positive (10 ^ k) := by
  -- Ten to the `k` is five to the `k`, with all digits, times a power of two.
  have hpos : 0 < 5 ^ k * 2 ^ (52 - (5 ^ k).log2) := by positivity
  have hunpack : (Float.exactlyRepresentablePowersOfTen[k]).toModel.unpack =
      .finite .positive (5 ^ k * 2 ^ (52 - (5 ^ k).log2)) (k + (5 ^ k).log2 - 52) hpos := by
    interval_cases k <;>
    simp only [Float.exactlyRepresentablePowersOfTen, List.getElem_toArray,
      List.getElem_cons_succ, List.getElem_cons_zero] <;>
    rfl
  refine .finite hunpack ?_
  have hlog : (5 ^ k).log2 < 53 :=
    (Nat.log2_lt (by positivity)).mpr ((Nat.pow_le_pow_right (by decide) hk).trans_lt (by decide))
  have hexponent : ((52 - (5 ^ k).log2 : ℕ) : ℤ) + (k + (5 ^ k).log2 - 52) = k := by omega
  rw [Nat.cast_mul, Nat.cast_pow, Nat.cast_pow, Nat.cast_ofNat, Nat.cast_ofNat, mul_assoc,
    ← zpow_natCast 2, ← zpow_add₀ two_ne_zero, hexponent, zpow_natCast, ← mul_pow]
  norm_num

/-- A number times a power of ten is rounded once. -/
theorem rounds_ofScientific (m : ℕ) {k : ℕ} (hk : k ≤ 2048) :
    Rounds (Float.ofScientific m false k) .positive (m * 10 ^ k) := by
  unfold Float.ofScientific
  split
  · rename_i hfast
    obtain ⟨hm, hk'⟩ := hfast
    rw [if_neg Bool.false_ne_true]
    have hword : m.toUInt64.toNat = m := Nat.mod_eq_of_lt (by omega)
    have hrounds : Rounds m.toUInt64.toFloat .positive m.toUInt64.toNat :=
      rounds_ofNat m.toUInt64.toNat
    have hholds := hrounds.holds
    rw [hword, (isDouble_natCast hm).nearest_eq] at hholds
    have hlimit : (m : ℚ) < 2 ^ 1024 := by
      have hlt : (m : ℚ) < 2 ^ 53 := by exact_mod_cast hm
      exact hlt.trans (pow_lt_pow_right₀ one_lt_two (by norm_num))
    exact (hholds hlimit).mul (holds_powerOfTen hk' _)
  · rw [if_neg Bool.false_ne_true]
    apply Rounded.rounds
    unfold UnpackedFloat.ofScientific
    split
    · rename_i hm
      exact .zero rfl (by simp [hm])
    rename_i hm
    have hbits : (2 : ℤ) ^ Format.binary64.exponentBits = 2048 := rfl
    have hfull : 2 ^ 52 ≤ m <<< 53 * 10 ^ k := by
      rw [Nat.shiftLeft_eq]
      have hpos : 1 ≤ m := Nat.pos_of_ne_zero hm
      have hten : 1 ≤ 10 ^ k := Nat.one_le_pow _ _ (by decide)
      calc 2 ^ 52 ≤ 1 * 2 ^ 53 * 1 := by norm_num
        _ ≤ m * 2 ^ 53 * 10 ^ k := Nat.mul_le_mul (Nat.mul_le_mul_right _ hpos) hten
    have hvalue : (m * 10 ^ k : ℚ) = (m <<< 53 * 10 ^ k : ℕ) * 2 ^ (-53 + 0 : ℤ) := by
      rw [Nat.shiftLeft_eq]
      push_cast
      norm_num
      ring
    rw [if_neg (by rw [hbits, Int.ofNat_eq_natCast]; omega),
      if_neg (by rw [hbits, Int.ofNat_eq_natCast]; omega),
      if_pos (by rw [Int.ofNat_eq_natCast]; omega), hvalue]
    exact (reads_exact (by omega) (.inr hfull)).rounded .positive

/-- Turning the sign keeps the magnitude. -/
theorem Holds.neg (hx : Holds x s q) : Holds (-x) (-s) q := by
  have hneg : (-x).toModel = .pack x.toModel.unpack.neg := rfl
  cases hx with
  | zero hx hq =>
      have hunpack : (-x).toModel.unpack = .zero (-s) := by
        rw [hneg, hx]
        exact unpack_pack_zero (-s)
      exact .zero hunpack hq
  | @finite m e hm hx hq =>
      obtain ⟨hfits, he⟩ := fits_of_unpack hx
      have hunpack : (-x).toModel.unpack = .finite (-s) m e hm := by
        rw [hneg, hx]
        exact unpack_pack_finite hfits he (-s) hm
      exact .finite hunpack hq

theorem holds_zero : Holds 0 .positive 0 := by
  have hrounds := rounds_ofScientific 0 (Nat.zero_le 2048)
  rw [Nat.cast_zero, zero_mul] at hrounds
  have hholds := hrounds.holds (by rw [nearest_zero]; positivity)
  rwa [nearest_zero] at hholds

/-- Only zeros compare equal to zero. -/
theorem Holds.beq_zero_iff (hx : Holds x s q) : (x == 0) = true ↔ q = 0 := by
  have hbeq : (x == 0) = (x.toModel.unpack.compare (0 : Float).toModel.unpack == some .eq) := rfl
  have hzero : (0 : Float).toModel.unpack = .zero .positive := by
    cases holds_zero with
    | zero h => exact h
    | @finite m e hm h hq => exact absurd hq.symm (ne_zero_of_finite hm)
  rw [hbeq, hzero]
  cases hx with
  | zero hx hq =>
      rw [hx]
      exact iff_of_true rfl hq
  | @finite m e hm hx hq =>
      rw [hx]
      refine iff_of_false ?_ (hq ▸ ne_zero_of_finite hm)
      cases s <;> exact Bool.false_ne_true

/-- What is rounded is infinite exactly if it is out of range. -/
theorem Rounds.isInf_iff (h : Rounds x s q) : x.isInf = true ↔ 2 ^ 1024 ≤ nearest q := by
  have hinf : x.isInf = x.toModel.unpack.isInf := rfl
  rw [hinf]
  rcases lt_or_ge (nearest q) (2 ^ 1024) with hlt | hge
  · refine iff_of_false ?_ hlt.not_ge
    cases h.holds hlt with
    | zero hx => rw [hx]; exact Bool.false_ne_true
    | finite hx => rw [hx]; exact Bool.false_ne_true
  · rw [h.infinite hge]
    exact iff_of_true rfl hge

end

end BundleFront.Double
