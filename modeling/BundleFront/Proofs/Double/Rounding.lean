import Mathlib.Algebra.Order.Round
import Mathlib.Data.Int.Log
import Mathlib.Data.Rat.Floor
import Mathlib.Tactic.FieldSimp
import Mathlib.Tactic.Linarith
import Mathlib.Tactic.NormNum
import Mathlib.Tactic.Positivity
import Mathlib.Tactic.Ring

/-!
# Rounding to doubles

The magnitudes that doubles can have are natural numbers below `2 ^ 53` times powers of two, of
which the smallest is `2 ^ -1074`.  There is also a largest one, but rounding is simpler without
it: `nearest` takes a number to the nearest of all these products, and what comes out at or above
`2 ^ 1024` is out of range for whoever asks.

Around a number, doubles are multiples of its last place, which goes down with the number until
it is `2 ^ -1074`.  So the error of rounding is relative to what is rounded as long as this is not
too small, and is bounded by half of the smallest place below.

* `IsDouble.abs_nearest_sub_le` — no double is nearer to a number than the one it is rounded to.
* `IsDouble.nearest_eq` — doubles stay as they are.
* `Close.trans`, `Close.mul` and `Close.div` — the roundings of a calculation are counted.
* `Close.abs_nearest_sub_le` — the error of a calculation that rounds some times.
-/

namespace BundleFront.Double

/-- The nearest natural number to `q`, of two the even one. -/
def roundEven (q : ℚ) : ℕ :=
  if Int.fract q < 1 / 2 then ⌊q⌋₊
  else if 1 / 2 < Int.fract q then ⌊q⌋₊ + 1
  else ⌊q⌋₊ + ⌊q⌋₊ % 2

theorem floor_add_fract {q : ℚ} (hq : 0 ≤ q) : (⌊q⌋₊ : ℚ) + Int.fract q = q := by
  rw [natCast_floor_eq_intCast_floor hq]
  exact Int.floor_add_fract q

@[simp] theorem roundEven_natCast (n : ℕ) : roundEven n = n := by
  simp [roundEven]

@[simp] theorem roundEven_zero : roundEven 0 = 0 := by
  simp [roundEven]

/-- What is rounded moves by one half at most. -/
theorem abs_roundEven_sub_le {q : ℚ} (hq : 0 ≤ q) : |(roundEven q : ℚ) - q| ≤ 1 / 2 := by
  have hsum := floor_add_fract hq
  have hlow := Int.fract_nonneg q
  have hhigh := Int.fract_lt_one q
  rw [abs_le]
  unfold roundEven
  split
  · constructor <;> linarith
  split
  · push_cast
    constructor <;> linarith
  · have hmod : ((⌊q⌋₊ % 2 : ℕ) : ℚ) ≤ 1 := by
      exact_mod_cast Nat.le_of_lt_succ (Nat.mod_lt _ two_pos)
    have hpos : (0 : ℚ) ≤ ((⌊q⌋₊ % 2 : ℕ) : ℚ) := Nat.cast_nonneg _
    push_cast at hmod hpos ⊢
    constructor <;> linarith

/-- No natural number is nearer. -/
theorem abs_roundEven_sub_le_of_nat {q : ℚ} (hq : 0 ≤ q) (n : ℕ) :
    |(roundEven q : ℚ) - q| ≤ |(n : ℚ) - q| := by
  rcases eq_or_ne (roundEven q) n with rfl | hne
  · exact le_rfl
  have hdist : (1 : ℚ) ≤ |(roundEven q : ℚ) - n| := by
    have hint : (1 : ℤ) ≤ |(roundEven q : ℤ) - n| :=
      Int.one_le_abs (sub_ne_zero.mpr (by exact_mod_cast hne))
    exact_mod_cast hint
  have htriangle := abs_sub_le (roundEven q : ℚ) q n
  have hhalf := abs_roundEven_sub_le hq
  rw [abs_sub_comm q] at htriangle
  linarith

theorem le_roundEven {q : ℚ} {n : ℕ} (h : (n : ℚ) ≤ q) : n ≤ roundEven q := by
  have hfloor : n ≤ ⌊q⌋₊ := Nat.le_floor h
  unfold roundEven
  split
  · exact hfloor
  split
  · omega
  · omega

theorem roundEven_le {q : ℚ} (hq : 0 ≤ q) {n : ℕ} (h : q ≤ n) : roundEven q ≤ n := by
  have hhalf := abs_roundEven_sub_le hq
  have hlt : (roundEven q : ℚ) < n + 1 := by
    have hbounds := abs_le.mp hhalf
    linarith
  exact Nat.le_of_lt_succ (by exact_mod_cast hlt)

/-! ## Doubles -/

/-- The last binary place of the doubles around `q`. -/
def lastPlace (q : ℚ) : ℤ := max (Int.log 2 q - 52) (-1074)

/-- The nearest double to `q`, of two the even one, if doubles could be as large as one likes. -/
def nearest (q : ℚ) : ℚ := roundEven (q / 2 ^ lastPlace q) * 2 ^ lastPlace q

/-- The magnitudes of doubles, if they could be as large as one likes. -/
def IsDouble (r : ℚ) : Prop := ∃ (m : ℕ) (e : ℤ), m < 2 ^ 53 ∧ -1074 ≤ e ∧ r = m * 2 ^ e

theorem two_zpow_pos (k : ℤ) : (0 : ℚ) < 2 ^ k := zpow_pos two_pos k

/-- A power of two is a multiple of all smaller ones. -/
theorem two_zpow_eq {p k : ℤ} (h : p ≤ k) :
    (2 : ℚ) ^ k = ((2 ^ (k - p).toNat : ℕ) : ℚ) * 2 ^ p := by
  have hsum : ((k - p).toNat : ℤ) + p = k := by omega
  rw [Nat.cast_pow, Nat.cast_ofNat, ← zpow_natCast, ← zpow_add₀ two_ne_zero, hsum]

theorem neg_le_lastPlace (q : ℚ) : -1074 ≤ lastPlace q := le_max_right _ _

/-- A double has 53 binary digits at most. -/
theorem lt_two_zpow_lastPlace (q : ℚ) : q < 2 ^ (lastPlace q + 53) := by
  have hlog : q < (2 : ℕ) ^ (Int.log 2 q + 1) := Int.lt_zpow_succ_log_self one_lt_two q
  refine hlog.trans_le ?_
  rw [Nat.cast_ofNat]
  refine zpow_le_zpow_right₀ one_le_two ?_
  have hplace := le_max_left (Int.log 2 q - 52) (-1074)
  unfold lastPlace
  omega

/-- It has fewer only where the last place is the smallest one. -/
theorem two_zpow_lastPlace_le {q : ℚ} (hq : 0 < q) (h : -1074 < lastPlace q) :
    2 ^ (lastPlace q + 52) ≤ q := by
  have hplace : lastPlace q + 52 = Int.log 2 q := by
    unfold lastPlace at h ⊢
    omega
  rw [hplace]
  exact_mod_cast Int.zpow_log_le_self one_lt_two hq

theorem lastPlace_le {q : ℚ} (hq : 0 < q) {k : ℤ} (hk : -1074 ≤ k) (h : q < 2 ^ (k + 53)) :
    lastPlace q ≤ k := by
  have hlog : Int.log 2 q < k + 53 := by
    rw [← Int.lt_zpow_iff_log_lt one_lt_two hq]
    exact_mod_cast h
  exact max_le (by omega) hk

section
variable {q : ℚ}

theorem div_two_zpow_nonneg (hq : 0 ≤ q) (k : ℤ) : 0 ≤ q / 2 ^ k :=
  div_nonneg hq (two_zpow_pos k).le

@[simp] theorem nearest_zero : nearest 0 = 0 := by
  simp [nearest]

theorem nearest_nonneg (q : ℚ) : 0 ≤ nearest q :=
  mul_nonneg (Nat.cast_nonneg _) (two_zpow_pos _).le

/-- The distance to a multiple of the last place, counted in last places. -/
theorem abs_mul_two_zpow_sub (q r : ℚ) (k : ℤ) : |r * 2 ^ k - q| = |r - q / 2 ^ k| * 2 ^ k := by
  have hpos := two_zpow_pos k
  have hscaled : r * 2 ^ k - q = (r - q / 2 ^ k) * 2 ^ k := by
    rw [sub_mul, div_mul_cancel₀ _ hpos.ne']
  rw [hscaled, abs_mul, abs_of_pos hpos]

/-- Rounding moves by half of the last place at most. -/
theorem abs_nearest_sub_le_lastPlace (hq : 0 ≤ q) :
    |nearest q - q| ≤ 2 ^ lastPlace q / 2 := by
  rw [nearest, abs_mul_two_zpow_sub]
  calc _ ≤ 1 / 2 * 2 ^ lastPlace q :=
        mul_le_mul_of_nonneg_right (abs_roundEven_sub_le (div_two_zpow_nonneg hq _))
          (two_zpow_pos _).le
    _ = 2 ^ lastPlace q / 2 := by ring

theorem abs_nearest_sub_le_of_mul (hq : 0 ≤ q) (n : ℕ) :
    |nearest q - q| ≤ |n * 2 ^ lastPlace q - q| := by
  rw [nearest, abs_mul_two_zpow_sub, abs_mul_two_zpow_sub]
  exact mul_le_mul_of_nonneg_right
    (abs_roundEven_sub_le_of_nat (div_two_zpow_nonneg hq _) n) (two_zpow_pos _).le

/-- Doubles stay as they are. -/
theorem IsDouble.nearest_eq (h : IsDouble q) : nearest q = q := by
  obtain ⟨m, e, hm, he, rfl⟩ := h
  rcases Nat.eq_zero_or_pos m with rfl | hpos
  · simp [nearest]
  have hplace : lastPlace (m * 2 ^ e) ≤ e := by
    refine lastPlace_le (mul_pos (by exact_mod_cast hpos) (two_zpow_pos e)) he ?_
    rw [zpow_add₀ two_ne_zero, mul_comm ((2 : ℚ) ^ e)]
    refine mul_lt_mul_of_pos_right ?_ (two_zpow_pos e)
    exact_mod_cast hm
  -- The last place divides the double.
  have hmultiple := two_zpow_eq hplace
  set p := lastPlace (m * 2 ^ e)
  have hdiv : (m * 2 ^ e : ℚ) / 2 ^ p = ((m * 2 ^ (e - p).toNat : ℕ) : ℚ) := by
    rw [div_eq_iff (two_zpow_pos p).ne', hmultiple, Nat.cast_mul, mul_assoc]
  rw [nearest, hdiv, roundEven_natCast, Nat.cast_mul, mul_assoc, ← hmultiple]

/-- A rounded mantissa is too long by one digit at most. -/
theorem roundEven_le_two_pow (hq : 0 ≤ q) : roundEven (q / 2 ^ lastPlace q) ≤ 2 ^ 53 := by
  refine roundEven_le (div_two_zpow_nonneg hq _) ((div_le_iff₀ (two_zpow_pos _)).mpr ?_)
  have hlt := lt_two_zpow_lastPlace q
  rw [zpow_add₀ two_ne_zero, mul_comm] at hlt
  exact_mod_cast hlt.le

theorem isDouble_nearest (hq : 0 ≤ q) : IsDouble (nearest q) := by
  have hplace := neg_le_lastPlace q
  rcases (roundEven_le_two_pow hq).lt_or_eq with hlt | heq
  · exact ⟨_, _, hlt, hplace, rfl⟩
  · -- Where there is one digit too many, the last one is zero.
    refine ⟨2 ^ 52, lastPlace q + 1, by norm_num, by omega, ?_⟩
    rw [nearest, heq, zpow_add_one₀ two_ne_zero]
    push_cast
    ring

/-- No double is nearer. -/
theorem IsDouble.abs_nearest_sub_le {r : ℚ} (h : IsDouble r) (hq : 0 ≤ q) :
    |nearest q - q| ≤ |r - q| := by
  rcases hq.eq_or_lt with rfl | hpos
  · simp
  obtain ⟨m, e, hm, he, rfl⟩ := h
  rcases le_or_gt (lastPlace q) e with hplace | hplace
  · rw [two_zpow_eq hplace, ← mul_assoc, ← Nat.cast_mul]
    exact abs_nearest_sub_le_of_mul hq _
  · -- The double is below the first place of `q`, which is nearer.
    have hfirst := two_zpow_lastPlace_le hpos (he.trans_lt hplace)
    have hbelow : (m : ℚ) * 2 ^ e ≤ 2 ^ (lastPlace q + 52) :=
      calc (m : ℚ) * 2 ^ e ≤ 2 ^ 53 * 2 ^ e :=
            mul_le_mul_of_nonneg_right (by exact_mod_cast hm.le) (two_zpow_pos e).le
        _ = 2 ^ (53 + e) := by rw [zpow_add₀ two_ne_zero]; norm_num
        _ ≤ 2 ^ (lastPlace q + 52) := zpow_le_zpow_right₀ one_le_two (by omega)
    have hmultiple := two_zpow_eq (show lastPlace q ≤ lastPlace q + 52 by omega)
    calc |nearest q - q| ≤ |2 ^ (lastPlace q + 52) - q| := by
          rw [hmultiple]
          exact abs_nearest_sub_le_of_mul hq _
      _ ≤ |m * 2 ^ e - q| := by
          rw [abs_of_nonpos (by linarith), abs_of_nonpos (by linarith)]
          linarith

/-- Rounding does not pass a double. -/
theorem IsDouble.le_nearest {r : ℚ} (h : IsDouble r) (hq : 0 ≤ q) (hle : r ≤ q) :
    r ≤ nearest q := by
  have hnear := h.abs_nearest_sub_le hq
  rw [abs_of_nonpos (sub_nonpos.mpr hle)] at hnear
  have hbounds := abs_le.mp hnear
  linarith

theorem IsDouble.nearest_le {r : ℚ} (h : IsDouble r) (hq : 0 ≤ q) (hle : q ≤ r) :
    nearest q ≤ r := by
  have hnear := h.abs_nearest_sub_le hq
  rw [abs_of_nonneg (sub_nonneg.mpr hle)] at hnear
  have hbounds := abs_le.mp hnear
  linarith

theorem isDouble_two_zpow {k : ℤ} (hk : -1074 ≤ k) : IsDouble (2 ^ k) :=
  ⟨1, k, by norm_num, hk, by simp⟩

/-- Small natural numbers are doubles. -/
theorem isDouble_natCast {n : ℕ} (hn : n < 2 ^ 53) : IsDouble n :=
  ⟨n, 0, hn, by norm_num, by simp⟩

theorem half_smallest : (2 : ℚ) ^ (-1074 : ℤ) / 2 = 2 ^ (-1075 : ℤ) :=
  (zpow_sub_one₀ two_ne_zero (-1074)).symm

/-- What is less than half of the smallest double is rounded to zero. -/
theorem nearest_eq_zero (hq : 0 ≤ q) (h : q < 2 ^ (-1075 : ℤ)) : nearest q = 0 := by
  rcases hq.eq_or_lt with rfl | hpos
  · exact nearest_zero
  have hplace : lastPlace q = -1074 := by
    refine le_antisymm (lastPlace_le hpos le_rfl (h.trans ?_)) (neg_le_lastPlace q)
    exact zpow_lt_zpow_right₀ one_lt_two (by norm_num)
  have hhalf : q / 2 ^ (-1074 : ℤ) < 1 / 2 := by
    rw [div_lt_iff₀ (two_zpow_pos _), one_div_mul_eq_div, half_smallest]
    exact h
  have hzero : roundEven (q / 2 ^ (-1074 : ℤ)) < 1 := by
    have hbounds := abs_le.mp (abs_roundEven_sub_le (div_two_zpow_nonneg hq (-1074)))
    have hlt : (roundEven (q / 2 ^ (-1074 : ℤ)) : ℚ) < 1 := by linarith
    exact_mod_cast hlt
  rw [nearest, hplace, Nat.lt_one_iff.mp hzero, Nat.cast_zero, zero_mul]

/-- The error of rounding is relative to what is rounded where the last place is not the smallest
one. -/
theorem abs_nearest_sub_le_div (hq : 0 < q) (h : -1074 < lastPlace q) :
    |nearest q - q| ≤ q / 2 ^ 53 := by
  have hfirst := two_zpow_lastPlace_le hq h
  have hsplit : (2 : ℚ) ^ (lastPlace q + 52) = 2 ^ lastPlace q * 2 ^ 52 :=
    zpow_add₀ two_ne_zero _ 52
  rw [hsplit] at hfirst
  refine (abs_nearest_sub_le_lastPlace hq.le).trans ?_
  rw [le_div_iff₀ (by positivity)]
  linarith

/-- In any case the error is not much more than half of the smallest place. -/
theorem abs_nearest_sub_le (hq : 0 ≤ q) : |nearest q - q| ≤ q / 2 ^ 53 + 2 ^ (-1075 : ℤ) := by
  rcases hq.eq_or_lt with rfl | hpos
  · simp
  rcases (neg_le_lastPlace q).eq_or_lt with hplace | hplace
  · have hhalf := abs_nearest_sub_le_lastPlace hq
    rw [← hplace, half_smallest] at hhalf
    exact hhalf.trans (le_add_of_nonneg_left (by positivity))
  · exact (abs_nearest_sub_le_div hpos hplace).trans (le_add_of_nonneg_right (two_zpow_pos _).le)

theorem le_lastPlace {e : ℤ} (h : 2 ^ (e + 52) ≤ q) : e ≤ lastPlace q := by
  by_contra hlt
  have hq := h.trans_lt (lt_two_zpow_lastPlace q)
  have hexponent := (zpow_lt_zpow_iff_right₀ one_lt_two).mp hq
  omega

end

/-! ## Chains of roundings -/

/-- What at least is left of a number that is rounded. -/
def remainder : ℚ := 1 - 1 / 2 ^ 53

/-- Two magnitudes differ by no more than `k` roundings can change them. -/
structure Close (k : ℕ) (a b : ℚ) : Prop where
  left_nonneg : 0 ≤ a
  right_nonneg : 0 ≤ b
  left : a * remainder ^ k ≤ b
  right : b * remainder ^ k ≤ a

section
variable {j k : ℕ} {a b c d ε : ℚ}

theorem remainder_pow_pos (k : ℕ) : 0 < remainder ^ k := pow_pos (by norm_num [remainder]) k

theorem remainder_pow_le_one (k : ℕ) : remainder ^ k ≤ 1 :=
  pow_le_one₀ (by norm_num [remainder]) (by norm_num [remainder])

theorem close_self (k : ℕ) (ha : 0 ≤ a) : Close k a a :=
  ⟨ha, ha, mul_le_of_le_one_right ha (remainder_pow_le_one k),
    mul_le_of_le_one_right ha (remainder_pow_le_one k)⟩

theorem Close.symm (h : Close k a b) : Close k b a :=
  ⟨h.right_nonneg, h.left_nonneg, h.right, h.left⟩

theorem Close.trans (hab : Close j a b) (hbc : Close k b c) : Close (j + k) a c where
  left_nonneg := hab.left_nonneg
  right_nonneg := hbc.right_nonneg
  left := by
    rw [pow_add, ← mul_assoc]
    exact (mul_le_mul_of_nonneg_right hab.left (remainder_pow_pos k).le).trans hbc.left
  right := by
    rw [add_comm, pow_add, ← mul_assoc]
    exact (mul_le_mul_of_nonneg_right hbc.right (remainder_pow_pos j).le).trans hab.right

theorem Close.mul (hab : Close j a b) (hcd : Close k c d) : Close (j + k) (a * c) (b * d) where
  left_nonneg := mul_nonneg hab.left_nonneg hcd.left_nonneg
  right_nonneg := mul_nonneg hab.right_nonneg hcd.right_nonneg
  left := by
    rw [pow_add, mul_mul_mul_comm]
    exact mul_le_mul hab.left hcd.left
      (mul_nonneg hcd.left_nonneg (remainder_pow_pos k).le) hab.right_nonneg
  right := by
    rw [pow_add, mul_mul_mul_comm]
    exact mul_le_mul hab.right hcd.right
      (mul_nonneg hcd.right_nonneg (remainder_pow_pos k).le) hab.left_nonneg

theorem Close.right_eq_zero (h : Close k 0 b) : b = 0 :=
  le_antisymm (nonpos_of_mul_nonpos_left h.right (remainder_pow_pos k)) h.right_nonneg

theorem Close.inv (h : Close k a b) : Close k a⁻¹ b⁻¹ := by
  rcases h.left_nonneg.eq_or_lt with rfl | ha
  · rw [h.right_eq_zero]
    exact close_self k (inv_nonneg.mpr le_rfl)
  rcases h.right_nonneg.eq_or_lt with rfl | hb
  · rw [h.symm.right_eq_zero]
    exact close_self k (inv_nonneg.mpr le_rfl)
  refine ⟨inv_nonneg.mpr ha.le, inv_nonneg.mpr hb.le, ?_, ?_⟩
  · rw [inv_mul_le_iff₀ ha, ← div_eq_mul_inv, le_div_iff₀ hb, mul_comm]
    exact h.right
  · rw [inv_mul_le_iff₀ hb, ← div_eq_mul_inv, le_div_iff₀ ha, mul_comm]
    exact h.left

theorem Close.div (hab : Close j a b) (hcd : Close k c d) : Close (j + k) (a / c) (b / d) := by
  rw [div_eq_mul_inv, div_eq_mul_inv]
  exact hab.mul hcd.inv

theorem Close.mono (h : Close j a b) (hjk : j ≤ k) : Close k a b := by
  have hpow : remainder ^ k ≤ remainder ^ j :=
    pow_le_pow_of_le_one (by norm_num [remainder]) (by norm_num [remainder]) hjk
  exact ⟨h.left_nonneg, h.right_nonneg,
    (mul_le_mul_of_nonneg_left hpow h.left_nonneg).trans h.left,
    (mul_le_mul_of_nonneg_left hpow h.right_nonneg).trans h.right⟩

theorem close_of_abs_sub_le (h : |a - b| ≤ ε * b) (ha : 0 ≤ a) (hb : 0 ≤ b)
    (hleft : (1 + ε) * remainder ^ k ≤ 1) (hright : remainder ^ k ≤ 1 - ε) : Close k a b where
  left_nonneg := ha
  right_nonneg := hb
  left := by
    have hle : a ≤ (1 + ε) * b := by linarith [le_of_abs_le h]
    calc a * remainder ^ k ≤ (1 + ε) * b * remainder ^ k :=
          mul_le_mul_of_nonneg_right hle (remainder_pow_pos k).le
      _ = (1 + ε) * remainder ^ k * b := by ring
      _ ≤ 1 * b := mul_le_mul_of_nonneg_right hleft hb
      _ = b := one_mul b
  right := by
    have hle : (1 - ε) * b ≤ a := by linarith [neg_le_of_abs_le h]
    rw [mul_comm]
    exact (mul_le_mul_of_nonneg_right hright hb).trans hle

/-- Rounding counts once where the last place is not the smallest one. -/
theorem close_nearest {q : ℚ} (hq : 2 ^ (-1021 : ℤ) ≤ q) : Close 1 (nearest q) q := by
  have hpos : 0 < q := (two_zpow_pos _).trans_le hq
  have hplace : -1073 ≤ lastPlace q := le_lastPlace hq
  have hnear := abs_nearest_sub_le_div hpos (by omega)
  rw [div_eq_inv_mul] at hnear
  exact close_of_abs_sub_le hnear (nearest_nonneg q) hpos.le (by norm_num [remainder])
    (by norm_num [remainder])

theorem close_nearest_of_one_le {q : ℚ} (hq : 1 ≤ q) : Close 1 (nearest q) q :=
  close_nearest ((zpow_le_one_of_nonpos₀ one_le_two (by norm_num)).trans hq)

/-- A little below this, it counts more than once. -/
theorem close_nearest_of_small {q : ℚ} (hq : 2 ^ (-1024 : ℤ) ≤ q) : Close 6 (nearest q) q := by
  have hpos : 0 < q := (two_zpow_pos _).trans_le hq
  have hplace : (2 : ℚ) ^ (-1075 : ℤ) ≤ q / 2 ^ 51 := by
    have hsplit : (2 : ℚ) ^ (-1075 : ℤ) * 2 ^ 51 = 2 ^ (-1024 : ℤ) :=
      (zpow_add₀ two_ne_zero (-1075) 51).symm
    rw [le_div_iff₀ (by positivity), hsplit]
    exact hq
  have hnear : |nearest q - q| ≤ 5 / 2 ^ 53 * q := by
    have hboth := abs_nearest_sub_le hpos.le
    linarith
  exact close_of_abs_sub_le hnear (nearest_nonneg q) hpos.le (by norm_num [remainder])
    (by norm_num [remainder])

/-- The error of some roundings and a last one. -/
theorem Close.abs_nearest_sub_le (h : Close 10 a b) :
    |nearest a - b| ≤ b / 2 ^ 49 + 2 ^ (-1075 : ℤ) := by
  have hupper : a ≤ b * (1 + 11 / 2 ^ 53) :=
    calc a = a * 1 := (mul_one a).symm
      _ ≤ a * (remainder ^ 10 * (1 + 11 / 2 ^ 53)) :=
        mul_le_mul_of_nonneg_left (by norm_num [remainder]) h.left_nonneg
      _ = a * remainder ^ 10 * (1 + 11 / 2 ^ 53) := by ring
      _ ≤ b * (1 + 11 / 2 ^ 53) := mul_le_mul_of_nonneg_right h.left (by norm_num)
  have hlower : b * (1 - 10 / 2 ^ 53) ≤ a :=
    (mul_le_mul_of_nonneg_left (by norm_num [remainder]) h.right_nonneg).trans h.right
  have hlast := BundleFront.Double.abs_nearest_sub_le h.left_nonneg
  rw [abs_le] at hlast ⊢
  constructor <;> linarith

end

end BundleFront.Double
