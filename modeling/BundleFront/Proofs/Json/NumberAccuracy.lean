import BundleFront.Proofs.Json.NumberText
import BundleFront.Proofs.Json.NumberValue

/-!
# How close a number literal comes to what it writes

The double that a literal stands for is rounded several times on the way from the digits.  It is
the nearest double to what is written where all steps but the last one are exact: for integers
that 64 bits hold, and for digits that make a number below `2 ^ 53`, with a power of ten up to 22.
In all other cases it is near: digits that do not count change less than one rounding does, and
the roundings of scaling add up to an error of one part in `2 ^ 49` at most, unless the double is
so small that half of the smallest one counts more.

Where 32 bits with a sign do not hold the exponent, the digits play no part any more, and no
closeness is claimed.

* `close_leading` — the digits that count come close to all digits.
* `abs_rounded_sub_le` — the error of the double.
* `rounded_of_short` — literals that are rounded once.
* `Approximates.lt` and `Approximates.le` — what is surely within range, and what is surely not.
-/

namespace BundleFront.NumberText

open Double

/-- The digits of a literal are decimal ones. -/
structure IsDecimal (t : NumberText) : Prop where
  whole : ∀ d ∈ t.whole, d < 10
  fraction : ∀ d ∈ t.fractionDigits, d < 10

/-- A literal that is rounded once: an integer that 64 bits hold, or few digits with a power of ten
that is a double. -/
inductive Short (t : NumberText) : Prop
  | integer (hfraction : t.fraction = none) (hexponent : t.exponent = none)
      (hword : number t.whole < 2 ^ 64)
  | scaled (hdigits : number (t.whole ++ t.fractionDigits) < 2 ^ 53)
      (hpower : |t.exponentValue - t.fractionDigits.length| ≤ 22)

/-- A magnitude is close to what a literal writes, and the nearest double to it where the literal
is short. -/
structure Approximates (t : NumberText) (q : ℚ) : Prop where
  near : |q - t.decimal| ≤ t.decimal / 2 ^ 49 + 2 ^ (-1075 : ℤ)
  eq_nearest : t.Short → q = nearest t.decimal

/-! ## Leading digits -/

theorem number_lt {digits : List ℕ} (h : ∀ d ∈ digits, d < 10) :
    number digits < 10 ^ digits.length := by
  have hlt : number digits < 10 ^ digits.reverse.length :=
    Nat.ofDigits_lt_base_pow_length (by decide) (by simpa using h)
  rwa [List.length_reverse] at hlt

/-- What is left out is less than one of the last digit that is kept. -/
theorem number_append_between (front : List ℕ) {rest : List ℕ} (h : ∀ d ∈ rest, d < 10) {p e : ℤ}
    (hp : p = rest.length + e) :
    number front * (10 : ℚ) ^ p ≤ number (front ++ rest) * 10 ^ e ∧
      number (front ++ rest) * (10 : ℚ) ^ e ≤ (number front + 1) * 10 ^ p := by
  have hlt : (number rest : ℚ) ≤ 10 ^ rest.length := by exact_mod_cast (number_lt h).le
  have hpos : (0 : ℚ) < 10 ^ e := zpow_pos (by norm_num) e
  rw [hp, zpow_add₀ (by norm_num), zpow_natCast, number_append, ← mul_assoc, ← mul_assoc]
  push_cast
  constructor
  · exact mul_le_mul_of_nonneg_right (le_add_of_nonneg_right (Nat.cast_nonneg _)) hpos.le
  · refine mul_le_mul_of_nonneg_right ?_ hpos.le
    linarith

/-- Where digits are left out, many are kept. -/
theorem two_pow_le_of_kept_lt {front digits : List ℕ} (hdigits : ∀ d ∈ digits, d < 10)
    (h : kept front digits < digits.length) :
    2 ^ 60 ≤ number (front ++ digits.take (kept front digits)) := by
  have hroom := (kept_eq_iff.mp rfl).2.2 (Nat.lt_succ_self (kept front digits)) h
  have hd := hdigits _ (List.getElem_mem h)
  rw [List.take_succ_eq_append_getElem h, ← List.append_assoc, number_append, number_singleton,
    List.length_singleton] at hroom
  omega

theorem close_of_between {a : ℕ} {x y s : ℚ} (ha : 2 ^ 60 ≤ a) (hs : 0 < s)
    (hx : a * s ≤ x ∧ x ≤ (a + 1) * s) (hy : a * s ≤ y ∧ y ≤ (a + 1) * s) : Close 1 x y := by
  have hlarge : (2 : ℚ) ^ 60 ≤ a := by exact_mod_cast ha
  have hplace : 2 ^ 60 * s ≤ y := (mul_le_mul_of_nonneg_right hlarge hs.le).trans hy.1
  have hdist : |x - y| ≤ s := abs_le.mpr ⟨by linarith, by linarith⟩
  have hnear : |x - y| ≤ 1 / 2 ^ 60 * y := by linarith
  have hpos : 0 ≤ a * s := mul_nonneg (Nat.cast_nonneg a) hs.le
  exact close_of_abs_sub_le hnear (hpos.trans hx.1) (hpos.trans hy.1) (by norm_num [remainder])
    (by norm_num [remainder])

/-- The leading digits come close to what a literal writes. -/
theorem close_leading {t : NumberText} (h : t.IsDecimal) :
    Close 1 (number t.leading * 10 ^ t.power) t.decimal := by
  have hwhole := kept_le [] t.whole
  have hfraction := kept_le t.leadingWhole t.fractionDigits
  have hpos (p : ℤ) : (0 : ℚ) < 10 ^ p := zpow_pos (by norm_num) p
  rcases hwhole.lt_or_eq with hlt | hall
  · -- The number is known up to the whole digits that are kept.
    have hlarge : 2 ^ 60 ≤ number t.leadingWhole := two_pow_le_of_kept_lt h.whole hlt
    refine close_of_between hlarge (hpos (t.exponentValue + (t.whole.length - kept [] t.whole)))
      (number_append_between t.leadingWhole (fun d hd => h.fraction d (List.mem_of_mem_take hd)) ?_)
      ?_
    · rw [power, List.length_take]
      omega
    · have hsplit : t.whole ++ t.fractionDigits =
          t.leadingWhole ++ (t.whole.drop (kept [] t.whole) ++ t.fractionDigits) := by
        rw [← List.append_assoc, leadingWhole, List.take_append_drop]
      rw [decimal, hsplit]
      refine number_append_between _ ?_ ?_
      · intro d hd
        rcases List.mem_append.mp hd with hd | hd
        · exact h.whole d (List.mem_of_mem_drop hd)
        · exact h.fraction d hd
      · rw [List.length_append, List.length_drop]
        omega
  have hsplit : t.whole ++ t.fractionDigits =
      t.leading ++ t.fractionDigits.drop (kept t.leadingWhole t.fractionDigits) := by
    rw [leading, List.append_assoc, List.take_append_drop, leadingWhole, hall, List.take_length]
  have hplace : t.power = (t.fractionDigits.drop (kept t.leadingWhole t.fractionDigits)).length +
      (t.exponentValue - t.fractionDigits.length) := by
    rw [power, List.length_drop]
    omega
  rw [decimal, hsplit]
  rcases hfraction.lt_or_eq with hlt | hall'
  · -- It is known up to the digits of the fraction that are kept.
    have hlarge : 2 ^ 60 ≤ number t.leading := two_pow_le_of_kept_lt h.fraction hlt
    have hs := hpos t.power
    exact close_of_between hlarge hs ⟨le_rfl, by linarith⟩
      (number_append_between _ (fun d hd => h.fraction d (List.mem_of_mem_drop hd)) hplace)
  · rw [hall', List.drop_length, List.length_nil, Nat.cast_zero, zero_add] at hplace
    rw [hall', List.drop_length, List.append_nil, hplace]
    exact close_self 1 (mul_nonneg (Nat.cast_nonneg _) (hpos _).le)

/-! ## Rounding -/

section
variable {q : ℚ}

/-- The power of ten in a quotient is rounded too. -/
theorem close_div_nearest_ten_pow {j : ℕ} {a b : ℚ} (h : Close j a b) {k : ℤ} (hk : 0 ≤ k) :
    Close (j + 1) (a / nearest (10 ^ k)) (b / 10 ^ k) :=
  h.div (close_nearest_of_one_le (one_le_zpow₀ (by norm_num) hk))

/-- The first of two quotients may be so small that rounding counts more than once. -/
theorem close_first_quotient (hq : 1 ≤ q) :
    Close 8 (nearest (nearest q / nearest (10 ^ 308))) (q / 10 ^ 308) := by
  have hquotient : Close 2 (nearest q / nearest (10 ^ 308)) (q / 10 ^ 308) := by
    exact_mod_cast close_div_nearest_ten_pow (close_nearest_of_one_le hq)
      (show (0 : ℤ) ≤ 308 by norm_num)
  have hsmall : (2 : ℚ) ^ (-1024 : ℤ) ≤ nearest q / nearest (10 ^ 308) := by
    have hten : (0 : ℚ) < nearest (10 ^ 308) := zero_lt_one.trans_le (one_le_nearest_ten_pow 308)
    rw [zpow_neg, le_div_iff₀ hten, inv_mul_le_iff₀ (two_zpow_pos _)]
    refine (nearest_ten_pow_lt le_rfl).le.trans ?_
    exact_mod_cast le_mul_of_one_le_right (two_zpow_pos 1024).le (one_le_nearest hq)
  exact (close_nearest_of_small hsmall).trans hquotient

/-- Up to the last rounding, scaling comes close to the number times the power of ten. -/
theorem exists_close_scaled (hq : 1 ≤ q) {p : ℤ} (hp : -616 ≤ p) :
    ∃ x, scaled (nearest q) p = nearest x ∧ Close 9 x (q * 10 ^ p) := by
  have hnear := close_nearest_of_one_le hq
  unfold scaled
  split
  · -- Both factors are rounded.
    rename_i hpos
    have hpower : Close 1 (nearest (10 ^ p)) (10 ^ p) :=
      close_nearest_of_one_le (one_le_zpow₀ (by norm_num) hpos)
    exact ⟨_, rfl, (hnear.mul hpower).mono (by norm_num)⟩
  split
  · -- Both parts of the quotient are rounded.
    have hinv : q * 10 ^ p = q / 10 ^ (-p) := by rw [zpow_neg, div_inv_eq_mul]
    rw [hinv]
    exact ⟨_, rfl, (close_div_nearest_ten_pow hnear (by omega)).mono (by norm_num)⟩
  · -- The first quotient is rounded too.
    have hinv : q * 10 ^ p = q / 10 ^ 308 / 10 ^ (-p - 308) := by
      have hsum : (10 : ℚ) ^ (-p) = 10 ^ (308 : ℕ) * 10 ^ (-p - 308) := by
        rw [← zpow_natCast, ← zpow_add₀ (by norm_num)]
        congr 1
        omega
      rw [div_div, ← hsum, zpow_neg, div_inv_eq_mul]
    rw [hinv]
    exact ⟨_, rfl, close_div_nearest_ten_pow (close_first_quotient hq) (by omega)⟩

end

theorem exists_close_scaled_natCast (n : ℕ) {p : ℤ} (hp : -616 ≤ p) :
    ∃ x, scaled (nearest n) p = nearest x ∧ Close 9 x (n * 10 ^ p) := by
  rcases Nat.eq_zero_or_pos n with rfl | hn
  · refine ⟨0, by simp, ?_⟩
    rw [Nat.cast_zero, zero_mul]
    exact close_self 9 le_rfl
  · exact exists_close_scaled (by exact_mod_cast hn) hp

/-- Beyond the bounds of scaling, next to nothing is left. -/
theorem mul_ten_zpow_le {n : ℕ} (hn : n < 2 ^ 64) {p : ℤ} (hp : p < -616) :
    (n * 10 ^ p : ℚ) ≤ 2 ^ (-1076 : ℤ) := by
  obtain ⟨k, rfl⟩ : ∃ k : ℕ, p = -k := ⟨(-p).toNat, by omega⟩
  have hten : (10 : ℚ) ^ (-k : ℤ) ≤ 2 ^ (-(3 * k : ℕ) : ℤ) := by
    rw [zpow_neg, zpow_neg, zpow_natCast, zpow_natCast, pow_mul]
    exact inv_anti₀ (by positivity) (pow_le_pow_left₀ (by norm_num) (by norm_num) k)
  have hword : (n : ℚ) ≤ 2 ^ (64 : ℤ) := by exact_mod_cast hn.le
  calc (n * 10 ^ (-k : ℤ) : ℚ) ≤ 2 ^ (64 : ℤ) * 2 ^ (-(3 * k : ℕ) : ℤ) :=
        mul_le_mul hword hten (zpow_nonneg (by norm_num) _) (two_zpow_pos _).le
    _ = 2 ^ (64 + -(3 * k : ℕ) : ℤ) := (zpow_add₀ two_ne_zero _ _).symm
    _ ≤ 2 ^ (-1076 : ℤ) := zpow_le_zpow_right₀ one_le_two (by omega)

/-- What is read comes close to what is written. -/
theorem abs_rounded_sub_le {t : NumberText} (h : t.IsDecimal)
    (hexponent : t.exponentSize < 2 ^ 31) :
    |t.rounded - t.decimal| ≤ t.decimal / 2 ^ 49 + 2 ^ (-1075 : ℤ) := by
  have hleading := close_leading h
  have hdecimal := hleading.right_nonneg
  rw [rounded, if_pos hexponent]
  rcases le_or_gt (-616) t.power with hpower | hpower
  · obtain ⟨x, hscaled, hclose⟩ := exists_close_scaled_natCast (number t.leading) hpower
    rw [hscaled]
    exact (hclose.trans hleading).abs_nearest_sub_le
  · have hzero : scaled (nearest (number t.leading)) t.power = 0 := by
      rw [scaled, if_neg (by omega), if_neg (by omega), if_neg (by omega)]
    have hsmall := hleading.right.trans (mul_ten_zpow_le t.number_leading_lt hpower)
    have hhalf : t.decimal * (1 / 2) ≤ t.decimal * remainder ^ 1 :=
      mul_le_mul_of_nonneg_left (by norm_num [remainder]) hdecimal
    have hplace : (2 : ℚ) ^ (-1076 : ℤ) = 2 ^ (-1075 : ℤ) / 2 := zpow_sub_one₀ two_ne_zero (-1075)
    have hpart : 0 ≤ t.decimal / 2 ^ 49 := by positivity
    rw [hzero, zero_sub, abs_neg, abs_of_nonneg hdecimal]
    linarith

/-! ## Short literals -/

theorem isDouble_ten_pow {k : ℕ} (hk : k ≤ 22) : IsDouble (10 ^ k) := by
  have hfive : 5 ^ k < 2 ^ 53 := (Nat.pow_le_pow_right (by decide) hk).trans_lt (by decide)
  refine ⟨5 ^ k, k, hfive, by omega, ?_⟩
  rw [zpow_natCast, Nat.cast_pow, Nat.cast_ofNat, ← mul_pow]
  norm_num

/-- Small powers of ten are doubles, so only the last step is rounded. -/
theorem scaled_of_short {n : ℕ} (hn : n < 2 ^ 53) {p : ℤ} (hp : |p| ≤ 22) :
    scaled (nearest n) p = nearest (n * 10 ^ p) := by
  obtain ⟨hlow, hhigh⟩ := abs_le.mp hp
  rw [(isDouble_natCast hn).nearest_eq, scaled]
  split
  · rename_i hpos
    obtain ⟨k, rfl⟩ := Int.eq_ofNat_of_zero_le hpos
    rw [zpow_natCast, (isDouble_ten_pow (by omega)).nearest_eq]
  · obtain ⟨k, rfl⟩ : ∃ k : ℕ, p = -k := ⟨(-p).toNat, by omega⟩
    rw [if_pos (by omega), neg_neg, zpow_neg, zpow_natCast,
      (isDouble_ten_pow (by omega)).nearest_eq, div_eq_mul_inv]

theorem rounded_of_short {t : NumberText} (h : t.Short) (hexponent : t.exponentSize < 2 ^ 31) :
    t.rounded = nearest t.decimal := by
  cases h with
  | integer hfraction hnone hword =>
      rw [rounded_of_integer hfraction hnone hword, decimal, fractionDigits_of_none hfraction,
        exponentValue_of_none hnone]
      simp
  | scaled hdigits hpower =>
      have hall : kept t.whole t.fractionDigits = t.fractionDigits.length :=
        kept_eq_length (hdigits.trans (by norm_num))
      have hwhole : kept [] t.whole = t.whole.length :=
        kept_eq_length ((number_le_append _ _).trans_lt (hdigits.trans (by norm_num)))
      have hleading : t.leadingWhole = t.whole := by rw [leadingWhole, hwhole, List.take_length]
      have hplace : t.power = t.exponentValue - t.fractionDigits.length := by
        rw [power, hwhole, hleading, hall]
        omega
      rw [rounded, if_pos hexponent, leading, hleading, hall, List.take_length, hplace,
        scaled_of_short hdigits hpower, decimal]

theorem approximates_rounded {t : NumberText} (h : t.IsDecimal)
    (hexponent : t.exponentSize < 2 ^ 31) : t.Approximates t.rounded :=
  ⟨abs_rounded_sub_le h hexponent, fun hshort => rounded_of_short hshort hexponent⟩

/-! ## Range -/

section
variable {t : NumberText} {q : ℚ}

/-- The smallest doubles do not count around the largest ones. -/
theorem smallest_place_le : (2 : ℚ) ^ (-1075 : ℤ) ≤ 2 ^ 1024 / 2 ^ 53 := by
  have hone : (2 : ℚ) ^ (-1075 : ℤ) ≤ 1 := zpow_le_one_of_nonpos₀ one_le_two (by norm_num)
  refine hone.trans ((one_le_div (by positivity)).mpr ?_)
  exact pow_le_pow_right₀ one_le_two (by norm_num)

theorem Approximates.lt (h : t.Approximates q) (hlimit : t.decimal ≤ (1 - 1 / 2 ^ 48) * 2 ^ 1024) :
    q < 2 ^ 1024 := by
  have hupper := (abs_le.mp h.near).2
  have hsmall := smallest_place_le
  have hpos : (0 : ℚ) < 2 ^ 1024 := by positivity
  generalize (2 : ℚ) ^ 1024 = limit at *
  linarith

theorem Approximates.le (h : t.Approximates q) (hlimit : (1 + 1 / 2 ^ 48) * 2 ^ 1024 ≤ t.decimal) :
    2 ^ 1024 ≤ q := by
  have hlower := (abs_le.mp h.near).1
  have hsmall := smallest_place_le
  have hpos : (0 : ℚ) < 2 ^ 1024 := by positivity
  generalize (2 : ℚ) ^ 1024 = limit at *
  linarith

end

/-! ## Texts -/

theorem WritesDigits.lt {text : List Char} {digits : List ℕ} (h : WritesDigits text digits) :
    ∀ d ∈ digits, d < 10 := by
  rw [h.eq_map, List.forall_mem_map]
  intro c hc
  have hdigit : 48 ≤ c.toNat ∧ c.toNat ≤ 57 := by
    simpa [Char.isDigit, UInt32.le_iff_toNat_le] using h.isDigit c hc
  show c.toNat - 48 < 10
  omega

theorem Spells.isDecimal {text : List Char} {t : NumberText} (h : Spells text t) : t.IsDecimal := by
  cases h with
  | parts hwhole hfraction hexponent =>
      refine ⟨hwhole.lt, ?_⟩
      unfold fractionDigits
      generalize t.fraction = digits at *
      cases hfraction with
      | none => simp
      | some hdigits => exact hdigits.lt

end BundleFront.NumberText
