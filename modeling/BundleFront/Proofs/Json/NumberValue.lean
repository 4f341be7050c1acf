import BundleFront.Json.NumberText
import BundleFront.Proofs.Double.Arithmetic

/-!
# The double that a number literal stands for

A literal writes a decimal number.  The double that it stands for need not be the nearest one: of
the digits only the leading ones count, as many as 64 bits hold, and the number that they make is
rounded before it is multiplied with a rounded power of ten, or divided by one or two.  Here this
is said with rational numbers, where each rounding is visible.

The whole part and the fraction are looked at one after the other.  Where a digit of the whole
part does not fit any more, the others are only counted, but digits of the fraction are still
taken if they fit.

* `takeDigits_eq` — the reader takes the leading digits.
* `stands_scale` — scaling in steps is multiplication with, or division by, rounded powers.
* `stands_value` — the number that is read for a literal, and that nothing is read for it exactly if
  it is out of range.
* `denotes_iff` — a literal denotes the double that is read for it, and no other one.
-/

namespace BundleFront

/-- The double that a number comes to. -/
def JsonNumber.toFloat : JsonNumber → Float
  | .int value => Float.ofInt value
  | .real value => value

namespace NumberText

open Double
open Float.Model.UnpackedFloat (Sign)

/-- The number that decimal digits write, first to last. -/
def number (digits : List ℕ) : ℕ := Nat.ofDigits 10 digits.reverse

/-- The digits behind the point. -/
def fractionDigits (t : NumberText) : List ℕ := t.fraction.getD []

/-- The exponent that is written, without its sign. -/
def exponentSize (t : NumberText) : ℕ := t.exponent.elim 0 fun e => number e.2

/-- The exponent that is written. -/
def exponentValue (t : NumberText) : ℤ :=
  if t.exponent.any Prod.fst then -t.exponentSize else t.exponentSize

/-- The number that a literal writes, without its sign. -/
def decimal (t : NumberText) : ℚ :=
  number (t.whole ++ t.fractionDigits) * 10 ^ (t.exponentValue - t.fractionDigits.length)

def sign (t : NumberText) : Sign := if t.negative then .negative else .positive

/-- How many of the digits behind `front` can be added to it so that 64 bits hold the number. -/
def kept (front digits : List ℕ) : ℕ :=
  Nat.findGreatest (fun k => number (front ++ digits.take k) < 2 ^ 64) digits.length

/-- The digits of the whole part that count. -/
def leadingWhole (t : NumberText) : List ℕ := t.whole.take (kept [] t.whole)

/-- All digits that count. -/
def leading (t : NumberText) : List ℕ :=
  t.leadingWhole ++ t.fractionDigits.take (kept t.leadingWhole t.fractionDigits)

/-- The power of ten that the leading digits count. -/
def power (t : NumberText) : ℤ :=
  t.exponentValue + (t.whole.length - kept [] t.whole) - kept t.leadingWhole t.fractionDigits

/-- A double times a power of ten, where each step is rounded.  Powers of ten above `10 ^ 308` are
out of range, so one step does not divide by more. -/
def scaled (q : ℚ) (p : ℤ) : ℚ :=
  if 0 ≤ p then nearest (q * nearest (10 ^ p))
  else if -308 ≤ p then nearest (q / nearest (10 ^ (-p)))
  else if -616 ≤ p then nearest (nearest (q / nearest (10 ^ 308)) / nearest (10 ^ (-p - 308)))
  else 0

/-- The magnitude that a literal comes to.  Where 32 bits with a sign do not hold the exponent, this
is nothing or out of range. -/
def rounded (t : NumberText) : ℚ :=
  if t.exponentSize < 2 ^ 31 then scaled (nearest (number t.leading)) t.power
  else if number t.leading = 0 ∨ t.exponentValue < 0 then 0
  else 2 ^ 1024

/-- What a magnitude with a sign comes to: a double that holds it, or nothing where it is out of
range. -/
inductive Stands (s : Sign) (q : ℚ) : Option Float → Prop
  | within {x : Float} (hlt : q < 2 ^ 1024) (hx : Holds x s q) : Stands s q (some x)
  | beyond (hge : 2 ^ 1024 ≤ q) : Stands s q none

/-- A literal stands for a double: its magnitude is within range, and the double has this magnitude
and the sign of the literal. -/
def Denotes (t : NumberText) (x : Float) : Prop := t.rounded < 2 ^ 1024 ∧ Holds x t.sign t.rounded

theorem fractionDigits_of_none {t : NumberText} (h : t.fraction = none) :
    t.fractionDigits = [] := by
  rw [fractionDigits, h, Option.getD_none]

theorem exponentSize_of_none {t : NumberText} (h : t.exponent = none) : t.exponentSize = 0 := by
  rw [exponentSize, h, Option.elim_none]

theorem exponentValue_of_none {t : NumberText} (h : t.exponent = none) : t.exponentValue = 0 := by
  simp [exponentValue, exponentSize_of_none h]

/-! ## Digits -/

theorem number_append (front digits : List ℕ) :
    number (front ++ digits) = number front * 10 ^ digits.length + number digits := by
  rw [number, List.reverse_append, Nat.ofDigits_append, List.length_reverse, number, number]
  ring

theorem number_singleton (d : ℕ) : number [d] = d := by
  simp [number]

theorem ofDigits_eq (digits : List ℕ) : ofDigits digits = number digits := by
  unfold ofDigits
  induction digits using List.reverseRecOn with
  | nil => rfl
  | append_singleton digits d ih =>
      rw [List.foldl_append, ih, number_append, number_singleton]
      simp

/-- More digits make a number no smaller. -/
theorem number_le_append (front digits : List ℕ) : number front ≤ number (front ++ digits) := by
  rw [number_append]
  exact (Nat.le_mul_of_pos_right _ (by positivity)).trans (Nat.le_add_right _ _)

theorem kept_eq_iff {front digits : List ℕ} {k : ℕ} :
    kept front digits = k ↔ k ≤ digits.length ∧
      (k ≠ 0 → number (front ++ digits.take k) < 2 ^ 64) ∧
      ∀ ⦃n⦄, k < n → n ≤ digits.length → ¬ number (front ++ digits.take n) < 2 ^ 64 :=
  Nat.findGreatest_eq_iff

theorem kept_le (front digits : List ℕ) : kept front digits ≤ digits.length :=
  (kept_eq_iff.mp rfl).1

theorem kept_eq_length {front digits : List ℕ} (h : number (front ++ digits) < 2 ^ 64) :
    kept front digits = digits.length :=
  kept_eq_iff.mpr ⟨le_rfl, fun _ => by rwa [List.take_length], fun n hn hle => absurd hle hn.not_ge⟩

theorem number_append_take_kept_lt {front : List ℕ} (digits : List ℕ) (h : number front < 2 ^ 64) :
    number (front ++ digits.take (kept front digits)) < 2 ^ 64 := by
  rcases Nat.eq_zero_or_pos (kept front digits) with hzero | hpos
  · rwa [hzero, List.take_zero, List.append_nil]
  · exact (kept_eq_iff.mp rfl).2.1 hpos.ne'

/-- One digit is kept if there is room for it, and the others are looked at behind it. -/
theorem kept_cons (front : List ℕ) (d : ℕ) (rest : List ℕ) :
    kept front (d :: rest) =
      if number (front ++ [d]) < 2 ^ 64 then kept (front ++ [d]) rest + 1 else 0 := by
  have hcons (k : ℕ) : front ++ (d :: rest).take (k + 1) = front ++ [d] ++ rest.take k := by
    rw [List.take_succ_cons, List.append_cons]
  -- Counts behind `d` are one less.
  obtain ⟨hle, -, hroom⟩ := kept_eq_iff.mp (rfl : kept (front ++ [d]) rest = _)
  rw [kept_eq_iff]
  split
  · rename_i hfits
    refine ⟨Nat.succ_le_succ hle, fun _ => ?_, fun n hn hle' => ?_⟩
    · rw [hcons]
      exact number_append_take_kept_lt rest hfits
    · obtain ⟨k, rfl⟩ : ∃ k, n = k + 1 := ⟨n - 1, by omega⟩
      rw [hcons]
      exact hroom (Nat.lt_of_succ_lt_succ hn) (Nat.le_of_succ_le_succ hle')
  · rename_i hnot
    refine ⟨Nat.zero_le _, fun hne => absurd rfl hne, fun n hn _ hfits => hnot ?_⟩
    obtain ⟨k, rfl⟩ : ∃ k, n = k + 1 := ⟨n - 1, by omega⟩
    rw [hcons] at hfits
    exact (number_le_append _ _).trans_lt hfits

/-- The reader takes the leading digits. -/
theorem takeDigits_eq (front digits : List ℕ) :
    takeDigits (number front) digits =
      (number (front ++ digits.take (kept front digits)), digits.drop (kept front digits)) := by
  induction digits generalizing front with
  | nil => simp [takeDigits]
  | cons d rest ih =>
      have hnext : number front * 10 + d = number (front ++ [d]) := by
        rw [number_append, number_singleton, List.length_singleton, pow_one]
      have hword : number (front ++ [d]) ≤ maxWord ↔ number (front ++ [d]) < 2 ^ 64 :=
        Nat.lt_succ_iff.symm
      rw [takeDigits, hnext, kept_cons]
      by_cases hfits : number (front ++ [d]) < 2 ^ 64
      · rw [if_pos (hword.mpr hfits), if_pos hfits, ih, List.take_succ_cons, List.drop_succ_cons,
          List.append_cons front d (rest.take _)]
      · rw [if_neg (fun h => hfits (hword.mp h)), if_neg hfits, List.take_zero, List.append_nil,
          List.drop_zero]

/-! ## Scaling -/

theorem ten_pow_le_double {k : ℕ} (hk : k ≤ 308) : (10 : ℚ) ^ k ≤ (3 : ℕ) * 2 ^ (1022 : ℤ) := by
  have hpow : 10 ^ k ≤ 3 * 2 ^ 1022 :=
    (Nat.pow_le_pow_right (by decide) hk).trans (by decide +kernel)
  exact_mod_cast hpow

theorem nearest_ten_pow_lt {k : ℕ} (hk : k ≤ 308) : nearest (10 ^ k) < 2 ^ 1024 := by
  have hdouble : IsDouble ((3 : ℕ) * 2 ^ (1022 : ℤ)) := ⟨3, 1022, by norm_num, by norm_num, rfl⟩
  refine (hdouble.nearest_le (by positivity) (ten_pow_le_double hk)).trans_lt ?_
  have hlt : 3 * 2 ^ 1022 < 2 ^ 1024 := by decide +kernel
  exact_mod_cast hlt

theorem word_lt : (2 : ℚ) ^ 64 < 2 ^ 1024 := pow_lt_pow_right₀ one_lt_two (by norm_num)

theorem one_le_nearest {q : ℚ} (hq : 1 ≤ q) : 1 ≤ nearest q := by
  have hone : IsDouble 1 := ⟨1, 0, by norm_num, by norm_num, by norm_num⟩
  exact hone.le_nearest (zero_le_one.trans hq) hq

theorem le_nearest_of_two_pow {q : ℚ} (hq : 2 ^ 1024 ≤ q) : 2 ^ 1024 ≤ nearest q := by
  have hdouble : IsDouble (2 ^ (1024 : ℤ)) := isDouble_two_zpow (by norm_num)
  rw [show (2 : ℚ) ^ (1024 : ℤ) = 2 ^ 1024 from zpow_natCast 2 1024] at hdouble
  exact hdouble.le_nearest ((by positivity : (0 : ℚ) ≤ 2 ^ 1024).trans hq) hq

theorem holds_tenTo {k : ℕ} (hk : k ≤ 308) : Holds (tenTo k) .positive (nearest (10 ^ k)) := by
  have hrounds := rounds_ofScientific 1 (hk.trans (by decide : 308 ≤ 2048))
  rw [Nat.cast_one, one_mul] at hrounds
  exact hrounds.holds (nearest_ten_pow_lt hk)

theorem one_le_nearest_ten_pow (k : ℕ) : 1 ≤ nearest (10 ^ k) :=
  one_le_nearest (one_le_pow₀ (by norm_num))

theorem isDouble_word : IsDouble (2 ^ 64) := isDouble_two_zpow (k := 64) (by norm_num)

section
variable {x : Float} {q : ℚ} {p : ℤ}

@[simp] theorem scaled_zero (p : ℤ) : scaled 0 p = 0 := by
  simp [scaled]

/-- A small number is divided by a power of ten without becoming larger. -/
theorem holds_div_tenTo (hx : Holds x .positive q) (hword : q ≤ 2 ^ 64) {k : ℕ} (hk : k ≤ 308) :
    Holds (x / tenTo k) .positive (nearest (q / nearest (10 ^ k))) ∧
      nearest (q / nearest (10 ^ k)) ≤ 2 ^ 64 := by
  have hone := one_le_nearest_ten_pow k
  have hle : nearest (q / nearest (10 ^ k)) ≤ 2 ^ 64 :=
    isDouble_word.nearest_le (div_nonneg hx.nonneg (nearest_nonneg _))
      ((div_le_self hx.nonneg hone).trans hword)
  have hdiv := hx.div (holds_tenTo hk) (zero_lt_one.trans_le hone).ne'
  exact ⟨hdiv.holds (hle.trans_lt word_lt), hle⟩

/-- Zero stays zero where it is divided. -/
theorem stands_scale_zero (hx : Holds x .positive 0) (hp : p < 0) :
    Stands .positive 0 (scale x p) := by
  rw [scale, if_neg hp.not_ge]
  split
  · rename_i hsmall
    obtain ⟨hdiv, -⟩ := holds_div_tenTo hx (by norm_num) (by omega : (-p).toNat ≤ 308)
    rw [zero_div, nearest_zero] at hdiv
    exact .within (by positivity) hdiv
  · rw [if_pos (hx.beq_zero_iff.mpr rfl)]
    exact .within (by positivity) hx

theorem stands_scale_of_nonneg (hx : Holds x .positive q) (hone : q = 0 ∨ 1 ≤ q) (hp : 0 ≤ p) :
    Stands .positive (scaled q p) (scale x p) := by
  rw [scale, if_pos hp, scaled, if_pos hp]
  split
  · rename_i hlarge
    rcases hone with rfl | hone
    · rw [if_pos (hx.beq_zero_iff.mpr rfl), zero_mul, nearest_zero]
      exact .within (by positivity) hx
    · -- No double is as large as the power of ten.
      rw [if_neg (mt hx.beq_zero_iff.mp (zero_lt_one.trans_le hone).ne')]
      obtain ⟨k, rfl⟩ := Int.eq_ofNat_of_zero_le hp
      have hpow : 2 ^ 1024 ≤ 10 ^ k :=
        le_trans (by decide +kernel) (Nat.pow_le_pow_right (by decide) (show 309 ≤ k by omega))
      have hten : (2 : ℚ) ^ 1024 ≤ nearest (10 ^ (k : ℤ)) := by
        refine le_nearest_of_two_pow ?_
        rw [zpow_natCast]
        exact_mod_cast hpow
      exact .beyond (le_nearest_of_two_pow (hten.trans
        (le_mul_of_one_le_left (nearest_nonneg _) hone)))
  · rename_i hsmall
    obtain ⟨k, rfl⟩ := Int.eq_ofNat_of_zero_le hp
    have hmul := hx.mul (holds_tenTo (k := k) (by omega))
    rw [Int.toNat_natCast, zpow_natCast]
    dsimp only
    split
    · rename_i hinf
      exact .beyond (hmul.isInf_iff.mp hinf)
    · rename_i hfinite
      have hlt : nearest (q * nearest (10 ^ k)) < 2 ^ 1024 :=
        not_le.mp fun hge => hfinite (hmul.isInf_iff.mpr hge)
      exact .within hlt (hmul.holds hlt)

theorem scale_neg (x : Float) {k : ℕ} (hpos : 0 < k) (hk : k ≤ 308) :
    scale x (-k) = some (x / tenTo k) := by
  rw [scale, if_neg (by omega), if_pos (by omega), neg_neg, Int.toNat_natCast]

theorem scale_of_lt (hx : Holds x .positive q) (hq : q ≠ 0) (hp : p < -308) :
    scale x p = scale (x / tenTo 308) (p + 308) := by
  rw [scale, if_neg (by omega), if_neg (by omega), if_neg (mt hx.beq_zero_iff.mp hq)]

/-- Two steps leave nothing of a small number. -/
theorem nearest_div_div_eq_zero (hq : 0 ≤ q) (hword : q ≤ 2 ^ 64) :
    nearest (nearest (q / nearest (10 ^ 308)) / nearest (10 ^ 308)) = 0 := by
  have hpow : (2 : ℚ) ^ (1023 : ℤ) ≤ 10 ^ 308 := by
    have hnat : 2 ^ 1023 ≤ 10 ^ 308 := by decide +kernel
    exact_mod_cast hnat
  have hten : (2 : ℚ) ^ (1023 : ℤ) ≤ nearest (10 ^ 308) :=
    (isDouble_two_zpow (by norm_num)).le_nearest (by positivity) hpow
  generalize nearest (10 ^ 308) = r at hten
  have hpos : 0 < r := (two_zpow_pos _).trans_le hten
  -- What `r` divides becomes smaller by 1023 places.
  have hplaces {q : ℚ} {k : ℤ} (hq : q ≤ 2 ^ (k + 1023)) : q / r ≤ 2 ^ k := by
    rw [div_le_iff₀ hpos]
    refine hq.trans ?_
    rw [zpow_add₀ two_ne_zero]
    exact mul_le_mul_of_nonneg_left hten (two_zpow_pos k).le
  have hfirst : nearest (q / r) ≤ 2 ^ (-959 : ℤ) :=
    (isDouble_two_zpow (by norm_num)).nearest_le (div_nonneg hq hpos.le)
      (hplaces (by exact_mod_cast hword))
  refine nearest_eq_zero (div_nonneg (nearest_nonneg _) hpos.le) ?_
  refine (hplaces (k := -1982) (hfirst.trans ?_)).trans_lt
    (zpow_lt_zpow_right₀ one_lt_two (by norm_num))
  exact zpow_le_zpow_right₀ one_le_two (by norm_num)

theorem stands_scale_of_neg (hx : Holds x .positive q) (hword : q ≤ 2 ^ 64) (hp : p < 0) :
    Stands .positive (scaled q p) (scale x p) := by
  rcases hx.nonneg.eq_or_lt with rfl | hpos
  · rw [scaled_zero]
    exact stands_scale_zero hx hp
  rw [scaled, if_neg hp.not_ge]
  rcases le_or_gt (-308) p with hsmall | hlarge
  · obtain ⟨k, rfl⟩ : ∃ k : ℕ, p = -k := ⟨(-p).toNat, by omega⟩
    obtain ⟨hdiv, hle⟩ := holds_div_tenTo hx hword (by omega : k ≤ 308)
    rw [scale_neg x (by omega) (by omega), if_pos hsmall, neg_neg, zpow_natCast]
    exact .within (hle.trans_lt word_lt) hdiv
  -- The power of ten is divided by in two steps.
  obtain ⟨hfirst, hbound⟩ := holds_div_tenTo hx hword (le_refl 308)
  rw [scale_of_lt hx hpos.ne' hlarge, if_neg hlarge.not_ge]
  rcases le_or_gt (-616) p with hsmall' | hlarge'
  · obtain ⟨k, hk⟩ : ∃ k : ℕ, p + 308 = -k := ⟨(-p - 308).toNat, by omega⟩
    obtain ⟨hdiv, hle⟩ := holds_div_tenTo hfirst hbound (by omega : k ≤ 308)
    rw [hk, scale_neg _ (by omega) (by omega), if_pos hsmall', show -p - 308 = (k : ℤ) by omega,
      zpow_natCast]
    exact .within (hle.trans_lt word_lt) hdiv
  · rw [if_neg hlarge'.not_ge]
    by_cases hzero : nearest (q / nearest (10 ^ 308)) = 0
    · rw [hzero] at hfirst
      exact stands_scale_zero hfirst (by omega)
    · obtain ⟨hsecond, -⟩ := holds_div_tenTo hfirst hbound (le_refl 308)
      rw [nearest_div_div_eq_zero hpos.le hword] at hsecond
      rw [scale_of_lt hfirst hzero (by omega)]
      exact stands_scale_zero hsecond (by omega)

/-- A number that 64 bits hold is scaled step by step, as long as doubles go. -/
theorem stands_scale (hx : Holds x .positive q) (hone : q = 0 ∨ 1 ≤ q) (hword : q ≤ 2 ^ 64)
    (p : ℤ) : Stands .positive (scaled q p) (scale x p) := by
  rcases le_or_gt 0 p with hp | hp
  · exact stands_scale_of_nonneg hx hone hp
  · exact stands_scale_of_neg hx hword hp

end

/-! ## Literals -/

theorem number_leading_lt (t : NumberText) : number t.leading < 2 ^ 64 :=
  number_append_take_kept_lt _ (@number_append_take_kept_lt [] t.whole (by decide))

theorem holds_ofNat_word {n : ℕ} (hn : n < 2 ^ 64) :
    Holds (Float.ofNat n) .positive (nearest n) ∧ nearest n ≤ 2 ^ 64 := by
  have hle : nearest n ≤ 2 ^ 64 :=
    isDouble_word.nearest_le (Nat.cast_nonneg n) (by exact_mod_cast hn.le)
  have hrounds := rounds_ofScientific n (Nat.zero_le 2048)
  rw [pow_zero, mul_one] at hrounds
  exact ⟨hrounds.holds (hle.trans_lt word_lt), hle⟩

theorem nearest_natCast_eq_zero_or (n : ℕ) : nearest n = 0 ∨ 1 ≤ nearest n := by
  rcases Nat.eq_zero_or_pos n with rfl | hn
  · exact .inl (by rw [Nat.cast_zero, nearest_zero])
  · exact .inr (one_le_nearest (by exact_mod_cast hn))

theorem stands_scale_leading (t : NumberText) (p : ℤ) :
    Stands .positive (scaled (nearest (number t.leading)) p)
      (scale (Float.ofNat (number t.leading)) p) := by
  obtain ⟨hholds, hword⟩ := holds_ofNat_word t.number_leading_lt
  exact stands_scale hholds (nearest_natCast_eq_zero_or _) hword p

/-- The digits that are read, and the power of ten that they count, up to the exponent. -/
theorem takeDigits_parts (t : NumberText) :
    takeDigits 0 t.whole = (number t.leadingWhole, t.whole.drop (kept [] t.whole)) ∧
      takeDigits (number t.leadingWhole) t.fractionDigits =
        (number t.leading, t.fractionDigits.drop (kept t.leadingWhole t.fractionDigits)) :=
  ⟨takeDigits_eq [] t.whole, takeDigits_eq t.leadingWhole t.fractionDigits⟩

theorem power_eq (t : NumberText) :
    t.power = Int.ofNat (t.whole.drop (kept [] t.whole)).length -
      Int.ofNat (t.fractionDigits.length -
        (t.fractionDigits.drop (kept t.leadingWhole t.fractionDigits)).length) +
      t.exponentValue := by
  have hwhole := kept_le [] t.whole
  have hfraction := kept_le t.leadingWhole t.fractionDigits
  rw [power, List.length_drop, List.length_drop, Int.ofNat_eq_natCast, Int.ofNat_eq_natCast]
  omega

/-- The magnitude of a literal that is no integer is the one that is read. -/
theorem stands_magnitude (t : NumberText) : Stands .positive t.rounded t.magnitude := by
  obtain ⟨hwhole, hfraction⟩ := t.takeDigits_parts
  have hpower := t.power_eq
  have hscale := t.stands_scale_leading t.power
  unfold fractionDigits at hfraction hpower
  unfold magnitude rounded
  rw [hwhole]
  dsimp only
  rw [hfraction]
  dsimp only
  generalize Int.ofNat (t.whole.drop (kept [] t.whole)).length - _ = e at *
  -- The exponent is added to the power that the digits leave over.
  cases hexponent : t.exponent with
  | none =>
      rw [exponentValue_of_none hexponent, add_zero] at hpower
      rw [exponentSize_of_none hexponent, if_pos (by decide), ← hpower]
      exact hscale
  | some exponent =>
      obtain ⟨negative, digits⟩ := exponent
      have hsize : t.exponentSize = number digits := by simp [exponentSize, hexponent]
      have hvalue : t.exponentValue = if negative then -(number digits : ℤ) else number digits := by
        simp [exponentValue, hexponent, hsize]
      have hbound : number digits ≤ maxExponent ↔ number digits < 2 ^ 31 := Nat.lt_succ_iff.symm
      dsimp only
      rw [hsize, ofDigits_eq]
      by_cases hsmall : number digits < 2 ^ 31
      · rw [if_pos hsmall, if_pos (hbound.mpr hsmall)]
        have hsum : t.power = if negative then e - number digits else e + number digits := by
          rw [hpower, hvalue]
          split <;> ring
        rw [← hsum]
        exact hscale
      · rw [if_neg hsmall, if_neg (mt hbound.mp hsmall)]
        have hpos : 0 < number digits := by omega
        have hnegative : t.exponentValue < 0 ↔ negative = true := by
          rw [hvalue]
          cases negative with
          | true => simpa using hpos
          | false => simp
        simp only [hnegative, Bool.or_eq_true, decide_eq_true_eq]
        split
        · exact .within (by positivity) holds_zero
        · exact .beyond le_rfl

/-- An integer that 64 bits hold is rounded once. -/
theorem rounded_of_integer {t : NumberText} (hfraction : t.fraction = none)
    (hexponent : t.exponent = none) (hword : number t.whole < 2 ^ 64) :
    t.rounded = nearest (number t.whole) := by
  have hkept : kept [] t.whole = t.whole.length := kept_eq_length hword
  have hdigits := fractionDigits_of_none hfraction
  have hleading : t.leading = t.whole := by
    rw [leading, hdigits, List.take_nil, List.append_nil, leadingWhole, hkept, List.take_length]
  have hvalue := exponentValue_of_none hexponent
  have hpower : t.power = 0 := by
    have hnone := kept_le t.leadingWhole t.fractionDigits
    rw [hdigits, List.length_nil, Nat.le_zero] at hnone
    rw [power, hvalue, hkept, hdigits, hnone]
    simp
  have hone : nearest 1 = 1 := by
    have hdouble : IsDouble (1 : ℕ) := isDouble_natCast (by norm_num)
    rw [Nat.cast_one] at hdouble
    exact hdouble.nearest_eq
  rw [rounded, exponentSize_of_none hexponent, if_pos (by decide), hleading, hpower, scaled,
    if_pos le_rfl, zpow_zero, hone, mul_one]
  exact (isDouble_nearest (Nat.cast_nonneg _)).nearest_eq

/-- The sign of a literal is set last. -/
theorem Stands.signed {t : NumberText} {q : ℚ} {magnitude : Option Float}
    (h : Stands .positive q magnitude) :
    Stands t.sign q (magnitude.map fun x => if t.negative then -x else x) := by
  have hsign (x : Float) (hx : Holds x .positive q) :
      Holds (if t.negative then -x else x) t.sign q := by
    unfold sign
    split
    · exact hx.neg
    · exact hx
  cases h with
  | within hlt hx => exact .within hlt (hsign _ hx)
  | beyond hge => exact .beyond hge

/-- What is read for a literal is what the literal stands for. -/
theorem stands_value (t : NumberText) :
    Stands t.sign t.rounded (t.value.map JsonNumber.toFloat) := by
  have hmap (magnitude : Option Float) :
      (magnitude.map fun x => JsonNumber.real (if t.negative then -x else x)).map
        JsonNumber.toFloat = magnitude.map fun x => if t.negative then -x else x := by
    cases magnitude <;> rfl
  unfold value
  rw [ofDigits_eq]
  dsimp only
  split
  · rename_i hinteger
    simp only [Bool.and_eq_true, Option.isNone_iff_eq_none, decide_eq_true_eq] at hinteger
    obtain ⟨⟨hfraction, hexponent⟩, hword⟩ := hinteger
    replace hword : number t.whole < 2 ^ 64 := Nat.lt_succ_of_le hword
    obtain ⟨hholds, hle⟩ := holds_ofNat_word hword
    have hstands : Stands .positive t.rounded (some (Float.ofNat (number t.whole))) := by
      rw [rounded_of_integer hfraction hexponent hword]
      exact .within (hle.trans_lt word_lt) hholds
    have hsigned : Stands t.sign t.rounded (some (if t.negative then
      -Float.ofNat (number t.whole) else Float.ofNat (number t.whole))) := hstands.signed
    split
    · rename_i hpositive
      rwa [if_neg (by simpa using hpositive)] at hsigned
    rename_i hnegative
    split
    · exact hsigned
    · rename_i hbounds
      -- A negative integer is counted from below zero.
      obtain ⟨n, hn⟩ := Nat.exists_eq_succ_of_ne_zero (fun h => hbounds (.inl h))
      rw [if_pos (by simpa using hnegative), hn] at hsigned
      rw [hn]
      exact hsigned
  · rw [hmap]
    exact t.stands_magnitude.signed

/-- A literal stands for the double that is read for it, and for no other one. -/
theorem denotes_iff {t : NumberText} {x : Float} :
    t.Denotes x ↔ t.value.map JsonNumber.toFloat = some x := by
  have hstands := t.stands_value
  unfold Denotes
  generalize t.value.map JsonNumber.toFloat = read at *
  cases hstands with
  | within hlt hx =>
      constructor
      · rintro ⟨-, hother⟩
        rw [hx.unique hother]
      · rintro ⟨⟩
        exact ⟨hlt, hx⟩
  | beyond hge =>
      constructor
      · rintro ⟨hlt, -⟩
        exact absurd hlt hge.not_gt
      · rintro ⟨⟩

/-- Every literal within range stands for a double. -/
theorem exists_denotes {t : NumberText} (h : t.rounded < 2 ^ 1024) : ∃ x, t.Denotes x := by
  have hstands := t.stands_value
  generalize t.value.map JsonNumber.toFloat = read at hstands
  cases hstands with
  | within hlt hx => exact ⟨_, hlt, hx⟩
  | beyond hge => exact absurd h hge.not_gt

end NumberText
end BundleFront
