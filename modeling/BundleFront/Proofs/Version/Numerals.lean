import BundleFront.Feature
import Mathlib.Data.Nat.Digits.Defs
import Mathlib.Data.List.Forall2
import Mathlib.Data.List.Induction
import Mathlib.Tactic.Common

/-!
# Texts of versions

A version is written as one to three decimal numerals with single dots between them, each of
a number that 32 bits hold.  A numeral may start with zeros.

* `Version.number?_eq_some_iff` — the numerals that are read, and their numbers.
* `Version.parse?_eq_some_iff` — the texts that are read, and their versions.
* `Version.parse?_text` — versions are read back from their decimal text.
* `Version.parse?_numerals` — these, and zeros in front of a numeral.
-/

namespace BundleFront
namespace Version

open Text

/-- The number that decimal digits stand for, the most significant digit first. -/
def decimalValue (digits : List Char) : Nat :=
  Nat.ofDigits 10 (digits.reverse.map fun c => c.toNat - '0'.toNat)

/-- Decimal digits that write a number of 32 bits. -/
structure IsNumeral (digits : List Char) (n : UInt32) : Prop where
  ne_nil : digits ≠ []
  isDigit : ∀ c ∈ digits, c.isDigit = true
  decimalValue_eq : decimalValue digits = n.toNat

/-- The decimal text of a version. -/
def text (v : Version) : String :=
  String.ofList (['.'].intercalate (v.map fun n => Nat.toDigits 10 n.toNat))

/-! ## Numerals -/

theorem foldl_eq_decimalValue (digits : List Char) :
    digits.foldl (fun n c => n * 10 + (c.toNat - '0'.toNat)) 0 = decimalValue digits := by
  unfold decimalValue
  induction digits using List.reverseRecOn with
  | nil => rfl
  | append_singleton digits c ih =>
      -- One more digit makes all digits before it count ten times as much.
      rw [List.foldl_append, List.foldl_cons, List.foldl_nil, ih, List.reverse_append,
        List.reverse_singleton, List.singleton_append, List.map_cons, Nat.ofDigits_cons,
        Nat.mul_comm, Nat.add_comm]

theorem number?_eq_some_iff {digits : List Char} {n : UInt32} :
    number? digits = some n ↔ IsNumeral digits n := by
  have hform : ¬ (digits.isEmpty || !digits.all Char.isDigit) = true ↔
      digits ≠ [] ∧ ∀ c ∈ digits, c.isDigit = true := by simp
  unfold number?
  rw [foldl_eq_decimalValue, Option.ite_none_left_eq_some, Option.ite_none_right_eq_some, hform,
    Option.some.injEq]
  constructor
  · rintro ⟨⟨hne, hdigit⟩, hsmall, hn⟩
    exact ⟨hne, hdigit, by rw [← hn, UInt32.toNat_ofNat_of_lt' hsmall]⟩
  · rintro ⟨hne, hdigit, hvalue⟩
    rw [hvalue]
    exact ⟨⟨hne, hdigit⟩, n.toNat_lt_size, UInt32.ofNat_toNat⟩

/-- Zeros in front of a numeral change nothing. -/
theorem isNumeral_zeros_append_iff {digits : List Char} (hne : digits ≠ []) (zeros : Nat)
    {n : UInt32} : IsNumeral (List.replicate zeros '0' ++ digits) n ↔ IsNumeral digits n := by
  have hvalue : decimalValue (List.replicate zeros '0' ++ digits) = decimalValue digits := by
    unfold decimalValue
    rw [List.reverse_append, List.map_append, List.reverse_replicate, List.map_replicate]
    exact Nat.ofDigits_append_replicate_zero _
  constructor
  · rintro ⟨-, hdigit, hn⟩
    exact ⟨hne, fun c hc => hdigit c (List.mem_append_right _ hc), hvalue ▸ hn⟩
  · rintro ⟨-, hdigit, hn⟩
    refine ⟨List.append_ne_nil_of_right_ne_nil _ hne, ?_, hvalue.trans hn⟩
    intro c hc
    rcases List.mem_append.mp hc with hzero | hrest
    · rw [List.eq_of_mem_replicate hzero]
      rfl
    · exact hdigit c hrest

theorem isNumeral_toDigits (n : UInt32) : IsNumeral (Nat.toDigits 10 n.toNat) n := by
  refine ⟨Nat.toDigits_ne_nil, ?_, ?_⟩
  · intro c hc
    exact Nat.isDigit_of_mem_toDigits (by decide) (by decide) hc
  · have hread := Nat.ofDigitChars_toDigits (b := 10) (n := n.toNat) (by decide) (by decide)
    rw [Nat.ofDigitChars_eq_foldl] at hread
    rw [← foldl_eq_decimalValue]
    simpa only [Nat.mul_comm] using hread

/-! ## Texts -/

theorem mapM_eq_some_iff {α β : Type} {f : α → Option β} {xs : List α} {ys : List β} :
    xs.mapM f = some ys ↔ List.Forall₂ (fun x y => f x = some y) xs ys := by
  induction xs generalizing ys with
  | nil => simp [eq_comm]
  | cons x xs ih =>
      rw [List.mapM_cons, List.forall₂_cons_left_iff]
      simp only [← ih, Option.bind_eq_bind, Option.bind_eq_some_iff, Option.pure_def,
        Option.some.injEq, exists_and_left, @eq_comm _ ys]

/-- The parts between dots are read one by one. -/
theorem parse?_intercalate {parts : List (List Char)} (hne : parts ≠ []) :
    parse? (String.ofList (['.'].intercalate parts)) =
      let segments := parts.flatMap (splitOn '.')
      if segments.length ≤ 3 then segments.mapM number? else none := by
  unfold parse?
  rw [String.toList_ofList, ← joinWith_eq_intercalate, splitOn_joinWith_eq_flatMap hne]

theorem IsNumeral.dot_not_mem {digits : List Char} {n : UInt32} (h : IsNumeral digits n) :
    '.' ∉ digits := fun hdot => absurd (h.isDigit '.' hdot) (by decide)

theorem parse?_eq_some_iff {text : String} {v : Version} :
    parse? text = some v ↔
      ∃ numerals : List (List Char), text.toList = ['.'].intercalate numerals ∧
        1 ≤ numerals.length ∧ numerals.length ≤ 3 ∧ List.Forall₂ IsNumeral numerals v := by
  have hread : parse? text = some v ↔ (splitOn '.' text.toList).length ≤ 3 ∧
      List.Forall₂ IsNumeral (splitOn '.' text.toList) v := by
    have hnumerals : (splitOn '.' text.toList).mapM number? = some v ↔
        List.Forall₂ IsNumeral (splitOn '.' text.toList) v := by
      simp only [mapM_eq_some_iff, number?_eq_some_iff]
    rw [← hnumerals]
    exact Option.ite_none_right_eq_some
  rw [hread]
  constructor
  · rintro ⟨hlength, hnumerals⟩
    refine ⟨splitOn '.' text.toList, ?_, ?_, hlength, hnumerals⟩
    · rw [← joinWith_eq_intercalate, joinWith_splitOn]
    · exact List.length_pos_iff.mpr (splitOn_ne_nil '.' text.toList)
  · rintro ⟨numerals, htext, hsome, hlength, hnumerals⟩
    -- Digits are no dots, so the text falls apart into just these numerals.
    have hdots : ∀ digits ∈ numerals, '.' ∉ digits :=
      ((List.forall₂_and_left numerals v).mp
        (hnumerals.imp fun _ _ h => ⟨h.dot_not_mem, h⟩)).1
    rw [htext, ← joinWith_eq_intercalate, splitOn_joinWith (List.length_pos_iff.mp hsome) hdots]
    exact ⟨hlength, hnumerals⟩

theorem parse?_text {v : Version} (hsome : 1 ≤ v.length) (hlength : v.length ≤ 3) :
    parse? v.text = some v := by
  have htext : v.text.toList = ['.'].intercalate (v.map fun n => Nat.toDigits 10 n.toNat) :=
    String.toList_ofList
  refine parse?_eq_some_iff.mpr ⟨_, htext, ?_, ?_, ?_⟩
  · rwa [List.length_map]
  · rwa [List.length_map]
  · rw [List.forall₂_map_left_iff]
    exact List.forall₂_same.mpr fun n _ => isNumeral_toDigits n

theorem parse?_zeros {digits : List Char} (hne : digits ≠ [])
    (hdigit : ∀ c ∈ digits, c.isDigit = true) (front back : List (List Char)) (zeros : Nat) :
    parse? (String.ofList (['.'].intercalate
        (front ++ (List.replicate zeros '0' ++ digits) :: back))) =
      parse? (String.ofList (['.'].intercalate (front ++ digits :: back))) := by
  have hdigits : '.' ∉ digits := fun hdot => absurd (hdigit '.' hdot) (by decide)
  have hpadded : '.' ∉ List.replicate zeros '0' ++ digits := by
    rw [List.mem_append, not_or]
    exact ⟨fun hdot => absurd (List.eq_of_mem_replicate hdot) (by decide), hdigits⟩
  have hnumber : number? (List.replicate zeros '0' ++ digits) = number? digits :=
    Option.ext fun n => by
      rw [number?_eq_some_iff, number?_eq_some_iff, isNumeral_zeros_append_iff hne]
  rw [parse?_intercalate (by simp), parse?_intercalate (by simp)]
  simp only [List.flatMap_append, List.flatMap_cons, splitOn_eq_singleton hdigits,
    splitOn_eq_singleton hpadded, List.length_append, List.length_cons,
    List.mapM_append, List.mapM_cons, List.singleton_append, hnumber]

/-- A version is read from a text exactly if the text is one to three numerals with single dots
between them, and then it lists their numbers in order.  So versions are read back from their
decimal texts, and zeros in front of a numeral change nothing, whatever stands around it. -/
theorem parse?_numerals :
    (∀ (text : String) (v : Version), parse? text = some v ↔
      ∃ numerals : List (List Char), text.toList = ['.'].intercalate numerals ∧
        1 ≤ numerals.length ∧ numerals.length ≤ 3 ∧ List.Forall₂ IsNumeral numerals v) ∧
      (∀ v : Version, 1 ≤ v.length → v.length ≤ 3 → parse? v.text = some v) ∧
      ∀ (front back : List (List Char)) (digits : List Char) (zeros : Nat),
        digits ≠ [] → (∀ c ∈ digits, c.isDigit = true) →
          parse? (String.ofList (['.'].intercalate
              (front ++ (List.replicate zeros '0' ++ digits) :: back))) =
            parse? (String.ofList (['.'].intercalate (front ++ digits :: back))) := by
  refine ⟨fun text v => parse?_eq_some_iff, fun v => parse?_text, ?_⟩
  intro front back digits zeros hne hdigit
  exact parse?_zeros hne hdigit front back zeros

end Version
end BundleFront
