import BundleFront.Json.Basic
import BundleFront.Json.StringText
import Mathlib.Data.List.Basic
import Mathlib.Tactic.Common

/-!
# What string literals say

Between its quotes a string literal stands for characters: plain ones for themselves, a
letter behind a backslash for what it escapes, four digits behind `\u` for a 16-bit code.
The codes of surrogates come in pairs and stand for one character together.

The reader works in two stages, first units and then pairs of codes, so the proof goes
through the units: `Divides` says what the first stage finds, and the second stage is an
induction on its own recursion.

* `StringText.readLeaf_append` and `StringText.exists_spells_of_readLeaf` — a literal is
  read exactly if it spells a string, and then that string is read.
* `StringText.spells_flatMap_escapedChar` — what the printer writes spells what it printed.
-/

namespace BundleFront.StringText

open Text

/-- Four hexadecimal digits, and the 16-bit code that they write. -/
inductive WritesCode : List Char → Nat → Prop
  | digits {a b c d : Char} {w x y z : Nat} (ha : hexDigit? a = some w) (hb : hexDigit? b = some x)
      (hc : hexDigit? c = some y) (hd : hexDigit? d = some z) :
      WritesCode [a, b, c, d] (((w * 16 + x) * 16 + y) * 16 + z)

/-- The text between the quotes of a string literal, and the characters that it stands for. -/
inductive Spells : List Char → List Char → Prop
  | nil : Spells [] []
  | plain {c : Char} {text cs : List Char} (hvisible : 0x20 ≤ c.toNat) (hquote : c ≠ '"')
      (hescape : c ≠ '\\') (h : Spells text cs) : Spells (c :: text) (c :: cs)
  | escape {letter c : Char} {text cs : List Char} (hletter : escape? letter = some c)
      (h : Spells text cs) : Spells ('\\' :: letter :: text) (c :: cs)
  | code {digits text cs : List Char} {n : Nat} (hcode : WritesCode digits n)
      (hhigh : isHighSurrogate n = false) (hlow : isLowSurrogate n = false)
      (h : Spells text cs) : Spells ('\\' :: 'u' :: (digits ++ text)) (Char.ofNat n :: cs)
  | pair {first second text cs : List Char} {high low : Nat} (hfirst : WritesCode first high)
      (hsecond : WritesCode second low) (hhigh : isHighSurrogate high = true)
      (hlow : isLowSurrogate low = true) (h : Spells text cs) :
      Spells ('\\' :: 'u' :: (first ++ '\\' :: 'u' :: (second ++ text)))
        (Char.ofNat (0x10000 + (high - 0xD800) * 0x400 + (low - 0xDC00)) :: cs)

/-- The text between the quotes, divided into units. -/
inductive Divides : List Char → List StringUnit → Prop
  | nil : Divides [] []
  | plain {c : Char} {text : List Char} {units : List StringUnit} (hvisible : 0x20 ≤ c.toNat)
      (hquote : c ≠ '"') (hescape : c ≠ '\\') (h : Divides text units) :
      Divides (c :: text) (.char c :: units)
  | escape {letter c : Char} {text : List Char} {units : List StringUnit}
      (hletter : escape? letter = some c) (h : Divides text units) :
      Divides ('\\' :: letter :: text) (.char c :: units)
  | code {digits text : List Char} {n : Nat} {units : List StringUnit}
      (hcode : WritesCode digits n) (h : Divides text units) :
      Divides ('\\' :: 'u' :: (digits ++ text)) (.code n :: units)

/-! ## Reading -/

theorem ne_u_of_escape? {letter c : Char} (h : escape? letter = some c) : letter ≠ 'u' := by
  rintro rfl
  simp [escape?] at h

/-- What stands before the closing quote is divided into just the units that are read. -/
theorem readUnits_append {text : List Char} {units : List StringUnit} (h : Divides text units)
    (rest : List Char) : readUnits (text ++ '"' :: rest) = (units, .ok rest) := by
  induction h with
  | nil => rfl
  | @plain c text units hvisible hquote hescape h ih =>
      have hcontrol : ¬ c.toNat < 0x20 := Nat.not_lt.mpr hvisible
      rw [List.cons_append, readUnits.eq_7 c _ hquote (by simp [hescape]) (by simp [hescape])
        (by simp [hescape]), if_neg hcontrol, ih]
  | escape hletter h ih =>
      rw [List.cons_append, List.cons_append, readUnits.eq_6 _ _ (ne_u_of_escape? hletter), hletter]
      dsimp only
      rw [ih]
  | code hcode h ih =>
      obtain ⟨ha, hb, hc, hd⟩ := hcode
      simp only [List.cons_append, List.nil_append]
      rw [readUnits.eq_3, ha, hb, hc, hd]
      dsimp only
      rw [ih]

/-- What is read as units stands before a closing quote and is divided into them. -/
theorem exists_divides_of_readUnits {s rest : List Char} {units : List StringUnit}
    (h : readUnits s = (units, .ok rest)) :
    ∃ text, Divides text units ∧ s = text ++ '"' :: rest := by
  induction s using readUnits.induct generalizing units with
  | case1 => simp [readUnits] at h
  | case2 after =>
      obtain ⟨rfl, rfl⟩ : [] = units ∧ after = rest := by simpa [readUnits] using h
      exact ⟨[], .nil, rfl⟩
  | case3 a b c d after w x y z hd hc hb ha found last hread ih =>
      rw [readUnits.eq_3, ha, hb, hc, hd] at h
      simp only [hread, Prod.mk.injEq] at h
      obtain ⟨rfl, rfl⟩ := h
      obtain ⟨text, htext, rfl⟩ := ih hread
      exact ⟨_, .code (.digits ha hb hc hd) htext, rfl⟩
  | case4 a b c d after hnot =>
      rw [readUnits.eq_3] at h
      split at h
      · rename_i ha hb hc hd
        exact (hnot _ _ _ _ ha hb hc hd).elim
      · simp at h
  | case5 after hshort =>
      rw [readUnits.eq_4 _ hshort] at h
      simp at h
  | case6 => simp [readUnits] at h
  | case7 letter after hu hnone =>
      rw [readUnits.eq_6 _ _ hu, hnone] at h
      simp at h
  | case8 letter after hu c hletter found last hread ih =>
      rw [readUnits.eq_6 _ _ hu, hletter] at h
      simp only [hread, Prod.mk.injEq] at h
      obtain ⟨rfl, rfl⟩ := h
      obtain ⟨text, htext, rfl⟩ := ih hread
      exact ⟨_, .escape hletter htext, rfl⟩
  | case9 c after hquote hcode hopen hescape hcontrol =>
      rw [readUnits.eq_7 c _ hquote hcode hopen hescape, if_pos hcontrol] at h
      simp at h
  | case10 c after hquote hcode hopen hescape hcontrol found last hread ih =>
      rw [readUnits.eq_7 c _ hquote hcode hopen hescape, if_neg hcontrol] at h
      simp only [hread, Prod.mk.injEq] at h
      obtain ⟨rfl, rfl⟩ := h
      obtain ⟨text, htext, rfl⟩ := ih hread
      have hbackslash : c ≠ '\\' := by
        rintro rfl
        cases text with
        | nil => exact hescape _ _ rfl rfl
        | cons d text => exact hescape _ _ rfl rfl
      exact ⟨_, .plain (Nat.not_lt.mp hcontrol) hquote hbackslash htext, rfl⟩

/-! ## Pairs of codes -/

/-- A code that is no surrogate is decoded by itself, whatever comes behind it. -/
theorem decodeUnits_code {n : Nat} (hhigh : isHighSurrogate n = false)
    (hlow : isLowSurrogate n = false) (units : List StringUnit) :
    decodeUnits (.code n :: units) = (decodeUnits units).map (Char.ofNat n :: ·) := by
  match units with
  | [] => simp [decodeUnits, hhigh, hlow]
  | .char c :: rest => rw [decodeUnits.eq_4 _ _ (by simp)]; simp [hhigh, hlow]
  | .code low :: rest => rw [decodeUnits.eq_3]; simp [hhigh, hlow]

/-- What a text spells is what its units are decoded to. -/
theorem Spells.exists_divides {text cs : List Char} (h : Spells text cs) :
    ∃ units, Divides text units ∧ decodeUnits units = some cs := by
  induction h with
  | nil => exact ⟨[], .nil, rfl⟩
  | plain hvisible hquote hescape h ih =>
      obtain ⟨units, hunits, hdecode⟩ := ih
      exact ⟨_, .plain hvisible hquote hescape hunits, by simp [decodeUnits, hdecode]⟩
  | escape hletter h ih =>
      obtain ⟨units, hunits, hdecode⟩ := ih
      exact ⟨_, .escape hletter hunits, by simp [decodeUnits, hdecode]⟩
  | code hcode hhigh hlow h ih =>
      obtain ⟨units, hunits, hdecode⟩ := ih
      refine ⟨_, .code hcode hunits, ?_⟩
      rw [decodeUnits_code hhigh hlow, hdecode]
      rfl
  | pair hfirst hsecond hhigh hlow h ih =>
      obtain ⟨units, hunits, hdecode⟩ := ih
      refine ⟨_, .code hfirst (.code hsecond hunits), ?_⟩
      rw [decodeUnits.eq_3, if_pos hhigh, if_pos hlow, hdecode]
      rfl

/-- The induction is on the recursion of `decodeUnits`, which looks two codes ahead. -/
theorem Divides.spells {text cs : List Char} {units : List StringUnit} (h : Divides text units)
    (hdecode : decodeUnits units = some cs) : Spells text cs := by
  induction units using decodeUnits.induct generalizing text cs with
  | case1 =>
      cases h
      obtain rfl : [] = cs := by simpa [decodeUnits] using hdecode
      exact .nil
  | case2 c units ih =>
      rw [decodeUnits, Option.map_eq_some_iff] at hdecode
      obtain ⟨cs, hdecode, rfl⟩ := hdecode
      cases h with
      | plain hvisible hquote hescape h => exact .plain hvisible hquote hescape (ih h hdecode)
      | escape hletter h => exact .escape hletter (ih h hdecode)
  | case3 high low units hhigh hlow ih =>
      rw [decodeUnits.eq_3, if_pos hhigh, if_pos hlow, Option.map_eq_some_iff] at hdecode
      obtain ⟨cs, hdecode, rfl⟩ := hdecode
      cases h with
      | code hfirst h =>
          cases h with
          | code hsecond h => exact .pair hfirst hsecond hhigh hlow (ih h hdecode)
  | case4 high low units hhigh hlow =>
      rw [decodeUnits.eq_3, if_pos hhigh, if_neg hlow] at hdecode
      cases hdecode
  | case5 high low units hhigh hlow =>
      rw [decodeUnits.eq_3, if_neg hhigh, if_pos hlow] at hdecode
      cases hdecode
  | case6 high low units hhigh hlow ih =>
      rw [decodeUnits.eq_3, if_neg hhigh, if_neg hlow, Option.map_eq_some_iff] at hdecode
      obtain ⟨cs, hdecode, rfl⟩ := hdecode
      cases h with
      | code hcode h =>
          exact .code hcode (Bool.eq_false_iff.mpr hhigh) (Bool.eq_false_iff.mpr hlow)
            (ih h hdecode)
  | case7 n units hnocode hsurrogate =>
      rw [decodeUnits.eq_4 _ _ hnocode, if_pos hsurrogate] at hdecode
      cases hdecode
  | case8 n units hnocode hsurrogate ih =>
      rw [decodeUnits.eq_4 _ _ hnocode, if_neg hsurrogate, Option.map_eq_some_iff] at hdecode
      obtain ⟨cs, hdecode, rfl⟩ := hdecode
      have hneither := Bool.eq_false_iff.mpr hsurrogate
      rw [Bool.or_eq_false_iff] at hneither
      cases h with
      | code hcode h => exact .code hcode hneither.1 hneither.2 (ih h hdecode)


/-! ## Literals -/

/-- A string literal is read as what it spells, up to its closing quote. -/
theorem readLeaf_append {text : List Char} {value : String} (h : Spells text value.toList)
    (rest : List Char) : readLeaf (text ++ '"' :: rest) = (.sound value, some rest) := by
  obtain ⟨units, hunits, hdecode⟩ := h.exists_divides
  unfold readLeaf
  rw [readUnits_append hunits]
  dsimp only
  rw [hdecode]
  dsimp only
  rw [String.ofList_toList]

/-- Where a string is read, its literal stands in front. -/
theorem exists_spells_of_readLeaf {s : List Char} {leaf : Leaf String} {rest : Option (List Char)}
    {value : String} (hread : readLeaf s = (leaf, rest)) (h : leaf.value = .ok value) :
    ∃ text after, Spells text value.toList ∧ s = text ++ '"' :: after ∧ rest = some after := by
  unfold readLeaf at hread
  generalize hunits : readUnits s = read at hread
  obtain ⟨units, last⟩ := read
  cases last with
  | error fault =>
      dsimp only at hread
      split at hread
      · cases hread
        cases h
      · cases hread
        cases h
  | ok after =>
      obtain ⟨text, htext, hs⟩ := exists_divides_of_readUnits hunits
      dsimp only at hread
      cases hdecode : decodeUnits units with
      | none =>
          rw [hdecode] at hread
          cases hread
          cases h
      | some cs =>
          rw [hdecode] at hread
          cases hread
          cases h
          refine ⟨text, after, ?_, hs, rfl⟩
          rw [String.toList_ofList]
          exact htext.spells hdecode

/-! ## Writing -/

theorem hexDigit?_digitChar : ∀ n < 16, hexDigit? (Nat.digitChar n) = some n := by decide

/-- A control is written by its code, with two or three zeros in front. -/
theorem writesCode_toDigits {n : Nat} (h : n < 0x20) :
    WritesCode (['0', '0'] ++ (if n < 0x10 then ['0'] else []) ++ Nat.toDigits 16 n) n := by
  have hshort : ∀ n < 16, Nat.toDigits 16 n = [Nat.digitChar n] := by decide
  have hlong : ∀ n < 32, 16 ≤ n → Nat.toDigits 16 n = ['1', Nat.digitChar (n - 16)] := by decide
  have hzero : hexDigit? '0' = some 0 := by decide
  by_cases hsmall : n < 0x10
  · rw [if_pos hsmall, hshort n hsmall]
    have hcode := WritesCode.digits hzero hzero hzero (hexDigit?_digitChar n hsmall)
    simpa using hcode
  · have hone : hexDigit? '1' = some 1 := by decide
    rw [if_neg hsmall, hlong n h (by omega)]
    have hcode := WritesCode.digits hzero hzero hone (hexDigit?_digitChar (n - 16) (by omega))
    have hn : ((0 * 16 + 0) * 16 + 1) * 16 + (n - 16) = n := by omega
    rwa [hn] at hcode

/-- One more printed character in front spells one more character. -/
theorem Spells.escapedChar_append (c : Char) {text cs : List Char} (h : Spells text cs) :
    Spells (Json.escapedChar c ++ text) (c :: cs) := by
  unfold Json.escapedChar
  split
  · exact .escape (by decide) h
  · exact .escape (by decide) h
  · exact .escape (by decide) h
  · exact .escape (by decide) h
  · exact .escape (by decide) h
  · rename_i hquote hescape _ _ _
    by_cases hcontrol : c.toNat < 0x20
    · have hplain : isHighSurrogate c.toNat = false ∧ isLowSurrogate c.toNat = false := by
        simp only [isHighSurrogate, isLowSurrogate, Bool.and_eq_false_iff, decide_eq_false_iff_not]
        omega
      have hcode := Spells.code (writesCode_toDigits hcontrol) hplain.1 hplain.2 h
      rw [Char.ofNat_toNat] at hcode
      by_cases hsmall : c.toNat < 0x10
      · rw [if_pos hsmall] at hcode ⊢
        exact hcode
      · rw [if_neg hsmall, if_pos hcontrol]
        rw [if_neg hsmall] at hcode
        exact hcode
    · rw [if_neg (by omega), if_neg hcontrol]
      exact .plain (Nat.not_lt.mp hcontrol) hquote hescape h

theorem spells_flatMap_escapedChar (cs : List Char) : Spells (cs.flatMap Json.escapedChar) cs := by
  induction cs with
  | nil => exact .nil
  | cons c cs ih => exact ih.escapedChar_append c

end BundleFront.StringText
