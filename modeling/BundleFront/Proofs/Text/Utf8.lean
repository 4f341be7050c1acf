import BundleFront.Text.Utf8
import Mathlib.Data.List.Basic
import Mathlib.Data.List.Infix
import Mathlib.Tactic.Common

/-!
# What bytes say as text

Bytes say one character after the other.  Where no character stands in front of them, the
longest beginning of one is replaced, or one byte if no character begins with it.

The reader keeps no bytes, only the value of those that belong to a character so far, how
many are missing, and bounds for the next one.  `Pends` ties what it keeps to the bytes: it
is the first bytes of some character, and the next byte goes on with a character exactly if
it is within the bounds.  Each step of the reading then settles one character of the text.

* `Decodes` — the characters that bytes say.
* `Pends.begins_append_iff` — the bounds of the next byte are right.
* `decodes_iff` — what bytes say is what is read, and nothing else.
* `ofBytes_toBytes` — the bytes of a text say it.
-/

namespace BundleFront.Text

open String (utf8EncodeChar)

/-- Bytes that the UTF-8 form of a character begins with. -/
def Begins (part : List UInt8) : Prop := ∃ c, part <+: utf8EncodeChar c

/-- The longest beginning of a character in front of some bytes, and one byte if none begins. -/
structure LongestBeginning (part bytes : List UInt8) : Prop where
  ne_nil : part ≠ []
  isPrefix : part <+: bytes
  begins : Begins part ∨ part.length = 1
  longest : ∀ longer, longer <+: bytes → Begins longer → longer.length ≤ part.length

/-- The characters that bytes say.  U+FFFD stands for what is no character. -/
inductive Decodes : List UInt8 → List Char → Prop
  | nil : Decodes [] []
  | char (c : Char) {rest : List UInt8} {text : List Char} (h : Decodes rest text) :
      Decodes (utf8EncodeChar c ++ rest) (c :: text)
  | replaced {part rest : List UInt8} {text : List Char}
      (hnone : ∀ c, ¬ utf8EncodeChar c <+: part ++ rest)
      (hpart : LongestBeginning part (part ++ rest)) (h : Decodes rest text) :
      Decodes (part ++ rest) ('\uFFFD' :: text)

/-! ## Pending characters -/

/-- What is pending behind the first bytes of a character.  The second byte is bounded such that the
character needs all of its bytes, is no surrogate and no larger than the last code point. -/
inductive Pends : List UInt8 → PendingChar → Prop
  | firstOfTwo {n : Nat} (hlow : 2 ≤ n) (hn : n < 32) :
      Pends [.ofNat (n + 0xC0)] ⟨n, 1, 0x80, 0xBF⟩
  | firstOfThree {n : Nat} (hn : n < 16) :
      Pends [.ofNat (n + 0xE0)]
        ⟨n, 2, if n = 0 then 0xA0 else 0x80, if n = 13 then 0x9F else 0xBF⟩
  | secondOfThree {n m : Nat} (hn : n < 16) (hm : m < 64) (hlow : n = 0 → 32 ≤ m)
      (hhigh : n = 13 → m < 32) :
      Pends [.ofNat (n + 0xE0), .ofNat (m + 0x80)] ⟨n * 64 + m, 1, 0x80, 0xBF⟩
  | firstOfFour {n : Nat} (hn : n < 5) :
      Pends [.ofNat (n + 0xF0)]
        ⟨n, 3, if n = 0 then 0x90 else 0x80, if n = 4 then 0x8F else 0xBF⟩
  | secondOfFour {n m : Nat} (hn : n < 5) (hm : m < 64) (hlow : n = 0 → 16 ≤ m)
      (hhigh : n = 4 → m < 16) :
      Pends [.ofNat (n + 0xF0), .ofNat (m + 0x80)] ⟨n * 64 + m, 2, 0x80, 0xBF⟩
  | thirdOfFour {n m k : Nat} (hn : n < 5) (hm : m < 64) (hk : k < 64) (hlow : n = 0 → 16 ≤ m)
      (hhigh : n = 4 → m < 16) :
      Pends [.ofNat (n + 0xF0), .ofNat (m + 0x80), .ofNat (k + 0x80)]
        ⟨(n * 64 + m) * 64 + k, 1, 0x80, 0xBF⟩

/-- Only the second byte of a character is bounded by the first one. -/
theorem Pends.bounds_of_missing {part : List UInt8} {p : PendingChar} (h : Pends part p)
    (hmissing : p.missing = 1) {n : Nat} (hn : n < 64) :
    p.low.toNat ≤ n + 0x80 ∧ n + 0x80 ≤ p.high.toNat := by
  have hlow : (0x80 : UInt8).toNat ≤ n + 0x80 := Nat.le_add_left _ _
  have hhigh : n + 0x80 ≤ (0xBF : UInt8).toNat :=
    Nat.add_le_add_right (Nat.le_of_lt_succ hn) 0x80
  cases h with
  | firstOfTwo | secondOfThree | thirdOfFour => exact ⟨hlow, hhigh⟩
  | firstOfThree | firstOfFour | secondOfFour => simp at hmissing

theorem Pends.missing_pos {part : List UInt8} {p : PendingChar} (h : Pends part p) :
    0 < p.missing := by
  cases h <;> exact Nat.succ_pos _

theorem Pends.within {part : List UInt8} {p : PendingChar} (h : Pends part p) :
    0x80 ≤ p.low.toNat ∧ p.high.toNat ≤ 0xBF := by
  cases h with
  | firstOfTwo | secondOfThree | secondOfFour | thirdOfFour => exact ⟨le_rfl, le_rfl⟩
  | firstOfThree | firstOfFour =>
      constructor
      · dsimp only
        split <;> decide
      · dsimp only
        split <;> decide

/-- The bytes of a character: one alone, or one more where one is missing. -/
inductive Form : List UInt8 → Nat → Prop
  | single {n : Nat} (hn : n < 0x80) : Form [.ofNat n] n
  | last {part : List UInt8} {p : PendingChar} {n : Nat} (h : Pends part p)
      (hmissing : p.missing = 1) (hn : n < 64) : Form (part ++ [.ofNat (n + 0x80)]) (p.value * 64 + n)

theorem Form.two {n m v : Nat} (hlow : 2 ≤ n) (hn : n < 32) (hm : m < 64)
    (hv : n * 64 + m = v) : Form [.ofNat (n + 0xC0), .ofNat (m + 0x80)] v := by
  subst hv
  exact .last (.firstOfTwo hlow hn) rfl hm

theorem Form.three {n m k v : Nat} (hn : n < 16) (hm : m < 64) (hk : k < 64)
    (hlow : n = 0 → 32 ≤ m) (hhigh : n = 13 → m < 32) (hv : (n * 64 + m) * 64 + k = v) :
    Form [.ofNat (n + 0xE0), .ofNat (m + 0x80), .ofNat (k + 0x80)] v := by
  subst hv
  exact .last (.secondOfThree hn hm hlow hhigh) rfl hk

theorem Form.four {n m k l v : Nat} (hn : n < 5) (hm : m < 64) (hk : k < 64) (hl : l < 64)
    (hlow : n = 0 → 16 ≤ m) (hhigh : n = 4 → m < 16)
    (hv : ((n * 64 + m) * 64 + k) * 64 + l = v) :
    Form [.ofNat (n + 0xF0), .ofNat (m + 0x80), .ofNat (k + 0x80), .ofNat (l + 0x80)] v := by
  subst hv
  exact .last (.thirdOfFour hn hm hk hlow hhigh) rfl hl

/-- The bytes of every character have this form. -/
theorem form_utf8EncodeChar (c : Char) : Form (utf8EncodeChar c) c.toNat := by
  have hvalid : c.toNat < 0xD800 ∨ 0xDFFF < c.toNat ∧ c.toNat < 0x110000 := c.valid
  have hval : c.val.toNat = c.toNat := rfl
  unfold utf8EncodeChar
  rw [hval]
  dsimp only
  split
  · exact .single (by omega)
  split
  · rw [Nat.mod_eq_of_lt (a := c.toNat / 64) (by omega)]
    exact .two (by omega) (by omega) (by omega) (by omega)
  split
  · rw [Nat.mod_eq_of_lt (a := c.toNat / 4096) (by omega)]
    exact .three (by omega) (by omega) (by omega) (by omega) (by omega) (by omega)
  · rw [Nat.mod_eq_of_lt (a := c.toNat / 262144) (by omega)]
    exact .four (by omega) (by omega) (by omega) (by omega) (by omega) (by omega) (by omega)

/-- Bytes of this form are the bytes of a character. -/
theorem Form.utf8EncodeChar_eq {bytes : List UInt8} {v : Nat} (h : Form bytes v) :
    utf8EncodeChar (Char.ofNat v) = bytes := by
  have hbytes (hvalid : v.isValidChar) : (Char.ofNat v).val.toNat = v := by
    rw [Char.ofNat, dif_pos hvalid]
    rfl
  cases h with
  | single hn =>
      unfold utf8EncodeChar
      rw [hbytes (by omega)]
      dsimp only
      rw [if_pos (by omega)]
  | last hpart hmissing hlast =>
      cases hpart with
      | firstOfTwo hlow hn =>
          dsimp only at hbytes ⊢
          unfold utf8EncodeChar
          rw [hbytes (by omega)]
          dsimp only
          rw [if_neg (by omega), if_pos (by omega)]
          congr 3 <;> omega
      | @secondOfThree n m hn hm hlow hhigh =>
          dsimp only at hbytes ⊢
          unfold utf8EncodeChar
          rw [hbytes (by omega)]
          dsimp only
          rw [if_neg (by omega), if_neg (by omega), if_pos (by omega)]
          congr 4 <;> omega
      | @thirdOfFour n m k hn hm hk hlow hhigh =>
          dsimp only at hbytes ⊢
          unfold utf8EncodeChar
          rw [hbytes (by omega)]
          dsimp only
          rw [if_neg (by omega), if_neg (by omega), if_neg (by omega)]
          congr 5 <;> omega
      | firstOfThree | firstOfFour | secondOfFour => simp at hmissing

/-! ## Reading -/

/-- The bytes behind the first one carry six bits each. -/
theorem toNat_ofNat_add {n : Nat} (hn : n < 64) :
    (UInt8.ofNat (n + 0x80)).toNat = n + 0x80 :=
  UInt8.toNat_ofNat_of_lt (show n + 0x80 < 256 by omega)

/-- What bytes finish, and what is pending behind them. -/
def readFrom (pending : Option PendingChar) : List UInt8 → List Char × Option PendingChar
  | [] => ([], pending)
  | b :: rest =>
      let read := nextByte pending b
      let others := readFrom read.2 rest
      (read.1 ++ others.1, others.2)

theorem readFrom_append (pending : Option PendingChar) (bytes rest : List UInt8) :
    readFrom pending (bytes ++ rest) =
      ((readFrom pending bytes).1 ++ (readFrom (readFrom pending bytes).2 rest).1,
        (readFrom (readFrom pending bytes).2 rest).2) := by
  induction bytes generalizing pending with
  | nil => rfl
  | cons b bytes ih =>
      rw [List.cons_append, readFrom, readFrom, ih]
      simp only [List.append_assoc]

theorem decodeFrom_append (pending : Option PendingChar) (bytes rest : List UInt8) :
    decodeFrom pending (bytes ++ rest) =
      (readFrom pending bytes).1 ++ decodeFrom (readFrom pending bytes).2 rest := by
  induction bytes generalizing pending with
  | nil => rfl
  | cons b bytes ih =>
      rw [List.cons_append, decodeFrom, readFrom]
      dsimp only
      rw [ih, List.append_assoc]

/-- The first byte of a character tells its length. -/
theorem startChar_two {n : Nat} (hlow : 2 ≤ n) (hn : n < 32) :
    startChar (.ofNat (n + 0xC0)) = ([], some ⟨n, 1, 0x80, 0xBF⟩) := by
  revert n
  decide

theorem startChar_three {n : Nat} (hn : n < 16) :
    startChar (.ofNat (n + 0xE0)) =
      ([], some ⟨n, 2, if n = 0 then 0xA0 else 0x80, if n = 13 then 0x9F else 0xBF⟩) := by
  revert n
  decide

theorem startChar_four {n : Nat} (hn : n < 5) :
    startChar (.ofNat (n + 0xF0)) =
      ([], some ⟨n, 3, if n = 0 then 0x90 else 0x80, if n = 4 then 0x8F else 0xBF⟩) := by
  revert n
  decide

/-- A byte within the bounds goes on with what is pending. -/
theorem nextByte_of_mem {p : PendingChar} {n : Nat} (hn : n < 64)
    (hlow : p.low.toNat ≤ n + 0x80) (hhigh : n + 0x80 ≤ p.high.toNat) :
    nextByte (some p) (.ofNat (n + 0x80)) =
      if p.missing ≤ 1 then ([Char.ofNat (p.value * 64 + n)], none)
      else ([], some ⟨p.value * 64 + n, p.missing - 1, 0x80, 0xBF⟩) := by
  have hbyte : (UInt8.ofNat (n + 0x80)).toNat = n + 0x80 := toNat_ofNat_add hn
  have hbounds : p.low ≤ UInt8.ofNat (n + 0x80) ∧ UInt8.ofNat (n + 0x80) ≤ p.high := by
    rw [UInt8.le_iff_toNat_le, UInt8.le_iff_toNat_le, hbyte]
    exact ⟨hlow, hhigh⟩
  unfold nextByte
  dsimp only
  rw [if_pos hbounds, hbyte, Nat.add_sub_cancel]

/-- Any other byte starts anew, behind what stands for the bytes before it. -/
theorem nextByte_of_not_mem {p : PendingChar} {b : UInt8} (h : ¬ (p.low ≤ b ∧ b ≤ p.high)) :
    nextByte (some p) b = (replacementChar :: (startChar b).1, (startChar b).2) := by
  unfold nextByte
  dsimp only
  rw [if_neg h]

/-- One more byte within the bounds, where it is not the last one. -/
theorem readFrom_append_of_mem {part : List UInt8} {p : PendingChar} {n : Nat}
    (h : readFrom none part = ([], some p)) (hn : n < 64) (hlow : p.low.toNat ≤ n + 0x80)
    (hhigh : n + 0x80 ≤ p.high.toNat) (hmissing : 1 < p.missing) :
    readFrom none (part ++ [.ofNat (n + 0x80)]) =
      ([], some ⟨p.value * 64 + n, p.missing - 1, 0x80, 0xBF⟩) := by
  rw [readFrom_append, h]
  dsimp only [readFrom]
  rw [nextByte_of_mem hn hlow hhigh, if_neg (Nat.not_le.mpr hmissing)]
  rfl

/-- The bounds of the second byte, by the first one. -/
theorem low_toNat_le {n m low : Nat} (hlow : n = 0 → low ≤ m) {b : UInt8}
    (hb : b.toNat = low + 0x80) :
    (if n = 0 then b else 0x80 : UInt8).toNat ≤ m + 0x80 := by
  split
  · rename_i h
    have hm := hlow h
    omega
  · exact Nat.le_add_left _ _

theorem le_high_toNat {n m last high : Nat} (hm : m < 64) (hhigh : n = last → m < high) {b : UInt8}
    (hb : b.toNat = high + 0x7F) :
    m + 0x80 ≤ (if n = last then b else 0xBF : UInt8).toNat := by
  split
  · rename_i h
    have hm := hhigh h
    omega
  · have hbyte : (0xBF : UInt8).toNat = 0xBF := rfl
    omega

/-- Reading the first bytes of a character finishes nothing. -/
theorem Pends.readFrom_eq {part : List UInt8} {p : PendingChar} (h : Pends part p) :
    readFrom none part = ([], some p) := by
  have hfirst {b : UInt8} {q : PendingChar} (hb : startChar b = ([], some q)) :
      readFrom none [b] = ([], some q) := by
    rw [readFrom, nextByte, hb]
    rfl
  have hsecondOfFour {n m : Nat} (hn : n < 5) (hm : m < 64) (hlow : n = 0 → 16 ≤ m)
      (hhigh : n = 4 → m < 16) :
      readFrom none [.ofNat (n + 0xF0), .ofNat (m + 0x80)] =
        ([], some ⟨n * 64 + m, 2, 0x80, 0xBF⟩) :=
    readFrom_append_of_mem (hfirst (startChar_four hn)) hm (low_toNat_le hlow rfl)
      (le_high_toNat hm hhigh rfl) (Nat.lt_of_sub_eq_succ rfl)
  cases h with
  | firstOfTwo hlow hn => exact hfirst (startChar_two hlow hn)
  | firstOfThree hn => exact hfirst (startChar_three hn)
  | secondOfThree hn hm hlow hhigh =>
      exact readFrom_append_of_mem (hfirst (startChar_three hn)) hm (low_toNat_le hlow rfl)
        (le_high_toNat hm hhigh rfl) (Nat.lt_of_sub_eq_succ rfl)
  | firstOfFour hn => exact hfirst (startChar_four hn)
  | secondOfFour hn hm hlow hhigh => exact hsecondOfFour hn hm hlow hhigh
  | @thirdOfFour n m k hn hm hk hlow hhigh =>
      exact readFrom_append_of_mem (hsecondOfFour hn hm hlow hhigh) hk (Nat.le_add_left _ _)
        (by change k + 0x80 ≤ 0xBF; omega) (Nat.lt_of_sub_eq_succ rfl)

/-- Reading the last byte of a character finishes it. -/
theorem Form.readFrom_eq {bytes : List UInt8} {v : Nat} (h : Form bytes v) :
    readFrom none bytes = ([Char.ofNat v], none) := by
  cases h with
  | single hn =>
      have hbyte : (UInt8.ofNat v).toNat = v :=
        UInt8.toNat_ofNat_of_lt (show v < 256 by omega)
      have hlt : UInt8.ofNat v < 0x80 := by
        rw [UInt8.lt_iff_toNat_lt, hbyte]
        exact hn
      rw [readFrom, nextByte, startChar, if_pos hlt, hbyte]
      rfl
  | @last part p n hpart hmissing hn =>
      obtain ⟨hlow, hhigh⟩ := hpart.bounds_of_missing hmissing hn
      rw [readFrom_append, hpart.readFrom_eq]
      dsimp only [readFrom]
      rw [nextByte_of_mem hn hlow hhigh, if_pos (Nat.le_of_eq hmissing)]
      rfl

/-! ## Beginnings -/

/-- Bytes that a character begins with, the finished one included. -/
def Starts (bytes : List UInt8) : Prop := (∃ p, Pends bytes p) ∨ ∃ v, Form bytes v

/-- The last of these bytes is within the bounds. -/
theorem Starts.exists_of_concat {part : List UInt8} {b : UInt8} (h : Starts (part ++ [b]))
    (hpart : part ≠ []) : ∃ p, Pends part p ∧ p.low ≤ b ∧ b ≤ p.high := by
  have hmem {p : PendingChar} {n : Nat} (init : List UInt8)
      (heq : part ++ [b] = init ++ [.ofNat (n + 0x80)]) (hp : Pends init p) (hn : n < 64)
      (hlow : p.low.toNat ≤ n + 0x80) (hhigh : n + 0x80 ≤ p.high.toNat) :
      ∃ p, Pends part p ∧ p.low ≤ b ∧ b ≤ p.high := by
    obtain ⟨rfl, hb⟩ := List.append_inj' heq rfl
    obtain rfl : b = .ofNat (n + 0x80) := List.singleton_inj.mp hb
    refine ⟨p, hp, ?_⟩
    rw [UInt8.le_iff_toNat_le, UInt8.le_iff_toNat_le, toNat_ofNat_add hn]
    exact ⟨hlow, hhigh⟩
  have hsingle {x : UInt8} (heq : part ++ [b] = [] ++ [x]) : part = [] :=
    (List.append_inj' heq rfl).1
  generalize hbytes : part ++ [b] = bytes at h
  rcases h with ⟨p, hp⟩ | ⟨v, hv⟩
  · cases hp with
    | firstOfTwo | firstOfThree | firstOfFour => exact absurd (hsingle hbytes) hpart
    | secondOfThree hn hm hlow hhigh =>
        exact hmem [_] hbytes (.firstOfThree hn) hm (low_toNat_le hlow rfl)
          (le_high_toNat hm hhigh rfl)
    | secondOfFour hn hm hlow hhigh =>
        exact hmem [_] hbytes (.firstOfFour hn) hm (low_toNat_le hlow rfl)
          (le_high_toNat hm hhigh rfl)
    | @thirdOfFour n m k hn hm hk hlow hhigh =>
        exact hmem [_, _] hbytes (.secondOfFour hn hm hlow hhigh) hk (Nat.le_add_left _ _)
          (Nat.add_le_add_right (Nat.le_of_lt_succ hk) 0x80)
  · cases hv with
    | single => exact absurd (hsingle hbytes) hpart
    | @last init p n hp hmissing hn =>
        obtain ⟨hlow, hhigh⟩ := hp.bounds_of_missing hmissing hn
        exact hmem init hbytes hp hn hlow hhigh

/-- A byte within the bounds continues the character. -/
theorem Pends.continues {part : List UInt8} {p : PendingChar} (h : Pends part p) {n : Nat}
    (hn : n < 64) (hlow : p.low.toNat ≤ n + 0x80) (hhigh : n + 0x80 ≤ p.high.toNat)
    (hmissing : 1 < p.missing) :
    Pends (part ++ [.ofNat (n + 0x80)]) ⟨p.value * 64 + n, p.missing - 1, 0x80, 0xBF⟩ := by
  cases h with
  | firstOfTwo | secondOfThree | thirdOfFour => simp at hmissing
  | @firstOfThree m hm =>
      refine .secondOfThree hm hn ?_ ?_
      · rintro rfl
        change 0xA0 ≤ n + 0x80 at hlow
        omega
      · rintro rfl
        change n + 0x80 ≤ 0x9F at hhigh
        omega
  | @firstOfFour m hm =>
      refine .secondOfFour hm hn ?_ ?_
      · rintro rfl
        change 0x90 ≤ n + 0x80 at hlow
        omega
      · rintro rfl
        change n + 0x80 ≤ 0x8F at hhigh
        omega
  | secondOfFour hm hk hsecond hlast => exact .thirdOfFour hm hk hn hsecond hlast

theorem Starts.of_isPrefix {part bytes : List UInt8} (h : Starts bytes) (hfront : part <+: bytes)
    (hpart : part ≠ []) : Starts part := by
  induction bytes using List.reverseRecOn with
  | nil => exact absurd (List.prefix_nil.mp hfront) hpart
  | append_singleton init b ih =>
      rcases List.prefix_concat_iff.mp hfront with rfl | hinit
      · exact h
      · have hne : init ≠ [] := fun hnil => hpart (List.prefix_nil.mp (hnil ▸ hinit))
        obtain ⟨p, hp, -, -⟩ := h.exists_of_concat hne
        exact ih (.inl ⟨p, hp⟩) hinit

theorem Begins.starts {part : List UInt8} (h : Begins part) (hpart : part ≠ []) : Starts part := by
  obtain ⟨c, hc⟩ := h
  exact Starts.of_isPrefix (.inr ⟨_, form_utf8EncodeChar c⟩) hc hpart

theorem Begins.of_append (part : List UInt8) {more : List UInt8} (h : Begins (part ++ more)) :
    Begins part := by
  obtain ⟨c, hc⟩ := h
  exact ⟨c, (List.prefix_append part more).trans hc⟩

theorem Form.begins {bytes : List UInt8} {v : Nat} (h : Form bytes v) : Begins bytes :=
  ⟨.ofNat v, by rw [h.utf8EncodeChar_eq]⟩

theorem Pends.begins {part : List UInt8} {p : PendingChar} (h : Pends part p) : Begins part := by
  have hzero : 0 < 64 := by decide
  have hsecond (n low last high : Nat) (hlow : low < 64) (hhigh : 0 < high) (hlast : last ≠ 0) :
      ∃ m < 64, (n = 0 → low ≤ m) ∧ (n = last → m < high) := by
    by_cases hn : n = 0
    · exact ⟨low, hlow, by omega, by omega⟩
    · exact ⟨0, by omega, by omega, by omega⟩
  cases h with
  | firstOfTwo hlow hn => exact (Form.two hlow hn hzero rfl).begins.of_append [_]
  | @firstOfThree n hn =>
      obtain ⟨m, hm, hlow, hhigh⟩ := hsecond n 32 13 32 (by decide) (by decide) (by decide)
      exact (Form.three hn hm hzero hlow hhigh rfl).begins.of_append [_]
  | secondOfThree hn hm hlow hhigh =>
      exact (Form.three hn hm hzero hlow hhigh rfl).begins.of_append [_, _]
  | @firstOfFour n hn =>
      obtain ⟨m, hm, hlow, hhigh⟩ := hsecond n 16 4 16 (by decide) (by decide) (by decide)
      exact (Form.four hn hm hzero hzero hlow hhigh rfl).begins.of_append [_]
  | secondOfFour hn hm hlow hhigh =>
      exact (Form.four hn hm hzero hzero hlow hhigh rfl).begins.of_append [_, _]
  | thirdOfFour hn hm hk hlow hhigh =>
      exact (Form.four hn hm hk hzero hlow hhigh rfl).begins.of_append [_, _, _]

theorem Starts.begins {part : List UInt8} (h : Starts part) : Begins part := by
  rcases h with ⟨p, hp⟩ | ⟨v, hv⟩
  · exact hp.begins
  · exact hv.begins

theorem begins_iff_starts {part : List UInt8} (hpart : part ≠ []) : Begins part ↔ Starts part :=
  ⟨fun h => h.starts hpart, Starts.begins⟩

theorem Pends.ne_nil {part : List UInt8} {p : PendingChar} (h : Pends part p) : part ≠ [] := by
  cases h <;> exact List.cons_ne_nil _ _

/-- The next byte continues the character exactly if it is within the bounds. -/
theorem Pends.begins_append_iff {part : List UInt8} {p : PendingChar} (h : Pends part p)
    {b : UInt8} : Begins (part ++ [b]) ↔ p.low ≤ b ∧ b ≤ p.high := by
  refine (begins_iff_starts (by simp)).trans ⟨fun hstarts => ?_, fun ⟨hlow, hhigh⟩ => ?_⟩
  · obtain ⟨q, hq, hbounds⟩ := hstarts.exists_of_concat h.ne_nil
    have hpq : ([], some p) = (([] : List Char), some q) :=
      h.readFrom_eq.symm.trans hq.readFrom_eq
    obtain rfl : p = q := Option.some_inj.mp (Prod.mk.inj hpq).2
    exact hbounds
  · obtain ⟨hge, hle⟩ := h.within
    rw [UInt8.le_iff_toNat_le] at hlow hhigh
    obtain ⟨n, hn⟩ : ∃ n, b.toNat = n + 0x80 := ⟨b.toNat - 0x80, by omega⟩
    obtain rfl : UInt8.ofNat (n + 0x80) = b := by rw [← hn, UInt8.ofNat_toNat]
    rw [hn] at hlow hhigh
    rcases Nat.lt_or_ge 1 p.missing with hmissing | hmissing
    · exact .inl ⟨_, h.continues (by omega) hlow hhigh hmissing⟩
    · exact .inr ⟨_, .last h (by have hpos := h.missing_pos; omega) (by omega)⟩

/-- The bytes that a character begins with. -/
theorem starts_singleton {b : UInt8} (h : b.toNat < 0x80 ∨ 0xC2 ≤ b.toNat ∧ b.toNat < 0xF5) :
    Starts [b] := by
  have hbyte {low : Nat} (hlow : low ≤ b.toNat) : b = .ofNat (b.toNat - low + low) := by
    rw [Nat.sub_add_cancel hlow, UInt8.ofNat_toNat]
  rcases h with hone | ⟨hlow, hhigh⟩
  · rw [← b.ofNat_toNat]
    exact .inr ⟨_, .single hone⟩
  rcases Nat.lt_or_ge b.toNat 0xE0 with htwo | hlow
  · rw [hbyte (show 0xC0 ≤ b.toNat by omega)]
    exact .inl ⟨_, .firstOfTwo (by omega) (by omega)⟩
  rcases Nat.lt_or_ge b.toNat 0xF0 with hthree | hlow
  · rw [hbyte hlow]
    exact .inl ⟨_, .firstOfThree (by omega)⟩
  · rw [hbyte hlow]
    exact .inl ⟨_, .firstOfFour (by omega)⟩

/-- A byte that no character begins with is replaced. -/
theorem startChar_of_not_starts {b : UInt8} (h : ¬ Starts [b]) :
    startChar b = ([replacementChar], none) := by
  have hlow : 0x80 ≤ b.toNat := by
    by_contra hlt
    exact h (starts_singleton (.inl (by omega)))
  have hmiddle : b.toNat < 0xC2 ∨ 0xF5 ≤ b.toNat := by
    by_contra hmem
    exact h (starts_singleton (.inr (by omega)))
  unfold startChar
  simp only [UInt8.lt_iff_toNat_lt, UInt8.reduceToNat]
  rw [if_neg (by omega)]
  rcases hmiddle with hmiddle | hhigh
  · rw [if_pos hmiddle]
  · rw [if_neg (by omega), if_neg (by omega), if_neg (by omega), if_neg (by omega)]

/-! ## What is read -/

/-- Behind the last byte that belongs to a character that has begun, reading starts anew. -/
theorem Pends.decodeFrom_append {part rest : List UInt8} {p : PendingChar} (h : Pends part p)
    (hstop : ∀ b more, rest = b :: more → ¬ Begins (part ++ [b])) :
    decodeFrom none (part ++ rest) = '\uFFFD' :: decodeFrom none rest := by
  rw [Text.decodeFrom_append, h.readFrom_eq, List.nil_append]
  cases rest with
  | nil => rfl
  | cons b more =>
      have hb : ¬ (p.low ≤ b ∧ b ≤ p.high) := fun hb =>
        hstop b more rfl (h.begins_append_iff.mpr hb)
      rw [decodeFrom, nextByte_of_not_mem hb]
      rfl

theorem decodeFrom_cons_of_not_starts {b : UInt8} {rest : List UInt8} (h : ¬ Starts [b]) :
    decodeFrom none (b :: rest) = '\uFFFD' :: decodeFrom none rest := by
  rw [decodeFrom, nextByte, startChar_of_not_starts h]
  rfl

theorem Form.decodeFrom_append {bytes rest : List UInt8} {v : Nat} (h : Form bytes v) :
    decodeFrom none (bytes ++ rest) = Char.ofNat v :: decodeFrom none rest := by
  rw [Text.decodeFrom_append, h.readFrom_eq, List.singleton_append]

/-- Bytes that stop being a beginning of a character are replaced together. -/
theorem Decodes.of_stops {part rest : List UInt8} {text : List Char} (hne : part ≠ [])
    (hbegins : Begins part ∨ part.length = 1) (hopen : ∀ c, ¬ utf8EncodeChar c <+: part)
    (hstop : ∀ b more, rest = b :: more → ¬ Begins (part ++ [b])) (h : Decodes rest text) :
    Decodes (part ++ rest) ('\uFFFD' :: text) := by
  -- A longer beginning would go on with the next byte.
  have hlonger {longer : List UInt8} (hfront : longer <+: part ++ rest)
      (hlonger : Begins longer) (hpart : part <+: longer) : longer = part := by
    obtain ⟨more, rfl⟩ := hpart
    cases more with
    | nil => exact List.append_nil part
    | cons b more =>
        obtain ⟨others, rfl⟩ := (List.prefix_append_right_inj part).mp hfront
        rw [List.append_cons] at hlonger
        exact absurd (hlonger.of_append (part ++ [b])) (hstop b (more ++ others) rfl)
  refine .replaced (fun c hc => ?_) ⟨hne, List.prefix_append part rest, hbegins, ?_⟩ h
  · rcases List.prefix_or_prefix_of_prefix hc (List.prefix_append part rest) with hshort | hlong
    · exact hopen c hshort
    · refine hopen c (hlonger hc ⟨c, List.prefix_rfl⟩ hlong ▸ List.prefix_rfl)
  · intro longer hfront hlongerBegins
    rcases List.prefix_or_prefix_of_prefix hfront (List.prefix_append part rest) with hshort | hlong
    · exact hshort.length_le
    · rw [hlonger hfront hlongerBegins hlong]

/-- The first character of the bytes is settled, and fewer bytes are left. -/
def Advances (bytes : List UInt8) : Prop :=
  ∃ c rest, rest.length < bytes.length ∧ decodeFrom none bytes = c :: decodeFrom none rest ∧
    ∀ text, Decodes rest text → Decodes bytes (c :: text)

theorem Form.ne_nil {bytes : List UInt8} {v : Nat} (h : Form bytes v) : bytes ≠ [] := by
  cases h with
  | single => exact List.cons_ne_nil _ _
  | last => exact List.append_ne_nil_of_right_ne_nil _ (List.cons_ne_nil _ _)

theorem length_lt_of_ne_nil {part : List UInt8} (h : part ≠ []) (rest : List UInt8) :
    rest.length < (part ++ rest).length := by
  have hpos := List.length_pos_of_ne_nil h
  rw [List.length_append]
  omega

theorem Form.advances {part : List UInt8} {v : Nat} (h : Form part v) (rest : List UInt8) :
    Advances (part ++ rest) := by
  refine ⟨.ofNat v, rest, length_lt_of_ne_nil h.ne_nil rest, h.decodeFrom_append, ?_⟩
  intro text htext
  have hchar := htext.char (.ofNat v)
  rwa [h.utf8EncodeChar_eq] at hchar

theorem Pends.advances_of_stops {part rest : List UInt8} {p : PendingChar} (h : Pends part p)
    (hstop : ∀ b more, rest = b :: more → ¬ Begins (part ++ [b])) : Advances (part ++ rest) := by
  refine ⟨'\uFFFD', rest, length_lt_of_ne_nil h.ne_nil rest, h.decodeFrom_append hstop, ?_⟩
  intro text htext
  refine htext.of_stops h.ne_nil (.inl h.begins) ?_ hstop
  rintro c ⟨more, rfl⟩
  -- The finished character would have been read already.
  have hread := h.readFrom_eq
  rw [readFrom_append, (form_utf8EncodeChar c).readFrom_eq] at hread
  exact List.cons_ne_nil _ _ (Prod.mk.inj hread).1

/-- A pending character is finished, or stops being a beginning of one. -/
theorem Pends.advances {part : List UInt8} {p : PendingChar} (h : Pends part p)
    (rest : List UInt8) : Advances (part ++ rest) := by
  induction rest generalizing part p with
  | nil => exact h.advances_of_stops (fun b more hmore => nomatch hmore)
  | cons b more ih =>
      by_cases hb : Begins (part ++ [b])
      · rw [List.append_cons]
        rcases hb.starts (by simp) with ⟨q, hq⟩ | ⟨v, hv⟩
        · exact ih hq
        · exact hv.advances more
      · refine h.advances_of_stops ?_
        rintro b' more' ⟨⟩
        exact hb

theorem advances_cons (b : UInt8) (rest : List UInt8) : Advances (b :: rest) := by
  by_cases hb : Starts [b]
  · rcases hb with ⟨p, hp⟩ | ⟨v, hv⟩
    · exact hp.advances rest
    · exact hv.advances rest
  · refine ⟨'\uFFFD', rest, Nat.lt_succ_self _, decodeFrom_cons_of_not_starts hb, ?_⟩
    intro text htext
    have hnone : ¬ Begins [b] := fun hbegins => hb (hbegins.starts (List.cons_ne_nil b []))
    refine Decodes.of_stops (List.cons_ne_nil b []) (.inr rfl) ?_ ?_ htext
    · intro c hc
      have hform := form_utf8EncodeChar c
      rcases List.prefix_cons_iff.mp hc with hnil | ⟨more, hmore, hfront⟩
      · exact hform.ne_nil hnil
      · rw [hmore, List.prefix_nil.mp hfront] at hform
        exact hb (.inr ⟨_, hform⟩)
    · exact fun b' more hmore hbegins => hnone (hbegins.of_append [b])

/-- Reading bytes gives the characters that they say. -/
theorem decodes_decodeFrom (bytes : List UInt8) : Decodes bytes (decodeFrom none bytes) := by
  induction hlength : bytes.length using Nat.strong_induction_on generalizing bytes with
  | h length ih =>
      cases bytes with
      | nil => exact .nil
      | cons b rest =>
          obtain ⟨c, others, hlt, hread, hdecodes⟩ := advances_cons b rest
          rw [hread]
          exact hdecodes _ (ih _ (hlength ▸ hlt) others rfl)

/-- Bytes say these characters only. -/
theorem Decodes.decodeFrom_eq {bytes : List UInt8} {text : List Char} (h : Decodes bytes text) :
    decodeFrom none bytes = text := by
  induction h with
  | nil => rfl
  | char c h ih => rw [(form_utf8EncodeChar c).decodeFrom_append, Char.ofNat_toNat, ih]
  | @replaced part rest text hnone hpart h ih =>
      rw [← ih]
      -- What is replaced goes on in no way.
      have hstop : ∀ b more, rest = b :: more → ¬ Begins (part ++ [b]) := by
        rintro b more rfl hbegins
        have hlength := hpart.longest (part ++ [b])
          ((List.prefix_append_right_inj part).mpr (List.prefix_append [b] more)) hbegins
        rw [List.length_append] at hlength
        exact absurd hlength (Nat.not_succ_le_self _)
      by_cases hstarts : Starts part
      · rcases hstarts with ⟨p, hp⟩ | ⟨v, hv⟩
        · exact hp.decodeFrom_append hstop
        · refine absurd ?_ (hnone (.ofNat v))
          rw [hv.utf8EncodeChar_eq]
          exact List.prefix_append part rest
      · rcases hpart.begins with hbegins | hlength
        · exact absurd (hbegins.starts hpart.ne_nil) hstarts
        · obtain ⟨b, rfl⟩ := List.length_eq_one_iff.mp hlength
          exact decodeFrom_cons_of_not_starts hstarts

/-- What bytes say. -/
theorem decodes_iff (bytes : List UInt8) (text : String) :
    Decodes bytes text.toList ↔ ofBytes bytes = text := by
  rw [ofBytes, ← String.toList_inj, String.toList_ofList]
  refine ⟨Decodes.decodeFrom_eq, fun h => ?_⟩
  rw [← h]
  exact decodes_decodeFrom bytes

theorem decodes_ofBytes (bytes : List UInt8) : Decodes bytes (ofBytes bytes).toList :=
  (decodes_iff bytes _).mpr rfl

theorem decodes_map_ofBytes (bytes? : Option (List UInt8)) :
    Option.Rel (fun bytes text => Decodes bytes text.toList) bytes? (bytes?.map ofBytes) := by
  cases bytes? with
  | none => exact .none
  | some bytes => exact .some (decodes_ofBytes bytes)

theorem decodes_flatMap (text : List Char) : Decodes (text.flatMap utf8EncodeChar) text := by
  induction text with
  | nil => exact .nil
  | cons c text ih => exact ih.char c

/-- The bytes of an array from a place on, behind those that are read already. -/
theorem toList_loop (bytes : ByteArray) (i : Nat) (read : List UInt8) :
    ByteArray.toList.loop bytes i read = read.reverse ++ bytes.data.toList.drop i := by
  fun_induction ByteArray.toList.loop bytes i read with
  | case1 i read hlt ih =>
      have hplace : i < bytes.data.size := hlt
      have hbyte : bytes.get! i = bytes.data.toList[i] := getElem!_pos bytes.data i hplace
      rw [ih, List.drop_eq_getElem_cons hplace, List.reverse_cons, List.append_assoc, hbyte]
      rfl
  | case2 i read hge =>
      have hend : bytes.data.toList.length ≤ i := Nat.le_of_not_lt hge
      rw [List.drop_eq_nil_of_le hend, List.append_nil]

theorem toBytes_eq (text : String) : toBytes text = text.toList.flatMap utf8EncodeChar := by
  rw [toBytes, String.toUTF8_eq_toByteArray, ← String.utf8Encode_toList, ByteArray.toList,
    toList_loop, List.utf8Encode]
  simp

/-- The bytes of a text say it. -/
theorem ofBytes_toBytes (text : String) : ofBytes (toBytes text) = text := by
  rw [← decodes_iff, toBytes_eq]
  exact decodes_flatMap text.toList

end BundleFront.Text
