import BundleFront.Json.NumberText
import Mathlib.Data.List.Basic
import Mathlib.Data.List.TakeWhile
import Mathlib.Tactic.Common

/-!
# What number literals say

A number literal is a sign, a whole part, a fraction and an exponent, of which only the
whole part has to be there.  Each part has a grammar of its own here, and the literal is
its parts one behind the other.

The reader takes as many characters as it can.  So a literal is only read as a whole where
nothing follows that would go on with it, and each part is read back under the condition
that the next one starts with something else (`EndsDigits`, `EndsNumber`).

* `NumberText.read_append` and `NumberText.exists_spells_of_read` — what is read is the
  parts of a literal, and the text of the literal stood in front.
-/

namespace BundleFront

theorem exists_ok_of_bind {ε α β : Type} {x : Except ε α} {f : α → Except ε β} {b : β}
    (h : (x >>= f) = .ok b) : ∃ a, x = .ok a ∧ f a = .ok b := by
  cases x with
  | error e => cases h
  | ok a => exact ⟨a, rfl, h⟩

theorem exists_ok_of_map {ε α β : Type} {x : Except ε α} {f : α → β} {b : β}
    (h : x.map f = .ok b) : ∃ a, x = .ok a ∧ f a = b := by
  cases x with
  | error e => cases h
  | ok a => exact ⟨a, rfl, Except.ok.inj h⟩

namespace NumberText

/-- Decimal digits, at least one, and the numbers that they stand for. -/
structure WritesDigits (text : List Char) (digits : List Nat) : Prop where
  ne_nil : text ≠ []
  isDigit : ∀ c ∈ text, c.isDigit = true
  eq_map : digits = text.map fun c => c.toNat - '0'.toNat

/-- The digits of a whole part; the first one is a zero only if it is the only one. -/
structure WritesWhole (text : List Char) (digits : List Nat) : Prop
    extends WritesDigits text digits where
  eq_of_zero : text.head? = some '0' → text = ['0']

/-- A dot with digits behind it, or nothing. -/
inductive WritesFraction : List Char → Option (List Nat) → Prop
  | none : WritesFraction [] none
  | some {text : List Char} {digits : List Nat} (h : WritesDigits text digits) :
      WritesFraction ('.' :: text) (some digits)

/-- The letter `e` of either case with digits behind it, perhaps with a sign, or nothing. -/
inductive WritesExponent : List Char → Option (Bool × List Nat) → Prop
  | none : WritesExponent [] none
  | unsigned {e : Char} {text : List Char} {digits : List Nat} (he : e = 'e' ∨ e = 'E')
      (h : WritesDigits text digits) : WritesExponent (e :: text) (some (false, digits))
  | plus {e : Char} {text : List Char} {digits : List Nat} (he : e = 'e' ∨ e = 'E')
      (h : WritesDigits text digits) : WritesExponent (e :: '+' :: text) (some (false, digits))
  | minus {e : Char} {text : List Char} {digits : List Nat} (he : e = 'e' ∨ e = 'E')
      (h : WritesDigits text digits) : WritesExponent (e :: '-' :: text) (some (true, digits))

/-- The text of a literal with the given parts. -/
inductive Spells : List Char → NumberText → Prop
  | parts {whole fraction exponent : List Char} {t : NumberText}
      (hwhole : WritesWhole whole t.whole) (hfraction : WritesFraction fraction t.fraction)
      (hexponent : WritesExponent exponent t.exponent) :
      Spells ((if t.negative then ['-'] else []) ++ (whole ++ (fraction ++ exponent))) t

/-- What may follow a literal: nothing that would belong to it. -/
def EndsNumber (rest : List Char) : Prop :=
  ∀ c ∈ rest.head?, c.isDigit = false ∧ c ≠ '.' ∧ c ≠ 'e' ∧ c ≠ 'E'

/-- What may follow digits. -/
def EndsDigits (rest : List Char) : Prop := ∀ c ∈ rest.head?, c.isDigit = false

/-! ## Digits -/

/-- Digits are read up to the first character that is none. -/
theorem readDigits_append {text rest : List Char} {digits : List Nat}
    (h : WritesDigits text digits) (hrest : EndsDigits rest) :
    readDigits (text ++ rest) = .ok (digits, rest) := by
  have htake : (text ++ rest).takeWhile Char.isDigit = text := by
    rw [List.takeWhile_append_of_pos h.isDigit]
    cases rest with
    | nil => simp
    | cons c rest => simp [hrest c (by simp)]
  have hdrop : (text ++ rest).dropWhile Char.isDigit = rest := by
    rw [List.dropWhile_append_of_pos h.isDigit]
    cases rest with
    | nil => rfl
    | cons c rest => simp [hrest c (by simp)]
  obtain ⟨first, more, rfl⟩ := List.exists_cons_of_ne_nil h.ne_nil
  have hfirst : first.isDigit = true := h.isDigit first List.mem_cons_self
  unfold readDigits
  rw [htake, hdrop, h.eq_map]
  simp [hfirst]

theorem exists_writesDigits_of_readDigits {s rest : List Char} {digits : List Nat}
    (h : readDigits s = .ok (digits, rest)) :
    ∃ text, WritesDigits text digits ∧ s = text ++ rest := by
  cases s with
  | nil => cases h
  | cons first more =>
      unfold readDigits at h
      dsimp only at h
      split at h
      · rename_i hfirst
        cases h
        refine ⟨(first :: more).takeWhile Char.isDigit, ⟨?_, ?_, rfl⟩, ?_⟩
        · simp [hfirst]
        · intro c hc
          exact List.mem_takeWhile_imp hc
        · exact List.takeWhile_append_dropWhile.symm
      · cases h

/-! ## Parts -/

theorem readWhole_append {text rest : List Char} {digits : List Nat} (h : WritesWhole text digits)
    (hrest : EndsDigits rest) : readWhole (text ++ rest) = .ok (digits, rest) := by
  have hread := readDigits_append h.toWritesDigits hrest
  unfold readWhole
  split
  · rename_i d more hzero
    obtain ⟨first, others, rfl⟩ := List.exists_cons_of_ne_nil h.ne_nil
    obtain ⟨rfl, hothers⟩ := List.cons.inj hzero
    -- A zero in front is all of the whole part, so what comes behind it is no digit.
    obtain rfl : others = [] := by simpa using h.eq_of_zero rfl
    obtain rfl : rest = d :: more := hothers
    rw [if_neg (by simp [hrest d rfl]), h.eq_map]
    rfl
  · exact hread

theorem exists_writesWhole_of_readWhole {s rest : List Char} {digits : List Nat}
    (h : readWhole s = .ok (digits, rest)) :
    ∃ text, WritesWhole text digits ∧ s = text ++ rest := by
  unfold readWhole at h
  split at h
  · split at h
    · cases h
    · cases h
      have hdigit : ∀ c ∈ ['0'], c.isDigit = true := List.forall_mem_singleton.mpr rfl
      exact ⟨['0'], ⟨⟨by simp, hdigit, rfl⟩, fun _ => rfl⟩, rfl⟩
  · rename_i hnot
    obtain ⟨text, htext, rfl⟩ := exists_writesDigits_of_readDigits h
    refine ⟨text, ⟨htext, ?_⟩, rfl⟩
    obtain ⟨first, more, rfl⟩ := List.exists_cons_of_ne_nil htext.ne_nil
    intro hzero
    obtain rfl : first = '0' := by simpa using hzero
    cases more with
    | nil => rfl
    | cons d more => exact (hnot d (more ++ rest) rfl).elim

theorem readFraction_append {text rest : List Char} {fraction : Option (List Nat)}
    (h : WritesFraction text fraction) (hrest : EndsDigits rest)
    (hdot : rest.head? ≠ some '.') : readFraction (text ++ rest) = .ok (fraction, rest) := by
  cases h with
  | none =>
      unfold readFraction
      split
      · rename_i after hafter
        rw [List.nil_append] at hafter
        rw [hafter] at hdot
        exact absurd rfl hdot
      · rfl
  | some h =>
      rw [List.cons_append, readFraction, readDigits_append h hrest]
      rfl

theorem exists_writesFraction_of_readFraction {s rest : List Char}
    {fraction : Option (List Nat)} (h : readFraction s = .ok (fraction, rest)) :
    ∃ text, WritesFraction text fraction ∧ s = text ++ rest := by
  unfold readFraction at h
  split at h
  · rename_i after
    obtain ⟨found, hread, h⟩ := exists_ok_of_map h
    cases h
    obtain ⟨text, htext, rfl⟩ := exists_writesDigits_of_readDigits hread
    exact ⟨_, .some htext, rfl⟩
  · cases h
    exact ⟨[], .none, rfl⟩

theorem readExponent_append {text rest : List Char} {exponent : Option (Bool × List Nat)}
    (h : WritesExponent text exponent) (hrest : EndsNumber rest) :
    readExponent (text ++ rest) = .ok (exponent, rest) := by
  have hdigits : EndsDigits rest := fun c hc => (hrest c hc).1
  cases h with
  | none =>
      cases rest with
      | nil => rfl
      | cons c rest =>
          obtain ⟨-, -, he, hE⟩ := hrest c rfl
          simp [readExponent, he, hE]
  | unsigned he h =>
      obtain ⟨first, more, rfl⟩ := List.exists_cons_of_ne_nil h.ne_nil
      have hread := readDigits_append h hdigits
      rw [List.cons_append] at hread
      -- A digit is no sign.
      have hsign : first ≠ '+' ∧ first ≠ '-' := by
        have hfirst : first.isDigit = true := h.isDigit first List.mem_cons_self
        constructor
        · rintro rfl
          exact absurd hfirst (by decide)
        · rintro rfl
          exact absurd hfirst (by decide)
      simp [readExponent, he, hsign.1, hsign.2, hread, Except.map]
  | plus he h =>
      simp [readExponent, he, readDigits_append h hdigits, Except.map]
  | minus he h =>
      simp [readExponent, he, readDigits_append h hdigits, Except.map]

theorem exists_writesExponent_of_readExponent {s rest : List Char}
    {exponent : Option (Bool × List Nat)} (h : readExponent s = .ok (exponent, rest)) :
    ∃ text, WritesExponent text exponent ∧ s = text ++ rest := by
  -- Behind the letter and the sign stand digits, whatever the sign.
  have hdigits (negative : Bool) (after : List Char)
      (h : (readDigits after).map (fun found => (some (negative, found.1), found.2)) =
        .ok (exponent, rest)) :
      ∃ text digits, WritesDigits text digits ∧ after = text ++ rest ∧
        exponent = some (negative, digits) := by
    obtain ⟨found, hread, h⟩ := exists_ok_of_map h
    cases h
    obtain ⟨text, htext, hafter⟩ := exists_writesDigits_of_readDigits hread
    exact ⟨text, _, htext, hafter, rfl⟩
  cases s with
  | nil =>
      cases h
      exact ⟨[], .none, rfl⟩
  | cons e after =>
      unfold readExponent at h
      dsimp only at h
      split at h
      · rename_i he
        split at h
        · obtain ⟨text, digits, htext, rfl, rfl⟩ := hdigits _ _ h
          exact ⟨_, .plus he htext, rfl⟩
        · obtain ⟨text, digits, htext, rfl, rfl⟩ := hdigits _ _ h
          exact ⟨_, .minus he htext, rfl⟩
        · obtain ⟨text, digits, htext, rfl, rfl⟩ := hdigits _ _ h
          exact ⟨_, .unsigned he htext, rfl⟩
      · cases h
        exact ⟨[], .none, rfl⟩

/-! ## Literals -/

/-- An exponent starts with a letter, so the digits before it end there. -/
theorem WritesExponent.ends {text rest : List Char} {exponent : Option (Bool × List Nat)}
    (h : WritesExponent text exponent) (hrest : EndsNumber rest) :
    EndsDigits (text ++ rest) ∧ (text ++ rest).head? ≠ some '.' := by
  have hletter (e : Char) (he : e = 'e' ∨ e = 'E') (more : List Char) :
      EndsDigits (e :: more) ∧ (e :: more).head? ≠ some '.' := by
    constructor
    · rintro c ⟨⟩
      rcases he with rfl | rfl <;> decide
    · rcases he with rfl | rfl <;> simp
  cases h with
  | none =>
      refine ⟨fun c hc => (hrest c hc).1, ?_⟩
      intro hdot
      exact (hrest '.' hdot).2.1 rfl
  | unsigned he h => exact hletter _ he _
  | plus he h => exact hletter _ he _
  | minus he h => exact hletter _ he _

theorem WritesFraction.endsDigits {text rest : List Char} {fraction : Option (List Nat)}
    (h : WritesFraction text fraction) (hrest : EndsDigits rest) : EndsDigits (text ++ rest) := by
  cases h with
  | none => exact hrest
  | some h =>
      rintro c ⟨⟩
      decide

/-- A literal is read as its parts, and nothing behind it is taken. -/
theorem read_append {text rest : List Char} {t : NumberText} (h : Spells text t)
    (hrest : EndsNumber rest) : read (text ++ rest) = .ok (t, rest) := by
  obtain ⟨negative, w, f, e⟩ := t
  cases h with
  | @parts whole fraction exponent _ hwhole hfraction hexponent =>
      dsimp only at hwhole hfraction hexponent ⊢
      obtain ⟨hdigits, hdot⟩ := hexponent.ends hrest
      have hreadExponent := readExponent_append hexponent hrest
      have hreadFraction := readFraction_append hfraction hdigits hdot
      have hreadWhole := readWhole_append hwhole (hfraction.endsDigits hdigits)
      cases negative with
      | true =>
          simp [read, hreadWhole, hreadFraction, hreadExponent, bind, Except.bind, pure,
            Except.pure]
      | false =>
          obtain ⟨first, more, rfl⟩ := List.exists_cons_of_ne_nil hwhole.ne_nil
          have hsign : first ≠ '-' := by
            rintro rfl
            exact absurd (hwhole.isDigit '-' List.mem_cons_self) (by decide)
          rw [List.cons_append] at hreadWhole
          simp [read, hsign, hreadWhole, hreadFraction, hreadExponent, bind, Except.bind, pure,
            Except.pure]

/-- Parts that are read stood in front as the text of a literal. -/
theorem exists_spells_of_read {s rest : List Char} {t : NumberText} (h : read s = .ok (t, rest)) :
    ∃ text, Spells text t ∧ s = text ++ rest := by
  have hparts (negative : Bool) (after : List Char)
      (h : (readWhole after >>= fun w => readFraction w.2 >>= fun f => readExponent f.2 >>= fun e =>
        pure (⟨negative, w.1, f.1, e.1⟩, e.2)) = Except.ok (t, rest)) :
      ∃ text, Spells ((if negative then ['-'] else []) ++ text) t ∧ after = text ++ rest := by
    obtain ⟨⟨w, s⟩, hw, h⟩ := exists_ok_of_bind h
    obtain ⟨⟨f, s⟩, hf, h⟩ := exists_ok_of_bind h
    obtain ⟨⟨e, s⟩, he, h⟩ := exists_ok_of_bind h
    cases h
    obtain ⟨whole, hwhole, rfl⟩ := exists_writesWhole_of_readWhole hw
    obtain ⟨fraction, hfraction, rfl⟩ := exists_writesFraction_of_readFraction hf
    obtain ⟨exponent, hexponent, rfl⟩ := exists_writesExponent_of_readExponent he
    refine ⟨whole ++ (fraction ++ exponent), ?_, by simp only [List.append_assoc]⟩
    exact .parts (t := ⟨negative, w, f, e⟩) hwhole hfraction hexponent
  unfold read at h
  dsimp only at h
  split at h
  · obtain ⟨text, htext, rfl⟩ := hparts true _ h
    exact ⟨_, htext, rfl⟩
  · obtain ⟨text, htext, rfl⟩ := hparts false _ h
    exact ⟨_, htext, rfl⟩

/-- A literal is read as far as its text goes, and is sound where it has a value. -/
theorem readLeaf_append {text rest : List Char} {t : NumberText} (h : Spells text t)
    (hrest : EndsNumber rest) :
    ∃ leaf, readLeaf (text ++ rest) = (leaf, some rest) ∧
      ∀ n, leaf.value = .ok n ↔ t.value = some n := by
  unfold readLeaf
  rw [read_append h hrest]
  dsimp only
  cases t.value with
  | none => exact ⟨_, rfl, by simp⟩
  | some n => exact ⟨_, rfl, by simp [Leaf.sound]⟩

theorem exists_spells_of_readLeaf {s : List Char} {leaf : Leaf JsonNumber}
    {rest : Option (List Char)} {n : JsonNumber} (hread : readLeaf s = (leaf, rest))
    (h : leaf.value = .ok n) :
    ∃ text after t, Spells text t ∧ t.value = some n ∧ s = text ++ after ∧ rest = some after := by
  unfold readLeaf at hread
  cases hparts : read s with
  | error fault =>
      rw [hparts] at hread
      cases hread
      cases h
  | ok found =>
      obtain ⟨t, after⟩ := found
      obtain ⟨text, htext, hs⟩ := exists_spells_of_read hparts
      rw [hparts] at hread
      dsimp only at hread
      cases hvalue : t.value with
      | none =>
          rw [hvalue] at hread
          cases hread
          cases h
      | some m =>
          rw [hvalue] at hread
          cases hread
          cases h
          exact ⟨text, after, t, htext, hvalue, hs, rfl⟩

end NumberText
end BundleFront
