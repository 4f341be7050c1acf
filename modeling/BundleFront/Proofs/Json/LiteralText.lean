import BundleFront.Define
import BundleFront.Proofs.Json.NumberText
import BundleFront.Proofs.Json.NumberValue
import BundleFront.Proofs.Json.StringText

/-!
# JSON texts of literals

A literal is a JSON value without parts: one of three words, a string or a number that a
double can hold.  Its texts are what spells it, with any blanks around; a number is spelled
by the texts that denote it.

Two things are shown about them.  The reader finds a literal in a text exactly if the text
is one of the texts of this literal; whatever an array or an object holds, it is none.  And
these texts hardly overlap with identifier names: only the three words are both.

* `Literal.isText_iff` — the texts of a literal are those that are read as it.
* `Literal.IsNumberText.isText_iff` — the text of a number is a text of the double that the
  number denotes, and of no literal if it denotes none.
* `Literal.IsText.eq_word` — a text of a literal that is an identifier name is a word.
-/

namespace BundleFront

namespace Literal

open Document

/-- The JSON text of a literal, without blanks around it. -/
inductive Spells : List Char → Literal → Prop
  | null : Spells ['n', 'u', 'l', 'l'] .null
  | true : Spells ['t', 'r', 'u', 'e'] (.bool Bool.true)
  | false : Spells ['f', 'a', 'l', 's', 'e'] (.bool Bool.false)
  | string {text : List Char} {value : String} (h : StringText.Spells text value.toList) :
      Spells ('"' :: (text ++ ['"'])) (.string value)
  | number {text : List Char} {t : NumberText} {x : Float} (h : NumberText.Spells text t)
      (hx : t.Denotes x) : Spells text (.number x)

/-- Whether characters are all blanks. -/
def Blank (cs : List Char) : Prop := ∀ c ∈ cs, isBlank c = Bool.true

/-- A JSON text of a literal, perhaps with blanks around it. -/
def IsText (l : Literal) (text : String) : Prop :=
  ∃ before core after, Blank before ∧ Blank after ∧ Spells core l ∧
    text.toList = before ++ (core ++ after)

/-- A text of a number that need not be within range, perhaps with blanks around it. -/
def IsNumberText (t : NumberText) (text : String) : Prop :=
  ∃ before core after, Blank before ∧ Blank after ∧ NumberText.Spells core t ∧
    text.toList = before ++ (core ++ after)

/-! ## Blanks and words -/

theorem skipBlanks_append {before : List Char} (h : Blank before) (s : List Char) :
    skipBlanks (before ++ s) = skipBlanks s := List.dropWhile_append_of_pos h

theorem skipBlanks_eq_self {c : Char} (h : isBlank c = Bool.false) (s : List Char) :
    skipBlanks (c :: s) = c :: s := List.dropWhile_cons_of_neg (by simp [h])

/-- A word is read where all its letters stand. -/
theorem readWord_append {α : Type} (value : α) (letters s : List Char) :
    readWord value letters (letters ++ s) = (.sound value, some s) := by
  induction letters with
  | nil => rfl
  | cons letter letters ih =>
      rw [List.cons_append, readWord, if_pos rfl, ih]

theorem exists_append_of_readWord {α : Type} {value a : α} {letters s : List Char} {leaf : Leaf α}
    {rest : Option (List Char)} (hread : readWord value letters s = (leaf, rest))
    (h : leaf.value = .ok a) : ∃ after, s = letters ++ after ∧ a = value ∧ rest = some after := by
  induction letters generalizing s with
  | nil =>
      cases hread
      cases h
      exact ⟨s, rfl, rfl, rfl⟩
  | cons letter letters ih =>
      cases s with
      | nil =>
          cases hread
          cases h
      | cons c s =>
          rw [readWord] at hread
          by_cases hc : c = letter
          · rw [if_pos hc] at hread
            obtain ⟨after, rfl, ha, hrest⟩ := ih hread
            exact ⟨after, by rw [hc, List.cons_append], ha, hrest⟩
          · rw [if_neg hc] at hread
            cases hread
            cases h

theorem endsNumber_of_blank {rest : List Char} (h : Blank rest) : NumberText.EndsNumber rest := by
  intro c hc
  have hblank := h c (List.mem_of_mem_head? hc)
  simp only [isBlank, Bool.or_eq_true, beq_iff_eq] at hblank
  rcases hblank with ((rfl | rfl) | rfl) | rfl <;> decide

/-! ## The front of a literal -/

theorem exists_sign_or_digit {text : List Char} {t : NumberText} (h : NumberText.Spells text t) :
    ∃ c rest, text = c :: rest ∧ (c = '-' ∨ c.isDigit = Bool.true) := by
  cases h with
  | @parts whole fraction exponent _ hwhole hfraction hexponent =>
      cases t.negative with
      | true => exact ⟨'-', _, rfl, .inl rfl⟩
      | false =>
          obtain ⟨first, more, rfl⟩ := List.exists_cons_of_ne_nil hwhole.ne_nil
          exact ⟨first, _, rfl, .inr (hwhole.isDigit first List.mem_cons_self)⟩

/-- Whether a literal can start with a character. -/
def Opens (c : Char) : Prop := c ∈ ['n', 't', 'f', '"', '-'] ∨ c.isDigit = Bool.true

instance (c : Char) : Decidable (Opens c) := inferInstanceAs (Decidable (_ ∨ _))

theorem Spells.exists_opens {core : List Char} {l : Literal} (h : Spells core l) :
    ∃ c rest, core = c :: rest ∧ Opens c := by
  cases h with
  | null => exact ⟨_, _, rfl, by decide⟩
  | true => exact ⟨_, _, rfl, by decide⟩
  | false => exact ⟨_, _, rfl, by decide⟩
  | string h => exact ⟨_, _, rfl, by decide⟩
  | number h hx =>
      obtain ⟨c, rest, rfl, hc⟩ := exists_sign_or_digit h
      exact ⟨c, rest, rfl, hc.imp (by rintro rfl; decide) id⟩

theorem Opens.isBlank_eq_false {c : Char} (h : Opens c) : isBlank c = Bool.false := by
  rw [Bool.eq_false_iff]
  intro hblank
  simp only [isBlank, Bool.or_eq_true, beq_iff_eq] at hblank
  rcases hblank with ((rfl | rfl) | rfl) | rfl <;> exact absurd h (by decide)

theorem Spells.skipBlanks_eq {core : List Char} {l : Literal} (h : Spells core l)
    {before : List Char} (hbefore : Blank before) (after : List Char) :
    skipBlanks (before ++ (core ++ after)) = core ++ after := by
  obtain ⟨c, rest, rfl, hc⟩ := h.exists_opens
  rw [skipBlanks_append hbefore, List.cons_append, skipBlanks_eq_self hc.isBlank_eq_false]

/-! ## Reading -/

/-- What a number starts with starts nothing else. -/
theorem readValue_of_numeric {c : Char} (h : c = '-' ∨ c.isDigit = Bool.true) {s more : List Char}
    (hs : skipBlanks s = c :: more) :
    readValue s =
      (.number (NumberText.readLeaf (c :: more)).1, (NumberText.readLeaf (c :: more)).2) := by
  have hnumeric : (decide (c = '-') || c.isDigit) = Bool.true := by simpa using h
  rw [readValue, hs]
  dsimp only
  split
  case h_7 => rw [if_pos hnumeric]
  all_goals exact absurd hnumeric (by decide)

/-- Blanks around the text of a number are passed over. -/
theorem readValue_number {core : List Char} {t : NumberText} (h : NumberText.Spells core t)
    {before after : List Char} (hbefore : Blank before) (hafter : Blank after) :
    ∃ leaf, readValue (before ++ (core ++ after)) = (.number leaf, some after) ∧
      ∀ n, leaf.value = .ok n ↔ t.value = some n := by
  obtain ⟨leaf, hread, hleaf⟩ := NumberText.readLeaf_append h (endsNumber_of_blank hafter)
  obtain ⟨c, rest, rfl, hc⟩ := exists_sign_or_digit h
  have hopens : Opens c := hc.imp (by rintro rfl; decide) id
  have hskip : skipBlanks (before ++ (c :: rest ++ after)) = c :: (rest ++ after) := by
    rw [skipBlanks_append hbefore, List.cons_append, skipBlanks_eq_self hopens.isBlank_eq_false]
  refine ⟨leaf, ?_, hleaf⟩
  rw [readValue_of_numeric hc hskip, ← List.cons_append, hread]

/-- Blanks around the text of a literal are passed over, and the literal is read. -/
theorem readValue_append {core : List Char} {l : Literal} (h : Spells core l)
    {before after : List Char} (hbefore : Blank before) (hafter : Blank after) :
    ∃ document v, readValue (before ++ (core ++ after)) = (document, some after) ∧
      document.value = .ok v ∧ ofJson? v = some l := by
  have hskip := h.skipBlanks_eq hbefore after
  cases h with
  | null =>
      have hword := readWord_append () ['u', 'l', 'l'] after
      refine ⟨.null (.sound ()), .null, ?_, rfl, rfl⟩
      rw [readValue, hskip]
      exact congrArg (fun read => (Document.null read.1, read.2)) hword
  | true =>
      have hword := readWord_append Bool.true ['r', 'u', 'e'] after
      refine ⟨.bool (.sound Bool.true), .bool Bool.true, ?_, rfl, rfl⟩
      rw [readValue, hskip]
      exact congrArg (fun read => (Document.bool read.1, read.2)) hword
  | false =>
      have hword := readWord_append Bool.false ['a', 'l', 's', 'e'] after
      refine ⟨.bool (.sound Bool.false), .bool Bool.false, ?_, rfl, rfl⟩
      rw [readValue, hskip]
      exact congrArg (fun read => (Document.bool read.1, read.2)) hword
  | @string text value h =>
      have hleaf := StringText.readLeaf_append h after
      refine ⟨.string (.sound value), .string value, ?_, rfl, rfl⟩
      rw [readValue, hskip, List.cons_append, List.append_assoc]
      exact congrArg (fun read => (Document.string read.1, read.2)) hleaf
  | @number text t x h hx =>
      obtain ⟨n, hn, rfl⟩ := Option.map_eq_some_iff.mp (NumberText.denotes_iff.mp hx)
      obtain ⟨leaf, hread, hleaf⟩ := readValue_number h hbefore hafter
      refine ⟨.number leaf, .number n, hread, ?_, by cases n <;> rfl⟩
      rw [Document.value, (hleaf n).mpr hn]
      rfl

theorem ofJson?_of_array {items : List Document} {fault : Option Fault} {v : Json}
    (h : (Document.array items fault).value = .ok v) : ofJson? v = none := by
  rw [Document.value] at h
  obtain ⟨values, -, hresult⟩ := exists_ok_of_bind h
  cases fault with
  | none =>
      cases hresult
      rfl
  | some fault => cases hresult

theorem ofJson?_of_object {members : List (Leaf String × Document)} {fault : Option Fault}
    {v : Json} (h : (Document.object members fault).value = .ok v) : ofJson? v = none := by
  rw [Document.value] at h
  obtain ⟨values, -, hresult⟩ := exists_ok_of_bind h
  cases fault with
  | none =>
      cases hresult
      rfl
  | some fault => cases hresult

/-- A literal that is read stood behind blanks as one of its texts. -/
theorem exists_spells_of_readValue {s : List Char} {document : Document}
    {rest : Option (List Char)} {v : Json} {l : Literal} (h : readValue s = (document, rest))
    (hvalue : document.value = .ok v) (hliteral : ofJson? v = some l) :
    ∃ before core after, Blank before ∧ Spells core l ∧ s = before ++ (core ++ after) ∧
      rest = some after := by
  have hs : s = s.takeWhile isBlank ++ skipBlanks s := List.takeWhile_append_dropWhile.symm
  have hblank : Blank (s.takeWhile isBlank) := fun c hc => List.mem_takeWhile_imp hc
  -- It is enough to find the text of the literal behind the blanks.
  suffices hcore : ∃ core after, Spells core l ∧ skipBlanks s = core ++ after ∧ rest = some after by
    obtain ⟨core, after, hspells, hskip, hrest⟩ := hcore
    exact ⟨_, core, after, hblank, hspells, by rw [← hskip]; exact hs, hrest⟩
  clear hs hblank
  rw [readValue] at h
  split at h
  · cases h
    cases hvalue
  · rename_i c more hskip
    rw [hskip]
    split at h
    case h_1 =>
      generalize hread : readWord () _ more = read at h
      cases h
      obtain ⟨a, hleaf, rfl⟩ := exists_ok_of_map hvalue
      obtain ⟨after, rfl, -, hrest⟩ := exists_append_of_readWord hread hleaf
      cases hliteral
      exact ⟨_, after, .null, rfl, hrest⟩
    case h_2 =>
      generalize hread : readWord Bool.true _ more = read at h
      cases h
      obtain ⟨a, hleaf, rfl⟩ := exists_ok_of_map hvalue
      obtain ⟨after, rfl, rfl, hrest⟩ := exists_append_of_readWord hread hleaf
      cases hliteral
      exact ⟨_, after, .true, rfl, hrest⟩
    case h_3 =>
      generalize hread : readWord Bool.false _ more = read at h
      cases h
      obtain ⟨a, hleaf, rfl⟩ := exists_ok_of_map hvalue
      obtain ⟨after, rfl, rfl, hrest⟩ := exists_append_of_readWord hread hleaf
      cases hliteral
      exact ⟨_, after, .false, rfl, hrest⟩
    case h_4 =>
      generalize hread : StringText.readLeaf more = read at h
      cases h
      obtain ⟨value, hleaf, rfl⟩ := exists_ok_of_map hvalue
      obtain ⟨text, after, htext, rfl, hrest⟩ := StringText.exists_spells_of_readLeaf hread hleaf
      cases hliteral
      exact ⟨_, after, .string htext, by simp, hrest⟩
    case h_5 =>
      -- An array is no literal, whatever its items are.
      split at h
      · cases h
        simp [ofJson?_of_array hvalue] at hliteral
      · split at h
        · cases h
          simp [ofJson?_of_array hvalue] at hliteral
        · cases h
          cases hvalue
    case h_6 =>
      split at h
      · cases h
        simp [ofJson?_of_object hvalue] at hliteral
      · split at h
        · cases h
          simp [ofJson?_of_object hvalue] at hliteral
        · cases h
          cases hvalue
    case h_7 =>
      split at h
      · generalize hread : NumberText.readLeaf (c :: more) = read at h
        cases h
        obtain ⟨n, hleaf, rfl⟩ := exists_ok_of_map hvalue
        obtain ⟨text, after, t, htext, ht, hcore, hrest⟩ :=
          NumberText.exists_spells_of_readLeaf hread hleaf
        have hx : t.Denotes n.toFloat := NumberText.denotes_iff.mpr (by rw [ht, Option.map_some])
        refine ⟨text, after, ?_, hcore, hrest⟩
        cases n
        · cases hliteral
          exact .number htext hx
        · cases hliteral
          exact .number htext hx
      · cases h
        cases hvalue

/-! ## Texts -/

theorem isEmpty_skipBlanks_iff (s : List Char) : (skipBlanks s).isEmpty = Bool.true ↔ Blank s := by
  rw [List.isEmpty_iff, skipBlanks, List.dropWhile_eq_nil_iff]
  rfl

/-- A text has a value where one is read and nothing but blanks is left. -/
theorem parse_eq_ok_iff {text : String} {v : Json} :
    Json.parse text = .ok v ↔ (readValue text.toList).1.value = .ok v ∧
      ∀ after, (readValue text.toList).2 = some after → Blank after := by
  unfold Json.parse ofText
  generalize readValue text.toList = read
  obtain ⟨document, rest⟩ := read
  dsimp only
  cases rest with
  | none =>
      dsimp only
      cases document.value <;> simp
  | some after =>
      dsimp only
      simp only [Option.some.injEq, forall_eq', ← isEmpty_skipBlanks_iff]
      cases (skipBlanks after).isEmpty <;> cases document.value <;> simp

/-- The value of a text is a literal exactly if the text is one of the texts of this literal. -/
theorem isText_iff {text : String} {l : Literal} :
    l.IsText text ↔ ∃ v, Json.parse text = .ok v ∧ ofJson? v = some l := by
  constructor
  · rintro ⟨before, core, after, hbefore, hafter, hcore, htext⟩
    obtain ⟨document, v, hread, hvalue, hliteral⟩ := readValue_append hcore hbefore hafter
    rw [← htext] at hread
    refine ⟨v, parse_eq_ok_iff.mpr ⟨by rw [hread]; exact hvalue, ?_⟩, hliteral⟩
    rw [hread]
    rintro _ ⟨⟩
    exact hafter
  · rintro ⟨v, hparse, hliteral⟩
    obtain ⟨hvalue, hrest⟩ := parse_eq_ok_iff.mp hparse
    obtain ⟨before, core, after, hbefore, hcore, htext, hafter⟩ :=
      exists_spells_of_readValue rfl hvalue hliteral
    exact ⟨before, core, after, hbefore, hrest after hafter, hcore, htext⟩

/-- The text of a number is a text of the double that the number denotes, and of nothing else. -/
theorem IsNumberText.isText_iff {t : NumberText} {text : String} (h : IsNumberText t text)
    {l : Literal} : l.IsText text ↔ ∃ x, l = .number x ∧ t.Denotes x := by
  obtain ⟨before, core, after, hbefore, hafter, hcore, htext⟩ := h
  constructor
  · intro hl
    obtain ⟨v, hparse, hliteral⟩ := Literal.isText_iff.mp hl
    obtain ⟨hvalue, -⟩ := parse_eq_ok_iff.mp hparse
    obtain ⟨leaf, hread, hleaf⟩ := readValue_number hcore hbefore hafter
    rw [htext, hread, Document.value] at hvalue
    obtain ⟨n, hn, rfl⟩ := exists_ok_of_map hvalue
    refine ⟨n.toFloat, ?_, NumberText.denotes_iff.mpr (by rw [(hleaf n).mp hn, Option.map_some])⟩
    cases n <;> exact (Option.some.inj hliteral).symm
  · rintro ⟨x, rfl, hx⟩
    exact ⟨before, core, after, hbefore, hafter, .number hcore hx, htext⟩

/-! ## Identifier names -/

theorem isNameStart_of_isDigit {c : Char} (h : c.isDigit = Bool.true) :
    Text.isNameStart c = Bool.false := by
  have hdigits : ∀ n < 10, Text.isNameStart (Char.ofNat (48 + n)) = Bool.false := by decide
  have hc : 48 ≤ c.toNat ∧ c.toNat ≤ 57 := by
    simpa [Char.isDigit, UInt32.le_iff_toNat_le] using h
  have hname := hdigits (c.toNat - 48) (by omega)
  rwa [show 48 + (c.toNat - 48) = c.toNat by omega, Char.ofNat_toNat] at hname

theorem isNamePart_of_isBlank {c : Char} (h : isBlank c = Bool.true) :
    Text.isNamePart c = Bool.false := by
  simp only [isBlank, Bool.or_eq_true, beq_iff_eq] at h
  rcases h with ((rfl | rfl) | rfl) | rfl <;> decide

theorem isNamePart_of_isNameStart {c : Char} (h : Text.isNameStart c = Bool.true) :
    Text.isNamePart c = Bool.true := by
  unfold Text.isNameStart at h
  unfold Text.isNamePart
  split
  · rename_i hascii
    rw [if_pos hascii] at h
    simp only [Char.isAlphanum, Bool.or_eq_true] at h ⊢
    tauto
  · rename_i hwide
    rw [if_neg hwide] at h
    simp [Text.isWideNamePart, h]

theorem isNamePart_of_mem {text : String} (h : Text.isIdentifierName text = Bool.true) :
    ∀ c ∈ text.toList, Text.isNamePart c = Bool.true := by
  unfold Text.isIdentifierName at h
  cases htext : text.toList with
  | nil => simp
  | cons first rest =>
      rw [htext] at h
      obtain ⟨hfirst, hrest⟩ := Bool.and_eq_true_iff.mp h
      rw [List.forall_mem_cons]
      exact ⟨isNamePart_of_isNameStart hfirst, List.all_eq_true.mp hrest⟩

theorem eq_nil_of_blank {cs : List Char} (hblank : Blank cs)
    (hname : ∀ c ∈ cs, Text.isNamePart c = Bool.true) : cs = [] := by
  cases cs with
  | nil => rfl
  | cons c rest =>
      have hpart := hname c List.mem_cons_self
      rw [isNamePart_of_isBlank (hblank c List.mem_cons_self)] at hpart
      contradiction

/-- A name has no blanks in front. -/
theorem isNameStart_of_isIdentifierName {text : String} {before rest : List Char} {c : Char}
    (hname : Text.isIdentifierName text = Bool.true) (hbefore : Blank before)
    (htext : text.toList = before ++ c :: rest) : Text.isNameStart c = Bool.true := by
  have hparts := isNamePart_of_mem hname
  rw [htext] at hparts
  obtain rfl : before = [] := eq_nil_of_blank hbefore fun c hc => hparts c (by simp [hc])
  rw [Text.isIdentifierName, htext] at hname
  exact (Bool.and_eq_true_iff.mp hname).1

/-- The text of a number is no name. -/
theorem IsNumberText.not_isIdentifierName {t : NumberText} {text : String}
    (h : IsNumberText t text) : Text.isIdentifierName text ≠ Bool.true := by
  intro hname
  obtain ⟨before, core, after, hbefore, -, hcore, htext⟩ := h
  obtain ⟨c, rest, rfl, hc⟩ := exists_sign_or_digit hcore
  have hstart := isNameStart_of_isIdentifierName hname hbefore htext
  rcases hc with rfl | hdigit
  · exact absurd hstart (by decide)
  · rw [isNameStart_of_isDigit hdigit] at hstart
    contradiction

/-- Names hold no blanks and start neither with a quote nor with a digit or a sign. -/
theorem IsText.eq_word {text : String} {l : Literal} (h : l.IsText text)
    (hname : Text.isIdentifierName text = Bool.true) :
    text = "null" ∨ text = "true" ∨ text = "false" := by
  obtain ⟨before, core, after, hbefore, hafter, hcore, htext⟩ := h
  have hparts := isNamePart_of_mem hname
  rw [htext] at hparts
  obtain rfl : before = [] := eq_nil_of_blank hbefore fun c hc => hparts c (by simp [hc])
  obtain rfl : after = [] := eq_nil_of_blank hafter fun c hc => hparts c (by simp [hc])
  rw [List.nil_append, List.append_nil] at htext
  cases hcore with
  | null => exact .inl (String.toList_inj.mp htext)
  | true => exact .inr (.inl (String.toList_inj.mp htext))
  | false => exact .inr (.inr (String.toList_inj.mp htext))
  | string h => exact absurd (isNameStart_of_isIdentifierName hname hbefore htext) (by decide)
  | number h =>
      have hnumber : IsNumberText _ text := ⟨[], core, [], hbefore, hafter, h, by simpa using htext⟩
      exact absurd hname hnumber.not_isIdentifierName

/-- What a printer writes for a string is a text of this string. -/
theorem isText_encodeString (value : String) :
    IsText (.string value) (Json.encodeString value) := by
  refine ⟨[], _, [], by simp [Blank], by simp [Blank],
    .string (StringText.spells_flatMap_escapedChar value.toList), ?_⟩
  simp [Json.encodeString]

end Literal
end BundleFront
