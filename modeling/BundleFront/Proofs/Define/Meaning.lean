import BundleFront.Proofs.Define
import BundleFront.Proofs.Json.LiteralText
import BundleFront.Proofs.Json.NumberAccuracy
import BundleFront.Proofs.Settings.Check

/-!
# What the text of a define means

The text of a define is read in two languages.  A name that a variable can have means this
variable; of the other texts, the JSON text of a literal means the literal.  All others mean
nothing, and are reported.

Names and literals hardly overlap: the texts that belong to both languages are `null`, `true`
and `false`, and no variable can have one of these names.  So no text of a literal is lost to
a variable, and a string that is written as JSON always comes back as itself.  A number comes
back as a double close to it, and means nothing where it is larger than all doubles.

* `DefineValue.Means` — the three cases.
* `DefineValue.means_iff` — every text has just one meaning, the one that is read.
* `DefineValue.determines_parse?` — what this says about names, keywords, strings, numbers, arrays
  and objects, and about a define that is applied in a scope.
* `compileDefines_means` — one define among others: what its path has in the compiled table, and
  what is reported for it.
-/

namespace BundleFront
namespace DefineValue

open Document (isBlank)

/-- Whether a text is the name of a variable. -/
def NamesVariable (text : String) : Prop :=
  Text.isIdentifierName text = true ∧ text ∉ keywords

/-- The meaning of the text of a define, if it has one. -/
inductive Means (text : String) : Option DefineValue → Prop
  | reference (hname : NamesVariable text) : Means text (some (.reference text))
  | literal {l : Literal} (hname : ¬ NamesVariable text) (hliteral : l.IsText text) :
      Means text (some (.literal l))
  | nothing (hname : ¬ NamesVariable text) (hliteral : ∀ l : Literal, ¬ l.IsText text) :
      Means text none

theorem namesVariable_iff {text : String} :
    NamesVariable text ↔ (Text.isIdentifierName text && !isKeyword text) = true := by
  simp [NamesVariable, isKeyword]

/-- A text of a literal names no variable: the words that literals and names share are keywords. -/
theorem not_namesVariable_of_isText {text : String} {l : Literal} (h : l.IsText text) :
    ¬ NamesVariable text := by
  rintro ⟨hname, hkeyword⟩
  have hword : text ∈ keywords := by
    rcases h.eq_word hname with rfl | rfl | rfl <;> decide
  exact hkeyword hword

/-- What is no name is read as a literal, if it is read at all. -/
theorem parse?_eq_some_iff_of_not_namesVariable {text : String} (h : ¬ NamesVariable text)
    {value : DefineValue} :
    parse? text = some value ↔ ∃ l : Literal, l.IsText text ∧ value = .literal l := by
  rw [namesVariable_iff] at h
  simp only [Literal.isText_iff]
  rw [parse?, if_neg h]
  cases Json.parse text with
  | error fault => simp
  | ok v =>
      constructor
      · intro hparse
        obtain ⟨l, hl, rfl⟩ := Option.map_eq_some_iff.mp hparse
        exact ⟨l, ⟨v, rfl, hl⟩, rfl⟩
      · rintro ⟨l, ⟨_, ⟨⟩, hl⟩, rfl⟩
        exact Option.map_eq_some_iff.mpr ⟨l, hl, rfl⟩

/-- Every text has just one meaning, the one that is read. -/
theorem means_iff {text : String} {meaning : Option DefineValue} :
    Means text meaning ↔ parse? text = meaning := by
  constructor
  · rintro (hname | ⟨hname, hliteral⟩ | ⟨hname, hliteral⟩)
    · rw [parse?, if_pos (namesVariable_iff.mp hname)]
    · exact (parse?_eq_some_iff_of_not_namesVariable hname).mpr ⟨_, hliteral, rfl⟩
    · rw [Option.eq_none_iff_forall_ne_some]
      intro value hvalue
      obtain ⟨l, hl, -⟩ := (parse?_eq_some_iff_of_not_namesVariable hname).mp hvalue
      exact hliteral l hl
  · rintro rfl
    by_cases hname : NamesVariable text
    · rw [parse?, if_pos (namesVariable_iff.mp hname)]
      exact .reference hname
    · cases hparse : parse? text with
      | none =>
          refine .nothing hname fun l hl => ?_
          have hsome := (parse?_eq_some_iff_of_not_namesVariable hname).mpr ⟨l, hl, rfl⟩
          rw [hparse] at hsome
          cases hsome
      | some value =>
          obtain ⟨l, hl, rfl⟩ := (parse?_eq_some_iff_of_not_namesVariable hname).mp hparse
          exact .literal hname hl

theorem means_literal_iff {text : String} {l : Literal} :
    Means text (some (.literal l)) ↔ l.IsText text := by
  constructor
  · rintro ⟨_, hliteral⟩
    assumption
  · intro hliteral
    exact .literal (not_namesVariable_of_isText hliteral) hliteral

/-- Of the keywords, those that are no literals mean nothing. -/
theorem means_none_of_mem_keywords {text : String} (h : text ∈ keywords)
    (hwords : text ∉ ["null", "true", "false"]) : Means text none := by
  refine .nothing (fun hname => hname.2 h) fun l hl => ?_
  have hnames : ∀ keyword ∈ keywords, Text.isIdentifierName keyword = true := by decide
  have hword := hl.eq_word (hnames text h)
  simp [hword] at hwords

/-- The texts of arrays and objects mean nothing, nor does any other text with such a front. -/
theorem means_none_of_bracket {text : String} {before rest : List Char} {c : Char}
    (hbefore : Literal.Blank before) (hc : c = '[' ∨ c = '\x7b')
    (htext : text.toList = before ++ c :: rest) : Means text none := by
  have hpart : Text.isNamePart c = false := by
    rcases hc with rfl | rfl <;> decide
  have hblank : isBlank c = false := by
    rcases hc with rfl | rfl <;> decide
  have hopens : ¬ Literal.Opens c := by
    rcases hc with rfl | rfl <;> decide
  -- The bracket is no part of a name, and what stands first behind the blanks opens no literal.
  refine .nothing ?_ ?_
  · rintro ⟨hname, -⟩
    have hc' := Literal.isNamePart_of_mem hname c (by simp [htext])
    rw [hpart] at hc'
    contradiction
  · rintro l ⟨blanks, core, after, hblanks, -, hcore, hliteral⟩
    obtain ⟨first, more, rfl, hfirst⟩ := hcore.exists_opens
    have hskip := hcore.skipBlanks_eq hblanks after
    rw [← hliteral, htext, Literal.skipBlanks_append hbefore, Literal.skipBlanks_eq_self hblank,
      List.cons_append] at hskip
    obtain ⟨rfl, -⟩ := List.cons.inj hskip
    exact hopens hfirst

/-- What the scope knows under other names plays no part. -/
theorem evaluate_eq_evaluate_iff {ρ : Type} (find other : String → ρ) (value : DefineValue) :
    value.evaluate find = value.evaluate other ↔
      ∀ name, value = .reference name → find name = other name := by
  cases value with
  | reference name => simp [evaluate]
  | literal l => simp [evaluate]

/-- A string that is written as JSON, in whatever way, comes back as this string. -/
theorem means_string {text : String} {cs : List Char} {s : String}
    (hspells : StringText.Spells cs s.toList) (htext : text.toList = '"' :: (cs ++ ['"'])) :
    Means text (some (.literal (.string s))) := by
  refine means_literal_iff.mpr ⟨[], _, [], ?_, ?_, .string hspells, ?_⟩
  · simp [Literal.Blank]
  · simp [Literal.Blank]
  · simp [htext]

section
variable {text : String} {t : NumberText}

/-- The text of a number means a double that it denotes, and nothing where there is none. -/
theorem parse?_eq_some_iff_of_isNumberText (h : Literal.IsNumberText t text)
    {value : DefineValue} :
    parse? text = some value ↔ ∃ x, value = .literal (.number x) ∧ t.Denotes x := by
  have hname : ¬ NamesVariable text := fun hname => h.not_isIdentifierName hname.1
  rw [parse?_eq_some_iff_of_not_namesVariable hname]
  constructor
  · rintro ⟨l, hl, rfl⟩
    obtain ⟨x, rfl, hx⟩ := h.isText_iff.mp hl
    exact ⟨x, rfl, hx⟩
  · rintro ⟨x, rfl, hx⟩
    exact ⟨.number x, h.isText_iff.mpr ⟨x, rfl, hx⟩, rfl⟩

theorem isDecimal_of_isNumberText (h : Literal.IsNumberText t text) : t.IsDecimal := by
  obtain ⟨_, _, _, -, -, hcore, -⟩ := h
  exact hcore.isDecimal

/-- A number within range is a double close to it. -/
theorem exists_number_of_decimal_le (h : Literal.IsNumberText t text)
    (hexponent : t.exponentSize < 2 ^ 31)
    (hlimit : t.decimal ≤ (1 - 1 / 2 ^ 48) * 2 ^ 1024) :
    ∃ x q, parse? text = some (.literal (.number x)) ∧ Double.Holds x t.sign q ∧
      t.Approximates q := by
  have hclose := NumberText.approximates_rounded (isDecimal_of_isNumberText h) hexponent
  obtain ⟨x, hx⟩ := NumberText.exists_denotes (hclose.lt hlimit)
  exact ⟨x, t.rounded, (parse?_eq_some_iff_of_isNumberText h).mpr ⟨x, rfl, hx⟩, hx.2, hclose⟩

/-- A number that is too large means nothing. -/
theorem parse?_eq_none_of_le_decimal (h : Literal.IsNumberText t text)
    (hexponent : t.exponentSize < 2 ^ 31)
    (hlimit : (1 + 1 / 2 ^ 48) * 2 ^ 1024 ≤ t.decimal) : parse? text = none := by
  have hclose := NumberText.approximates_rounded (isDecimal_of_isNumberText h) hexponent
  rw [Option.eq_none_iff_forall_ne_some]
  intro value hvalue
  obtain ⟨x, -, hx⟩ := (parse?_eq_some_iff_of_isNumberText h).mp hvalue
  exact absurd hx.1 (hclose.le hlimit).not_gt

end

/-- What the text of a define means, and what this says about particular texts. -/
structure Determines (text : String) (meaning : Option DefineValue) : Prop where
  means : Means text meaning
  unique : ∀ other, Means text other → other = meaning
  /-- The name of a variable is the text of no literal. -/
  name_or_literal : NamesVariable text → ∀ l : Literal, ¬ l.IsText text
  /-- The only keywords that mean anything are three literals. -/
  keyword : text ∈ keywords → text ∉ ["null", "true", "false"] → meaning = none
  /-- Arrays and objects mean nothing. -/
  bracket : ∀ blanks rest c, Literal.Blank blanks → c = '[' ∨ c = '\x7b' →
    text.toList = blanks ++ c :: rest → meaning = none
  /-- A string that a printer writes means this string. -/
  printed : ∀ s, text = Json.encodeString s → meaning = some (.literal (.string s))
  /-- So does a string that is written in any other way. -/
  spelled : ∀ s cs, StringText.Spells cs s.toList → text.toList = '"' :: (cs ++ ['"']) →
    meaning = some (.literal (.string s))
  /-- A number means the double that it denotes, if there is one. -/
  number : ∀ t : NumberText, Literal.IsNumberText t text → ∀ value,
    meaning = some value ↔ ∃ x, value = .literal (.number x) ∧ t.Denotes x
  /-- This double is close to what is written, and the nearest one where only the last step is
  rounded. -/
  number_within : ∀ t : NumberText, Literal.IsNumberText t text →
    t.exponentSize < 2 ^ 31 → t.decimal ≤ (1 - 1 / 2 ^ 48) * 2 ^ 1024 →
      ∃ x q, meaning = some (.literal (.number x)) ∧ Double.Holds x t.sign q ∧ t.Approximates q
  /-- What is larger than all doubles means nothing. -/
  number_beyond : ∀ t : NumberText, Literal.IsNumberText t text →
    t.exponentSize < 2 ^ 31 → (1 + 1 / 2 ^ 48) * 2 ^ 1024 ≤ t.decimal →
      meaning = none
  /-- In a scope, a reference is what the scope knows under its name. -/
  evaluate_reference : ∀ name, meaning = some (.reference name) → ∀ (ρ : Type) (find : String → ρ),
    (DefineValue.reference name).evaluate find = .identifier (find name)
  /-- The scope plays no other part. -/
  evaluate_eq_iff : ∀ value, meaning = some value → ∀ (ρ : Type) (find other : String → ρ),
    value.evaluate find = value.evaluate other ↔
      ∀ name, value = .reference name → find name = other name

theorem determines_parse? (text : String) : Determines text (parse? text) := by
  have hread {meaning : Option DefineValue} (h : Means text meaning) : parse? text = meaning :=
    means_iff.mp h
  exact {
    means := means_iff.mpr rfl
    unique := fun other hother => (hread hother).symm
    name_or_literal := fun hname l hliteral => not_namesVariable_of_isText hliteral hname
    keyword := fun hkeyword hwords => hread (means_none_of_mem_keywords hkeyword hwords)
    bracket := fun blanks rest c hblanks hc htext =>
      hread (means_none_of_bracket hblanks hc htext)
    printed := by
      rintro s rfl
      exact hread (means_literal_iff.mpr (Literal.isText_encodeString s))
    spelled := fun s cs hspells htext => hread (means_string hspells htext)
    number := fun t ht value => parse?_eq_some_iff_of_isNumberText ht
    number_within := fun t ht hexponent hlimit => exists_number_of_decimal_le ht hexponent hlimit
    number_beyond := fun t ht hexponent hlimit => parse?_eq_none_of_le_decimal ht hexponent hlimit
    evaluate_reference := fun name _ ρ find => rfl
    evaluate_eq_iff := fun value _ ρ find other => evaluate_eq_evaluate_iff find other value }

end DefineValue

/-! ## One define among others -/

section
variable {before after : List (String × String)} {pureFunctions : List String} {key text : String}

/-- The define of a key decides alone what the key means. -/
theorem definedValue?_middle
    (hkeys : (Table.keys (before ++ (key, text) :: after)).Nodup) :
    definedValue? (before ++ (key, text) :: after) key = DefineValue.parse? text := by
  have hget : Table.get? key (before ++ (key, text) :: after) = some text :=
    (Table.mem_iff_get?_eq_some hkeys).mp (by simp)
  rw [definedValue?, hget, Option.bind_some]

/-- A path has the value that the define of its key means, also where the define means nothing and
the key is a pure function. -/
theorem bind_value_get?_ofKeys_dataByKey {defines : List (String × String)}
    (hkeys : (Table.keys defines).Nodup) (hkey : isIdentifierPath key = true) :
    ((DefineTable.ofKeys (dataByKey defines pureFunctions)).get? (Text.segments '.' key)).bind
      DefineData.value = definedValue? defines key := by
  cases hget : (DefineTable.ofKeys (dataByKey defines pureFunctions)).get?
      (Text.segments '.' key) with
  | none =>
      -- The key is not known, so its define has no meaning.
      by_contra hne
      have hsome : (definedValue? defines key).isSome = true := by
        rw [Option.isSome_iff_ne_none]
        exact fun hnone => hne hnone.symm
      have hknown : isKnown defines pureFunctions key = true := by
        rw [isKnown, hkey, hsome, Bool.true_or, Bool.true_and]
      have hdata : (DefineTable.ofKeys (dataByKey defines pureFunctions)).get?
          (Text.segments '.' key) =
            some ⟨definedValue? defines key, pureFunctions.contains key⟩ :=
        (get?_ofKeys_dataByKey_eq_some_iff hkeys).mpr
          ⟨key, rfl, hknown, rfl, List.contains_iff_mem⟩
      rw [hget] at hdata
      cases hdata
  | some data =>
      obtain ⟨other, hsegments, -, hvalue, -⟩ := (get?_ofKeys_dataByKey_eq_some_iff hkeys).mp hget
      obtain rfl := Text.segments_injective hsegments
      exact hvalue

/-- Errors come define by define, and a define with a sound key has one at most. -/
theorem errors_compileDefines_middle (hkey : isIdentifierPath key = true) :
    (compileDefines (before ++ (key, text) :: after) pureFunctions).errors =
      (compileDefines before []).errors ++
        ((if (DefineValue.parse? text).isNone then
          [.error ("Invalid define value: " ++ Text.quoted text)] else []) ++
          (compileDefines after pureFunctions).errors) := by
  have hproblems : (compileDefines (before ++ (key, text) :: after) pureFunctions).problems =
      (compileDefines before []).problems ++
        (Problem.onlyIf (DefineValue.parse? text).isNone (.defineValue text) ++
          (compileDefines after pureFunctions).problems) := by
    simp [problems_compileDefines, defineProblems, Problem.each, hkey]
  rw [Checked.errors, hproblems, List.map_append, List.map_append]
  cases DefineValue.parse? text <;> rfl

end

/-- A define with a sound key has just one meaning, and this meaning is the value of its path in the
compiled table.  It is reported exactly if it means nothing, between what is reported for the
defines before it and behind it.

The number in a text is rounded more than once before it is a double.  So what a define means is
a double close to the number, and the nearest one if the number is short. -/
theorem compileDefines_means (before after : List (String × String)) (pureFunctions : List String)
    (key text : String) (hkeys : (Table.keys (before ++ (key, text) :: after)).Nodup)
    (hkey : isIdentifierPath key = true) :
    ∃ meaning, DefineValue.Determines text meaning ∧
      (∃ table, (compileDefines (before ++ (key, text) :: after) pureFunctions).value = some table ∧
        (table.get? (Text.segments '.' key)).bind DefineData.value = meaning) ∧
      ∀ log, ((compileDefines (before ++ (key, text) :: after) pureFunctions).record log).2 =
        log ++ (compileDefines before []).errors ++
          (if meaning.isNone then [.error ("Invalid define value: " ++ Text.quoted text)]
            else []) ++
          (compileDefines after pureFunctions).errors := by
  refine ⟨DefineValue.parse? text, DefineValue.determines_parse? text, ?_, ?_⟩
  · refine ⟨_, (value_compileDefines _ _).trans (if_neg (by simp)), ?_⟩
    rw [bind_value_get?_ofKeys_dataByKey hkeys hkey, definedValue?_middle hkeys]
  · intro log
    rw [Checked.record, errors_compileDefines_middle hkey, List.append_assoc, List.append_assoc]

/-- A keyword as a string and a number with a fraction, behind a define that means nothing, where
all keys are also the keys of pure functions. -/
theorem compileDefines_means_quotedKeyword :
    let defines := [("debug", "while"), ("process.env.MODE", "\"null\""), ("ratio", " -1.5")]
    (Table.keys defines).Nodup ∧ isIdentifierPath "process.env.MODE" = true ∧
      isIdentifierPath "ratio" = true ∧
      ∃ table x, (compileDefines defines ["debug", "process.env.MODE", "ratio"]).value =
          some table ∧
        (table.get? (Text.segments '.' "process.env.MODE")).bind DefineData.value =
          some (.literal (.string "null")) ∧
        (table.get? (Text.segments '.' "ratio")).bind DefineData.value =
          some (.literal (.number x)) ∧ Double.Holds x .negative (3 / 2) := by
  intro defines
  have hkeys : (Table.keys defines).Nodup := by decide
  have hkey : isIdentifierPath "process.env.MODE" = true := by decide +kernel
  have hratio : isIdentifierPath "ratio" = true := by decide +kernel
  obtain ⟨meaning, hmeaning, ⟨table, htable, hget⟩, -⟩ :=
    compileDefines_means [("debug", "while")] [("ratio", " -1.5")]
      ["debug", "process.env.MODE", "ratio"] "process.env.MODE" "\"null\"" hkeys hkey
  rw [hmeaning.printed "null" (by decide +kernel)] at hget
  obtain ⟨number, hnumber, ⟨_, htable', hget'⟩, -⟩ :=
    compileDefines_means [("debug", "while"), ("process.env.MODE", "\"null\"")] []
      ["debug", "process.env.MODE", "ratio"] "ratio" " -1.5" hkeys hratio
  obtain rfl := Option.some.inj (htable.symm.trans htable')
  let t : NumberText := ⟨true, [1], some [5], none⟩
  have ht : Literal.IsNumberText t " -1.5" := by
    have hone : NumberText.WritesWhole ['1'] [1] :=
      ⟨⟨by decide, List.forall_mem_singleton.mpr rfl, rfl⟩, by decide⟩
    have hfive : NumberText.WritesDigits ['5'] [5] :=
      ⟨by decide, List.forall_mem_singleton.mpr rfl, rfl⟩
    exact ⟨[' '], _, [], by simp [Literal.Blank, Document.isBlank], by simp [Literal.Blank],
      .parts (t := t) hone (.some hfive) .none, by decide⟩
  have hdecimal : t.decimal = 3 / 2 := by
    have hnumber : NumberText.number [1, 5] = 15 := by decide
    have hpower : t.exponentValue - t.fractionDigits.length = -1 := by decide
    rw [NumberText.decimal, hpower]
    show (NumberText.number [1, 5] : ℚ) * 10 ^ (-1 : ℤ) = 3 / 2
    rw [hnumber]
    norm_num
  have hlimit : t.decimal ≤ (1 - 1 / 2 ^ 48) * 2 ^ 1024 := by
    have hlarge : (2 : ℚ) ^ 1 ≤ 2 ^ 1024 := pow_le_pow_right₀ one_le_two (by norm_num)
    rw [hdecimal]
    generalize (2 : ℚ) ^ 1024 = limit at *
    linarith
  obtain ⟨x, q, hvalue, hx, hclose⟩ := hnumber.number_within t ht (by decide) hlimit
  have hq : q = 3 / 2 := by
    have hdouble : Double.IsDouble (3 / 2) := ⟨3, -1, by norm_num, by norm_num, by norm_num⟩
    have hshort : t.Short := .scaled (by decide) (by decide)
    rw [hclose.eq_nearest hshort, hdecimal, hdouble.nearest_eq]
  rw [hvalue] at hget'
  rw [hq] at hx
  exact ⟨hkeys, hkey, hratio, table, x, htable, hget, hget', hx⟩

end BundleFront
