import BundleFront.Pattern.Syntax
import BundleFront.Text.Age
import BundleFront.Text.CaseFold
import BundleFront.Text.Property
import BundleFront.Text.SentenceBreak

/-!
# Named classes of characters

`\d`, `\s` and `\w` know every script unless the pattern is narrow, and so do
properties, which a narrow pattern cannot use.  Classes such as `[:alpha:]` never
leave ASCII.  A property is named freely: case, blanks, underscores, hyphens and
a leading `is` do not matter.
-/

namespace BundleFront.Pattern

open Text

/-- The code points of ASCII. -/
def ascii : CodeSet := [⟨0, 0x7F⟩]

def wideDigits : CodeSet := Category.codeSet (· == .nd)

/-- Letters, marks, digits, connectors and joiners. -/
def wideWord : CodeSet :=
  Property.withExtra (fun c => c.isMark || c == .nd || c == .pc)
    (Property.alphabetic ++ Property.joinControl)

/-- The classes that stay within ASCII, by name. -/
def asciiClasses : List (String × CodeSet) :=
  [("alnum", CodeSet.ofHex "30-39 41-5a 61-7a"),
   ("alpha", CodeSet.ofHex "41-5a 61-7a"),
   ("ascii", ascii),
   ("blank", CodeSet.ofHex "9 20"),
   ("cntrl", CodeSet.ofHex "0-1f 7f"),
   ("digit", CodeSet.ofHex "30-39"),
   ("graph", CodeSet.ofHex "21-7e"),
   ("lower", CodeSet.ofHex "61-7a"),
   ("print", CodeSet.ofHex "20-7e"),
   ("punct", CodeSet.ofHex "21-2f 3a-40 5b-60 7b-7e"),
   ("space", CodeSet.ofHex "9-d 20"),
   ("upper", CodeSet.ofHex "41-5a"),
   ("word", CodeSet.ofHex "30-39 41-5a 5f 61-7a"),
   ("xdigit", CodeSet.ofHex "30-39 41-46 61-66")]

def asciiClass? (name : String) : Option CodeSet := asciiClasses.lookup name

/-- Whether a character is a blank or ends a line. -/
def isSpace (c : Char) : Bool := Property.whiteSpace.contains c.toNat

/-- Whether a character is part of a word. -/
def isWord (wide : Bool) (c : Char) : Bool :=
  if wide then wideWord.contains c.toNat else c.isAlphanum || c == '_'

/-- The class of a letter after a backslash; the set of capitals is the rest, and a narrow pattern
has no rest, since it would take bytes that are no text. -/
def perlClass? (wide : Bool) (letter : Char) : Option CodeSet :=
  let choose (wideSet : CodeSet) (name : String) : Option CodeSet :=
    if wide then some wideSet else asciiClass? name
  let rest (set : Option CodeSet) : Option CodeSet :=
    if wide then set.map CodeSet.complement else none
  match letter with
  | 'd' => choose wideDigits "digit"
  | 's' => choose Property.whiteSpace "space"
  | 'w' => choose wideWord "word"
  | 'D' => rest (choose wideDigits "digit")
  | 'S' => rest (choose Property.whiteSpace "space")
  | 'W' => rest (choose wideWord "word")
  | _ => none

/-- A name in lower case, without separators and without a leading `is`. -/
def looseName (name : List Char) : String :=
  let lower := name.map Char.toLower
  let kept (cs : List Char) :=
    cs.filter fun c => decide (c.toNat < 0x80) && c != ' ' && c != '_' && c != '-'
  match lower with
  | 'i' :: 's' :: rest =>
      if kept rest == ['c'] then "isc" else String.ofList (kept rest)
  | cs => String.ofList (kept cs)

/-- The general categories and their groups, by loose name.  No text holds a surrogate, so there is
no name for them alone. -/
def category? (name : String) : Option CodeSet :=
  let codes (p : Category → Bool) : Option CodeSet := some (Category.codeSet p)
  match name with
  | "any" => some CodeSet.full
  | "ascii" => some ascii
  | "assigned" => codes (· != .cn)
  | "l" | "letter" => codes (·.isLetter)
  | "lc" | "casedletter" => codes fun c => c == .lu || c == .ll || c == .lt
  | "lu" | "uppercaseletter" => codes (· == .lu)
  | "ll" | "lowercaseletter" => codes (· == .ll)
  | "lt" | "titlecaseletter" => codes (· == .lt)
  | "lm" | "modifierletter" => codes (· == .lm)
  | "lo" | "otherletter" => codes (· == .lo)
  | "m" | "mark" | "combiningmark" => codes (·.isMark)
  | "mn" | "nonspacingmark" => codes (· == .mn)
  | "mc" | "spacingmark" => codes (· == .mc)
  | "me" | "enclosingmark" => codes (· == .me)
  | "n" | "number" => codes (·.isNumber)
  | "nd" | "decimalnumber" | "digit" => codes (· == .nd)
  | "nl" | "letternumber" => codes (· == .nl)
  | "no" | "othernumber" => codes (· == .no)
  | "p" | "punctuation" | "punct" => codes (·.isPunctuation)
  | "pc" | "connectorpunctuation" => codes (· == .pc)
  | "pd" | "dashpunctuation" => codes (· == .pd)
  | "ps" | "openpunctuation" => codes (· == .ps)
  | "pe" | "closepunctuation" => codes (· == .pe)
  | "pi" | "initialpunctuation" => codes (· == .pi)
  | "pf" | "finalpunctuation" => codes (· == .pf)
  | "po" | "otherpunctuation" => codes (· == .po)
  | "s" | "symbol" => codes (·.isSymbol)
  | "sm" | "mathsymbol" => codes (· == .sm)
  | "sc" | "currencysymbol" => codes (· == .sc)
  | "sk" | "modifiersymbol" => codes (· == .sk)
  | "so" | "othersymbol" => codes (· == .so)
  | "z" | "separator" => codes (·.isSeparator)
  | "zs" | "spaceseparator" => codes (· == .zs)
  | "zl" | "lineseparator" => codes (· == .zl)
  | "zp" | "paragraphseparator" => codes (· == .zp)
  | "c" | "other" => codes (·.isOther)
  | "cc" | "control" | "cntrl" => codes (· == .cc)
  | "cf" | "format" => codes (· == .cf)
  | "co" | "privateuse" => codes (· == .co)
  | "cn" | "unassigned" => codes (· == .cn)
  | _ => none

/-- The code points with a property, category or script of the given name. -/
def property? (name : List Char) : Option CodeSet :=
  let name := looseName name
  ((Property.codeSet? name).or (category? name)).or (Script.codeSet? name)

/-- The code points for which a property has a value. -/
def propertyValue? (property value : List Char) : Option CodeSet :=
  match looseName property with
  | "gc" | "generalcategory" => category? (looseName value)
  | "sc" | "script" => Script.codeSet? (looseName value)
  | "scx" | "scriptextensions" => Script.extendedCodeSet? (looseName value)
  | "age" => Age.codeSet? (looseName value)
  | "gcb" | "graphemeclusterbreak" => ClusterBreak.codeSet? (looseName value)
  | "wb" | "wordbreak" => WordBreak.codeSet? (looseName value)
  | "sb" | "sentencebreak" => SentenceBreak.codeSet? (looseName value)
  | _ => none

/-- The set with both cases of its letters, as far as the pattern knows letters. -/
def closeCase (flags : Flags) (set : CodeSet) : CodeSet :=
  if !flags.anyCase then set
  else if flags.wide then CaseFold.close set
  else (CaseFold.close set).inter ascii

end BundleFront.Pattern
