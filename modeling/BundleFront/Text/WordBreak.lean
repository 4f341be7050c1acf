import BundleFront.Text.ClusterBreak
import BundleFront.Text.Script

/-!
# Where words may be divided

Each code point has a value of the property `Word_Break`, which says what it does
between its neighbours.  A value is found by its short or long name, in lower
case and without separators.
-/

namespace BundleFront.Text.WordBreak

open Property

/-- The code points of the script with the given name. -/
def ofScript (name : String) : CodeSet := (Script.codeSet? name).getD []

/-- Marks, and what else belongs to the character before it -/
def extending : CodeSet := ClusterBreak.extending.union (Category.codeSet (· == .mc))

/-- Format characters inside words -/
def formats : CodeSet :=
  (Category.codeSet (· == .cf)).diff
    (CodeSet.canonical
      (CodeSet.ofHex "200b-200d" ++ prependedConcatenationMark ++ ClusterBreak.tags))

/-- Signs used with Katakana that several scripts share -/
def katakanaSigns : CodeSet := CodeSet.ofHex "3031-3035 309b-309c 30a0 30fc ff70"

def katakana : CodeSet := (ofScript "katakana").union katakanaSigns

def hebrewLetters : CodeSet := (ofScript "hebrew").inter (Category.codeSet (· == .lo))

/-- Scripts written without blanks between words, besides those that are listed by code point -/
def unspacedScripts : CodeSet :=
  ["hiragana", "thai", "lao", "khmer", "myanmar"].flatMap ofScript

/-- Letters of further scripts written without blanks -/
def unspacedLetters : CodeSet := CodeSet.ofHex
  "1950-196d 1970-1974 1980-19ab 19b0-19c9 1a20-1a54 1aa7 aa80-aaaf aab1 aab5-aab6 aab9-aabd aac0
   aac2 aadb-aadd 11700-1171a 11740-11746"

/-- Signs that count as letters in words -/
def letterSigns : CodeSet := CodeSet.ofHex
  "2c2-2c5 2d2-2d7 2de-2df 2e5-2eb 2ed 2ef-2ff 55a-55c 55e 58a 5f3 70f a708-a716 a720-a721
   a789-a78a ab5b"

/-- Letters of scripts that divide words by blanks -/
def letters : CodeSet :=
  let others := ideographic ++ katakana ++ extending ++ hebrewLetters ++ unspacedScripts ++
    unspacedLetters
  (alphabetic.diff (CodeSet.canonical others)).union letterSigns

/-- Digits and signs of numbers -/
def numerics : CodeSet :=
  (withExtra (· == .nd) (prependedConcatenationMark ++ CodeSet.ofHex "66b 19da")).diff
    (CodeSet.ofHex "70f")

/-- The code points with the given value. -/
def codeSet? (name : String) : Option CodeSet :=
  match name with
  | "le" | "aletter" => some letters
  | "cr" => some (CodeSet.ofHex "d")
  | "lf" => some (CodeSet.ofHex "a")
  | "nl" | "newline" => some (CodeSet.ofHex "b-c 85 2028-2029")
  | "dq" | "doublequote" => some (CodeSet.ofHex "22")
  | "sq" | "singlequote" => some (CodeSet.ofHex "27")
  | "extend" => some extending
  | "ex" | "extendnumlet" => some (withExtra (· == .pc) (CodeSet.ofHex "202f"))
  | "fo" | "format" => some formats
  | "hl" | "hebrewletter" => some hebrewLetters
  | "ka" | "katakana" => some katakana
  | "ml" | "midletter" => some (CodeSet.ofHex "3a b7 387 55f 5f4 2027 fe13 fe55 ff1a")
  | "mn" | "midnum" => some (CodeSet.ofHex "2c 3b 37e 589 60c-60d 66c 7f8 2044 fe50 fe54 ff0c ff1b")
  | "mb" | "midnumlet" => some (CodeSet.ofHex "2e 2018-2019 2024 fe52 ff07 ff0e")
  | "nu" | "numeric" => some numerics
  | "ri" | "regionalindicator" => some regionalIndicator
  | "wsegspace" => some (CodeSet.ofHex "20 1680 2000-2006 2008-200a 205f 3000")
  | "zwj" => some (CodeSet.ofHex "200d")
  | _ => none

end BundleFront.Text.WordBreak
