import BundleFront.Text.WordBreak

/-!
# Where sentences may be divided

Each code point has a value of the property `Sentence_Break`, which says what it
does between its neighbours.  A value is found by its short or long name, in
lower case and without separators.
-/

namespace BundleFront.Text.SentenceBreak

open Property

/-- Marks, and what else belongs to the character before it -/
def extending : CodeSet :=
  withExtra (· == .mc) (graphemeExtend ++ joinControl)

/-- Format characters inside sentences -/
def formats : CodeSet :=
  ((Category.codeSet (· == .cf)).diff
    (CodeSet.canonical (joinControl ++ prependedConcatenationMark ++ ClusterBreak.tags))).union
    (CodeSet.ofHex "70f")

/-- Georgian letters, which begin no sentence by their case -/
def georgianSmall : CodeSet := CodeSet.ofHex "10d0-10fa 10fd-10ff"

def georgianCapitals : CodeSet := CodeSet.ofHex "1c90-1cba 1cbd-1cbf"

def small : CodeSet := lowercase.diff (extending.union georgianSmall)

def capitals : CodeSet := (withExtra (· == .lt) uppercase).diff georgianCapitals

/-- Letters without a case -/
def otherLetters : CodeSet :=
  (alphabetic.diff (CodeSet.canonical (small ++ capitals ++ extending))).union
    (CodeSet.ofHex "5f3")

/-- Full stops, which may also end an abbreviation -/
def fullStops : CodeSet := CodeSet.ofHex "2e 2024 fe52 ff0e"

/-- Ornaments used as quotes or brackets -/
def ornaments : CodeSet := CodeSet.ofHex "275b-2760 2e00-2e01 2e06-2e08 2e0b 1f676-1f678"

/-- Quotes and brackets -/
def closing : CodeSet :=
  (withExtra (fun c => c == .ps || c == .pe || c == .pi || c == .pf)
    (quotationMark ++ ornaments)).diff (CodeSet.ofHex "ff02 ff07")

/-- Ends of lines or paragraphs -/
def separators : CodeSet := CodeSet.ofHex "85 2028-2029"

/-- The code points with the given value. -/
def codeSet? (name : String) : Option CodeSet :=
  match name with
  | "cr" => some (CodeSet.ofHex "d")
  | "lf" => some (CodeSet.ofHex "a")
  | "se" | "sep" => some separators
  | "sp" => some (whiteSpace.diff (separators.union (CodeSet.ofHex "a d")))
  | "ex" | "extend" => some extending
  | "fo" | "format" => some formats
  | "lo" | "lower" => some small
  | "up" | "upper" => some capitals
  | "le" | "oletter" => some otherLetters
  | "nu" | "numeric" => some (WordBreak.numerics.union (CodeSet.ofHex "66c"))
  | "at" | "aterm" => some fullStops
  | "st" | "sterm" => some (sentenceTerminal.diff fullStops)
  | "sc" | "scontinue" =>
      some (CodeSet.ofHex
        "2c-2d 3a-3b 37e 55d 60c-60d 7f8 1802 1808 2013-2014 3001 fe10-fe11 fe13-fe14 fe31-fe32
         fe50-fe51 fe54-fe55 fe58 fe63 ff0c-ff0d ff1a-ff1b ff64")
  | "cl" | "close" => some closing
  | _ => none

end BundleFront.Text.SentenceBreak
