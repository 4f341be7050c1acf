import BundleFront.Text.Property.Derived
import BundleFront.Text.Property.Emoji

/-!
# Where what readers take for one character may be divided

Each code point has a value of the property `Grapheme_Cluster_Break`, which says
what it does between its neighbours.  A value is found by its short or long name,
in lower case and without separators.
-/

namespace BundleFront.Text.ClusterBreak

open Property

/-- Marks and what else extends the character before it -/
def extending : CodeSet := graphemeExtend.union emojiModifier

/-- Spacing marks by category that are signs of their own -/
def loneMarks : CodeSet := CodeSet.ofHex
  "102b-102c 1038 1062-1064 1067-106d 1083 1087-108c 108f 109a-109c 1a61 1a63-1a64 aa7b aa7d
   11720-11721"

/-- Marks that stand beside the character before them -/
def spacingMarks : CodeSet :=
  ((Category.codeSet (· == .mc)).diff (extending.union loneMarks)).union
    (CodeSet.ofHex "e33 eb3")

/-- Letters that join the one behind them -/
def joiningLetters : CodeSet := CodeSet.ofHex
  "d4e 111c2-111c3 113d1 1193f 11941 11a3a 11a84-11a89 11d46 11f02"

/-- Signs that belong to the character behind them -/
def prepended : CodeSet := prependedConcatenationMark.union joiningLetters

/-- Tags, which spell out of which region a flag is -/
def tags : CodeSet := CodeSet.ofHex "e0020-e007f"

/-- Controls, and what shows nothing -/
def controls : CodeSet :=
  let silent := defaultIgnorableCodePoint.inter (Category.codeSet (· == .cn))
  let invisible := withExtra (fun c => c == .zl || c == .zp || c == .cc || c == .cf) silent
  invisible.diff
    (CodeSet.canonical (CodeSet.ofHex "a d" ++ prependedConcatenationMark ++ joinControl ++ tags))

/-- The syllables of Korean, and how many of them share their first two sounds. -/
def syllables : CodeRange := ⟨0xAC00, 0xD7A3⟩

def syllablesPerPair : Nat := 28

/-- Syllables of two sounds -/
def openSyllables : CodeSet :=
  let count := (syllables.last + 1 - syllables.first) / syllablesPerPair
  (List.range count).map fun i =>
    let n := syllables.first + syllablesPerPair * i
    ⟨n, n⟩

/-- Syllables of three sounds -/
def closedSyllables : CodeSet := CodeSet.diff [syllables] openSyllables

/-- The code points with the given value. -/
def codeSet? (name : String) : Option CodeSet :=
  match name with
  | "cr" => some (CodeSet.ofHex "d")
  | "lf" => some (CodeSet.ofHex "a")
  | "cn" | "control" => some controls
  | "ex" | "extend" => some extending
  | "zwj" => some (CodeSet.ofHex "200d")
  | "ri" | "regionalindicator" => some regionalIndicator
  | "pp" | "prepend" => some prepended
  | "sm" | "spacingmark" => some spacingMarks
  | "l" => some (CodeSet.ofHex "1100-115f a960-a97c")
  | "v" => some (CodeSet.ofHex "1160-11a7 d7b0-d7c6 16d63 16d67-16d6a")
  | "t" => some (CodeSet.ofHex "11a8-11ff d7cb-d7fb")
  | "lv" => some openSyllables
  | "lvt" => some closedSyllables
  | _ => none

end BundleFront.Text.ClusterBreak
