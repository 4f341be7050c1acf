import BundleFront.Text.CaseFold
import BundleFront.Text.Category
import BundleFront.Text.Property.Listed

/-!
# Properties that follow from others

Most code points have these properties by their general category or because
letters change when their case does.  What is left is listed.
-/

namespace BundleFront.Text.Property

/-- The code points of some categories and some more. -/
def withExtra (p : Category → Bool) (extra : CodeSet) : CodeSet :=
  (Category.codeSet p).union extra

def lowercase : CodeSet := withExtra (· == .ll) otherLowercase

def uppercase : CodeSet := withExtra (· == .lu) otherUppercase

/-- Signs that have a case -/
def cased : CodeSet := withExtra (· == .lt) (lowercase ++ uppercase)

/-- Letters, numbers made of letters, and signs used as letters -/
def alphabetic : CodeSet :=
  withExtra (fun c => c.isLetter || c == .nl) (lowercase ++ uppercase ++ otherAlphabetic)

/-- What counts as a letter in the edition after that of the tables only -/
def laterAlphabetic : CodeSet :=
  let added := Category.laterRuns.filter fun run => run.2.isLetter || run.2 == .nl
  CodeSet.canonical ((added.map Prod.fst).flatten ++
    CodeSet.ofHex "10efa-10efb 11b60-11b67 1e6e3 1e6e6 1e6ee-1e6ef 1e6f5")

/-- Punctuation that stands inside words -/
def innerPunctuation : CodeSet := CodeSet.ofHex
  "27 2e 3a b7 387 55f 5f4 2018-2019 2024 2027 fe13 fe52 fe55 ff07 ff0e ff1a"

/-- Signs that the case of their neighbours does not depend on -/
def caseIgnorable : CodeSet :=
  withExtra (fun c => c == .mn || c == .me || c == .cf || c == .lm || c == .sk) innerPunctuation

/-- Signs used in mathematics -/
def math : CodeSet := withExtra (· == .sm) otherMath

/-- Signs that extend the character before them -/
def graphemeExtend : CodeSet := withExtra (fun c => c == .mn || c == .me) otherGraphemeExtend

/-- Characters that others can extend -/
def graphemeBase : CodeSet :=
  (withExtra (fun c => c.isOther || c == .zl || c == .zp) graphemeExtend).complement

/-- Format characters that show something -/
def shownFormat : CodeSet := CodeSet.ofHex
  "600-605 6dd 70f 890-891 8e2 fff9-fffb 110bd 110cd 13430-1343f"

/-- Code points that show nothing where they are not supported -/
def defaultIgnorableCodePoint : CodeSet :=
  (withExtra (· == .cf) (variationSelector ++ otherDefaultIgnorable)).diff shownFormat

/-- Starts of names -/
def idStart : CodeSet :=
  (withExtra (fun c => c.isLetter || c == .nl) otherIdStart).diff patternSyntax

/-- Parts of names -/
def idContinue : CodeSet :=
  withExtra (fun c => c == .mn || c == .mc || c == .nd || c == .pc) (idStart ++ otherIdContinue)

/-- Starts of names that compatibility forms take apart -/
def unstableIdStart : CodeSet := CodeSet.ofHex
  "37a e33 eb3 309b-309c fc5e-fc63 fdfa-fdfb fe70 fe72 fe74 fe76 fe78 fe7a fe7c fe7e ff9e-ff9f"

/-- Starts of names in every normal form -/
def xidStart : CodeSet := idStart.diff unstableIdStart

/-- Parts of names that compatibility forms take apart -/
def unstableIdContinue : CodeSet := CodeSet.ofHex
  "37a 309b-309c fc5e-fc63 fdfa-fdfb fe70 fe72 fe74 fe76 fe78 fe7a fe7c fe7e"

/-- Parts of names in every normal form -/
def xidContinue : CodeSet := idContinue.diff unstableIdContinue

/-- Code points of which others differ in case only -/
def paired : CodeSet := CodeSet.canonical (CaseFold.classes.flatten.map fun n => ⟨n, n⟩)

/-- The dotted capital, whose small form has a mark besides -/
def dottedCapital : CodeSet := CodeSet.single 0x130

/-- Letters that have a small form -/
def changesWhenLowercased : CodeSet :=
  (paired.inter (withExtra (· == .lt) uppercase)).union dottedCapital

/-- Small letters without a capital of their own in folding -/
def unpairedSmall : CodeSet := CodeSet.ofHex
  "131 149 1f0 587 1e96-1e9a 1f50 1f52 1f54 1f56 1fb2 1fb4 1fb6-1fb7 1fc2 1fc4 1fc6-1fc7 1fd2
   1fd6-1fd7 1fe2 1fe4 1fe6-1fe7 1ff2 1ff4 1ff6-1ff7 fb00-fb04 fb13-fb17"

/-- Letters that have a capital form -/
def changesWhenUppercased : CodeSet := (paired.diff uppercase).union unpairedSmall

/-- Letters that are kept at the start of a word -/
def keptAtStart : CodeSet := CodeSet.ofHex
  "1c5 1c8 1cb 1f2 10d0-10fa 10fd-10ff 1f88-1f8f 1f98-1f9f 1fa8-1faf 1fbc 1fcc 1ffc"

/-- Capitals that are divided at the start of a word -/
def dividedCapitals : CodeSet := CodeSet.ofHex "1c4 1c7 1ca 1f1"

/-- Letters with another form for the start of a word -/
def changesWhenTitlecased : CodeSet :=
  (changesWhenUppercased.diff keptAtStart).union dividedCapitals

/-- Letters that some change of case changes -/
def changesWhenCasemapped : CodeSet :=
  CodeSet.canonical (changesWhenLowercased ++ changesWhenUppercased ++ changesWhenTitlecased)

/-- Capitals that folding keeps, since their small forms came later -/
def keptByFolding : CodeSet := CodeSet.ofHex "13a0-13f5"

/-- Small letters that folding changes -/
def foldedSmall : CodeSet := CodeSet.ofHex
  "b5 df 149 17f 345 3c2 3d0-3d1 3d5-3d6 3f0-3f1 3f5 587 13f8-13fd 1c80-1c88 1e9a-1e9b 1f80-1f87
   1f90-1f97 1fa0-1fa7 1fb2-1fb4 1fb7 1fc2-1fc4 1fc7 1ff2-1ff4 1ff7 ab70-abbf fb00-fb06 fb13-fb17"

/-- Letters that folding changes -/
def changesWhenCasefolded : CodeSet :=
  (changesWhenLowercased.diff keptByFolding).union foldedSmall

end BundleFront.Text.Property
