import BundleFront.Text.Category
import BundleFront.Text.Property.Listed

/-!
# Identifier names of the script language

An identifier name starts with a letter, `$` or `_` and goes on with those, with
digits, marks and connectors.  Within ASCII the answer needs no table.  Outside
it, letters and letter-like numbers start a name, apart from a few code points
that are listed one by one, and the two joiners may stand inside one.

Names follow edition 18.0 of the standard, so letters and marks that are newer
than the tables of categories count as well.
-/

namespace BundleFront.Text

/-- The vertical tilde is a letter by category, but kept for use in syntax. -/
def reservedLetter : Nat := 0x2E2F

/-- The letters that edition 18.0 added. -/
def newestLetters : CodeSet := CodeSet.ofHex
  "558 58b-58c 208f 209d-209f a7dd-a7df a7e2-a7e9 ab6c-ab6d 107bb-107bf 10ed9-10edf
   11b0a-11b0f 11df1-11df9 12475-1247f 1d6a6-1d6a7 1df2b-1df3f 2b81e-2b81f 3d000-3fc3f"

/-- The marks that edition 18.0 added. -/
def newestMarks : CodeSet := CodeSet.ofHex
  "5c8-5c9 b53-b54 1ade-1adf 1aec-1aef 10ecb-10ecf 10ef0-10ef9 11df0 1d127-1d128 1d250-1d254
   1d280-1d284"

/-- Whether a code point beyond ASCII may start a name. -/
def isWideNameStart (n : Nat) : Bool :=
  let category := Category.ofCodeLater n
  ((category.isLetter || category == .nl) && n != reservedLetter) ||
    Property.otherIdStart.contains n || newestLetters.contains n

/-- Whether a code point beyond ASCII may stand in a name after its first place. -/
def isWideNamePart (n : Nat) : Bool :=
  isWideNameStart n || Property.otherIdContinue.contains n || newestMarks.contains n ||
    match Category.ofCodeLater n with
    | .mn | .mc | .nd | .pc => true
    | _ => false

def isNameStart (c : Char) : Bool :=
  if c.toNat < 0x80 then c.isAlpha || c == '$' || c == '_' else isWideNameStart c.toNat

def isNamePart (c : Char) : Bool :=
  if c.toNat < 0x80 then c.isAlphanum || c == '$' || c == '_' else isWideNamePart c.toNat

/-- Whether the whole text is one identifier name. -/
def isIdentifierName (text : String) : Bool :=
  match text.toList with
  | [] => false
  | c :: rest => isNameStart c && rest.all isNamePart

end BundleFront.Text
