import BundleFront.Text.Category
import BundleFront.Text.Property.Listed

/-!
# Quoted texts and closed choices

Messages show a text they complain about between quotes, such that whatever it
holds stays visible and on one line.  The quote and the backslash are escaped
by a backslash, four controls by a letter or digit, and every other character
that shows nothing of its own, or only together with the character before it,
by its code point.

Many options pick one of a few names.  A closed choice lists its values, gives
each its name, and says what kind of thing is chosen, for messages about names
that are none of them.
-/

namespace BundleFront

namespace Text

/-- Letters that fill the place of a missing one and show nothing. -/
def fillers : CodeSet := CodeSet.ofHex "115f-1160 3164 ffa0"

/-- Whether a code point beyond ASCII is shown as it is.  A mark that extends the character before
it is not, but a letter that does is. -/
def isWideShown (n : Nat) : Bool :=
  match Category.ofCodeLater n with
  | .mn | .me => false
  | .mc => !Property.otherGraphemeExtend.contains n
  | category => !category.isOther && !category.isSeparator && !fillers.contains n

/-- Whether a character is shown as it is. -/
def isShown (c : Char) : Bool :=
  if c.toNat < 0x7F then decide (0x20 ≤ c.toNat) else isWideShown c.toNat

/-- One character as it stands between quotes. -/
def quotedChar (c : Char) : List Char :=
  match c with
  | '"' => ['\\', '"']
  | '\\' => ['\\', '\\']
  | '\n' => ['\\', 'n']
  | '\r' => ['\\', 'r']
  | '\t' => ['\\', 't']
  | '\x00' => ['\\', '0']
  | c => if isShown c then [c]
      else ['\\', 'u', '\x7b'] ++ Nat.toDigits 16 c.toNat ++ ['\x7d']

/-- The text between quotes. -/
def quoted (text : String) : String :=
  String.ofList ('"' :: text.toList.flatMap quotedChar ++ ['"'])

end Text

/-- A type with finitely many values that options pick by name. -/
class Choice (α : Type) where
  /-- What is chosen, as messages call it. -/
  label : String
  /-- Every value, in the order in which messages list them. -/
  all : List α
  name : α → String

namespace Choice

variable {α : Type} [Choice α]

/-- The value with the given name. -/
def ofName? (text : String) : Option α := all.find? fun a => name a == text

/-- The names, in order. -/
def names (α : Type) [Choice α] : List String := (all : List α).map name

end Choice

/-- A name that none of the values has. -/
structure UnknownName where
  label : String
  text : String
deriving DecidableEq, Repr

def UnknownName.message (e : UnknownName) : String :=
  "Invalid " ++ e.label ++ ": " ++ Text.quoted e.text

/-- Read a name, or say what it was meant to name. -/
def Choice.read {α : Type} [Choice α] (text : String) : Except UnknownName α :=
  match ofName? text with
  | some a => .ok a
  | none => .error ⟨label α, text⟩

end BundleFront
