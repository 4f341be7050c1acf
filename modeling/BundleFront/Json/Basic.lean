import BundleFront.Table
import BundleFront.Text.Decimal

/-!
# JSON values and their texts

A number that is written as an integer and fits into 64 bits is an integer, and
every other number a double.  The members of an object are kept in ascending
order of their names, each name once; `Json.ofMembers` brings them into this
form.

A value is written on one line without blanks.  In strings, the quote, the
backslash and the controls are escaped; everything else stands for itself.
-/

namespace BundleFront

/-- A JSON number. -/
inductive JsonNumber
  | int (value : Int)
  | real (value : Float)

/-- A JSON value. -/
inductive Json
  | null
  | bool (value : Bool)
  | number (value : JsonNumber)
  | string (value : String)
  | array (items : List Json)
  | object (members : List (String × Json))

namespace Json

/-- The object with the given members; of two members with one name the later counts. -/
def ofMembers (members : List (String × Json)) : Json := .object (Table.sortedOfList members)

def ofNat (n : Nat) : Json := .number (.int n)

def ofInt (n : Int) : Json := .number (.int n)

def ofStrings (texts : List String) : Json := .array (texts.map .string)

/-- A value, or null for none. -/
def ofOption {α : Type} (write : α → Json) : Option α → Json
  | none => .null
  | some a => write a

/-- The member of an object with the given name. -/
def get? (name : String) : Json → Option Json
  | .object members => Table.get? name members
  | _ => none

end Json

def JsonNumber.text : JsonNumber → String
  | .int value => toString value
  | .real value => Text.ofFloat value

namespace Json

/-- One character as it stands in a JSON string. -/
def escapedChar (c : Char) : List Char :=
  match c with
  | '"' => ['\\', '"']
  | '\\' => ['\\', '\\']
  | '\n' => ['\\', 'n']
  | '\r' => ['\\', 'r']
  | '\t' => ['\\', 't']
  | c =>
      if c.toNat < 0x10 then ['\\', 'u', '0', '0', '0'] ++ Nat.toDigits 16 c.toNat
      else if c.toNat < 0x20 then ['\\', 'u', '0', '0'] ++ Nat.toDigits 16 c.toNat
      else [c]

/-- The text as a JSON string. -/
def encodeString (text : String) : String :=
  String.ofList ('"' :: text.toList.flatMap escapedChar ++ ['"'])

mutual

/-- The JSON text of a value. -/
def render : Json → String
  | .null => "null"
  | .bool true => "true"
  | .bool false => "false"
  | .number n => n.text
  | .string text => encodeString text
  | .array items => "[" ++ renderItems items ++ "]"
  | .object members => "\x7b" ++ renderMembers members ++ "\x7d"

def renderItems : List Json → String
  | [] => ""
  | [item] => render item
  | item :: rest => render item ++ "," ++ renderItems rest

def renderMembers : List (String × Json) → String
  | [] => ""
  | [(name, value)] => encodeString name ++ ":" ++ render value
  | (name, value) :: rest => encodeString name ++ ":" ++ render value ++ "," ++ renderMembers rest

end

end Json

end BundleFront
