import BundleFront.Choice
import BundleFront.Json.Document

/-!
# Values of a given shape

A reader of some type takes the part of a document that describes a value of the
type.  Where the document has another shape, `ShapeError` tells what was found
and what was expected.  An option that picks a name may also be given as an
object whose only member has that name and is null.
-/

namespace BundleFront

/-- What a document was found to be. -/
inductive Found
  | null
  | bool (value : Bool)
  | number (value : JsonNumber)
  | string (value : String)
  | sequence
  | map

/-- How a message calls what was found. -/
def Found.describe : Found → String
  | null => "null"
  | bool true => "boolean `true`"
  | bool false => "boolean `false`"
  | number (.int value) => "integer `" ++ toString value ++ "`"
  | number (.real value) => "floating point `" ++ Text.ofFloat value ++ "`"
  | string value => "string " ++ Text.quoted value
  | sequence => "sequence"
  | map => "map"

/-- Why a document describes no value of the wanted shape. -/
inductive ShapeError
  /-- The text has a fault where the value should be. -/
  | fault (fault : Fault)
  | wrongType (found : Found) (expected : String)
  | wrongValue (found : Found) (expected : String)
  /-- A name was expected, and neither a string nor an object was found. -/
  | noName (found : Found)
  | unknownName (name : String) (known : List String)
  /-- A name was given by an object that has not just one member; what is wrong with the first
  one, if anything. -/
  | notOneMember (first : Option ShapeError)
  | missingField (name : String)
  | duplicateField (name : String)
  | tooShort (length : Nat) (expected : String)
  | tooLong (length : Nat)

namespace ShapeError

/-- The names a choice offers, as a message lists them. -/
def listNames : List String → String
  | [name] => "`" ++ name ++ "`"
  | [first, second] => "`" ++ first ++ "` or `" ++ second ++ "`"
  | names => "one of " ++ ", ".intercalate (names.map fun name => "`" ++ name ++ "`")

def message : ShapeError → String
  | fault .unfinished => "unexpected end of the text"
  | fault .malformed => "malformed text"
  | wrongType found expected => "invalid type: " ++ found.describe ++ ", expected " ++ expected
  | wrongValue found expected => "invalid value: " ++ found.describe ++ ", expected " ++ expected
  | noName found => "invalid type: " ++ found.describe ++ ", expected string or map"
  | unknownName name known => "unknown variant `" ++ name ++ "`, expected " ++ listNames known
  | notOneMember _ => "invalid value: map, expected map with a single key"
  | missingField name => "missing field `" ++ name ++ "`"
  | duplicateField name => "duplicate field `" ++ name ++ "`"
  | tooShort length expected => "invalid length " ++ toString length ++ ", expected " ++ expected
  | tooLong length =>
      "invalid length " ++ toString length ++ ", expected fewer elements in array"

end ShapeError

/-- The kinds of trouble with a text. -/
inductive TextError
  | syntactic
  | unfinished
  | data
deriving DecidableEq, Repr

/-- The kind of trouble met first when a text is read from front to back.  Where a name or the end
of an array should stand, anything else is an error of syntax. -/
def ShapeError.kind : ShapeError → TextError
  | fault .unfinished => .unfinished
  | fault .malformed => .syntactic
  | noName _ => .syntactic
  | tooLong _ => .syntactic
  | notOneMember none => .syntactic
  | notOneMember (some first) => first.kind
  | _ => .data

/-- What a value of some type is read from. -/
abbrev Shape (α : Type) := Document → Except ShapeError α

namespace Shape

def ofLeaf {α : Type} (leaf : Leaf α) : Except ShapeError α := leaf.value.mapError .fault

/-- What a document was found to be, unless its text has a fault right here. -/
def found : Document → Except Fault Found
  | .missing fault => .error fault
  | .null leaf => leaf.value.map fun _ => .null
  | .bool leaf => leaf.value.map .bool
  | .number leaf => leaf.value.map .number
  | .string leaf => leaf.value.map .string
  | .array _ _ => .ok .sequence
  | .object _ _ => .ok .map

/-- The complaint about a document that is no `expected`. -/
def mismatch (expected : String) (d : Document) : ShapeError :=
  match found d with
  | .error fault => .fault fault
  | .ok found => .wrongType found expected

def bool : Shape Bool
  | .bool leaf => ofLeaf leaf
  | d => .error (mismatch "a boolean" d)

/-- A text; `expected` is what messages call it. -/
def textAs (expected : String) : Shape String
  | .string leaf => ofLeaf leaf
  | d => .error (mismatch expected d)

def text : Shape String := textAs "a string"

/-- A number from zero up to, but without, `bound`. -/
def natBelow (bound : Nat) (expected : String) : Shape Nat
  | .number leaf => do
      match ← ofLeaf leaf with
      | .int value =>
          if 0 ≤ value ∧ value < bound then .ok value.toNat
          else .error (.wrongValue (.number (.int value)) expected)
      | .real value => .error (.wrongType (.number (.real value)) expected)
  | d => .error (mismatch expected d)

def word64 : Shape UInt64 := fun d => (natBelow 0x10000000000000000 "usize" d).map UInt64.ofNat

def word32 : Shape UInt32 := fun d => (natBelow 0x100000000 "u32" d).map UInt32.ofNat

def unit : Shape Unit
  | .null leaf => ofLeaf leaf
  | d => .error (mismatch "unit" d)

/-- Null for none. -/
def optional {α : Type} (shape : Shape α) : Shape (Option α)
  | .null leaf => (ofLeaf leaf).map fun _ => none
  | d => (shape d).map some

/-- Every item in turn, then the fault of the array. -/
def items {α : Type} (shape : Shape α) : List Document → Option Fault → Except ShapeError (List α)
  | [], none => .ok []
  | [], some fault => .error (.fault fault)
  | item :: rest, fault => do
      let a ← shape item
      return a :: (← items shape rest fault)

def list {α : Type} (shape : Shape α) : Shape (List α)
  | .array parts fault => items shape parts fault
  | d => .error (mismatch "a sequence" d)

/-- Every member in turn, put into `table`, then the fault of the object. -/
def entries {α : Type} (shape : Shape α) (table : List (String × α)) :
    List (Leaf String × Document) → Option Fault → Except ShapeError (List (String × α))
  | [], none => .ok table
  | [], some fault => .error (.fault fault)
  | (name, item) :: rest, fault => do
      let name ← ofLeaf name
      let a ← shape item
      entries shape (Table.put name a table) rest fault

/-- A table in the order of the members. -/
def table {α : Type} (shape : Shape α) : Shape (List (String × α))
  | .object members fault => entries shape [] members fault
  | d => .error (mismatch "a map" d)

/-- The value with a given name. -/
def named {α : Type} [Choice α] (name : String) : Except ShapeError α :=
  match Choice.ofName? name with
  | some a => .ok a
  | none => .error (.unknownName name (Choice.names α))

/-- A member that gives a name. -/
def namedMember {α : Type} [Choice α] (name : Leaf String) (item : Document) :
    Except ShapeError α := do
  let a ← named (← ofLeaf name)
  unit item
  return a

def choice {α : Type} [Choice α] : Shape α
  | .string leaf => do named (← ofLeaf leaf)
  | .object [] none => .error (.notOneMember none)
  | .object [] (some fault) => .error (.fault fault)
  | .object ((name, item) :: rest) fault =>
      match (namedMember name item : Except ShapeError α), rest, fault with
      | first, [], none => first
      | .ok _, [], some fault => .error (.fault fault)
      | .error e, [], some _ => .error e
      | .ok _, _ :: _, _ => .error (.notOneMember none)
      | .error e, _ :: _, _ => .error (.notOneMember (some e))
  | .missing fault => .error (.fault fault)
  | d =>
      match found d with
      | .ok found => .error (.noName found)
      | .error _ => .error (.fault .malformed)

end Shape
end BundleFront
