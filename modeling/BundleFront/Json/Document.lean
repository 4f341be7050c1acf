import BundleFront.Json.Basic

/-!
# JSON documents as far as they were read

A host may hand over options as a text.  Whatever the text holds is read up to
its first fault, and what came before the fault still counts: a value of a wrong
shape is noticed before a fault behind it.  A document therefore keeps its faults
where they are.

Some faults matter only when the value is wanted.  A member that no option has
is passed over, and then neither a number out of range nor a lone surrogate is a
fault.  `Leaf` keeps both outcomes.
-/

namespace BundleFront

/-- Why a text is no JSON text. -/
inductive Fault
  /-- The text ends too early. -/
  | unfinished
  | malformed
deriving DecidableEq, Repr

/-- A value without parts: what it is, and the fault met when it is only passed over. -/
structure Leaf (α : Type) where
  value : Except Fault α
  passed : Option Fault := none

def Leaf.sound {α : Type} (a : α) : Leaf α := ⟨.ok a, none⟩

/-- A fault both for who wants the value and for who passes over it. -/
def Leaf.broken {α : Type} (fault : Fault) : Leaf α := ⟨.error fault, some fault⟩

/-- A JSON document with the faults of its text.  The fault of an array or object is what stands
where its next part or its end should. -/
inductive Document
  /-- No value starts here. -/
  | missing (fault : Fault)
  | null (leaf : Leaf Unit)
  | bool (leaf : Leaf Bool)
  | number (leaf : Leaf JsonNumber)
  | string (leaf : Leaf String)
  | array (items : List Document) (fault : Option Fault)
  | object (members : List (Leaf String × Document)) (fault : Option Fault)

namespace Document

mutual

/-- The document of a value, which has no faults. -/
def ofJson : Json → Document
  | .null => .null (.sound ())
  | .bool value => .bool (.sound value)
  | .number value => .number (.sound value)
  | .string value => .string (.sound value)
  | .array items => .array (ofItems items) none
  | .object members => .object (ofMembers members) none

def ofItems : List Json → List Document
  | [] => []
  | item :: rest => ofJson item :: ofItems rest

def ofMembers : List (String × Json) → List (Leaf String × Document)
  | [] => []
  | (name, value) :: rest => (.sound name, ofJson value) :: ofMembers rest

end

mutual

/-- The first fault met when the document is passed over. -/
def passed : Document → Option Fault
  | .missing fault => some fault
  | .null leaf => leaf.passed
  | .bool leaf => leaf.passed
  | .number leaf => leaf.passed
  | .string leaf => leaf.passed
  | .array items fault => (passedItems items).or fault
  | .object members fault => (passedMembers members).or fault

def passedItems : List Document → Option Fault
  | [] => none
  | item :: rest => (passed item).or (passedItems rest)

def passedMembers : List (Leaf String × Document) → Option Fault
  | [] => none
  | (name, value) :: rest => (name.passed.or (passed value)).or (passedMembers rest)

end

mutual

/-- The value of a document without faults. -/
def value : Document → Except Fault Json
  | .missing fault => .error fault
  | .null leaf => leaf.value.map fun _ => .null
  | .bool leaf => leaf.value.map .bool
  | .number leaf => leaf.value.map .number
  | .string leaf => leaf.value.map .string
  | .array items fault => do
      let items ← valueItems items
      match fault with
      | some fault => .error fault
      | none => .ok (.array items)
  | .object members fault => do
      let members ← valueMembers members
      match fault with
      | some fault => .error fault
      | none => .ok (Json.ofMembers members)

def valueItems : List Document → Except Fault (List Json)
  | [] => .ok []
  | item :: rest => do
      let item ← value item
      return item :: (← valueItems rest)

def valueMembers : List (Leaf String × Document) → Except Fault (List (String × Json))
  | [] => .ok []
  | (name, item) :: rest => do
      let name ← name.value
      let item ← value item
      return (name, item) :: (← valueMembers rest)

end

end Document
end BundleFront
