import BundleFront.Json.Reader
import BundleFront.Json.Shape

/-!
# Records

A record has named fields.  It is read from an object, whose members may come in
any order and may include others, which are passed over; or from an array that
lists the fields in order.  A field that is left out keeps the value of `blank`,
unless the field is required.

The same list of fields writes a record.
-/

namespace BundleFront

/-- One field of a record: how it is read into a record, and how it is written, if at all. -/
structure Field (ρ : Type) where
  name : String
  required : Bool := false
  read : Document → ρ → Except ShapeError ρ
  write : ρ → Option Json

/-- A kind of record. -/
structure Record (ρ : Type) where
  /-- What messages call it -/
  title : String
  fields : List (Field ρ)
  blank : ρ

/-- A field with a getter and a setter. -/
def Field.of {ρ α : Type} (name : String) (shape : Shape α) (write : α → Json) (get : ρ → α)
    (set : α → ρ → ρ) : Field ρ where
  name
  read d r := (shape d).map fun a => set a r
  write r := some (write (get r))

/-- The same field, but not to be left out. -/
def Field.must {ρ : Type} (field : Field ρ) : Field ρ := { field with required := true }

namespace Record

variable {ρ : Type}

/-- Read members into `r`; `seen` are the fields read so far. -/
def readMembers (fields : List (Field ρ)) (seen : List String) (r : ρ) :
    List (Leaf String × Document) → Option Fault → Except ShapeError (List String × ρ)
  | [], none => .ok (seen, r)
  | [], some fault => .error (.fault fault)
  | (name, item) :: rest, fault => do
      let name ← Shape.ofLeaf name
      match fields.find? (·.name == name) with
      | none =>
          match item.passed with
          | none => readMembers fields seen r rest fault
          | some fault => .error (.fault fault)
      | some field =>
          if seen.contains name then .error (.duplicateField name)
          else readMembers fields (name :: seen) (← field.read item r) rest fault

/-- Read items into `r`, which the fields describe from `index` on. -/
def readItems (expected : String) (total index : Nat) (r : ρ) :
    List (Field ρ) → List Document → Option Fault → Except ShapeError ρ
  | [], [], none => .ok r
  | [], [], some fault => .error (.fault fault)
  | [], _ :: _, _ => .error (.tooLong total)
  | field :: fields, item :: items, fault => do
      readItems expected total (index + 1) (← field.read item r) fields items fault
  | _ :: _, [], some fault => .error (.fault fault)
  | field :: fields, [], none =>
      if field.required then .error (.tooShort index expected)
      else readItems expected total (index + 1) r fields [] none

/-- The record that a document describes. -/
def shape (record : Record ρ) : Shape ρ
  | .object members fault => do
      let (seen, r) ← readMembers record.fields [] record.blank members fault
      match record.fields.find? (fun field => field.required && !seen.contains field.name) with
      | some field => .error (.missingField field.name)
      | none => .ok r
  | .array items fault =>
      let expected :=
        "struct " ++ record.title ++ " with " ++ toString record.fields.length ++ " elements"
      readItems expected items.length 0 record.blank record.fields items fault
  | d => .error (Shape.mismatch ("struct " ++ record.title) d)

/-- The record as an object. -/
def write (record : Record ρ) (r : ρ) : Json :=
  Json.ofMembers (record.fields.filterMap fun field =>
    (field.write r).map fun value => (field.name, value))

/-- The record that a value describes. -/
def ofJson (record : Record ρ) (value : Json) : Except ShapeError ρ :=
  record.shape (Document.ofJson value)

/-- The record that a text describes. -/
def ofText (record : Record ρ) (text : String) : Except TextError ρ :=
  let (document, trailing) := Document.ofText text
  match record.shape document, trailing with
  | .ok r, none => .ok r
  | .ok _, some fault => .error (ShapeError.fault fault).kind
  | .error e, _ => .error e.kind

end Record
end BundleFront
