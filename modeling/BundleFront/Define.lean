import BundleFront.Checked
import BundleFront.Json.Reader
import BundleFront.Table
import BundleFront.Text.Identifier
import BundleFront.Text.Segments

/-!
# Defines

A define replaces a member path such as `process.env.MODE` by another identifier
or by a JSON atom.  Compiling defines looks each key up once more among the pure
functions, calls of which may be dropped when nobody uses their results.  The
table that comes out answers for a path that a compiler meets: single names are
looked up directly, longer paths among those with the same last name.
-/

namespace BundleFront

/-- Words that cannot be the name of a variable. -/
def keywords : List String :=
  ["break", "case", "catch", "class", "const", "continue", "debugger", "default", "delete", "do",
   "else", "enum", "export", "extends", "false", "finally", "for", "function", "if", "import",
   "in", "instanceof", "new", "null", "return", "super", "switch", "this", "throw", "true", "try",
   "typeof", "var", "void", "while", "with"]

def isKeyword (text : String) : Bool := keywords.contains text

/-- Whether dots divide the text into identifier names. -/
def isIdentifierPath (text : String) : Bool :=
  (Text.segments '.' text).all Text.isIdentifierName

/-- A JSON value without parts. -/
inductive Literal
  | null
  | bool (value : Bool)
  | string (value : String)
  | number (value : Float)

/-- What takes the place of a member path. -/
inductive DefineValue
  /-- The variable of this name, wherever the path is met -/
  | reference (name : String)
  | literal (value : Literal)

/-- A define applied in a scope: what the scope knows under a name, or a literal. -/
inductive DefineExpr (ρ : Type)
  | identifier (symbol : ρ)
  | literal (value : Literal)

/-- Apply a define where `find` looks names up. -/
def DefineValue.evaluate {ρ : Type} (find : String → ρ) : DefineValue → DefineExpr ρ
  | reference name => .identifier (find name)
  | literal value => .literal value

/-- What is known of a member path. -/
structure DefineData where
  /-- What replaces it, if anything -/
  value : Option DefineValue := none
  /-- Whether an unused call of it may be dropped -/
  pureCall : Bool := false

/-- The literal that a JSON value is, if it has no parts. -/
def Literal.ofJson? : Json → Option Literal
  | .null => some .null
  | .bool value => some (.bool value)
  | .string value => some (.string value)
  | .number (.int value) => some (.number (Float.ofInt value))
  | .number (.real value) => some (.number value)
  | .array _ | .object _ => none

/-- The meaning of the text of a define. -/
def DefineValue.parse? (text : String) : Option DefineValue :=
  if Text.isIdentifierName text && !isKeyword text then some (.reference text)
  else match Json.parse text with
    | .ok value => (Literal.ofJson? value).map .literal
    | .error _ => none

/-- A define for a path of at least two names. -/
structure DotDefine where
  parts : List String
  data : DefineData

/-- Compiled defines. -/
structure DefineTable where
  identifiers : List (String × DefineData) := []
  /-- Paths of several names, grouped by the last one -/
  dots : List (String × List DotDefine) := []

namespace DefineTable

/-- Add what is known of the path with these names. -/
def add (table : DefineTable) (parts : List String) (data : DefineData) : DefineTable :=
  match parts with
  | [] => table
  | [name] => { table with identifiers := Table.put name data table.identifiers }
  | name :: rest =>
      let last := rest.getLastD name
      { table with dots := Table.update last [] (· ++ [⟨parts, data⟩]) table.dots }

/-- The table for data by key. -/
def ofKeys (raw : List (String × DefineData)) : DefineTable :=
  raw.foldl (fun table entry => table.add (Text.segments '.' entry.1) entry.2) {}

/-- What is known of the path with these names. -/
def get? (table : DefineTable) : List String → Option DefineData
  | [] => none
  | [name] => Table.get? name table.identifiers
  | name :: rest => do
      let group ← Table.get? (rest.getLastD name) table.dots
      let found ← group.find? fun define => define.parts == name :: rest
      return found.data

/-- The number of paths of which something is known. -/
def size (table : DefineTable) : Nat :=
  table.identifiers.length + (table.dots.flatMap Prod.snd).length

def isEmpty (table : DefineTable) : Bool := table.size == 0

end DefineTable

/-- The data of a define, by its key. -/
def checkDefine (entry : String × String) : Checked (Option (String × DefineData)) :=
  if !isIdentifierPath entry.1 then Checked.ensure none false (.defineKey entry.1)
  else match DefineValue.parse? entry.2 with
    | none => Checked.ensure none false (.defineValue entry.2)
    | some value => pure (some (entry.1, { value := some value }))

/-- The key of a pure function. -/
def checkPureFunction (key : String) : Checked (Option String) :=
  if isIdentifierPath key then pure (some key)
  else Checked.ensure none false (.pureFunction key)

/-- Compile defines and pure functions; there is no table where there is nothing to compile. -/
def compileDefines (defines : List (String × String)) (pureFunctions : List String) :
    Checked (Option DefineTable) := do
  if defines.isEmpty && pureFunctions.isEmpty then return none
  let valued ← Checked.filterMap checkDefine defines
  let pureKeys ← Checked.filterMap checkPureFunction pureFunctions
  let raw := pureKeys.foldl
    (fun raw key => Table.update key {} (fun data => { data with pureCall := true }) raw)
    (Table.ofList valued)
  return some (DefineTable.ofKeys raw)

end BundleFront
