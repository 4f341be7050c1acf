/-!
# Tables

A table lists keys with their values, each key once.  `Table.put` keeps the order
in which keys first came; `Table.putSorted` keeps names in ascending order.  In
both, a later value for a key replaces the earlier one.
-/

namespace BundleFront.Table

variable {κ α : Type} [DecidableEq κ]

/-- Give `key` a value, at its old place or behind all others. -/
def put (key : κ) (value : α) : List (κ × α) → List (κ × α)
  | [] => [(key, value)]
  | entry :: rest =>
      if entry.1 = key then (key, value) :: rest else entry :: put key value rest

/-- Change the value of `key`, starting from `initial` where it has none. -/
def update (key : κ) (initial : α) (change : α → α) : List (κ × α) → List (κ × α)
  | [] => [(key, change initial)]
  | entry :: rest =>
      if entry.1 = key then (key, change entry.2) :: rest
      else entry :: update key initial change rest

/-- The value of `key`. -/
def get? (key : κ) : List (κ × α) → Option α
  | [] => none
  | entry :: rest => if entry.1 = key then some entry.2 else get? key rest

/-- The table of a list of entries, in the order in which keys first came. -/
def ofList (entries : List (κ × α)) : List (κ × α) :=
  entries.foldl (fun table entry => put entry.1 entry.2 table) []

def keys (table : List (κ × α)) : List κ := table.map Prod.fst

/-- Whether two tables give every key the same value, in whatever order. -/
def same [DecidableEq α] (s t : List (κ × α)) : Bool :=
  s.length == t.length && s.all fun entry => decide (get? entry.1 t = some entry.2)

/-- Give `name` a value in a table whose names ascend. -/
def putSorted (name : String) (value : α) : List (String × α) → List (String × α)
  | [] => [(name, value)]
  | entry :: rest =>
      if name < entry.1 then (name, value) :: entry :: rest
      else if entry.1 = name then (name, value) :: rest
      else entry :: putSorted name value rest

/-- The table of a list of entries, names ascending. -/
def sortedOfList (entries : List (String × α)) : List (String × α) :=
  entries.foldl (fun table entry => putSorted entry.1 entry.2 table) []

/-- The names in ascending order, each once. -/
def distinct (names : List String) : List String :=
  keys (sortedOfList (names.map fun name => (name, ())))

end BundleFront.Table
