import BundleFront.Text.Segments

/-!
# Paths

A path is a text in which `/` divides names.  Empty names and the name `.` mean
nothing, except for a `.` that opens a relative path; `..` stays, since it may
lead through a link.  Two texts with the same components name the same place.

`Path.clean` is the lexical normal form, in which `..` takes the name before it
away; it is applied to absolute paths before they are compared or shown.
-/

namespace BundleFront

open Text

/-- A path as it was written. -/
structure Path where
  text : String
deriving DecidableEq, Repr, Inhabited

namespace Path

/-- One step of a path. -/
inductive Component
  | root
  | here
  | up
  | name (text : List Char)
deriving DecidableEq, Repr

/-- The component that a segment beyond the first one stands for, if any. -/
def Component.ofSegment? : List Char → Option Component
  | [] => none
  | ['.'] => none
  | ['.', '.'] => some .up
  | segment => some (.name segment)

def Component.text : Component → List Char
  | root => []
  | here => ['.']
  | up => ['.', '.']
  | name text => text

/-- The components of a text. -/
def componentsOf (cs : List Char) : List Component :=
  match splitOn '/' cs with
  | [] | [[]] => []
  | [] :: rest => .root :: rest.filterMap Component.ofSegment?
  | ['.'] :: rest => .here :: rest.filterMap Component.ofSegment?
  | segments => segments.filterMap Component.ofSegment?

def components (p : Path) : List Component := componentsOf p.text.toList

/-- Whether two paths name the same place. -/
def same (p q : Path) : Bool := p.components == q.components

def isEmpty (p : Path) : Bool := p.text.isEmpty

def isAbsolute (p : Path) : Bool := p.text.toList.head? == some '/'

/-- The shortest text with the given components. -/
def textOf : List Component → List Char
  | .root :: rest => '/' :: joinWith '/' (rest.map Component.text)
  | components => joinWith '/' (components.map Component.text)

def ofComponents (components : List Component) : Path := ⟨String.ofList (textOf components)⟩

/-- `p` seen from `base`: an absolute `p` is itself. -/
def join (base p : Path) : Path :=
  if p.isAbsolute then p
  else
    let cs := base.text.toList
    let separator := if cs.isEmpty || cs.getLast? == some '/' then [] else ['/']
    ⟨String.ofList (cs ++ separator ++ p.text.toList)⟩

/-- Put one more component on a clean stack, whose top is the head of the list. -/
def pushClean (stack : List Component) : Component → List Component
  | .here => stack
  | .up =>
      match stack with
      | .root :: _ => stack
      | .name _ :: rest => rest
      | _ => .up :: stack
  | component => component :: stack

/-- The components that are left when `.` is dropped and `..` takes a name away. -/
def cleanComponents (components : List Component) : List Component :=
  (components.foldl pushClean []).reverse

/-- The lexical normal form; a path that leads nowhere else is `.`. -/
def clean (p : Path) : Path :=
  match cleanComponents p.components with
  | [] => ⟨"."⟩
  | components => ofComponents components

/-- The segments up to the last one that stands for a component. -/
def trimSegments (segments : List (List Char)) : List (List Char) :=
  (segments.reverse.dropWhile fun segment => (Component.ofSegment? segment).isNone).reverse

/-- The text up to the last component; the root and the empty path have none. -/
def parent? (p : Path) : Option Path :=
  match splitOn '/' p.text.toList with
  | [] | [[]] => none
  | [] :: rest =>
      match trimSegments rest with
      | [] => none
      | named => some ⟨String.ofList ('/' :: joinWith '/' (trimSegments named.dropLast))⟩
  | first :: rest =>
      match trimSegments rest with
      | [] => some ⟨""⟩
      | named => some ⟨String.ofList (joinWith '/' (first :: trimSegments named.dropLast))⟩

/-- The directory that holds `p`, empty where there is none. -/
def directory (p : Path) : Path := p.parent?.getD ⟨""⟩

/-- The path with more text at its end. -/
def append (p : Path) (suffix : String) : Path := ⟨p.text ++ suffix⟩

end Path
end BundleFront
