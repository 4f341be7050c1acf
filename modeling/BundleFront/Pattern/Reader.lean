import BundleFront.Pattern.Bracket

/-!
# Reading patterns

A pattern is read from left to right.  `Reading` holds the alternatives of the
innermost open group, the groups around it, the flags in force and the names that
are taken.  Flags set within a group hold for the rest of it, in all of its
alternatives, and end with it.
-/

namespace BundleFront.Pattern

open Text

/-- A part of a sequence. -/
structure Piece where
  node : Node
  /-- How deeply its parts are nested -/
  depth : Nat := 0
  /-- A change of flags stands among the pieces but cannot be repeated. -/
  repeatable : Bool := true
deriving DecidableEq, Repr

/-- How deep a node is that joins the pieces; a single piece needs none. -/
def joinedDepth : List Piece → Nat
  | [] => 0
  | [piece] => piece.depth
  | pieces => (pieces.map Piece.depth).foldl max 0 + 1

def Piece.sequence (pieces : List Piece) : Piece :=
  { node := Node.seqAll (pieces.map Piece.node), depth := joinedDepth pieces }

def Piece.anyOf (pieces : List Piece) : Piece :=
  { node := Node.altAll (pieces.map Piece.node), depth := joinedDepth pieces }

/-- The alternatives of a group so far, the last one by its pieces. -/
structure Branches where
  finished : List Piece := []
  current : List Piece := []
deriving DecidableEq, Repr

namespace Branches

def add (branches : Branches) (piece : Piece) : Branches :=
  { branches with current := branches.current ++ [piece] }

def next (branches : Branches) : Branches :=
  { finished := branches.finished ++ [Piece.sequence branches.current] }

def piece (branches : Branches) : Piece := Piece.anyOf branches.next.finished

end Branches

/-- A group whose end has not been read. -/
structure OpenGroup where
  capturing : Bool
  /-- What stands around the group -/
  around : Branches
  /-- The flags that hold after it -/
  flagsAfter : Flags
deriving DecidableEq, Repr

structure Reading where
  branches : Branches := {}
  groups : List OpenGroup := []
  flags : Flags := {}
  names : List (List Char) := []
deriving DecidableEq, Repr

/-- How a group begins. -/
inductive GroupHead
  /-- Not a group, but flags for the rest of the group around -/
  | flags (flags : Flags)
  | plain (flags : Flags)
  | capture (name : Option (List Char))
deriving DecidableEq, Repr

/-- Switch the flag with the given letter. -/
def Flags.switch? (on : Bool) (flags : Flags) : Char → Option Flags
  | 'i' => some { flags with anyCase := on }
  | 'm' => some { flags with multiLine := on }
  | 's' => some { flags with dotAll := on }
  | 'R' => some { flags with crlf := on }
  | 'u' => some { flags with wide := on }
  | 'x' => some { flags with spaced := on }
  | 'U' => some { flags with lazy := on }
  | _ => none

/-- Switch flags on, and off behind a hyphen.  No letter comes twice, and a hyphen needs one. -/
def Flags.change? (flags : Flags) (letters : List Char) : Option Flags := do
  if !decide letters.Nodup || letters.getLast? == some '-' then none
  let on ← (letters.takeWhile (· != '-')).foldlM (Flags.switch? true) flags
  ((letters.dropWhile (· != '-')).drop 1).foldlM (Flags.switch? false) on

/-- Whether the name of a group may start with the character.  Names know the letters of an edition
that classes do not know yet. -/
def isNameStart (c : Char) : Bool :=
  c == '_' || Property.alphabetic.contains c.toNat || Property.laterAlphabetic.contains c.toNat

def isNamePart (c : Char) : Bool :=
  isNameStart c || c == '.' || c == '[' || c == ']' || (Category.ofCodeLater c.toNat).isNumber

/-- The name of a group, and what stands behind its closing angle bracket. -/
def readName (s : List Char) : Option (List Char × List Char) :=
  let name := s.takeWhile (· != '>')
  match name, s.drop name.length with
  | first :: others, '>' :: rest =>
      if isNameStart first && others.all isNamePart then some (name, rest) else none
  | _, _ => none

/-- What stands after the bracket of a group.  A pattern cannot look around. -/
def readGroupHead (flags : Flags) (s : List Char) : Option (GroupHead × List Char) :=
  let named (s : List Char) : Option (GroupHead × List Char) :=
    (readName s).map fun (name, rest) => (.capture (some name), rest)
  match skip flags s with
  | '?' :: '=' :: _ | '?' :: '!' :: _ | '?' :: '<' :: '=' :: _ | '?' :: '<' :: '!' :: _ => none
  | '?' :: 'P' :: '<' :: rest => named rest
  | '?' :: '<' :: rest => named rest
  | '?' :: rest => do
      let letters := rest.takeWhile fun c => c != ':' && c != ')'
      let changed ← flags.change? letters
      match rest.drop letters.length with
      | ':' :: rest => return (.plain changed, rest)
      | ')' :: rest => if letters.isEmpty then none else return (.flags changed, rest)
      | _ => none
  | s => some (.capture none, s)

/-- The bounds of a loop, after its brace. -/
def readCount (flags : Flags) (s : List Char) : Option (Nat × Option Nat × List Char) := do
  let (least, s) ← readDecimal flags (skip flags s)
  match s with
  | '\x7d' :: rest => return (least, some least, rest)
  | ',' :: rest =>
      match skip flags rest with
      | '\x7d' :: rest => return (least, none, rest)
      | rest =>
          let (most, s) ← readDecimal flags rest
          match s with
          | '\x7d' :: rest => if least ≤ most then return (least, some most, rest) else none
          | _ => none
  | _ => none

/-- The text behind a question mark that asks for few turns. -/
def dropLazy : List Char → List Char
  | '?' :: rest => rest
  | s => s

/-- What a character stands for. -/
def literal (flags : Flags) (c : Char) : Node :=
  let codes := CodeSet.single c.toNat
  .set (if flags.wide || decide (c.toNat < 0x80) then closeCase flags codes else codes)

/-- What a dot stands for; a narrow pattern has none, since it would take bytes that are no
text. -/
def anyChar? (flags : Flags) : Option Node :=
  if !flags.wide then none
  else if flags.dotAll then some (.set CodeSet.full)
  else if flags.crlf then some (.set (CodeSet.complement (CodeSet.ofHex "a d")))
  else some (.set (CodeSet.complement (CodeSet.ofHex "a")))

namespace Reading

def add (reading : Reading) (piece : Piece) : Reading :=
  { reading with branches := reading.branches.add piece }

/-- Repeat the last piece. -/
def repeatLast? (reading : Reading) (least : Nat) (most : Option Nat) : Option Reading := do
  let piece ← reading.branches.current.getLast?
  if !piece.repeatable then none
  let loop : Piece := { node := .loop piece.node least most, depth := piece.depth + 1 }
  return { reading with
    branches := { reading.branches with current := reading.branches.current.dropLast ++ [loop] } }

/-- Enter a group, or change the flags. -/
def enter? (reading : Reading) : GroupHead → Option Reading
  | .flags flags =>
      some { reading.add { node := .empty, repeatable := false } with flags }
  | .plain flags => some (within false flags reading.names)
  | .capture none => some (within true reading.flags reading.names)
  | .capture (some name) =>
      if reading.names.contains name then none
      else some (within true reading.flags (name :: reading.names))
where
  within (capturing : Bool) (flags : Flags) (names : List (List Char)) : Reading :=
    { branches := {}
      groups := ⟨capturing, reading.branches, reading.flags⟩ :: reading.groups
      flags
      names }

/-- Leave the innermost group. -/
def leave? (reading : Reading) : Option Reading :=
  match reading.groups with
  | [] => none
  | group :: groups =>
      let inner := reading.branches.piece
      let node := Node.group group.capturing inner.node
      some { reading with
        branches := group.around.add { node, depth := inner.depth + 1 }
        groups
        flags := group.flagsAfter }

/-- Take the part of the pattern that starts with `c`. -/
def take (reading : Reading) (c : Char) (rest : List Char) : Option (Reading × List Char) :=
  let flags := reading.flags
  let node (node : Node) (rest : List Char) : Option (Reading × List Char) :=
    some (reading.add { node }, rest)
  let loop (least : Nat) (most : Option Nat) (rest : List Char) : Option (Reading × List Char) :=
    (reading.repeatLast? least most).map fun reading => (reading, dropLazy rest)
  match c with
  | '(' => do
      let (head, rest) ← readGroupHead flags rest
      return (← reading.enter? head, rest)
  | ')' => reading.leave?.map fun reading => (reading, rest)
  | '|' => some ({ reading with branches := reading.branches.next }, rest)
  | '[' => do
      let (part, rest) ← readClass flags rest
      return (reading.add { node := .set part.codes, depth := part.depth }, rest)
  | '?' => loop 0 (some 1) rest
  | '*' => loop 0 none rest
  | '+' => loop 1 none rest
  | '\x7b' => do
      let (least, most, rest) ← readCount flags rest
      loop least most (skip flags rest)
  | '\\' => do
      let (atom, rest) ← readEscape flags rest
      match atom with
      | .char c => node (literal flags c) rest
      | .set codes => node (.set codes) rest
      | .look look => node (.look look) rest
  | '.' => do node (← anyChar? flags) rest
  | '^' => node (.look (if flags.multiLine then .lineStart flags.crlf else .start)) rest
  | '$' => node (.look (if flags.multiLine then .lineStop flags.crlf else .stop)) rest
  | c => node (literal flags c) rest

/-- The whole pattern, once its text has been read. -/
def finish? (reading : Reading) : Option Piece :=
  if reading.groups.isEmpty then some reading.branches.piece else none

/-- Read a pattern to its end. -/
def readFrom (reading : Reading) (s : List Char) : Option Piece :=
  match skip reading.flags s with
  | [] => reading.finish?
  | c :: rest =>
      match reading.take c rest with
      | none => none
      | some (reading, rest') =>
          if rest'.length < s.length then reading.readFrom rest' else none
termination_by s.length

end Reading

/-- How deeply the parts of a pattern may be nested. -/
def depthLimit : Nat := 250

/-- The pattern that a text writes. -/
def Node.read? (text : String) : Option Node := do
  let piece ← Reading.readFrom {} text.toList
  if piece.depth ≤ depthLimit then some piece.node else none

end BundleFront.Pattern
