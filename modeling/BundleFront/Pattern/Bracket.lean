import BundleFront.Pattern.Lexeme

/-!
# Classes in brackets

A class lists characters, ranges, named classes and classes of its own.  An
operator sets what was listed so far against what follows, up to the next
operator or the end of the class.  Reading keeps a stack of the classes that are
still open, and each step takes at least one character.
-/

namespace BundleFront.Pattern

open Text

inductive SetOperator
  /-- `&&` -/
  | inter
  /-- `--` -/
  | diff
  /-- `~~` -/
  | symmDiff
deriving DecidableEq, Repr

def SetOperator.apply : SetOperator → CodeSet → CodeSet → CodeSet
  | inter => CodeSet.inter
  | diff => CodeSet.diff
  | symmDiff => CodeSet.symmDiff

/-- The code points of a part of a class, and how deeply the part is nested. -/
structure ClassPart where
  codes : CodeSet
  depth : Nat := 0
deriving DecidableEq, Repr

/-- The parts taken together. -/
def ClassPart.all : List ClassPart → ClassPart
  | [] => ⟨[], 0⟩
  | [part] => part
  | parts =>
      ⟨CodeSet.canonical (parts.flatMap ClassPart.codes),
        ((parts.map ClassPart.depth).foldl max 0) + 1⟩

/-- A class whose closing bracket has not been read. -/
structure OpenClass where
  negated : Bool
  /-- What stands before the last operator -/
  left : Option (SetOperator × ClassPart) := none
  /-- What was listed since -/
  listed : List ClassPart := []
deriving DecidableEq, Repr

namespace OpenClass

def add (cls : OpenClass) (part : ClassPart) : OpenClass :=
  { cls with listed := cls.listed ++ [part] }

/-- What the class holds so far; both sides of an operator know both cases of their letters. -/
def part (flags : Flags) (cls : OpenClass) : ClassPart :=
  let right := ClassPart.all cls.listed
  match cls.left with
  | none => right
  | some (operator, left) =>
      ⟨operator.apply (closeCase flags left.codes) (closeCase flags right.codes),
        max left.depth right.depth + 1⟩

/-- The class behind an operator. -/
def operate (flags : Flags) (cls : OpenClass) (operator : SetOperator) : OpenClass :=
  { cls with left := some (operator, cls.part flags), listed := [] }

/-- The finished class; a narrow pattern has no negated ones. -/
def close? (flags : Flags) (cls : OpenClass) : Option ClassPart :=
  let part := cls.part flags
  let codes := closeCase flags part.codes
  if !cls.negated then some ⟨codes, part.depth + 1⟩
  else if flags.wide then some ⟨codes.complement, part.depth + 1⟩
  else none

end OpenClass

/-- The start of a class, after its bracket: a hyphen there is a character, and so is a bracket
that would leave the class empty. -/
def openClass (flags : Flags) (s : List Char) : OpenClass × List Char :=
  let (negated, s) := match skip flags s with
    | '^' :: rest => (true, skip flags rest)
    | s => (false, s)
  let literal (c : Char) : ClassPart := { codes := CodeSet.single c.toNat }
  match takeSpaced flags (· == '-') s with
  | ([], ']' :: rest) => ({ negated, listed := [literal ']'] }, skip flags rest)
  | (hyphens, rest) => ({ negated, listed := hyphens.map literal }, rest)

/-- A character or an escape. -/
def readAtom (flags : Flags) : List Char → Option (Atom × List Char)
  | [] => none
  | '\\' :: rest => readEscape flags rest
  | c :: rest => some (.char c, rest)

/-- The character behind blanks, which is what decides about a hyphen; a comment does not end
here. -/
def peekSpaced (flags : Flags) (s : List Char) : Option Char :=
  if flags.spaced then
    match s.dropWhile isSpace with
    | '#' :: rest => (rest.dropWhile isSpace).head?
    | rest => rest.head?
  else s.head?

/-- The characters from `first` to `last`; a narrow class holds no others than those of ASCII. -/
def classRange? (flags : Flags) (first last : Char) : Option ClassPart :=
  if first ≤ last && (flags.wide || decide (last.toNat < 0x80)) then
    some { codes := [⟨first.toNat, last.toNat⟩] }
  else none

/-- A character, an escape or a range of characters within a class. -/
def readClassItem (flags : Flags) (s : List Char) : Option (ClassPart × List Char) := do
  let (first, rest) ← readAtom flags s
  let alone : Option ClassPart := match first with
    | .char c => classRange? flags c c
    | .set codes => some { codes }
    | .look _ => none
  match skip flags rest with
  | [] => none
  | '-' :: more =>
      let next := peekSpaced flags more
      if next = some ']' || next = some '-' then return (← alone, '-' :: more)
      let (last, rest) ← readAtom flags (skip flags more)
      match first, last with
      | .char first, .char last => return (← classRange? flags first last, rest)
      | _, _ => none
  | rest => return (← alone, rest)

/-- Whether a class of ASCII is negated, its code points, and what follows, if its name starts
after a bracket and a colon here. -/
def asciiClassAt? (s : List Char) : Option (Bool × CodeSet × List Char) :=
  let read (negated : Bool) (s : List Char) : Option (Bool × CodeSet × List Char) :=
    let name := s.takeWhile (· != ':')
    match s.drop name.length with
    | ':' :: ']' :: rest =>
        (asciiClass? (String.ofList name)).map fun codes => (negated, codes, rest)
    | _ => none
  match s with
  | ':' :: '^' :: rest => read true rest
  | ':' :: rest => read false rest
  | _ => none

/-- What a step into a class leads to. -/
inductive ClassStep
  | within (inner : OpenClass) (outer : List OpenClass)
  | behind (part : ClassPart)
deriving DecidableEq, Repr

/-- Take one part of the innermost open class. -/
def classStep (flags : Flags) (inner : OpenClass) (outer : List OpenClass) (s : List Char) :
    Option (ClassStep × List Char) :=
  let operator (op : SetOperator) (rest : List Char) : Option (ClassStep × List Char) :=
    some (.within (inner.operate flags op) outer, rest)
  match skip flags s with
  | [] => none
  | '[' :: rest =>
      match asciiClassAt? rest with
      | some (negated, codes, rest) =>
          let codes := closeCase flags codes
          if !negated then some (.within (inner.add { codes }) outer, rest)
          else if flags.wide then
            some (.within (inner.add { codes := codes.complement }) outer, rest)
          else none
      | none =>
          let (innermost, rest) := openClass flags rest
          some (.within innermost (inner :: outer), rest)
  | ']' :: rest => do
      let part ← inner.close? flags
      match outer with
      | [] => return (.behind part, rest)
      | next :: outer => return (.within (next.add part) outer, rest)
  | '&' :: '&' :: rest => operator .inter rest
  | '-' :: '-' :: rest => operator .diff rest
  | '~' :: '~' :: rest => operator .symmDiff rest
  | s => do
      let (part, rest) ← readClassItem flags s
      return (.within (inner.add part) outer, rest)

/-- The class that the innermost open class is part of, and what follows it. -/
def readClassFrom (flags : Flags) (inner : OpenClass) (outer : List OpenClass) (s : List Char) :
    Option (ClassPart × List Char) :=
  match classStep flags inner outer s with
  | none => none
  | some (.behind part, rest) => some (part, rest)
  | some (.within inner outer, rest) =>
      if rest.length < s.length then readClassFrom flags inner outer rest else none
termination_by s.length

/-- A class, after its bracket. -/
def readClass (flags : Flags) (s : List Char) : Option (ClassPart × List Char) :=
  let (inner, rest) := openClass flags s
  readClassFrom flags inner [] rest

end BundleFront.Pattern
