import BundleFront.Json.NumberText
import BundleFront.Json.StringText

/-!
# Reading JSON texts

The reader turns a text into a document and never fails; faults become part of
the document.  Values and the items and members of containers are read by mutual
recursion.  The way into a container and each turn of its loop take at least one
character, which is checked before reading goes on, so reading ends.
-/

namespace BundleFront.Document

/-- Whether a character may stand between any two parts of a JSON text. -/
def isBlank (c : Char) : Bool := c == ' ' || c == '\n' || c == '\t' || c == '\r'

def skipBlanks (s : List Char) : List Char := s.dropWhile isBlank

/-- The letters of a word after its first one, and what follows unless reading ends here. -/
def readWord {α : Type} (value : α) : (letters : List Char) → (s : List Char) →
    Leaf α × Option (List Char)
  | [], s => (.sound value, some s)
  | _ :: _, [] => (.broken .unfinished, none)
  | letter :: letters, c :: rest =>
      if c = letter then readWord value letters rest else (.broken .malformed, none)

/-- The parts of a container with the fault that ends them early, and what follows unless reading
ends here. -/
structure Parts (α : Type) where
  parts : List α
  fault : Option Fault
  rest : Option (List Char)

mutual

/-- The value at the front of a text, and what follows unless reading ends here. -/
def readValue (s : List Char) : Document × Option (List Char) :=
  match skipBlanks s with
  | [] => (.missing .unfinished, none)
  | c :: rest =>
      match c with
      | 'n' => let (leaf, rest) := readWord () ['u', 'l', 'l'] rest; (.null leaf, rest)
      | 't' => let (leaf, rest) := readWord true ['r', 'u', 'e'] rest; (.bool leaf, rest)
      | 'f' => let (leaf, rest) := readWord false ['a', 'l', 's', 'e'] rest; (.bool leaf, rest)
      | '"' => let (leaf, rest) := StringText.readLeaf rest; (.string leaf, rest)
      | '[' =>
          match skipBlanks rest with
          | ']' :: rest => (.array [] none, some rest)
          | _ =>
              if rest.length < s.length then
                let found := readItems rest
                (.array found.parts found.fault, found.rest)
              else (.missing .malformed, none)
      | '\x7b' =>
          match skipBlanks rest with
          | '\x7d' :: rest => (.object [] none, some rest)
          | _ =>
              if rest.length < s.length then
                let found := readMembers rest
                (.object found.parts found.fault, found.rest)
              else (.missing .malformed, none)
      | c =>
          if c = '-' || c.isDigit then
            let (leaf, rest) := NumberText.readLeaf (c :: rest)
            (.number leaf, rest)
          else (.missing .malformed, none)
termination_by 2 * s.length

/-- The items of an array from an item on. -/
def readItems (s : List Char) : Parts Document :=
  match readValue s with
  | (item, none) => ⟨[item], none, none⟩
  | (item, some rest) =>
      match skipBlanks rest with
      | ']' :: rest => ⟨[item], none, some rest⟩
      | ',' :: rest =>
          if rest.length < s.length then
            let more := readItems rest
            { more with parts := item :: more.parts }
          else ⟨[item], some .malformed, none⟩
      | [] => ⟨[item], some .unfinished, none⟩
      | _ => ⟨[item], some .malformed, none⟩
termination_by 2 * s.length + 1

/-- The members of an object from a member on; where none stands, its name is what is at fault. -/
def readMembers (s : List Char) : Parts (Leaf String × Document) :=
  match skipBlanks s with
  | [] => ⟨[(.broken .unfinished, .missing .unfinished)], none, none⟩
  | '"' :: rest =>
      match StringText.readLeaf rest with
      | (name, none) => ⟨[(name, .missing .malformed)], none, none⟩
      | (name, some rest) =>
          match skipBlanks rest with
          | [] => ⟨[(name, .missing .unfinished)], none, none⟩
          | ':' :: rest =>
              if rest.length < s.length then
                match readValue rest with
                | (item, none) => ⟨[(name, item)], none, none⟩
                | (item, some rest) =>
                    match skipBlanks rest with
                    | '\x7d' :: rest => ⟨[(name, item)], none, some rest⟩
                    | ',' :: rest =>
                        if rest.length < s.length then
                          let more := readMembers rest
                          { more with parts := (name, item) :: more.parts }
                        else ⟨[(name, item)], some .malformed, none⟩
                    | [] => ⟨[(name, item)], some .unfinished, none⟩
                    | _ => ⟨[(name, item)], some .malformed, none⟩
              else ⟨[(name, .missing .malformed)], none, none⟩
          | _ => ⟨[(name, .missing .malformed)], none, none⟩
  | _ => ⟨[(.broken .malformed, .missing .malformed)], none, none⟩
termination_by 2 * s.length + 1

end

/-- The document of a text, and the fault behind it: nothing but blanks may follow. -/
def ofText (text : String) : Document × Option Fault :=
  match readValue text.toList with
  | (document, none) => (document, none)
  | (document, some rest) =>
      (document, if (skipBlanks rest).isEmpty then none else some .malformed)

end Document

/-- The value of a JSON text. -/
def Json.parse (text : String) : Except Fault Json :=
  let (document, fault) := Document.ofText text
  match document.value, fault with
  | .ok value, none => .ok value
  | .ok _, some fault => .error fault
  | .error fault, _ => .error fault

end BundleFront
