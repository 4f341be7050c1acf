/-!
# Sets of code points

A set of code points is a list of ranges.  The operations return the canonical
form: ranges in ascending order, with a gap between any two neighbours.
`CodeSet.ofHex` reads the form in which the tables of this library are written
down, `first-last` in hexadecimal, one range a word.
-/

namespace BundleFront.Text

/-- The value of a hexadecimal digit of either case. -/
def hexDigit? (c : Char) : Option Nat :=
  if '0' ≤ c ∧ c ≤ '9' then some (c.toNat - '0'.toNat)
  else if 'a' ≤ c ∧ c ≤ 'f' then some (c.toNat - 'a'.toNat + 10)
  else if 'A' ≤ c ∧ c ≤ 'F' then some (c.toNat - 'A'.toNat + 10)
  else none

/-- The number written by hexadecimal digits; other characters are passed over. -/
def ofHexDigits (cs : List Char) : Nat :=
  cs.foldl (fun n c => match hexDigit? c with
    | some d => 16 * n + d
    | none => n) 0

/-- The words of a text that spaces and line ends divide. -/
def words (text : String) : List (List Char) :=
  let step := fun (acc : List (List Char) × List Char) (c : Char) =>
    if c.isWhitespace then
      if acc.2.isEmpty then acc else (acc.2.reverse :: acc.1, [])
    else (acc.1, c :: acc.2)
  let (done, last) := text.toList.foldl step ([], [])
  (if last.isEmpty then done else last.reverse :: done).reverse

/-- The code points from `first` to `last`, both included. -/
structure CodeRange where
  first : Nat
  last : Nat
deriving DecidableEq, Repr

/-- A set of code points, as the ranges it consists of. -/
abbrev CodeSet := List CodeRange

namespace CodeSet

/-- The last code point there is. -/
def maxCode : Nat := 0x10FFFF

def contains (s : CodeSet) (n : Nat) : Bool :=
  s.any fun r => decide (r.first ≤ n) && decide (n ≤ r.last)

/-- The one code point `n`. -/
def single (n : Nat) : CodeSet := [⟨n, n⟩]

/-- Every code point. -/
def full : CodeSet := [⟨0, maxCode⟩]

/-- Join `current` with the ranges after it, all in ascending order of their starts. -/
def mergeInto (current : CodeRange) : CodeSet → CodeSet
  | [] => [current]
  | r :: rest =>
      if r.first ≤ current.last + 1 then
        mergeInto ⟨current.first, max current.last r.last⟩ rest
      else current :: mergeInto r rest

/-- The canonical form of any list of ranges. -/
def canonical (ranges : List CodeRange) : CodeSet :=
  match ranges.mergeSort (fun a b => decide (a.first ≤ b.first)) with
  | [] => []
  | r :: rest => mergeInto r rest

def union (s t : CodeSet) : CodeSet := canonical (s ++ t)

/-- What is not in the canonical set `s` from `next` on. -/
def complementFrom (next : Nat) : CodeSet → CodeSet
  | [] => if next ≤ maxCode then [⟨next, maxCode⟩] else []
  | r :: rest =>
      if next < r.first then ⟨next, r.first - 1⟩ :: complementFrom (r.last + 1) rest
      else complementFrom (r.last + 1) rest

def complement (s : CodeSet) : CodeSet := complementFrom 0 (canonical s)

def inter (s t : CodeSet) : CodeSet := complement (union (complement s) (complement t))

def diff (s t : CodeSet) : CodeSet := inter s (complement t)

/-- The code points in exactly one of the two sets. -/
def symmDiff (s t : CodeSet) : CodeSet := union (diff s t) (diff t s)

/-- Read ranges such as `41-5a 5f`: a word is a range or one code point. -/
def ofHex (text : String) : CodeSet :=
  (words text).map fun word =>
    let first := word.takeWhile (· != '-')
    match word.dropWhile (· != '-') with
    | [] => ⟨ofHexDigits first, ofHexDigits first⟩
    | _ :: last => ⟨ofHexDigits first, ofHexDigits last⟩

end CodeSet
end BundleFront.Text
