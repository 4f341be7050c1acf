import BundleFront.Pattern.Syntax
import BundleFront.Pattern.Class

/-!
# Where patterns match

A text of `n` characters has the places `0` to `n`.  A set of places is a number
whose bit `i` stands for the place `i`.  `Node.reach` says which places a match
of a node leads to from given places; a pattern is found in a text if it leads
anywhere from all places together.
-/

namespace BundleFront.Pattern

open Text

/-- A set of places in a text, one bit for each. -/
abbrev Places := Nat

/-- Whether a look holds between two characters, of which either may be missing. -/
def Look.holds (look : Look) (before after : Option Char) : Bool :=
  let word (wide : Bool) (c : Option Char) : Bool := c.any (isWord wide)
  match look with
  | .start => before.isNone
  | .stop => after.isNone
  | .lineStart false => before.isNone || before == some '\n'
  | .lineStop false => after.isNone || after == some '\n'
  | .lineStart true =>
      before.isNone || before == some '\n' || (before == some '\r' && after != some '\n')
  | .lineStop true =>
      after.isNone || after == some '\r' || (after == some '\n' && before != some '\r')
  | .wordBoundary wide => word wide before != word wide after
  | .noWordBoundary wide => word wide before == word wide after
  | .wordStart wide => !word wide before && word wide after
  | .wordStop wide => word wide before && !word wide after
  | .wordStartHalf wide => !word wide before
  | .wordStopHalf wide => !word wide after

/-- The places in front of the characters with the given code points. -/
def placesOf (codes : CodeSet) : List Char → Places
  | [] => 0
  | c :: rest => 2 * placesOf codes rest + if codes.contains c.toNat then 1 else 0

/-- The places where a look holds, in what follows the character `before`. -/
def placesWhere (look : Look) (before : Option Char) : List Char → Places
  | [] => if look.holds before none then 1 else 0
  | c :: rest =>
      2 * placesWhere look (some c) rest + if look.holds before (some c) then 1 else 0

/-- All places of a text with `length` characters. -/
def allPlaces (length : Nat) : Places := Nat.pow 2 (length + 1) - 1

/-- Take just `count` turns; turns that change nothing are skipped. -/
def turns (turn : Places → Places) : (count : Nat) → Places → Places
  | 0, places => places
  | count + 1, places =>
      let next := turn places
      if next = places then places else turns turn count next

/-- Take at most `count` turns, and collect the places on the way. -/
def turnsUpTo (turn : Places → Places) : (count : Nat) → Places → Places
  | 0, places => places
  | count + 1, places =>
      let next := places ||| turn places
      if next = places then places else turnsUpTo turn count next

namespace Node

/-- The places that matches of a node lead to from the given ones. -/
def reach (text : List Char) : Node → Places → Places
  | empty, places => places
  | set codes, places => 2 * (places &&& placesOf codes text)
  | look asked, places => places &&& placesWhere asked none text
  | seq first second, places => second.reach text (first.reach text places)
  | alt first second, places => first.reach text places ||| second.reach text places
  | group _ body, places => body.reach text places
  | loop body least most, places =>
      let optional := match most with
        | some most => most - least
        | none => text.length
      turnsUpTo (body.reach text) optional (turns (body.reach text) least places)

/-- Whether the node matches some part of the text. -/
def matchesIn (node : Node) (text : String) : Bool :=
  let text := text.toList
  node.reach text (allPlaces text.length) != 0

end Node
end BundleFront.Pattern
