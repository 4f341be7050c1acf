import BundleFront.Pattern.Plan
import BundleFront.Pattern.States

/-!
# Size of a pattern

A pattern is built as two automata over bytes, one that reads forward and one
that reads backward, and it is valid only if neither is too large.  Each turn of a
loop with bounds has states of its own, so nested loops grow quickly.

A part of an automaton has a first and a last state.  Where the last state is a
fork, what follows it is one more branch of the fork.
-/

namespace BundleFront.Pattern

open Text

/-- The direction that an automaton reads in. -/
inductive Direction
  | forward
  | backward
deriving DecidableEq, Repr

/-- The states so far, and whether the last part ends with a fork. -/
structure Built where
  tally : Tally
  forks : Bool := false
deriving DecidableEq, Repr

/-- Building a part; there is no result if the automaton becomes too large. -/
abbrev Builder := Tally → Option Built

namespace Built

/-- The states once something follows the part. -/
def followed (built : Built) : Tally :=
  if built.forks then built.tally.widen branchSize else built.tally

/-- The states once one more state follows the part, from which others do not branch off. -/
def close (built : Built) : Option Built := do
  return ⟨← built.followed.add 0, false⟩

end Built

namespace Builder

/-- A single state. -/
def state : Builder := fun tally => do return ⟨← tally.add 0, false⟩

/-- States in turn, each of which takes one byte. -/
def bytes (count : Nat) : Builder := fun tally => do return ⟨← tally.addMany count, false⟩

/-- More of the same part behind one. -/
def more (part : Builder) : (count : Nat) → Built → Option Built
  | 0, built => some built
  | count + 1, built => do more part count (← part built.followed)

/-- The part a number of times. -/
def exactly (part : Builder) : (count : Nat) → Builder
  | 0, tally => state tally
  | count + 1, tally => do more part count (← part tally)

/-- Each turn is entered by a fork, which may also lead to the end of the loop. -/
def optionalTurns (part : Builder) : (count : Nat) → Built → Option Built
  | 0, built => some built
  | count + 1, built => do
      let tally ← built.followed.add (2 * branchSize)
      optionalTurns part count (← part tally)

/-- The part, or nothing. -/
def optional (part : Builder) : Builder := fun tally => do
  let built ← part (← tally.add (2 * branchSize))
  return ⟨← built.followed.add 0, false⟩

/-- A part that always takes a byte, any number of times. -/
def anyTimes (part : Builder) : Builder := fun tally => do
  let built ← part (← tally.add branchSize)
  return ⟨built.followed, true⟩

/-- A part, repeated at least once. -/
def onceOrMore (part : Builder) : Builder := fun tally => do
  let built ← part tally
  return ⟨← built.followed.add branchSize, true⟩

/-- A part that may take nothing, any number of times: none, or once and more. -/
def noneOrMore (part : Builder) : Builder := fun tally => do
  let repeated ← onceOrMore part tally
  let tally ← repeated.followed.add (2 * branchSize)
  return ⟨← tally.add 0, false⟩

/-- A part a number of times within bounds. -/
def within (part : Builder) (alwaysTakes : Bool) (least : Nat) (most : Option Nat) : Builder :=
  match least, most with
  | 0, none => if alwaysTakes then anyTimes part else noneOrMore part
  | 1, none => onceOrMore part
  | least, none => fun tally => do
      let built ← exactly part (least - 1) tally
      onceOrMore part built.followed
  | least, some most =>
      if least = most then exactly part least
      else if least = 0 ∧ most = 1 then optional part
      else fun tally => do
        let built ← exactly part least tally
        let tally ← built.tally.add 0
        let built ← optionalTurns part (most - least) { built with tally }
        return ⟨built.followed, false⟩

/-- Parts in turn. -/
def inTurn : List Builder → Builder
  | [], tally => state tally
  | part :: rest, tally => do
      let built ← part tally
      match rest with
      | [] => return built
      | _ => inTurn rest built.followed

/-- A fork with a branch for each part, and one end.  The fork comes after two of the parts. -/
def anyOf (parts : List Builder) : Builder := fun tally => do
  let build (tally : Tally) (part : Builder) : Option Tally := do
    return (← part tally).followed
  let tally ← (parts.take 2).foldlM build tally
  let tally ← tally.add (branchSize * parts.length)
  let tally ← tally.add 0
  return ⟨← (parts.drop 2).foldlM build tally, false⟩

/-- A set of characters. -/
def set (direction : Direction) (codes : CodeSet) : Builder :=
  let sequences := codes.flatMap Utf8Ranges.ofRange
  if sequences.all (·.length == 1) then fun tally => do
    return ⟨← (← tally.add 0).add (rangeSize * codes.length), false⟩
  else match direction with
    | .forward => fun tally => do return ⟨← ForwardSet.count tally sequences, false⟩
    | .backward => fun tally => do return ⟨← BackwardSet.count tally sequences, false⟩

end Builder

/-! ## Choices between texts -/

namespace TextChoice

/-- The parts between the empty words. -/
def segments : List (List Nat) → List (List (List Nat))
  | [] => [[]]
  | [] :: rest => [] :: segments rest
  | word :: rest =>
      match segments rest with
      | [] => [[word]]
      | segment :: others => (word :: segment) :: others

/-- The words by their first byte, each without it. -/
def branches (words : List (List Nat)) : List (List (List Nat)) :=
  (words.filterMap List.head?).eraseDups.map fun byte =>
    (words.filter fun word => word.head? == some byte).map List.tail

/-- The number of states and their size for words that begin alike, of length at most `fuel`.  The
words are told apart byte by byte, but an earlier word that ends keeps the words before it from
those after it. -/
def count : (fuel : Nat) → List (List Nat) → Nat × Nat
  | 0, _ => (0, 0)
  | fuel + 1, words =>
      let words := match words.dropWhile List.isEmpty with
        | [] => []
        | rest => if rest.length < words.length then [] :: rest else words
      if words.isEmpty then (0, 0)
      else
        let parts := segments words
        let groups := parts.map branches
        let used := groups.filter (!·.isEmpty)
        let own := used.map fun group =>
          stateSize + if group.length = 1 then 0 else rangeSize * group.length
        let fork := stateSize + branchSize * (used.length + (parts.length - 1))
        let below := (groups.flatMap id).map (count fuel)
        (used.length + 1 + (below.map Prod.fst).foldl (· + ·) 0,
          own.foldl (· + ·) fork + (below.map Prod.snd).foldl (· + ·) 0)

/-- A choice between words. -/
def build (words : List (List Nat)) : Builder := fun tally => do
  let tally ← tally.add 0
  let (states, size) := count ((words.map List.length).foldl max 0 + 1) words
  let size := tally.size + size
  if size ≤ sizeLimit then return ⟨⟨tally.states + states, size⟩, false⟩ else none

end TextChoice

namespace Plan

/-- The bytes of a code point. -/
def bytesOf (code : Nat) : List Nat :=
  (String.singleton (Char.ofNat code)).toUTF8.toList.map UInt8.toNat

/-- The bytes of a text. -/
def bytes? : Plan → Option (List Nat)
  | literal codes => some (codes.flatMap bytesOf)
  | _ => none

mutual

/-- The states of a plan. -/
def build (direction : Direction) : Plan → Builder
  | empty => .state
  | literal codes => .bytes (codes.flatMap bytesOf).length
  | set codes => .set direction codes
  | look _ => .state
  | loop body least most => .within (build direction body) body.alwaysTakes least most
  | capture body =>
      match direction with
      | .forward => fun tally => do (← build direction body (← tally.add 0)).close
      | .backward => build direction body
  | seq parts =>
      .inTurn (match direction with
        | .forward => buildAll direction parts
        | .backward => (buildAll direction parts).reverse)
  | alt parts =>
      match parts.mapM bytes? with
      | some words =>
          TextChoice.build (match direction with
            | .forward => words
            | .backward => words.map List.reverse)
      | none => .anyOf (buildAll direction parts)

def buildAll (direction : Direction) : List Plan → List Builder
  | [] => []
  | part :: rest => build direction part :: buildAll direction rest

end

/-- Whether the automaton for the direction is small enough.  Unless all matches start at one
place, it first passes over any bytes. -/
def fitsIn (direction : Direction) (plan : Plan) : Bool :=
  let anchored := match direction with
    | .forward => plan.pinned .start .front
    | .backward => plan.pinned .stop .back
  let anyByte : Builder := .set direction [⟨0, 0x7F⟩]
  let approach : Builder := if anchored then .state else .anyTimes anyByte
  let whole : Plan := match direction with
    | .forward => .capture plan
    | .backward => plan
  let built := do
    let built ← approach {}
    let built ← whole.build direction built.followed
    built.close
  built.any fun built => decide (built.tally.size ≤ sizeLimit)

/-- How many texts a choice needs to be looked up in a table, however large, instead of being built
as automata. -/
def tableLimit : Nat := 3000

/-- Whether the plan is a choice between so many texts. -/
def isTable : Plan → Bool
  | alt parts => decide (tableLimit ≤ parts.length) && (parts.all fun part => part.bytes?.isSome)
  | _ => false

end Plan

/-- Whether the pattern is small enough to be valid. -/
def Node.fits (node : Node) : Bool :=
  let plan := node.plan
  plan.isTable || (plan.fitsIn .forward && plan.fitsIn .backward)

end BundleFront.Pattern
