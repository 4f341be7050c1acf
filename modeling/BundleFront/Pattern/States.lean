import BundleFront.Text.Utf8
import Std.Data.HashMap

/-!
# States of automata over bytes

The automaton of a pattern reads bytes, so a set of characters needs states for
the bytes that they consist of.  Whether the pattern is read forward or backward,
states that agree are shared as far as two memories of limited size tell that
they do.  A memory keeps what came last in each of its places; the place depends
on the numbers that states have, and those on everything that came before.

The states are only counted.  `Tally` holds their number and their size.
-/

namespace BundleFront.Pattern

open Text

/-- The size of a state, without what its variable parts take. -/
def stateSize : Nat := 32

/-- The size of the range of bytes that leads to a state. -/
def rangeSize : Nat := 8

/-- The size of a way to another state that takes no byte. -/
def branchSize : Nat := 4

/-- How large an automaton may be. -/
def sizeLimit : Nat := 10 * 1024 * 1024

/-- The states so far. -/
structure Tally where
  states : Nat := 0
  size : Nat := 0
deriving DecidableEq, Repr

namespace Tally

/-- One more state, with variable parts of the given size, unless the automaton becomes too
large. -/
def add (tally : Tally) (more : Nat) : Option Tally :=
  let size := tally.size + stateSize + more
  if size ≤ sizeLimit then some ⟨tally.states + 1, size⟩ else none

/-- So many more states without variable parts. -/
def addMany (tally : Tally) (count : Nat) : Option Tally :=
  let size := tally.size + count * stateSize
  if size ≤ sizeLimit then some ⟨tally.states + count, size⟩ else none

/-- Larger parts of states that are there. -/
def widen (tally : Tally) (more : Nat) : Tally := { tally with size := tally.size + more }

end Tally

/-- Where a memory keeps something, by the numbers that make it up. -/
def placeOf (places : Nat) (parts : List Nat) : Nat :=
  let mix (hash : UInt64) (part : Nat) : UInt64 := (hash ^^^ UInt64.ofNat part) * 0x100000001B3
  (parts.foldl mix 0xCBF29CE484222325).toNat % places

/-- A memory for the numbers of states, each under what the state is made of. -/
structure Memory (κ : Type) where
  places : Nat
  kept : Std.HashMap Nat (κ × Nat) := {}

namespace Memory

variable {κ : Type} [BEq κ]

def find? (memory : Memory κ) (place : Nat) (key : κ) : Option Nat :=
  match memory.kept[place]? with
  | some (key', number) => if key' == key then some number else none
  | none => none

def put (memory : Memory κ) (place : Nat) (key : κ) (number : Nat) : Memory κ :=
  { memory with kept := memory.kept.insert place (key, number) }

end Memory

/-! ## Backward -/

namespace BackwardSet

/-- A state that a range of bytes leads from to the state `next`. -/
structure Step where
  next : Nat
  range : CodeRange
deriving BEq

def Step.parts (step : Step) : List Nat := [step.next, step.range.first, step.range.last]

structure Progress where
  tally : Tally
  memory : Memory Step

/-- The number of a state for the step, an old one if the memory knows it. -/
def Progress.step (progress : Progress) (step : Step) : Option (Nat × Progress) :=
  let place := placeOf progress.memory.places step.parts
  match progress.memory.find? place step with
  | some number => some (number, progress)
  | none => do
      let tally ← progress.tally.add 0
      let number := progress.tally.states
      return (number, ⟨tally, progress.memory.put place step number⟩)

/-- The states for a sequence, whose first range leads to `next`. -/
def Progress.sequence (progress : Progress) (next : Nat) :
    Utf8Ranges.ByteRanges → Option Progress
  | [] => some { progress with tally := progress.tally.widen branchSize }
  | range :: rest => do
      let (number, progress) ← progress.step ⟨next, range⟩
      progress.sequence number rest

/-- The states for a set: a branch for each sequence, all to one end. -/
def count (tally : Tally) (sequences : List Utf8Ranges.ByteRanges) : Option Tally := do
  let tally ← tally.add 0
  let last := tally.states
  let tally ← tally.add 0
  let progress ← sequences.foldlM (fun progress sequence => progress.sequence last sequence)
    (⟨tally, { places := 1000 }⟩ : Progress)
  return progress.tally

end BackwardSet

/-! ## Forward -/

namespace ForwardSet

/-- A range of bytes that leads to the state `next`. -/
structure Step where
  range : CodeRange
  next : Nat
deriving BEq

def Step.parts (step : Step) : List Nat := [step.range.first, step.range.last, step.next]

/-- A state that may still grow: its steps, the last one first, and the range of the next one. -/
structure Open where
  steps : List Step := []
  range : Option CodeRange := none

/-- The steps of the state once its open range leads to `next`. -/
def Open.close (state : Open) (next : Nat) : List Step :=
  match state.range with
  | some range => ⟨range, next⟩ :: state.steps
  | none => state.steps

structure Progress where
  tally : Tally
  memory : Memory (List Step)

/-- The number of the state with these steps, an old one if the memory knows it. -/
def Progress.state (progress : Progress) (steps : List Step) : Option (Nat × Progress) :=
  let place := placeOf progress.memory.places (steps.reverse.flatMap Step.parts)
  match progress.memory.find? place steps with
  | some number => some (number, progress)
  | none => do
      let tally ← progress.tally.add (rangeSize * steps.length)
      let number := progress.tally.states
      return (number, ⟨tally, progress.memory.put place steps number⟩)

/-- Close states of which each one leads to the one behind it, and the last one to `last`. -/
def Progress.closeAll (progress : Progress) (last : Nat) : List Open → Option (Nat × Progress)
  | [] => some (last, progress)
  | state :: rest => do
      let (next, progress) ← progress.closeAll last rest
      progress.state (state.close next)

/-- The states from the first one on of which the ranges are those of the sequence. -/
def sharedLength : List Open → Utf8Ranges.ByteRanges → Nat
  | state :: states, range :: ranges =>
      if state.range == some range then sharedLength states ranges + 1 else 0
  | _, _ => 0

/-- Follow the open states as far as the sequence has their ranges, close the others, and open new
ones for the rest of the sequence. -/
def Progress.sequence (last : Nat) (acc : List Open × Progress)
    (ranges : Utf8Ranges.ByteRanges) : Option (List Open × Progress) := do
  let shared := sharedLength acc.1 ranges
  let (next, progress) ← acc.2.closeAll last (acc.1.drop (shared + 1))
  let fork := match acc.1.drop shared with
    | state :: _ => state.close next
    | [] => []
  let grown := match ranges.drop shared with
    | range :: rest => ⟨fork, some range⟩ :: rest.map fun range => ⟨[], some range⟩
    | [] => [⟨fork, none⟩]
  return (acc.1.take shared ++ grown, progress)

/-- The states for a set, whose sequences ascend. -/
def count (tally : Tally) (sequences : List Utf8Ranges.ByteRanges) : Option Tally := do
  let last := tally.states
  let tally ← tally.add 0
  let (states, progress) ← sequences.foldlM (Progress.sequence last)
    (([{}], ⟨tally, { places := 10000 }⟩) : List Open × Progress)
  let (_, progress) ← progress.closeAll last states
  return progress.tally

end ForwardSet
end BundleFront.Pattern
