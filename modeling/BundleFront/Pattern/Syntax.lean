import BundleFront.Text.CodeSet

/-!
# Patterns

A pattern describes texts.  It is built from sets of code points and from looks,
which take no character but ask what stands around a place in the text.
-/

namespace BundleFront.Pattern

open Text

/-- A question about a place in a text. -/
inductive Look
  /-- The text starts here. -/
  | start
  /-- The text ends here. -/
  | stop
  /-- A line starts here; if `crlf`, a carriage return ends lines too. -/
  | lineStart (crlf : Bool)
  | lineStop (crlf : Bool)
  /-- Just one of the two neighbours is part of a word; if `wide`, in any script. -/
  | wordBoundary (wide : Bool)
  | noWordBoundary (wide : Bool)
  /-- A word starts here. -/
  | wordStart (wide : Bool)
  | wordStop (wide : Bool)
  /-- No word goes on from before this place. -/
  | wordStartHalf (wide : Bool)
  | wordStopHalf (wide : Bool)
deriving DecidableEq, Repr

inductive Node
  | empty
  /-- One character of a set -/
  | set (codes : CodeSet)
  | look (look : Look)
  | seq (first second : Node)
  | alt (first second : Node)
  /-- At least `least` and at most `most` times, without bound if there is no `most` -/
  | loop (body : Node) (least : Nat) (most : Option Nat)
  /-- A part in brackets; if `captures`, its match could be asked for. -/
  | group (captures : Bool) (body : Node)
deriving DecidableEq, Repr

namespace Node

/-- The nodes one after the other. -/
def seqAll : List Node → Node
  | [] => empty
  | [node] => node
  | node :: rest => seq node (seqAll rest)

/-- Any one of the nodes. -/
def altAll : List Node → Node
  | [] => empty
  | [node] => node
  | node :: rest => alt node (altAll rest)

end Node

/-- Flags that change what a part of a pattern means. -/
structure Flags where
  /-- `i`: letters match in either case -/
  anyCase : Bool := false
  /-- `m`: `^` and `$` match at lines -/
  multiLine : Bool := false
  /-- `s`: `.` matches line ends -/
  dotAll : Bool := false
  /-- `R`: a carriage return ends lines -/
  crlf : Bool := false
  /-- `u`: classes know every script -/
  wide : Bool := true
  /-- `x`: blanks and comments between the parts do not count -/
  spaced : Bool := false
  /-- `U`: loops prefer few turns, which does not change what is found -/
  lazy : Bool := false
deriving DecidableEq, Repr

end BundleFront.Pattern
