import BundleFront.Pattern.Syntax

/-!
# Plans

A plan is what is left of a pattern when it is put together from its parts:
neighbouring texts become one text, sequences within sequences and choices within
choices are joined, a choice between single characters becomes a set, and what
all alternatives of a choice begin with comes before the choice.  A plan matches
as its pattern does, but needs fewer states.
-/

namespace BundleFront.Pattern

open Text

inductive Plan
  | empty
  /-- The characters with these code points in turn -/
  | literal (codes : List Nat)
  | set (codes : CodeSet)
  | look (look : Look)
  | loop (body : Plan) (least : Nat) (most : Option Nat)
  | capture (body : Plan)
  | seq (parts : List Plan)
  | alt (parts : List Plan)

namespace Plan

/-! ## What a plan takes -/

mutual

/-- Whether the plan takes no character, whatever the text. -/
def takesNothing : Plan → Bool
  | empty => true
  | literal _ => false
  | set _ => false
  | look _ => true
  | loop body _ most => takesNothing body || most == some 0
  | capture body => takesNothing body
  | seq parts => allTakeNothing parts
  | alt parts => allTakeNothing parts

def allTakeNothing : List Plan → Bool
  | [] => true
  | part :: rest => takesNothing part && allTakeNothing rest

end

mutual

/-- The fewest characters that a match takes; what never matches has none. -/
def leastLength? : Plan → Option Nat
  | empty => some 0
  | literal codes => some codes.length
  | set codes => if codes.isEmpty then none else some 1
  | look _ => some 0
  | loop body least _ => (leastLength? body).map (least * ·)
  | capture body => leastLength? body
  | seq parts => (leastLengths? parts).map fun lengths => lengths.foldl (· + ·) 0
  | alt parts => (leastLengths? parts).bind List.min?

def leastLengths? : List Plan → Option (List Nat)
  | [] => some []
  | part :: rest => do
      let first ← leastLength? part
      return first :: (← leastLengths? rest)

end

/-- Whether each match takes a character. -/
def alwaysTakes (plan : Plan) : Bool := plan.leastLength?.any (0 < ·)

/-- The side of a plan that a look may stand at. -/
inductive Edge
  | front
  | back
deriving DecidableEq, Repr

mutual

/-- Whether each match holds the look at this edge. -/
def pinned (asked : Look) (edge : Edge) : Plan → Bool
  | empty => false
  | literal _ => false
  | set _ => false
  | look own => own == asked
  | loop body least _ => decide (0 < least) && pinned asked edge body
  | capture body => pinned asked edge body
  | seq parts =>
      match edge with
      | .front => pinnedFront asked parts
      | .back => pinnedBack asked parts
  | alt parts => allPinned asked edge parts

/-- The same for a sequence, whose front ends with the first part that takes a character. -/
def pinnedFront (asked : Look) : List Plan → Bool
  | [] => false
  | part :: rest => pinned asked .front part || (takesNothing part && pinnedFront asked rest)

def pinnedBack (asked : Look) : List Plan → Bool
  | [] => false
  | part :: rest =>
      pinnedBack asked rest || (allTakeNothing rest && pinned asked .back part)

def allPinned (asked : Look) (edge : Edge) : List Plan → Bool
  | [] => true
  | part :: rest => pinned asked edge part && allPinned asked edge rest

end

/-! ## Putting plans together -/

mutual

/-- Whether two plans are the same; captures are told apart. -/
def alike : Plan → Plan → Bool
  | empty, empty => true
  | literal codes, literal codes' => codes == codes'
  | set codes, set codes' => codes == codes'
  | look own, look own' => own == own'
  | loop body least most, loop body' least' most' =>
      least == least' && most == most' && alike body body'
  | seq parts, seq parts' => allAlike parts parts'
  | alt parts, alt parts' => allAlike parts parts'
  | _, _ => false

def allAlike : List Plan → List Plan → Bool
  | [], [] => true
  | part :: rest, part' :: rest' => alike part part' && allAlike rest rest'
  | _, _ => false

end

/-- The plan for one character of a set. -/
def ofSet (codes : CodeSet) : Plan :=
  match CodeSet.canonical codes with
  | [range] => if range.first = range.last then literal [range.first] else set [range]
  | codes => set codes

/-- Put a part in front of others; texts are joined. -/
def consPart (part : Plan) (rest : List Plan) : List Plan :=
  match part, rest with
  | literal codes, literal codes' :: rest => literal (codes ++ codes') :: rest
  | _, _ => part :: rest

/-- The parts in turn. -/
def inTurn (parts : List Plan) : Plan :=
  let flat := parts.flatMap fun
    | empty => []
    | seq parts => parts
    | part => [part]
  match flat.foldr consPart [] with
  | [] => empty
  | [part] => part
  | parts => seq parts

/-- The set of a plan for one character that is given as a text. -/
def single? : Plan → Option CodeSet
  | literal [code] => some (CodeSet.single code)
  | _ => none

/-- The set of a plan for one character that is given as a set. -/
def set? : Plan → Option CodeSet
  | set codes => some codes
  | _ => none

/-- Any one of at least two parts, none of which is a choice. -/
def anyOfFlat (parts : List Plan) : Plan :=
  match (parts.mapM single?).or (parts.mapM set?) with
  | some sets => ofSet sets.flatten
  | none => alt parts

/-- The alternatives of a part. -/
def alternatives : Plan → List Plan
  | alt parts => parts
  | part => [part]

/-- How many parts two sequences have in common at their beginnings. -/
def commonLength (parts parts' : List Plan) : Nat :=
  ((parts.zip parts').takeWhile fun (part, part') => alike part part').length

/-- The parts of a sequence. -/
def parts? : Plan → Option (List Plan)
  | seq parts => some parts
  | _ => none

/-- Any one of at least two parts, none of which is a choice; what all begin with comes first. -/
def factored (parts : List Plan) : Plan :=
  match parts.mapM parts? with
  | some (first :: others) =>
      let common := (others.map (commonLength first)).foldl min first.length
      if common = 0 then anyOfFlat parts
      else
        let rests := (first :: others).map fun parts => inTurn (parts.drop common)
        inTurn (first.take common ++ [anyOfFlat (rests.flatMap alternatives)])
  | _ => anyOfFlat parts

/-- Any one of the parts. -/
def anyOf (parts : List Plan) : Plan :=
  match parts.flatMap alternatives with
  | [] => set []
  | [part] => part
  | parts => factored parts

/-- The part several times.  Where it takes nothing, one turn is as good as many. -/
def repeated (body : Plan) (least : Nat) (most : Option Nat) : Plan :=
  let (least, most) :=
    if body.takesNothing then (min least 1, some (min (most.getD 1) 1)) else (least, most)
  if most = some 0 then empty
  else if least = 1 ∧ most = some 1 then body
  else loop body least most

end Plan

/-- What a node contributes to a sequence or choice that it ends. -/
inductive Chain
  | one (plan : Plan)
  | seq (plans : List Plan)
  | alt (plans : List Plan)

namespace Chain

def plan : Chain → Plan
  | one plan => plan
  | seq plans => .inTurn plans
  | alt plans => .anyOf plans

def inSeq : Chain → List Plan
  | seq plans => plans
  | chain => [chain.plan]

def inAlt : Chain → List Plan
  | alt plans => plans
  | chain => [chain.plan]

end Chain

/-- The chain of a node. -/
def Node.chain : Node → Chain
  | empty => .one .empty
  | set codes => .one (.ofSet codes)
  | look asked => .one (.look asked)
  | seq first second => .seq (first.chain.plan :: second.chain.inSeq)
  | alt first second => .alt (first.chain.plan :: second.chain.inAlt)
  | loop body least most => .one (body.chain.plan.repeated least most)
  | group captures body => .one (if captures then .capture body.chain.plan else body.chain.plan)

/-- The plan of a node. -/
def Node.plan (node : Node) : Plan := node.chain.plan

end BundleFront.Pattern
