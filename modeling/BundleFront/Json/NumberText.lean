import BundleFront.Json.Document

/-!
# Number literals

A literal has a whole part, an optional fraction and an optional exponent.  One
without the last two is an integer if 64 bits hold it.  Of any other literal the
leading digits are taken as long as 64 bits hold them, and the number so made is
turned into a double and scaled by a power of ten; where the power is larger than
a double can be, it is scaled in steps.
-/

namespace BundleFront

/-- The parts of a number literal, digits first to last. -/
structure NumberText where
  negative : Bool
  whole : List Nat
  fraction : Option (List Nat)
  /-- Whether the exponent is negative, and its digits -/
  exponent : Option (Bool × List Nat)
deriving DecidableEq, Repr

namespace NumberText

/-- The largest number that 64 bits hold. -/
def maxWord : Nat := 0xFFFFFFFFFFFFFFFF

/-- Append digits to `n` as long as 64 bits hold the result; with the digits that are left. -/
def takeDigits (n : Nat) : List Nat → Nat × List Nat
  | [] => (n, [])
  | d :: rest => if n * 10 + d ≤ maxWord then takeDigits (n * 10 + d) rest else (n, d :: rest)

def ofDigits (digits : List Nat) : Nat := digits.foldl (fun n d => n * 10 + d) 0

/-- The double nearest to a power of ten. -/
def tenTo (k : Nat) : Float := Float.ofScientific 1 false k

/-- `x · 10 ^ e`, or nothing where no double is large enough. -/
def scale (x : Float) (e : Int) : Option Float :=
  if 0 ≤ e then
    if 308 < e then if x == 0 then some x else none
    else
      let y := x * tenTo e.toNat
      if y.isInf then none else some y
  else if -308 ≤ e then some (x / tenTo (-e).toNat)
  else if x == 0 then some x
  else scale (x / tenTo 308) (e + 308)
termination_by (-e).toNat

/-- The largest exponent that is read as such. -/
def maxExponent : Nat := 0x7FFFFFFF

/-- The magnitude of a literal that is no integer. -/
def magnitude (t : NumberText) : Option Float :=
  let (n, skipped) := takeDigits 0 t.whole
  let fraction := t.fraction.getD []
  let (n, unused) := takeDigits n fraction
  let e : Int := Int.ofNat skipped.length - Int.ofNat (fraction.length - unused.length)
  match t.exponent with
  | none => scale (Float.ofNat n) e
  | some (negative, digits) =>
      let k := ofDigits digits
      if k ≤ maxExponent then
        scale (Float.ofNat n) (if negative then e - k else e + k)
      else if n = 0 || negative then some 0
      else none

/-- The number that a literal stands for, unless it is too large for a double. -/
def value (t : NumberText) : Option JsonNumber :=
  let n := ofDigits t.whole
  let signed (x : Float) : JsonNumber := .real (if t.negative then -x else x)
  if t.fraction.isNone && t.exponent.isNone && decide (n ≤ maxWord) then
    if !t.negative then some (.int n)
    else if n = 0 ∨ 0x8000000000000000 < n then some (signed (Float.ofNat n))
    else some (.int (-n))
  else t.magnitude.map signed

/-- The digits at the front of a text, at least one. -/
def readDigits (s : List Char) : Except Fault (List Nat × List Char) :=
  match s with
  | [] => .error .unfinished
  | c :: _ =>
      if c.isDigit then
        .ok ((s.takeWhile Char.isDigit).map (fun d => d.toNat - '0'.toNat),
          s.dropWhile Char.isDigit)
      else .error .malformed

/-- The whole part: one zero, or digits of which the first is none. -/
def readWhole (s : List Char) : Except Fault (List Nat × List Char) :=
  match s with
  | '0' :: d :: rest => if d.isDigit then .error .malformed else .ok ([0], d :: rest)
  | _ => readDigits s

def readFraction (s : List Char) : Except Fault (Option (List Nat) × List Char) :=
  match s with
  | '.' :: rest => (readDigits rest).map fun (digits, rest) => (some digits, rest)
  | _ => .ok (none, s)

def readExponent (s : List Char) : Except Fault (Option (Bool × List Nat) × List Char) :=
  let digits (negative : Bool) (rest : List Char) :=
    (readDigits rest).map fun (digits, rest) => (some (negative, digits), rest)
  match s with
  | c :: rest =>
      if c = 'e' ∨ c = 'E' then
        match rest with
        | '+' :: rest => digits false rest
        | '-' :: rest => digits true rest
        | _ => digits false rest
      else .ok (none, s)
  | [] => .ok (none, s)

/-- The literal at the front of a text, and what follows it. -/
def read (s : List Char) : Except Fault (NumberText × List Char) := do
  let (negative, s) := match s with
    | '-' :: rest => (true, rest)
    | _ => (false, s)
  let (whole, s) ← readWhole s
  let (fraction, s) ← readFraction s
  let (exponent, s) ← readExponent s
  return ({ negative, whole, fraction, exponent }, s)

/-- The number at the front of a text, and what follows unless reading ends here.  Who passes
over a number that breaks off finds it malformed, and nothing wrong with one out of range. -/
def readLeaf (s : List Char) : Leaf JsonNumber × Option (List Char) :=
  match read s with
  | .error fault => (⟨.error fault, some .malformed⟩, none)
  | .ok (t, rest) =>
      match t.value with
      | some n => (.sound n, some rest)
      | none => (⟨.error .malformed, none⟩, some rest)

end NumberText
end BundleFront
