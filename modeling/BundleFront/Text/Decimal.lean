/-!
# Shortest decimals

A double is shown by the fewest digits that read back as the same double; of
two such decimals the nearer one counts, and of two equally near ones the even
one.  The digits are found in exact arithmetic: all decimals that read back as
`m · 2 ^ q` lie between the midpoints to its two neighbours, and on the grid of
the decimals with a given number of digits only the two points next to the
value need a test.  `Decimal.text` then lays the digits out.
-/

namespace BundleFront.Text

/-- The number `digits · 10 ^ exponent`. -/
structure Decimal where
  digits : Nat
  exponent : Int
deriving DecidableEq, Repr

namespace Decimal

/-- The number of values that the fraction of a double can have. -/
def fractions : Nat := 0x10000000000000

/-- A finite positive double as `mantissa · 2 ^ exponent`. -/
structure Binary where
  mantissa : Nat
  exponent : Int
  /-- The neighbour below is only half as far away as the one above. -/
  narrowBelow : Bool
deriving DecidableEq, Repr

/-- The parts of a double, from the low 63 of its bits. -/
def Binary.ofBits (bits : Nat) : Binary :=
  let fraction := bits % fractions
  let biased := bits / fractions % 0x800
  if biased == 0 then ⟨fraction, -1074, false⟩
  else ⟨fractions + fraction, Int.ofNat biased - 1075, fraction == 0 && biased != 1⟩

/-- The decimals that read back as one double: those whose fourfold value lies between `low` and
`high`, as fractions over `scale`.  The ends belong to them if `closed`. -/
structure Interval where
  low : Nat
  value : Nat
  high : Nat
  scale : Nat
  closed : Bool

def Binary.interval (b : Binary) : Interval :=
  let q := b.exponent - 2
  let up := Nat.pow 2 q.toNat
  let m := 4 * b.mantissa
  { low := (if b.narrowBelow then m - 1 else m - 2) * up
    value := m * up
    high := (m + 2) * up
    scale := Nat.pow 2 (-q).toNat
    closed := b.mantissa % 2 = 0 }

/-- Whether `digits · 10 ^ exponent` lies in the interval. -/
def Interval.holds (i : Interval) (d : Decimal) : Bool :=
  let n := d.digits * Nat.pow 10 d.exponent.toNat * i.scale
  let ten := Nat.pow 10 (-d.exponent).toNat
  if i.closed then decide (i.low * ten ≤ n) && decide (n ≤ i.high * ten)
  else decide (i.low * ten < n) && decide (n < i.high * ten)

/-- The largest `e` up to `start` with `10 ^ e` at most the value; found within `fuel` steps. -/
def Interval.order (i : Interval) : Nat → Int → Int
  | 0, start => start
  | fuel + 1, start =>
      if Nat.pow 10 start.toNat * i.scale ≤ i.value * Nat.pow 10 (-start).toNat then start
      else i.order fuel (start - 1)

/-- The point of the grid `10 ^ exponent` that the interval holds, the one nearer to the value
if it holds both neighbours of the value. -/
def Interval.nearest? (i : Interval) (exponent : Int) : Option Decimal :=
  let den := i.scale * Nat.pow 10 exponent.toNat
  let num := i.value * Nat.pow 10 (-exponent).toNat
  let below : Decimal := ⟨num / den, exponent⟩
  let above : Decimal := ⟨num / den + 1, exponent⟩
  let left := 2 * (num % den)
  match i.holds below, i.holds above with
  | false, false => none
  | true, false => some below
  | false, true => some above
  | true, true =>
      if left < den then some below
      else if den < left then some above
      else if below.digits % 2 = 0 then some below else some above

/-- The first grid with a hit, from `count` digits on, at most seventeen. -/
def Interval.shortestFrom (i : Interval) (order : Int) (count : Nat) : Nat → Decimal
  | 0 => ⟨i.value / i.scale, 0⟩
  | tries + 1 =>
      match i.nearest? (order - count + 1) with
      | some d => d
      | none => i.shortestFrom order (count + 1) tries

/-- The same number without zeros at the end of its digits. -/
def trimmed (d : Decimal) : Decimal :=
  if d.digits ≠ 0 ∧ d.digits % 10 = 0 then trimmed ⟨d.digits / 10, d.exponent + 1⟩ else d
termination_by d.digits

/-- The decimal with the fewest digits that reads back as the double with these bits. -/
def shortest (bits : Nat) : Decimal :=
  let i := (Binary.ofBits bits).interval
  (i.shortestFrom (i.order 640 309) 1 17).trimmed

/-- The digits laid out: with a point where the leading digit stands for `10 ^ -5` up to
`10 ^ 15`, with an exponent and its sign beyond, the plus too. -/
def text (d : Decimal) : String :=
  let digits := Nat.toDigits 10 d.digits
  let order := d.exponent + digits.length - 1
  let chars : List Char :=
    if -5 ≤ order ∧ order < 16 then
      if 0 ≤ d.exponent then
        digits ++ List.replicate d.exponent.toNat '0' ++ ['.', '0']
      else if 0 ≤ order then
        digits.take (order.toNat + 1) ++ '.' :: digits.drop (order.toNat + 1)
      else ['0', '.'] ++ List.replicate ((-order).toNat - 1) '0' ++ digits
    else
      digits.take 1 ++ (if digits.length = 1 then [] else '.' :: digits.drop 1) ++
        'e' :: (if order < 0 then '-' else '+') :: Nat.toDigits 10 order.natAbs
  String.ofList chars

end Decimal

/-- The text of a finite double. -/
def ofFloat (x : Float) : String :=
  let bits := x.toBits.toNat
  let sign := if 0x8000000000000000 ≤ bits then "-" else ""
  if bits % 0x8000000000000000 = 0 then sign ++ "0.0"
  else sign ++ (Decimal.shortest bits).text

end BundleFront.Text
