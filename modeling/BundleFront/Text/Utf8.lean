import BundleFront.Text.CodeSet

/-!
# Text as bytes

Reading bytes as text never fails: a byte sequence that is no UTF-8 is replaced by
U+FFFD, one for each longest beginning of a character that the next byte does not
continue.  The reader keeps what a character that has begun still lacks, and takes
one byte at a time.

The UTF-8 forms of a range of code points are divided into sequences of byte
ranges, such that each choice of one byte per range is the form of a code point.
The sequences ascend.
-/

namespace BundleFront.Text

/-- A character whose last bytes are missing: the value so far, the number of
missing bytes, and the bounds of the next one.  The bounds exclude overlong
forms, surrogates and what lies beyond the last code point. -/
structure PendingChar where
  value : Nat
  missing : Nat
  low : UInt8
  high : UInt8
deriving DecidableEq, Repr

/-- What stands for bytes that are no text. -/
def replacementChar : Char := '\uFFFD'

/-- The characters that are finished by a byte where none has begun, and what it begins. -/
def startChar (b : UInt8) : List Char × Option PendingChar :=
  if b < 0x80 then ([Char.ofNat b.toNat], none)
  else if b < 0xC2 then ([replacementChar], none)
  else if b < 0xE0 then ([], some ⟨b.toNat - 0xC0, 1, 0x80, 0xBF⟩)
  else if b < 0xF0 then
    ([], some ⟨b.toNat - 0xE0, 2, if b = 0xE0 then 0xA0 else 0x80, if b = 0xED then 0x9F else 0xBF⟩)
  else if b < 0xF5 then
    ([], some ⟨b.toNat - 0xF0, 3, if b = 0xF0 then 0x90 else 0x80, if b = 0xF4 then 0x8F else 0xBF⟩)
  else ([replacementChar], none)

/-- The characters that a byte finishes, and what is pending after it. -/
def nextByte (pending : Option PendingChar) (b : UInt8) : List Char × Option PendingChar :=
  match pending with
  | none => startChar b
  | some p =>
      if p.low ≤ b ∧ b ≤ p.high then
        let value := p.value * 64 + (b.toNat - 0x80)
        if p.missing ≤ 1 then ([Char.ofNat value], none)
        else ([], some ⟨value, p.missing - 1, 0x80, 0xBF⟩)
      else
        let (finished, begun) := startChar b
        (replacementChar :: finished, begun)

/-- The characters of the bytes, after what is pending. -/
def decodeFrom (pending : Option PendingChar) : List UInt8 → List Char
  | [] => if pending.isSome then [replacementChar] else []
  | b :: rest =>
      let (finished, begun) := nextByte pending b
      finished ++ decodeFrom begun rest

/-- The text that the bytes hold. -/
def ofBytes (bytes : List UInt8) : String := String.ofList (decodeFrom none bytes)

/-- The bytes that hold a text. -/
def toBytes (text : String) : List UInt8 := text.toUTF8.toList


namespace Utf8Ranges

/-- Ranges for the bytes of a character, from the first byte on. -/
abbrev ByteRanges := List CodeRange

/-- The ranges for `count` further bytes of any value. -/
def anyTail (count : Nat) : ByteRanges := List.replicate count ⟨0x80, 0xBF⟩

/-- The sequences for the values from `first` to `last`, where `tail` bytes of six bits follow the
one that `offset` is added to. -/
def sequences (offset : Nat) : (tail first last : Nat) → List ByteRanges
  | 0, first, last => [[⟨offset + first, offset + last⟩]]
  | tail + 1, first, last =>
      let unit := Nat.pow 64 (tail + 1)
      let low := first / unit
      let high := last / unit
      let under (lead : Nat) (first last : Nat) : List ByteRanges :=
        (sequences 0x80 tail first last).map (⟨offset + lead, offset + lead⟩ :: ·)
      if low = high then under low (first % unit) (last % unit)
      else
        let fromStart := decide (first % unit = 0)
        let toEnd := decide (last % unit = unit - 1)
        let fullLow := if fromStart then low else low + 1
        let fullHigh := if toEnd then high + 1 else high
        (if fromStart then [] else under low (first % unit) (unit - 1)) ++
        (if fullLow < fullHigh then
          [⟨offset + fullLow, offset + (fullHigh - 1)⟩ :: anyTail (tail + 1)]
        else []) ++
        (if toEnd then [] else under high 0 (last % unit))

/-- Code points with forms of one length: first and last of them, what is added to the first byte,
and the number of further bytes. -/
def lengths : List (Nat × Nat × Nat × Nat) :=
  [(0, 0x7F, 0, 0), (0x80, 0x7FF, 0xC0, 1), (0x800, 0xD7FF, 0xE0, 2), (0xE000, 0xFFFF, 0xE0, 2),
   (0x10000, 0x10FFFF, 0xF0, 3)]

/-- The sequences for a range. -/
def ofRange (range : CodeRange) : List ByteRanges :=
  lengths.flatMap fun (first, last, offset, tail) =>
    let first := max first range.first
    let last := min last range.last
    if first ≤ last then sequences offset tail first last else []

end Utf8Ranges

end BundleFront.Text
