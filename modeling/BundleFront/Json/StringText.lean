import BundleFront.Json.Document
import BundleFront.Text.CodeSet

/-!
# String literals

A string literal is first divided into units: characters, and the 16-bit codes
of `\u` escapes.  Codes of surrogates then have to pair up.  Who only passes over
the literal does not look at the codes.
-/

namespace BundleFront.StringText

open Text

/-- A part of a string literal. -/
inductive StringUnit
  | char (c : Char)
  | code (n : Nat)
deriving DecidableEq, Repr

/-- The character that a one-letter escape stands for. -/
def escape? : Char → Option Char
  | '"' => some '"'
  | '\\' => some '\\'
  | '/' => some '/'
  | 'b' => some '\x08'
  | 'f' => some '\x0c'
  | 'n' => some '\n'
  | 'r' => some '\r'
  | 't' => some '\t'
  | _ => none

/-- The number of bytes that hold the characters. -/
def byteCount (cs : List Char) : Nat := cs.foldl (fun n c => n + c.utf8Size) 0

/-- The units up to the closing quote, and what follows it. -/
def readUnits : List Char → List StringUnit × Except Fault (List Char)
  | [] => ([], .error .unfinished)
  | '"' :: rest => ([], .ok rest)
  | '\\' :: 'u' :: rest =>
      let stopped : List StringUnit × Except Fault (List Char) :=
        ([], .error (if byteCount rest < 4 then .unfinished else .malformed))
      match rest with
      | a :: b :: c :: d :: rest =>
          match hexDigit? a, hexDigit? b, hexDigit? c, hexDigit? d with
          | some a, some b, some c, some d =>
              let (units, last) := readUnits rest
              (.code (((a * 16 + b) * 16 + c) * 16 + d) :: units, last)
          | _, _, _, _ => stopped
      | _ => stopped
  | ['\\'] => ([], .error .unfinished)
  | '\\' :: c :: rest =>
      match escape? c with
      | none => ([], .error .malformed)
      | some c =>
          let (units, last) := readUnits rest
          (.char c :: units, last)
  | c :: rest =>
      if c.toNat < 0x20 then ([], .error .malformed)
      else
        let (units, last) := readUnits rest
        (.char c :: units, last)

def isHighSurrogate (n : Nat) : Bool := decide (0xD800 ≤ n) && decide (n < 0xDC00)

def isLowSurrogate (n : Nat) : Bool := decide (0xDC00 ≤ n) && decide (n < 0xE000)

/-- The characters of the units, unless a surrogate has no partner. -/
def decodeUnits : List StringUnit → Option (List Char)
  | [] => some []
  | .char c :: rest => (decodeUnits rest).map (c :: ·)
  | .code high :: .code low :: rest =>
      if isHighSurrogate high then
        if isLowSurrogate low then
          (decodeUnits rest).map
            (Char.ofNat (0x10000 + (high - 0xD800) * 0x400 + (low - 0xDC00)) :: ·)
        else none
      else if isLowSurrogate high then none
      else (decodeUnits (.code low :: rest)).map (Char.ofNat high :: ·)
  | .code n :: rest =>
      if isHighSurrogate n || isLowSurrogate n then none
      else (decodeUnits rest).map (Char.ofNat n :: ·)

/-- The units without a high surrogate at their end, whose partner may still have come. -/
def withoutOpenPair (units : List StringUnit) : List StringUnit :=
  match units.getLast? with
  | some (.code n) => if isHighSurrogate n then units.dropLast else units
  | _ => units

/-- The string after its opening quote, and what follows unless reading ends here. -/
def readLeaf (s : List Char) : Leaf String × Option (List Char) :=
  match readUnits s with
  | (units, .ok rest) =>
      match decodeUnits units with
      | some cs => (.sound (String.ofList cs), some rest)
      | none => (⟨.error .malformed, none⟩, some rest)
  | (units, .error fault) =>
      match decodeUnits (withoutOpenPair units) with
      | some _ => (.broken fault, none)
      | none => (⟨.error .malformed, some fault⟩, none)

end BundleFront.StringText
