import BundleFront.Pattern.Class

/-!
# Parts of a pattern's text

Escapes, numbers and names are read here; what they are parts of is read in
`BundleFront.Pattern.Reader`.  In a spaced pattern blanks and comments may stand
between most characters, even inside an escape.

Every reader takes the text from its place on and hands back what it read
together with the rest, or nothing if the pattern is invalid there.
-/

namespace BundleFront.Pattern

open Text

/-- The text behind blanks and comments, where the comment that it starts in goes to the end of
its line. -/
def skipFrom (inComment : Bool) : List Char → List Char
  | [] => []
  | c :: rest =>
      if inComment then skipFrom (c != '\n') rest
      else if isSpace c then skipFrom false rest
      else if c = '#' then skipFrom true rest
      else c :: rest

/-- The text behind what does not count in a spaced pattern. -/
def skip (flags : Flags) (s : List Char) : List Char := if flags.spaced then skipFrom false s else s

theorem length_skipFrom_le (inComment : Bool) (s : List Char) :
    (skipFrom inComment s).length ≤ s.length := by
  induction s generalizing inComment with
  | nil => simp [skipFrom]
  | cons c rest ih =>
      simp only [skipFrom]
      split
      · exact Nat.le_succ_of_le (ih _)
      · split
        · exact Nat.le_succ_of_le (ih _)
        · split
          · exact Nat.le_succ_of_le (ih _)
          · exact Nat.le_refl _

theorem length_skip_le (flags : Flags) (s : List Char) : (skip flags s).length ≤ s.length := by
  simp only [skip]
  split
  · exact length_skipFrom_le _ _
  · exact Nat.le_refl _

/-- The characters at the front that satisfy `p`, passing over what does not count. -/
def takeSpaced (flags : Flags) (p : Char → Bool) : List Char → List Char × List Char
  | [] => ([], [])
  | c :: rest =>
      if p c then
        let (taken, rest) := takeSpaced flags p (skip flags rest)
        (c :: taken, rest)
      else ([], c :: rest)
termination_by s => s.length
decreasing_by
  have := length_skip_le flags rest
  simp only [List.length_cons]
  omega

/-- A decimal number of at most 32 bits, with blanks around it. -/
def readDecimal (flags : Flags) (s : List Char) : Option (Nat × List Char) :=
  let (digits, rest) := takeSpaced flags Char.isDigit (s.dropWhile isSpace)
  let n := digits.foldl (fun n c => n * 10 + (c.toNat - '0'.toNat)) 0
  if digits.isEmpty || decide (0x100000000 ≤ n) then none
  else some (n, skip flags (rest.dropWhile isSpace))

def isHexDigit (c : Char) : Bool := (hexDigit? c).isSome

/-- The character with a code point, if there is one. -/
def charOfCode? (n : Nat) : Option Char :=
  if n < 0xD800 ∨ 0xE000 ≤ n ∧ n ≤ CodeSet.maxCode then some (Char.ofNat n) else none

/-- Just `count` hexadecimal digits. -/
def readHexDigits (flags : Flags) : (count : Nat) → List Char → Option (List Char × List Char)
  | 0, s => some ([], s)
  | count + 1, s =>
      match skip flags s with
      | [] => none
      | c :: rest =>
          if isHexDigit c then
            (readHexDigits flags count rest).map fun (digits, rest) => (c :: digits, rest)
          else none

/-- The code point of an escape, after the letter that allows `count` digits without braces. -/
def readHex (flags : Flags) (count : Nat) (s : List Char) : Option (Char × List Char) :=
  match skip flags s with
  | '\x7b' :: rest =>
      match takeSpaced flags isHexDigit (skip flags rest) with
      | (digits, '\x7d' :: rest) =>
          if digits.isEmpty then none
          else (charOfCode? (ofHexDigits digits)).map fun c => (c, rest)
      | _ => none
  | s => do
      let (digits, rest) ← readHexDigits flags count s
      let c ← charOfCode? (ofHexDigits digits)
      return (c, rest)

/-- The text without its first `separator`, in front of it and behind it. -/
def splitAt? (separator : List Char) : List Char → Option (List Char × List Char)
  | [] => none
  | c :: rest =>
      if separator.isPrefixOf (c :: rest) then some ([], (c :: rest).drop separator.length)
      else (splitAt? separator rest).map fun (front, back) => (c :: front, back)

/-- The code points of a property with an optional value, and whether the sign between the two
asks for all others. -/
def namedProperty? (name : List Char) : Option (CodeSet × Bool) :=
  match splitAt? ['!', '='] name with
  | some (property, value) => (propertyValue? property value).map fun set => (set, true)
  | none =>
      match (splitAt? [':'] name).or (splitAt? ['='] name) with
      | some (property, value) => (propertyValue? property value).map fun set => (set, false)
      | none => (property? name).map fun set => (set, false)

/-- The set of a property, after the letter `p` or, for the rest, `P`.  Asking twice for the rest
asks for the set itself. -/
def readProperty (flags : Flags) (negated : Bool) (s : List Char) :
    Option (CodeSet × List Char) := do
  let (name, rest) ← match skip flags s with
    | [] => none
    | '\x7b' :: rest =>
        match takeSpaced flags (· != '\x7d') (skip flags rest) with
        | (name, '\x7d' :: rest) => some (name, rest)
        | _ => none
    | '\\' :: _ => none
    | c :: rest => some ([c], skip flags rest)
  if !flags.wide then none
  let (set, unequal) ← namedProperty? name
  let set := closeCase flags set
  return (if negated != unequal then set.complement else set, rest)

/-- What an escape or a single character means. -/
inductive Atom
  | char (c : Char)
  | set (codes : CodeSet)
  | look (look : Look)
deriving DecidableEq, Repr

/-- Signs that mean something in patterns, and stand for themselves after a backslash. -/
def isMeta (c : Char) : Bool := "\\.+*?()|[]\x7b\x7d^$#&-~".toList.contains c

/-- Characters that a backslash may stand before without need. -/
def isEscapable (c : Char) : Bool :=
  isMeta c || (decide (c.toNat < 0x80) && !c.isAlphanum && c != '<' && c != '>')

/-- The look that a name in braces after `\b` asks for. -/
def boundary? (wide : Bool) (name : String) : Option Look :=
  match name with
  | "start" => some (.wordStart wide)
  | "end" => some (.wordStop wide)
  | "start-half" => some (.wordStartHalf wide)
  | "end-half" => some (.wordStopHalf wide)
  | _ => none

/-- The rest of `\b`: a name in braces, or nothing, where a brace may still belong to a count. -/
def readBoundary (flags : Flags) (s : List Char) : Option (Look × List Char) :=
  let isNameChar (c : Char) : Bool := c.isAlpha || c == '-'
  match s with
  | '\x7b' :: rest =>
      match skip flags rest with
      | [] => none
      | c :: rest =>
          if !isNameChar c then some (.wordBoundary flags.wide, s)
          else match takeSpaced flags isNameChar (c :: rest) with
            | (name, '\x7d' :: rest) =>
                (boundary? flags.wide (String.ofList name)).map fun look => (look, rest)
            | _ => none
  | _ => some (.wordBoundary flags.wide, s)

/-- What stands after a backslash. -/
def readEscape (flags : Flags) (s : List Char) : Option (Atom × List Char) :=
  match s with
  | [] => none
  | c :: rest =>
      let char (c : Char) : Option (Atom × List Char) := some (.char c, rest)
      let look (look : Look) : Option (Atom × List Char) := some (.look look, rest)
      match c with
      | 'x' => do
          let (c, rest') ← readHex flags 2 rest
          if !flags.wide && decide (0x80 ≤ c.toNat) && rest.head? != some '\x7b' then none
          else return (.char c, rest')
      | 'u' => (readHex flags 4 rest).map fun (c, rest) => (.char c, rest)
      | 'U' => (readHex flags 8 rest).map fun (c, rest) => (.char c, rest)
      | 'p' => (readProperty flags false rest).map fun (set, rest) => (.set set, rest)
      | 'P' => (readProperty flags true rest).map fun (set, rest) => (.set set, rest)
      | 'd' | 's' | 'w' | 'D' | 'S' | 'W' =>
          (perlClass? flags.wide c).map fun set => (.set set, rest)
      | 'a' => char '\x07'
      | 'f' => char '\x0c'
      | 't' => char '\t'
      | 'n' => char '\n'
      | 'r' => char '\r'
      | 'v' => char '\x0b'
      | 'A' => look .start
      | 'z' => look .stop
      | 'b' => (readBoundary flags rest).map fun (look, rest) => (.look look, rest)
      | 'B' => look (.noWordBoundary flags.wide)
      | '<' => look (.wordStart flags.wide)
      | '>' => look (.wordStop flags.wide)
      | c => if isEscapable c then char c else none

end BundleFront.Pattern
