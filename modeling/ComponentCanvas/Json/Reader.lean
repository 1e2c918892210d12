import ComponentCanvas.Json.Raw

/-!
# Reading JSON

Strict reading: no comments, no trailing commas, and no control characters inside strings.  Lone
surrogate escapes, more than 127 arrays and objects around a value and numbers beyond the range of
binary64 are well-formed, but what they stand in is unreadable.

A number with a point or an exponent is read by its leading digits: as many as fit 64 bits make an
integer, which is then scaled by a power of ten with one rounding each.
-/

namespace ComponentCanvas.Json

/-- The greatest number of arrays and objects around a value. -/
def depthLimit : Nat := 127

/-- The blanks between tokens. -/
def isSpace (c : Char) : Bool := c == ' ' || c == '\t' || c == '\n' || c == '\r'

/-- The text after its leading blanks. -/
def skipSpace (s : List Char) : List Char := s.dropWhile isSpace

/-! ## Numbers -/

/-- The value of a decimal digit. -/
def digit? (c : Char) : Option Nat :=
  if '0' ≤ c && c ≤ '9' then some (c.toNat - '0'.toNat) else none

/-- The greatest significand: that of an unsigned word. -/
def significandLimit : Nat := Decimal.wordCount - 1

/-- The least exponent that is out of range whatever stands in front of it: one that does not fit a
signed word of 32 bits. -/
def exponentLimit : Nat := 0x80000000

/-- Helper: scales a float by a power of ten in steps of at most `10^308`, rounding at each. -/
def scaleBy : Nat → Float → Int → Option Float
  | 0, _, _ => none
  | fuel + 1, f, e =>
    if e.natAbs ≤ 308 then
      let power := Float.ofScientific 1 false e.natAbs
      if 0 ≤ e then
        let scaled := f * power
        if scaled.isInf then none else some scaled
      else some (f / power)
    else if f == 0.0 then some f
    else if 0 ≤ e then none
    else scaleBy fuel (f / Float.ofScientific 1 false 308) (e + 308)

/-- The float of a significand and an exponent of ten.  Below `10^-6000` every significand has
become zero, which bounds the number of steps. -/
def scaled? (significand : Nat) (exponent : Int) : Option Float :=
  scaleBy 24 (Float.ofNat significand) (max exponent (-6000))

/-- Takes digits while the significand fits a word; returns it with the number of digits taken. -/
def takeDigits : Nat → Nat → List Char → Nat × Nat × List Char
  | significand, taken, [] => (significand, taken, [])
  | significand, taken, c :: rest =>
    match digit? c with
    | none => (significand, taken, c :: rest)
    | some d =>
      if significandLimit < significand * 10 + d then (significand, taken, c :: rest)
      else takeDigits (significand * 10 + d) (taken + 1) rest

/-- Skips digits and counts them. -/
def skipDigits (s : List Char) : Nat × List Char :=
  ((s.takeWhile (digit? · |>.isSome)).length, s.dropWhile (digit? · |>.isSome))

/-- The value of a run of digits. -/
def digitsValue (s : List Char) : Nat :=
  s.foldl (fun acc c => acc * 10 + (digit? c).getD 0) 0

/-- The exponent part after its mark, and the float. -/
def readExponent (significand : Nat) (start : Int) (s : List Char) :
    Option (Float × List Char) := do
  let (negative, s) := match s with
    | '+' :: r => (false, r)
    | '-' :: r => (true, r)
    | r => (false, r)
  let digits := s.takeWhile (digit? · |>.isSome)
  let rest := s.dropWhile (digit? · |>.isSome)
  if digits.isEmpty then none
  else
    let e := digitsValue digits
    if exponentLimit ≤ e then
      if significand != 0 && !negative then none else some (0.0, rest)
    else
      let exponent := if negative then start - e else start + e
      some (← scaled? significand exponent, rest)

/-- What follows the digits of a number that has become a float. -/
def readTail (significand : Nat) (exponent : Int) (s : List Char) : Option (Float × List Char) :=
  match s with
  | 'e' :: rest => readExponent significand exponent rest
  | 'E' :: rest => readExponent significand exponent rest
  | rest => (scaled? significand exponent).map (·, rest)

/-- The fraction after the point. -/
def readFraction (significand : Nat) (before : Nat) (s : List Char) :
    Option (Float × List Char) :=
  let (value, taken, rest) := takeDigits significand 0 s
  let (skipped, rest') := skipDigits rest
  if taken == 0 && skipped == 0 then none
  else readTail value ((before : Int) - taken) rest'

/-- A number without its sign. -/
def readMagnitude (negative : Bool) (s : List Char) : Option (Json × List Char) :=
  let sign (f : Float) : Float := if negative then -f else f
  let asFloat (r : Option (Float × List Char)) := r.map fun p => (Json.float (sign p.1), p.2)
  match s with
  | [] => none
  | c :: rest =>
    match digit? c with
    | none => none
    | some d =>
      let (significand, _, rest) := if d == 0 then (0, 0, rest) else takeDigits d 0 rest
      let (skipped, rest') := if d == 0 then (0, rest) else skipDigits rest
      match rest' with
      | '.' :: tail => asFloat (readFraction significand skipped tail)
      | 'e' :: tail => asFloat (readExponent significand skipped tail)
      | 'E' :: tail => asFloat (readExponent significand skipped tail)
      | _ =>
        if d == 0 && (rest'.head?.bind digit?).isSome then none
        else if skipped != 0 then asFloat (readTail significand skipped rest')
        else if !negative then some (.int significand, rest')
        else if significand == 0 || Decimal.halfCount < significand then
          some (.float (-(Float.ofNat significand)), rest')
        else some (.int (-(significand : Int)), rest')

/-- Passes over digits, of which there must be one. -/
def passDigits (s : List Char) : Option (List Char) :=
  let (skipped, rest) := skipDigits s
  if skipped == 0 then none else some rest

/-- Passes over the exponent part after its mark. -/
def passExponent : List Char → Option (List Char)
  | '+' :: rest => passDigits rest
  | '-' :: rest => passDigits rest
  | s => passDigits s

/-- Passes over what follows the digits of a number or of its fraction. -/
def passTail : List Char → Option (List Char)
  | 'e' :: rest => passExponent rest
  | 'E' :: rest => passExponent rest
  | s => some s

/-- Passes over a number without its sign, whatever its size. -/
def passMagnitude (s : List Char) : Option (List Char) := do
  let rest ←
    match s with
    | '0' :: rest => if (rest.head?.bind digit?).isSome then none else some rest
    | s => passDigits s
  match rest with
  | '.' :: fraction => passTail (← passDigits fraction)
  | rest => passTail rest

/-! ## Strings -/

/-- The value of a hexadecimal digit. -/
def hexValue? (c : Char) : Option Nat :=
  if '0' ≤ c && c ≤ '9' then some (c.toNat - '0'.toNat)
  else if 'a' ≤ c && c ≤ 'f' then some (c.toNat - 'a'.toNat + 10)
  else if 'A' ≤ c && c ≤ 'F' then some (c.toNat - 'A'.toNat + 10)
  else none

/-- Four hexadecimal digits. -/
def readHex4 : List Char → Option (Nat × List Char)
  | a :: b :: c :: d :: rest => do
    let a ← hexValue? a
    let b ← hexValue? b
    let c ← hexValue? c
    let d ← hexValue? d
    some (((a * 16 + b) * 16 + c) * 16 + d, rest)
  | _ => none

/-- The character of an escape with hexadecimal digits: a high surrogate takes the low one that
must follow it. -/
def readUnicode (s : List Char) : Option (Char × List Char) := do
  let (unit, rest) ← readHex4 s
  if 0xD800 ≤ unit && unit < 0xDC00 then
    match rest with
    | '\\' :: 'u' :: rest => do
      let (low, rest) ← readHex4 rest
      if 0xDC00 ≤ low && low < 0xE000 then
        some (Char.ofNat (0x10000 + (unit - 0xD800) * 0x400 + (low - 0xDC00)), rest)
      else none
    | _ => none
  else if 0xDC00 ≤ unit && unit < 0xE000 then none
  else some (Char.ofNat unit, rest)

/-- The character of an escape, after the backslash. -/
def readEscape : List Char → Option (Char × List Char)
  | '"' :: r => some ('"', r)
  | '\\' :: r => some ('\\', r)
  | '/' :: r => some ('/', r)
  | 'b' :: r => some (Char.ofNat 8, r)
  | 'f' :: r => some (Char.ofNat 12, r)
  | 'n' :: r => some ('\n', r)
  | 'r' :: r => some ('\r', r)
  | 't' :: r => some ('\t', r)
  | 'u' :: r => readUnicode r
  | _ => none

/-- The rest of a string after its opening quote; `acc` holds the characters read, last first.
The first argument bounds the number of characters. -/
def readString : Nat → List Char → List Char → Option (String × List Char)
  | 0, _, _ => none
  | _ + 1, _, [] => none
  | fuel + 1, acc, c :: rest =>
    if c == '"' then some (String.ofList acc.reverse, rest)
    else if c == '\\' then
      match readEscape rest with
      | none => none
      | some (escaped, rest) => readString fuel (escaped :: acc) rest
    else if c.toNat < 0x20 then none
    else readString fuel (c :: acc) rest

/-- A string at its opening quote. -/
def readQuoted : List Char → Option (String × List Char)
  | '"' :: rest => readString (rest.length + 1) [] rest
  | _ => none

/-- Passes over an escape, after the backslash; hexadecimal digits need not stand for a character. -/
def passEscape : List Char → Option (List Char)
  | 'u' :: rest => (readHex4 rest).map (·.2)
  | s => (readEscape s).map (·.2)

/-- Passes over the rest of a string after its opening quote.  The first argument bounds the number
of characters. -/
def passString : Nat → List Char → Option (List Char)
  | 0, _ => none
  | _ + 1, [] => none
  | fuel + 1, c :: rest =>
    if c == '"' then some rest
    else if c == '\\' then (passEscape rest).bind (passString fuel)
    else if c.toNat < 0x20 then none
    else passString fuel rest

/-! ## Values -/

/-- The rest of a text after a word. -/
def dropWord : List Char → List Char → Option (List Char)
  | [], s => some s
  | _ :: _, [] => none
  | w :: word, c :: s => if w == c then dropWord word s else none

/-- A value that is neither an array nor an object. -/
def readScalar : List Char → Option (Json × List Char)
  | 'n' :: rest => (dropWord ['u', 'l', 'l'] rest).map (.null, ·)
  | 't' :: rest => (dropWord ['r', 'u', 'e'] rest).map (.bool true, ·)
  | 'f' :: rest => (dropWord ['a', 'l', 's', 'e'] rest).map (.bool false, ·)
  | '"' :: rest => (readString (rest.length + 1) [] rest).map fun p => (.str p.1, p.2)
  | '-' :: rest => readMagnitude true rest
  | s => readMagnitude false s

/-- Passes over a string or a number that cannot be read. -/
def passScalar : List Char → Option (List Char)
  | '"' :: rest => passString (rest.length + 1) rest
  | '-' :: rest => passMagnitude rest
  | s => passMagnitude s

namespace Raw

/-- A value that is neither an array nor an object, or what is passed over in its place. -/
def readScalar (s : List Char) : Option (Raw × List Char) :=
  match Json.readScalar s with
  | some (value, rest) => some (ofJson value, rest)
  | none => (passScalar s).map (.unreadable, ·)

/-- The name of a member at its opening quote, or what is passed over in its place. -/
def readName (s : List Char) : Option (Option String × List Char) :=
  match readQuoted s, s with
  | some (name, rest), _ => some (some name, rest)
  | none, '"' :: rest => (passString (rest.length + 1) rest).map (none, ·)
  | none, _ => none

/-- Items up to the closing bracket, separated by commas; `acc` holds the items read, last first.
The first argument bounds the number of items. -/
def readItems (item : List Char → Option (Raw × List Char)) :
    Nat → List Raw → List Char → Option (Raw × List Char)
  | 0, _, _ => none
  | fuel + 1, acc, s => do
    let (value, rest) ← item s
    match skipSpace rest with
    | ',' :: rest => readItems item fuel (value :: acc) rest
    | ']' :: rest => some (.arr (value :: acc).reverse, rest)
    | _ => none

/-- Members up to the closing brace, separated by commas. -/
def readMembers (item : List Char → Option (Raw × List Char)) :
    Nat → List (Option String × Raw) → List Char → Option (Raw × List Char)
  | 0, _, _ => none
  | fuel + 1, acc, s => do
    let (name, rest) ← readName (skipSpace s)
    match skipSpace rest with
    | ':' :: rest =>
      let (value, rest) ← item rest
      match skipSpace rest with
      | ',' :: rest => readMembers item fuel ((name, value) :: acc) rest
      | '}' :: rest => some (.obj ((name, value) :: acc).reverse, rest)
      | _ => none
    | _ => none

/-- A value with its leading blanks, of which at most `depth` arrays and objects inside each other
can be read.  The first argument bounds how many of them are inside each other at all. -/
def readValue : Nat → Nat → List Char → Option (Raw × List Char)
  | 0, _, _ => none
  | fuel + 1, depth, s =>
    match skipSpace s with
    | '[' :: rest =>
      match skipSpace rest with
      | ']' :: rest => some (within depth (.arr []), rest)
      | rest =>
        (readItems (readValue fuel (depth - 1)) (rest.length + 1) [] rest).map fun p =>
          (within depth p.1, p.2)
    | '{' :: rest =>
      match skipSpace rest with
      | '}' :: rest => some (within depth (.obj []), rest)
      | rest =>
        (readMembers (readValue fuel (depth - 1)) (rest.length + 1) [] rest).map fun p =>
          (within depth p.1, p.2)
    | s => readScalar s

/-- What a JSON text says as far as it can be read, repeated members kept. -/
def read? (text : String) : Option Raw := do
  let s := text.toList
  let (value, rest) ← readValue (s.length + 1) depthLimit s
  if (skipSpace rest).isEmpty then some value else none

end Raw

/-- The value of a JSON text all of which can be read, repeated members kept. -/
def read? (text : String) : Option Json := (Raw.read? text).bind Raw.value?

end ComponentCanvas.Json
