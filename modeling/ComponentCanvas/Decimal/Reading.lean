import ComponentCanvas.Decimal.Shortest

/-!
# Reading Numbers

The float of a text: an optional sign, then digits with a point and an exponent, of which the
digits on one side of the point may be missing, or one of the words for infinity and not-a-number.
The value is the nearest float.
-/

namespace ComponentCanvas.Decimal

/-- Whether a character is an ASCII digit. -/
def isDigit (c : Char) : Bool := '0' ≤ c && c ≤ '9'

/-- The value of decimal digits. -/
def valueOf (digits : List Char) : Nat := digits.foldl (fun n c => n * 10 + (c.toNat - 48)) 0

/-- A sign, if there is one: whether it is a minus, and the text behind it. -/
def readSign : List Char → Bool × List Char
  | '+' :: rest => (false, rest)
  | '-' :: rest => (true, rest)
  | s => (false, s)

/-- The exponent that is the rest of a text; an empty rest is zero. -/
def readExponent? (s : List Char) : Option Int :=
  match s with
  | [] => some 0
  | mark :: rest =>
    if mark == 'e' || mark == 'E' then
      let (negative, digits) := readSign rest
      if digits.isEmpty || !digits.all isDigit then none
      else
        let value : Int := valueOf digits
        some (if negative then -value else value)
    else none

/-- The magnitude of a number in digits. -/
def readMagnitude? (s : List Char) : Option Scientific :=
  let whole := s.takeWhile isDigit
  let (fraction, rest) := match s.dropWhile isDigit with
    | '.' :: rest => (rest.takeWhile isDigit, rest.dropWhile isDigit)
    | rest => ([], rest)
  if whole.isEmpty && fraction.isEmpty then none
  else
    (readExponent? rest).map fun exponent =>
      ⟨valueOf (whole ++ fraction), exponent - (fraction.length : Int)⟩

/-- The float of a text. -/
def read? (s : List Char) : Option Float :=
  let (negative, rest) := readSign s
  let word := rest.map Char.toLower
  let magnitude :=
    if word == ['i', 'n', 'f'] || word == ['i', 'n', 'f', 'i', 'n', 'i', 't', 'y'] then
      some infinity
    else if word == ['n', 'a', 'n'] then some nan
    else (readMagnitude? rest).map Scientific.toFloat
  magnitude.map fun x => if negative then -x else x

/-- The number that the start of a text spells, after leading blanks are gone: a sign, digits, and
unless only an integer is wanted, a point with digits. -/
def leadingPart (integer : Bool) (s : List Char) : List Char :=
  let (sign, rest) := match s with
    | '+' :: rest => (['+'], rest)
    | '-' :: rest => (['-'], rest)
    | s => ([], s)
  let whole := rest.takeWhile isDigit
  match rest.dropWhile isDigit with
  | '.' :: rest =>
    if integer then sign ++ whole else sign ++ whole ++ '.' :: rest.takeWhile isDigit
  | _ => sign ++ whole

end ComponentCanvas.Decimal
