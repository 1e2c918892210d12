import ComponentCanvas.Decimal.Shortest

/-!
# How Decimals Are Written

`Style` collects the decisions that fix the text of a float once its shortest digits are known:
where positional writing ends, whether an integral value keeps a point and a zero, how the
exponent is marked and which of two equally near decimals is taken.
-/

namespace ComponentCanvas.Decimal

/-- The decisions of one output format. -/
structure Style where
  /-- Least and greatest exponent of the leading digit that are written positionally; `none`
  writes every value positionally. -/
  positional : Option (Int × Int)
  /-- Whether an integral value ends in `.0`. -/
  pointZero : Bool
  /-- Whether a positive exponent carries its sign. -/
  plusSign : Bool
  /-- Which of two equally near shortest decimals is taken. -/
  tie : Tie

/-- Helper: digits with the point after the first `k` of them. -/
def pointAfter (digits : List Char) (k : Nat) : List Char :=
  digits.take k ++ '.' :: digits.drop k

/-- The positional text of `digits * 10^exponent`. -/
def positionalText (pointZero : Bool) (digits : List Char) (exponent : Int) : List Char :=
  if 0 ≤ exponent then
    digits ++ List.replicate exponent.toNat '0' ++ (if pointZero then ['.', '0'] else [])
  else
    let places := exponent.natAbs
    if places < digits.length then pointAfter digits (digits.length - places)
    else '0' :: '.' :: List.replicate (places - digits.length) '0' ++ digits

/-- The text with an exponent: one digit before the point. -/
def exponentText (plusSign : Bool) (digits : List Char) (leading : Int) : List Char :=
  let mantissa := if digits.length ≤ 1 then digits else pointAfter digits 1
  let sign := if leading < 0 then ['-'] else if plusSign then ['+'] else []
  mantissa ++ 'e' :: sign ++ digitsOf leading.natAbs

/-- The text of a shortest decimal. -/
def Style.layout (style : Style) (d : Scientific) : List Char :=
  let digits := digitsOf d.digits
  let leading : Int := d.exponent + digits.length - 1
  let plain := match style.positional with
    | none => true
    | some (least, greatest) => d.digits == 0 || (least ≤ leading && leading ≤ greatest)
  if plain then positionalText style.pointZero digits d.exponent
  else exponentText style.plusSign digits leading

/-- Whether the sign bit of a float is set. -/
def isSignSet (x : Float) : Bool := x.toBits >>> 63 == 1

/-- The text of a finite float. -/
def Style.render (style : Style) (x : Float) : List Char :=
  let text := style.layout (shortest x.abs style.tie)
  if isSignSet x then '-' :: text else text

/-- The whole and the fractional part of a fraction rounded to a number of places, an exact half
going to the even neighbour. -/
def roundHalfEven (num den : Nat) : Nat :=
  let q := num / den
  match compare (2 * (num % den)) den with
  | .lt => q
  | .gt => q + 1
  | .eq => if q % 2 == 0 then q else q + 1

/-- The text of a finite float with a fixed number of places: the exact value is rounded, an
exact half to the even neighbour. -/
def fixedText (x : Float) (places : Nat) : List Char :=
  let (num, den) := (Binary.ofFloat x).fraction
  let digits := digitsOf (roundHalfEven (num * Nat.pow 10 places) den)
  let digits := List.replicate (places + 1 - digits.length) '0' ++ digits
  let text := if places == 0 then digits else pointAfter digits (digits.length - places)
  if isSignSet x then '-' :: text else text

end ComponentCanvas.Decimal
