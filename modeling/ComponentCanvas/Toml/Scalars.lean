import ComponentCanvas.Decimal.Reading
import ComponentCanvas.Toml.Strings

/-!
# Numbers and Dates of TOML

Integers fit 64 signed bits and may be written with another base.  A float has a fraction or an
exponent, or is one of the words for infinity and not-a-number.  A date or time is kept as its
text in normal form.
-/

namespace ComponentCanvas.Toml

open Decimal (isDigit)

/-- Takes one character that satisfies a test. -/
def takeOne (p : Char → Bool) : Scan Char
  | c :: rest => if p c then some (c, rest) else none
  | [] => none

/-- Takes one given character. -/
def expect (c : Char) : Scan Unit := do let _ ← takeOne (· == c)

/-- Takes given characters. -/
def expectAll : List Char → Scan Unit
  | [] => return ()
  | c :: rest => do
    expect c
    expectAll rest

/-- Takes what may be missing. -/
def optionally {α : Type} (scan : Scan α) : Scan (Option α) := (some <$> scan) <|> pure none

/-! ## Numbers -/

/-- Digits after a first one; an underscore may stand between two of them and is dropped. -/
def moreDigits (p : Char → Bool) : List Char → List Char × List Char
  | '_' :: c :: rest =>
    if p c then
      let (digits, rest) := moreDigits p rest
      (c :: digits, rest)
    else ([], '_' :: c :: rest)
  | c :: rest =>
    if p c then
      let (digits, rest) := moreDigits p rest
      (c :: digits, rest)
    else ([], c :: rest)
  | [] => ([], [])

/-- At least one digit. -/
def digits (p : Char → Bool) : Scan (List Char) := do
  let first ← takeOne p
  let more ← fun s => some (moreDigits p s)
  return first :: more

/-- Digits of which the first is no zero, or a zero alone. -/
def wholeDigits : Scan (List Char) := do
  let first ← takeOne isDigit
  if first == '0' then return ['0']
  else
    let more ← fun s => some (moreDigits isDigit s)
    return first :: more

/-- A sign, if there is one. -/
def sign : Scan (List Char) := do
  return (← optionally (takeOne fun c => c == '+' || c == '-')).toList

/-- A fraction with its point. -/
def fraction : Scan (List Char) := do
  expect '.'
  return '.' :: (← digits isDigit)

/-- An exponent with its mark. -/
def exponent : Scan (List Char) := do
  let _ ← takeOne fun c => c == 'e' || c == 'E'
  return 'e' :: (← sign) ++ (← digits isDigit)

/-- A float. -/
def float : Scan Json := do
  let start ← sign
  let whole ← wholeDigits
  let fractional ← optionally fraction
  let exponential ← optionally exponent
  if fractional.isNone && exponential.isNone then failure
  let text := start ++ whole ++ fractional.getD [] ++ exponential.getD []
  match Decimal.read? text with
  | some x => if x.isInf && 0.0 < x then failure else return .float x
  | none => failure

/-- A float that is a word. -/
def wordFloat : Scan Json := do
  let start ← sign
  let word ← (do expectAll ['i', 'n', 'f']; pure ['i', 'n', 'f']) <|>
    (do expectAll ['n', 'a', 'n']; pure ['n', 'a', 'n'])
  match Decimal.read? (start ++ word) with
  | some x => return .float x
  | none => failure

/-- An integer of 64 signed bits. -/
def signed (n : Int) : Scan Json :=
  if Decimal.isSignedWord n then return .int n else failure

/-- The value of digits in a base. -/
def valueIn (base : Nat) (digits : List Char) : Nat :=
  digits.foldl (fun acc c => acc * base + (Json.hexValue? c).getD 0) 0

/-- An integer that is written with the given mark for its base. -/
def basedInteger (mark : Char) (base : Nat) : Scan Json := do
  expect '0'
  expect mark
  signed (valueIn base (← digits fun c => (Json.hexValue? c).any (· < base)))

/-- A decimal integer. -/
def decimalInteger : Scan Json := do
  let start ← sign
  let n : Int := Decimal.valueOf (← wholeDigits)
  signed (if start == ['-'] then -n else n)

/-! ## Dates and times -/

/-- A number with a given count of digits. -/
def fixedDigits : Nat → Scan (List Char)
  | 0 => return []
  | n + 1 => do
    let first ← takeOne isDigit
    return first :: (← fixedDigits n)

/-- Two digits of a number in a range. -/
def twoDigits (least greatest : Nat) : Scan (List Char) := do
  let text ← fixedDigits 2
  let n := Decimal.valueOf text
  if least ≤ n && n ≤ greatest then return text else failure

/-- The number of days of a month. -/
def daysOf (year month : Nat) : Nat :=
  if month == 2 then
    if (year % 4 == 0 && year % 100 != 0) || year % 400 == 0 then 29 else 28
  else if month == 4 || month == 6 || month == 9 || month == 11 then 30
  else 31

/-- A date. -/
def date : Scan (List Char) := do
  let year ← fixedDigits 4
  expect '-'
  let month ← twoDigits 1 12
  expect '-'
  let day ← twoDigits 1 (daysOf (Decimal.valueOf year) (Decimal.valueOf month))
  return year ++ '-' :: month ++ '-' :: day

/-- The fraction of a second in nanoseconds, without zeros at its end. -/
def secondsFraction : Scan (List Char) := do
  expect '.'
  let first ← takeOne isDigit
  let more ← fun s => some (s.takeWhile isDigit, s.dropWhile isDigit)
  let kept := (((first :: more).take 9).reverse.dropWhile (· == '0')).reverse
  return if kept.isEmpty then [] else '.' :: kept

/-- A time of the day. -/
def time : Scan (List Char) := do
  let hour ← twoDigits 0 23
  expect ':'
  let minute ← twoDigits 0 59
  expect ':'
  let second ← twoDigits 0 60
  let rest ← optionally secondsFraction
  return hour ++ ':' :: minute ++ ':' :: second ++ rest.getD []

/-- The offset of a time. -/
def offset : Scan (List Char) :=
  (do
    let _ ← takeOne fun c => c == 'Z' || c == 'z'
    return ['Z']) <|>
  (do
    let mark ← takeOne fun c => c == '+' || c == '-'
    let hour ← twoDigits 0 23
    expect ':'
    let minute ← twoDigits 0 59
    let isZero := Decimal.valueOf hour == 0 && Decimal.valueOf minute == 0
    return (if isZero then '+' else mark) :: hour ++ ':' :: minute)

/-- What may follow a date: a time and its offset. -/
def timeAfterDate : Scan (List Char) := do
  let _ ← takeOne fun c => c == 'T' || c == 't' || c == ' '
  let text ← time
  return 'T' :: text ++ (← optionally offset).getD []

/-- A date, a time, or both. -/
def dateTime : Scan Json :=
  (do
    let day ← date
    let rest ← optionally timeAfterDate
    return .str (String.ofList (day ++ rest.getD []))) <|>
  (do return .str (String.ofList (← time)))

/-! ## Scalars -/

/-- A truth value. -/
def truthValue : Scan Json :=
  (do expectAll ['t', 'r', 'u', 'e']; pure (.bool true)) <|>
  (do expectAll ['f', 'a', 'l', 's', 'e']; pure (.bool false))

/-- A value that is neither a string nor made of values. -/
def scalar : Scan Json :=
  truthValue <|> dateTime <|> float <|> wordFloat <|> basedInteger 'x' 16 <|>
    basedInteger 'o' 8 <|> basedInteger 'b' 2 <|> decimalInteger

end ComponentCanvas.Toml
