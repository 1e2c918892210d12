import ComponentCanvas.Decimal.Plain

/-!
# Numbers as Text

How a component shows a number: an integral value below 10^21 with all its digits, any other one
with the fewest digits that read back.
-/

namespace ComponentCanvas.Blueprint

/-- The text of a number. -/
def numberText (x : Float) : String :=
  if x.isNaN then "NaN"
  else if x.isInf then (if x < 0.0 then "-Infinity" else "Infinity")
  else if x == 0.0 then "0"
  else if x.floor == x && x.abs < 1e21 then String.ofList (Decimal.fixedText x 0)
  else Decimal.plainText x

end ComponentCanvas.Blueprint
