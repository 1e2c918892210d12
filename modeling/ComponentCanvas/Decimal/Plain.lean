import ComponentCanvas.Decimal.Style

/-!
# Plain Numbers

The text of a float as it stands in texts and keys: always positional, with no point after an
integral value.
-/

namespace ComponentCanvas.Decimal

/-- Floats are positional throughout, and of two equally near decimals the greater one is taken. -/
def plainStyle : Style where
  positional := none
  pointZero := false
  plusSign := false
  tie := .up

/-- The plain text of a float. -/
def plainText (x : Float) : String :=
  if x.isNaN then "NaN"
  else if x.isInf then (if x < 0.0 then "-inf" else "inf")
  else String.ofList (plainStyle.render x)

end ComponentCanvas.Decimal
