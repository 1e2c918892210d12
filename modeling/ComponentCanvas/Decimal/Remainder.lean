import ComponentCanvas.Decimal.Style

/-!
# The Remainder of Floats

The remainder of a division that is rounded towards zero.  It is exact: both operands are whole
multiples of one power of two, and so is the remainder.
-/

namespace ComponentCanvas.Decimal

/-- Helper: the float `m * 2^q`, exact if that number has at most 53 significant bits. -/
def Binary.toFloat (x : Binary) : Float :=
  let spare := x.m.log2 - 52
  Float.scaleB (Float.ofNat (x.m >>> spare)) (x.q + spare)

/-- The magnitude of the remainder of two finite floats, the divisor not zero. -/
def remainderOf (x y : Binary) : Binary :=
  let q := min x.q y.q
  ⟨(x.m * Nat.pow 2 (x.q - q).toNat) % (y.m * Nat.pow 2 (y.q - q).toNat), q⟩

/-- The remainder of a division, with the sign of the dividend. -/
def remainder (x y : Float) : Float :=
  if x.isNaN || y.isNaN || x.isInf || y == 0.0 then nan
  else if y.isInf then x
  else
    let r := (remainderOf (Binary.ofFloat x) (Binary.ofFloat y)).toFloat
    if isSignSet x then -r else r

end ComponentCanvas.Decimal
