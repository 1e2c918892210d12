/-!
# Ranges of Code Points

A character class of the Unicode standard is carried as a list of closed ranges, ascending and
apart, or as a list of strides where every second letter belongs to the class.  Membership is a
look-up in that list.
-/

namespace ComponentCanvas.Text

/-- Whether a code point lies in one of the closed ranges. -/
def inRanges (ranges : List (Nat × Nat)) (n : Nat) : Bool :=
  ranges.any fun r => r.1 ≤ n && n ≤ r.2

/-- The code points `first, first + step, …, last`. -/
structure Stride where
  first : Nat
  last : Nat
  step : Nat

/-- Whether the stride holds the code point. -/
def Stride.covers (r : Stride) (n : Nat) : Bool :=
  r.first ≤ n && n ≤ r.last && (n - r.first) % r.step == 0

end ComponentCanvas.Text
