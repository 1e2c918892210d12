/-!
# Words

Integers that fit a word of 64 bits, with a sign or without one.
-/

namespace ComponentCanvas.Decimal

/-- The number of words of 64 bits, two to the power of 64. -/
def wordCount : Nat := 0x10000000000000000

/-- The number of words of 64 bits that have no sign, two to the power of 63. -/
def halfCount : Nat := 0x8000000000000000

/-- Whether an integer is a word with a sign. -/
def isSignedWord (n : Int) : Bool := -(halfCount : Int) ≤ n && n < (halfCount : Int)

/-- Whether an integer is a word without a sign. -/
def isUnsignedWord (n : Int) : Bool := 0 ≤ n && n < (wordCount : Int)

end ComponentCanvas.Decimal
