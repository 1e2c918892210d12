/-!
# Shortest Decimals

A finite binary64 value is `m * 2^q` for naturals `m`.  `shortest` finds the decimal with the
fewest digits that reads back to the value; of two such decimals with equally many digits it takes
the nearer one, and at an exact tie the one the caller asks for.

Reading is `toFloat`, correct rounding to nearest.  The search tests candidates with `toFloat`
itself, so what it returns within seventeen digits reads back by construction.
-/

namespace ComponentCanvas.Decimal

/-- The number `digits * 10^exponent`. -/
structure Scientific where
  digits : Nat
  exponent : Int
deriving Repr, DecidableEq, Inhabited

/-- The decimal digits of a natural number, first digit first. -/
def digitsOf (n : Nat) : List Char := Nat.toDigits 10 n

/-- Positive infinity. -/
def infinity : Float := 1.0 / 0.0

/-- Not a number. -/
def nan : Float := 0.0 / 0.0

/-- Whether a float is neither infinite nor not-a-number. -/
def isFinite (x : Float) : Bool := !x.isNaN && !x.isInf

/-- The binary64 value nearest to `digits * 10^exponent`.  Exponents far out of range are cut
short: beyond them the result is infinite or zero for any digits. -/
def Scientific.toFloat (d : Scientific) : Float :=
  if d.digits == 0 then 0.0
  else if 400 < d.exponent then infinity
  else if d.exponent + (digitsOf d.digits).length < -400 then 0.0
  else Float.ofScientific d.digits (d.exponent < 0) d.exponent.natAbs

/-- A finite non-negative binary64 value as `m * 2^q`. -/
structure Binary where
  m : Nat
  q : Int

/-- Decodes the magnitude of a finite float. -/
def Binary.ofFloat (x : Float) : Binary :=
  let bits := x.toBits
  let e := ((bits >>> 52) &&& 0x7FF).toNat
  let f := (bits &&& 0xFFFFFFFFFFFFF).toNat
  if e == 0 then ⟨f, -1074⟩ else ⟨0x10000000000000 + f, (e : Int) - 1075⟩

/-- The value as a fraction: numerator and denominator. -/
def Binary.fraction (x : Binary) : Nat × Nat := (x.m * Nat.pow 2 x.q.toNat, Nat.pow 2 (-x.q).toNat)

/-- Helper: whether `num / den < 10^k`. -/
def belowPower (num den : Nat) (k : Int) : Bool :=
  num * Nat.pow 10 (-k).toNat < den * Nat.pow 10 k.toNat

/-- Helper: the least `k` not below the start with `num / den < 10^k`. -/
def scaleFrom : Nat → Int → Nat → Nat → Int
  | 0, k, _, _ => k
  | fuel + 1, k, num, den => if belowPower num den k then k else scaleFrom fuel (k + 1) num den

/-- The number of digits before the point, negative for small fractions. -/
def Binary.scale (x : Binary) : Int :=
  let (num, den) := x.fraction
  -- 77/256 is just below the decimal logarithm of two, so the estimate never exceeds the scale
  let log2 : Int := (x.m.log2 : Int) + x.q
  scaleFrom 24 ((if log2 ≥ 0 then log2 * 77 / 256 else log2 * 78 / 256) - 1) num den

/-- What to take of two decimals that are equally near. -/
inductive Tie where
  | toEven
  | up
deriving DecidableEq

/-- The nearer of a grid point below a value and the next one above it. -/
def nearer (below : Nat) (num den : Nat) (tie : Tie) : Nat :=
  match compare (2 * num) ((2 * below + 1) * den) with
  | .lt => below
  | .gt => below + 1
  | .eq => match tie with
    | .up => below + 1
    | .toEven => if below % 2 == 0 then below else below + 1

/-- A decimal with `n` digits that reads back to `x`, if there is one: one of the two neighbours
of the value on the grid of `n` digits. -/
def atLength? (x : Float) (b : Binary) (scale : Int) (tie : Tie) (n : Nat) : Option Scientific :=
  let g : Int := scale - n
  let (num, den) := b.fraction
  let num := num * Nat.pow 10 (-g).toNat
  let den := den * Nat.pow 10 g.toNat
  let below := num / den
  let reads (k : Nat) : Bool := (Scientific.toFloat ⟨k, g⟩).toBits == x.toBits
  match reads below, reads (below + 1) with
  | true, true => some ⟨nearer below num den tie, g⟩
  | true, false => some ⟨below, g⟩
  | false, true => some ⟨below + 1, g⟩
  | false, false => none

/-- Helper: moves trailing zeros of the digits into the exponent. -/
def stripZeros : Nat → Scientific → Scientific
  | 0, d => d
  | fuel + 1, d =>
    if d.digits % 10 == 0 && d.digits != 0 then stripZeros fuel ⟨d.digits / 10, d.exponent + 1⟩
    else d

/-- The exact decimal value of `m * 2^q`. -/
def Binary.exact (x : Binary) : Scientific :=
  if 0 ≤ x.q then ⟨x.m * Nat.pow 2 x.q.toNat, 0⟩ else ⟨x.m * Nat.pow 5 x.q.natAbs, x.q⟩

/-- The shortest decimal that reads back to a finite non-negative float. -/
def shortest (x : Float) (tie : Tie) : Scientific :=
  let b := Binary.ofFloat x
  if b.m == 0 then ⟨0, 0⟩
  else
    let scale := b.scale
    let found := (List.range 17).findSome? fun i => atLength? x b scale tie (i + 1)
    stripZeros 20 (found.getD b.exact)

end ComponentCanvas.Decimal
