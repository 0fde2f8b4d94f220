import EventLedger.Decimal.Rounding

/-!
# Binary numbers of double precision

A `Double` is a number of the interchange format with 53 significant bits, kept as the exact number
that it stands for: `significand · 2 ^ exponent`. `ofRatio` rounds any fraction to the nearest
double, a half to the even one, and everything else (reading decimals, adding) is exact arithmetic
followed by it.
-/

namespace EventLedger

/-- A number of double precision. Finite ones have a significand below 2 ^ 53; it is at least 2 ^ 52
unless the exponent is the least one, -1074. -/
inductive Double where
  /-- The number ±significand · 2 ^ exponent. -/
  | finite (negative : Bool) (significand : Nat) (exponent : Int)
  | infinite (negative : Bool)
  | nan
deriving DecidableEq, Inhabited

namespace Double

/-- The exponent of the last bit of the smallest numbers. -/
def minUnit : Int := -1074

/-- The number of significant bits. -/
def precision : Nat := 53

/-- Zero with a sign. -/
def zero (negative : Bool) : Double :=
  .finite negative 0 minUnit

/-- The whole number nearest to `num / den`, the even one of two. -/
def roundDiv (num den : Nat) : Nat :=
  let whole := num / den
  let rest := num % den
  if den < 2 * rest ∨ (den = 2 * rest ∧ whole % 2 = 1) then whole + 1 else whole

/-- The exponent of the leading bit of a positive fraction. -/
def leadingExponent (num den : Nat) : Int :=
  let guess : Int := (num.log2 : Int) - den.log2
  if den * twoTo guess.toNat ≤ num * twoTo (-guess).toNat then guess else guess - 1

/-- The double nearest to `±num / den`. -/
def ofRatio (negative : Bool) (num den : Nat) : Double :=
  if num = 0 then zero negative
  else
    let unit := max minUnit (leadingExponent num den - (precision - 1 : Nat))
    let rounded := roundDiv (num * twoTo (-unit).toNat) (den * twoTo unit.toNat)
    let (significand, unit) :=
      if rounded = twoTo precision then (twoTo (precision - 1), unit + 1) else (rounded, unit)
    if 971 < unit then .infinite negative else .finite negative significand unit

/-- The double nearest to `±coefficient · 10 ^ exponent`. Numbers far outside the range are settled
by their leading digit. -/
def ofDecimal (negative : Bool) (coefficient : Nat) (exponent : Int) : Double :=
  if coefficient = 0 then zero negative
  else if 400 < Decimal.adjusted coefficient exponent then .infinite negative
  else if Decimal.adjusted coefficient exponent < -400 then zero negative
  else ofRatio negative (coefficient * tenTo exponent.toNat) (tenTo (-exponent).toNat)

/-- The double nearest to a whole number. -/
def ofInt (i : Int) : Double :=
  ofRatio (i < 0) i.natAbs 1

/-- The order of `a · 2 ^ e` and `b · 2 ^ f`. -/
def compareBinary (a e b f : Int) : Ordering :=
  let low := min e f
  compare (a * twoTo (e - low).toNat) (b * twoTo (f - low).toNat)

/-- The order of two numbers, when both are numbers. -/
def order? : Double → Double → Option Ordering
  | .nan, _ => none
  | _, .nan => none
  | .infinite n, .infinite m => some (compare m n)
  | .infinite n, .finite .. => some (if n then .lt else .gt)
  | .finite .., .infinite m => some (if m then .gt else .lt)
  | .finite n a e, .finite m b f =>
    some (compareBinary (Decimal.signed n a) e (Decimal.signed m b) f)

/-- The order of a double and a whole number, compared exactly. -/
def orderInt? : Double → Int → Option Ordering
  | .nan, _ => none
  | .infinite n, _ => some (if n then .lt else .gt)
  | .finite n a e, i => some (compareBinary (Decimal.signed n a) e i 0)

/-- The rounded sum. -/
def add : Double → Double → Double
  | .nan, _ => .nan
  | _, .nan => .nan
  | .infinite n, .infinite m => if n = m then .infinite n else .nan
  | .infinite n, _ => .infinite n
  | _, .infinite m => .infinite m
  | .finite n a e, .finite m b f =>
    let low := min e f
    let sum :=
      Decimal.signed n a * twoTo (e - low).toNat + Decimal.signed m b * twoTo (f - low).toNat
    ofRatio (if sum = 0 then n && m else decide (sum < 0))
      (sum.natAbs * twoTo low.toNat) (twoTo (-low).toNat)

/-- The number with its fraction cut off, if it is finite. -/
def toInt? : Double → Option Int
  | .finite n a e =>
    let whole := a * twoTo e.toNat / twoTo (-e).toNat
    some (Decimal.signed n whole)
  | _ => none

/-- An exact power of two as a factor: `a · 2 ^ -k` with the factors of two in `a` cancelled. -/
def cancelTwos (a : Nat) : Nat → Nat × Nat
  | 0 => (a, 0)
  | k + 1 => if a % 2 = 0 then cancelTwos (a / 2) k else (a, k + 1)

/-- The decimal that is exactly this number. -/
def toDecimal : Double → Decimal
  | .nan => .nan false false 0
  | .infinite negative => .infinite negative
  | .finite negative a e =>
    if 0 ≤ e then .finite negative (a * twoTo e.toNat) 0
    else if a = 0 then .finite negative 0 0
    else
      let (a, k) := cancelTwos a (-e).toNat
      .finite negative (a * fiveTo k) (-(k : Int))

end Double

end EventLedger
