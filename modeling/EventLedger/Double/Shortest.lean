import EventLedger.Double.Basic

/-!
# The shortest decimal of a double

`shortest` finds the decimal with the fewest digits that reads back as a given double, and of those
the nearest one. It walks through the grids of decimals with 1, 2, … digits. On each grid only the
two neighbours of the number itself can read back, so these are tested, in exact arithmetic, against
the interval of numbers that round to the double.
-/

namespace EventLedger.Double

/-- The fraction `num / den` as an exact positive number, with the ends of the interval around it.
-/
structure Interval where
  /-- The number times `den`. -/
  num : Nat
  /-- The lower end times `den`. -/
  lower : Nat
  /-- The upper end times `den`. -/
  upper : Nat
  den : Nat
  /-- Whether the ends belong to the interval. -/
  closed : Bool

/-- The numbers that round to `significand · 2 ^ exponent`. Below a power of two the next double is
only half as far away. -/
def Interval.ofBinary (significand : Nat) (exponent : Int) : Interval :=
  let scale := twoTo exponent.toNat
  let below := if significand = twoTo (precision - 1) ∧ minUnit < exponent then 1 else 2
  { num := 4 * significand * scale
    lower := (4 * significand - below) * scale
    upper := (4 * significand + 2) * scale
    den := 4 * twoTo (-exponent).toNat
    closed := significand % 2 == 0 }

/-- Whether `n · 10 ^ unit` lies in the interval. -/
def Interval.contains (i : Interval) (n : Nat) (unit : Int) : Bool :=
  let point := n * tenTo unit.toNat * i.den
  let ends := tenTo (-unit).toNat
  if i.closed then i.lower * ends ≤ point && point ≤ i.upper * ends
  else i.lower * ends < point && point < i.upper * ends

/-- The point of the grid with the given unit that lies in the interval, the nearer one of two, the
even one if both are as near. -/
def Interval.onGrid? (i : Interval) (unit : Int) : Option Nat :=
  let num := i.num * tenTo (-unit).toNat
  let den := i.den * tenTo unit.toNat
  let below := num / den
  let rest := num % den
  let nearest :=
    if den < 2 * rest ∨ (den = 2 * rest ∧ below % 2 = 1) then below + 1 else below
  let other := if nearest = below then below + 1 else below
  if i.contains nearest unit then some nearest
  else if i.contains other unit then some other
  else none

/-- The largest `k` with `10 ^ k ≤ num / den`. -/
def Interval.leadingDigit (i : Interval) : Int :=
  let guess : Int := (Text.digitCount i.num : Int) - Text.digitCount i.den
  if i.den * tenTo guess.toNat ≤ i.num * tenTo (-guess).toNat then guess else guess - 1

/-- The first grid of at least `used` digits with a point in the interval, among the next `fuel`
grids. -/
def Interval.search (i : Interval) (top : Int) : (fuel used : Nat) → Option (Nat × Int)
  | 0, _ => none
  | fuel + 1, used =>
    let unit := top - (used : Int) + 1
    match i.onGrid? unit with
    | some n => some (n, unit)
    | none => i.search top fuel (used + 1)

/-- Coefficient and exponent of the shortest decimal that reads back as the positive double
`significand · 2 ^ exponent`. Seventeen digits always suffice. -/
def shortest (significand : Nat) (exponent : Int) : Nat × Int :=
  let i := Interval.ofBinary significand exponent
  let (n, unit) := (i.search i.leadingDigit 17 1).getD (significand, 0)
  Decimal.stripZeros n unit

end EventLedger.Double
