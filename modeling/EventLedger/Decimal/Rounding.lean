import EventLedger.Decimal.Basic

/-!
# Rounded arithmetic

Sums and differences are exact and then rounded once, to 28 significant digits, a half going to the
even neighbour. Numbers below 10 ^ -999999 keep fewer digits, down to the unit 10 ^ -1000026; a
number that rounds to 10 ^ 1000000 or more overflows.

`roundFinite` is the rounding, `add` and `sub` the arithmetic, and `normalize` the rounded number
with the zeros at its end removed.
-/

namespace EventLedger.Decimal

open Text (digitCount)

/-- The number of significant digits of a result. -/
def precision : Nat := 28

/-- The largest exponent of a leading digit. -/
def maxExponent : Int := 999999

/-- The smallest exponent of a last digit. -/
def minUnit : Int := -1000026

/-- The whole number nearest to `n / 10 ^ k`, the even one of two. -/
def shiftHalfEven (n k : Nat) : Nat :=
  if digitCount n < k then 0
  else
    let unit := tenTo k
    let whole := n / unit
    let rest := n % unit
    if unit < 2 * rest ∨ (unit = 2 * rest ∧ whole % 2 = 1) then whole + 1 else whole

/-- The exponent that the last digit of `coefficient · 10 ^ exponent` is rounded to. -/
def roundingUnit (coefficient : Nat) (exponent : Int) : Int :=
  max exponent (max minUnit (adjusted coefficient exponent - (precision - 1 : Nat)))

/-- The nearest decimal with at most 28 digits. A zero has its exponent moved into the range. -/
def roundFinite (negative : Bool) (coefficient : Nat) (exponent : Int) : Except Signal Decimal :=
  if coefficient = 0 then
    .ok (.finite negative 0 (max minUnit (min exponent maxExponent)))
  else if maxExponent < adjusted coefficient exponent then
    .error .overflow
  else
    let unit := roundingUnit coefficient exponent
    let rounded := shiftHalfEven coefficient (unit - exponent).toNat
    if rounded = tenTo precision then
      if maxExponent < unit + precision then .error .overflow
      else .ok (.finite negative (tenTo (precision - 1)) (unit + 1))
    else .ok (.finite negative rounded unit)

/-- A NaN as a result keeps the last 28 digits of its payload. -/
def quiet (negative : Bool) (payload : Nat) : Decimal :=
  .nan false negative (payload % tenTo precision)

/-- The rounded value of a decimal. -/
def round : Decimal → Except Signal Decimal
  | .finite negative coefficient exponent => roundFinite negative coefficient exponent
  | .infinite negative => .ok (.infinite negative)
  | .nan false negative payload => .ok (quiet negative payload)
  | .nan true .. => .error .invalidOperation

/-- The exponent under which a summand cannot reach a digit that the sum with the leading term
`coefficient · 10 ^ exponent` keeps. -/
def guardExponent (coefficient : Nat) (exponent : Int) : Int :=
  exponent - 1 +
    if precision < digitCount coefficient then 0
    else (digitCount coefficient : Int) - precision - 1

/-- The summand `coefficient · 10 ^ exponent`. One that lies wholly under `guard` is replaced by a
single unit there, or by a zero if it is one: all that matters of it is on which side of the leading
term it lies. -/
def condense (guard : Int) (coefficient : Nat) (exponent : Int) : Nat × Int :=
  if adjusted coefficient exponent < guard then (if coefficient = 0 then 0 else 1, guard)
  else (coefficient, exponent)

/-- A signed coefficient. -/
def signed (negative : Bool) (coefficient : Nat) : Int :=
  if negative then -(coefficient : Int) else coefficient

/-- The exact sum of two terms, rounded. A sum of zero is negative only if both terms are. -/
def addTerms (n : Bool) (c : Nat) (e : Int) (m : Bool) (d : Nat) (f : Int) :
    Except Signal Decimal :=
  let low := min e f
  let sum := signed n (scaleTo low c e) + signed m (scaleTo low d f)
  roundFinite (if sum = 0 then n && m else decide (sum < 0)) sum.natAbs low

/-- The rounded sum of two finite decimals. -/
def addFinite (n : Bool) (c : Nat) (e : Int) (m : Bool) (d : Nat) (f : Int) :
    Except Signal Decimal :=
  if f ≤ e then
    let small := if c = 0 then (d, f) else condense (guardExponent c e) d f
    addTerms n c e m small.1 small.2
  else
    let small := if d = 0 then (c, e) else condense (guardExponent d f) c e
    addTerms n small.1 small.2 m d f

/-- The result of an operation on NaNs: the first signaling one stops it, else the first one passes
through. -/
def nanResult? (a b : Decimal) : Option (Except Signal Decimal) :=
  if a.isSignaling || b.isSignaling then some (.error .invalidOperation)
  else match a, b with
    | .nan _ negative payload, _ => some (.ok (quiet negative payload))
    | _, .nan _ negative payload => some (.ok (quiet negative payload))
    | _, _ => none

/-- `a` with the other sign. -/
def negate : Decimal → Decimal
  | .finite negative coefficient exponent => .finite (!negative) coefficient exponent
  | .infinite negative => .infinite (!negative)
  | .nan signaling negative payload => .nan signaling (!negative) payload

/-- The rounded sum of two decimals that are no NaNs. -/
def addNumbers : Decimal → Decimal → Except Signal Decimal
  | .finite n c e, .finite m d f => addFinite n c e m d f
  | .infinite n, .infinite m => if n = m then .ok (.infinite n) else .error .invalidOperation
  | .infinite n, _ => .ok (.infinite n)
  | _, b => .ok b

/-- The rounded sum. -/
def add (a b : Decimal) : Except Signal Decimal :=
  (nanResult? a b).getD (addNumbers a b)

/-- The rounded difference. -/
def sub (a b : Decimal) : Except Signal Decimal :=
  (nanResult? a b).getD (addNumbers a b.negate)

/-- `coefficient · 10 ^ exponent` without zeros at the end of the coefficient. -/
def stripZeros (coefficient : Nat) (exponent : Int) : Nat × Int :=
  if _h : coefficient ≠ 0 ∧ coefficient % 10 = 0 then stripZeros (coefficient / 10) (exponent + 1)
  else (coefficient, exponent)
termination_by coefficient
decreasing_by omega

/-- The rounded value, written with the fewest digits. A zero keeps its sign. -/
def normalize (a : Decimal) : Except Signal Decimal := do
  match ← a.round with
  | .finite negative coefficient exponent =>
    if coefficient = 0 then
      return .finite negative 0 0
    let (c, e) := stripZeros coefficient exponent
    return .finite negative c e
  | other => return other

end EventLedger.Decimal
