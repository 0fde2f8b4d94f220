import EventLedger.Power
import EventLedger.Text.Numeral

/-!
# Decimal numbers

A `Decimal` is a number as it was written: sign, coefficient and exponent are kept apart, so that
`70`, `70.00` and `7E+1` are three values of one number. There are two infinities and, for results
without a number, quiet and signaling NaNs with a payload.

`order?` compares by number. It has no answer when a NaN takes part; `equals` and `compare` turn
that into the `Signal`s of the arithmetic.
-/

namespace EventLedger

open Text (digitCount)

/-- A decimal number as it was written. -/
inductive Decimal where
  /-- The number ±coefficient · 10 ^ exponent. -/
  | finite (negative : Bool) (coefficient : Nat) (exponent : Int)
  | infinite (negative : Bool)
  | nan (signaling negative : Bool) (payload : Nat)
deriving DecidableEq, Inhabited

namespace Decimal

/-- A condition that stops a computation with decimals. -/
inductive Signal where
  /-- The operation has no meaningful result. -/
  | invalidOperation
  /-- The rounded result is too large. -/
  | overflow
deriving DecidableEq

/-- The number `n`, with exponent zero. -/
def ofNat (n : Nat) : Decimal :=
  .finite false n 0

/-- The number `i`, with exponent zero. -/
def ofInt (i : Int) : Decimal :=
  .finite (i < 0) i.natAbs 0

/-- Zero, as every balance starts. -/
def zero : Decimal :=
  .ofNat 0

/-- Neither an infinity nor a NaN. -/
def isFinite : Decimal → Bool
  | .finite .. => true
  | _ => false

/-- The exponent of the leading digit of `coefficient · 10 ^ exponent`. -/
def adjusted (coefficient : Nat) (exponent : Int) : Int :=
  exponent + digitCount coefficient - 1

/-- The coefficient of `coefficient · 10 ^ exponent` over the smaller exponent `low`. -/
def scaleTo (low : Int) (coefficient : Nat) (exponent : Int) : Nat :=
  if coefficient = 0 then 0 else coefficient * tenTo (exponent - low).toNat

/-- The order of `c · 10 ^ e` and `d · 10 ^ f`. The leading digits decide where they can, so that
far exponents are compared without writing the numbers out. -/
def compareMagnitude (c : Nat) (e : Int) (d : Nat) (f : Int) : Ordering :=
  if c = 0 then (if d = 0 then .eq else .lt)
  else if d = 0 then .gt
  else if adjusted c e < adjusted d f then .lt
  else if adjusted d f < adjusted c e then .gt
  else Ord.compare (scaleTo (min e f) c e) (scaleTo (min e f) d f)

/-- The order of two numbers, when both are numbers. -/
def order? : Decimal → Decimal → Option Ordering
  | .nan .., _ => none
  | _, .nan .. => none
  | .infinite n, .infinite m => some (Ord.compare m n)
  | .infinite n, .finite .. => some (if n then .lt else .gt)
  | .finite .., .infinite m => some (if m then .gt else .lt)
  | .finite n c e, .finite m d f =>
    some <|
      if c = 0 ∧ d = 0 then .eq
      else if c = 0 then (if m then .gt else .lt)
      else if d = 0 then (if n then .lt else .gt)
      else match n, m with
        | true, false => .lt
        | false, true => .gt
        | false, false => compareMagnitude c e d f
        | true, true => compareMagnitude d f c e

/-- A NaN that no operation lets pass. -/
def isSignaling : Decimal → Bool
  | .nan signaling .. => signaling
  | _ => false

/-- Equality of numbers. A quiet NaN equals nothing, a signaling one cannot be asked. -/
def equals (a b : Decimal) : Except Signal Bool :=
  if a.isSignaling || b.isSignaling then .error .invalidOperation
  else .ok (a.order? b == some .eq)

/-- The order of two numbers; a NaN has none. -/
def compare (a b : Decimal) : Except Signal Ordering :=
  match a.order? b with
  | some o => .ok o
  | none => .error .invalidOperation

/-- Whether `a < b`. -/
def less (a b : Decimal) : Except Signal Bool :=
  return (← a.compare b).isLT

/-- Whether `a ≤ b`. -/
def atMost (a b : Decimal) : Except Signal Bool :=
  return (← a.compare b).isLE

end Decimal

end EventLedger
