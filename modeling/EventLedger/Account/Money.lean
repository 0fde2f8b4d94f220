import EventLedger.Fault

/-!
# Amounts and balances

An `Amount` is what a deposit or a withdrawal moves, and is positive. A `Balance` is what an account
holds, and is not negative. Both are decimals as they were written or computed; an infinity is
either, a NaN neither.
-/

namespace EventLedger.Account

/-- A positive amount of money. -/
structure Amount where
  value : Decimal
  positive : value.atMost .zero = .ok false
deriving DecidableEq

/-- The amount of a movement, if it is positive. -/
def Amount.make (movement : String) (value : Decimal) : Except Fault Amount :=
  match h : value.atMost .zero with
  | .ok false => .ok ⟨value, h⟩
  | .ok true => .error (.invalid (.amountNotPositive movement value))
  | .error signal => .error (.arithmetic signal)

/-- A balance that is not negative. -/
structure Balance where
  value : Decimal
  nonneg : value.less .zero = .ok false
deriving DecidableEq

namespace Balance

/-- The balance with a value, if it is not negative. -/
def make (value : Decimal) : Except Fault Balance :=
  match h : value.less .zero with
  | .ok false => .ok ⟨value, h⟩
  | .ok true => .error (.invalid .negativeBalance)
  | .error signal => .error (.arithmetic signal)

/-- The balance of a new account. -/
def zero : Balance :=
  ⟨.zero, rfl⟩

/-- Whether the balance covers an amount: what would be left, rounded, is not negative. -/
def canWithdraw (balance : Balance) (amount : Decimal) : Except Fault Bool :=
  liftSignal do
    let left ← balance.value.sub amount
    Decimal.atMost .zero left

/-- Whether nothing is left. -/
def isZero (balance : Balance) : Except Fault Bool :=
  liftSignal (balance.value.equals .zero)

/-- The balance after a deposit. -/
def deposit (balance : Balance) (amount : Decimal) : Except Fault Balance := do
  make (← liftSignal (balance.value.add amount))

/-- The balance after a withdrawal. -/
def withdraw (balance : Balance) (amount : Decimal) : Except Fault Balance := do
  make (← liftSignal (balance.value.sub amount))

end Balance

end EventLedger.Account
