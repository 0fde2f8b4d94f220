import EventLedger.Account.Tables

/-!
# What accounts decide

The handler of an operation has few ways to decide (`Decides`): it fails, replies without an event
and does not confirm, drops the operation, or confirms it with the one event that records it
(`Records`). `dispatch_decides` finds the handler and shows that it keeps to these ways.
-/

namespace EventLedger.Account

/-- The event that records an operation once it is carried out. -/
inductive Records : Operation → Event → Prop
  | created : Records .create .created
  | deposited (amount : Amount) : Records (.deposit amount.value) (.deposited amount)
  | withdrawn (amount : Amount) : Records (.withdraw amount.value) (.withdrawn amount)
  | closed : Records .close .closed

/-- The ways to decide on an operation. -/
inductive Decides (op : Operation) : Decided → Prop
  | failed (fault : Fault) : Decides op (.error (.fault fault))
  | replied {reply : Reply} (unconfirmed : reply ≠ .confirmed) : Decides op (replying reply)
  | dropped : Decides op (.ok (.effect .unhandledNoReply))
  | confirmed {event : Event} (records : Records op event) : Decides op (confirming event)

theorem decides_rejecting (op : Operation) (reason : String) : Decides op (rejecting reason) :=
  .replied nofun

theorem decides_deciding {op : Operation} {α : Type} {result : Except Fault α} {next : α → Decided}
    (h : ∀ a, result = .ok a → Decides op (next a)) : Decides op (deciding result next) := by
  cases result with
  | error fault => exact .failed fault
  | ok a => exact h a rfl

/-- An amount is made of its own value. -/
@[simp] theorem Amount.make_value (movement : String) (amount : Amount) :
    Amount.make movement amount.value = .ok amount := by
  unfold make
  split
  next => rfl
  next h => cases amount.positive.symm.trans h
  next h => cases amount.positive.symm.trans h

theorem Event.deposit_amount (amount : Amount) :
    deposit amount.value = .ok (.deposited amount) := by
  rw [deposit, Amount.make_value]
  rfl

theorem Event.withdraw_amount (amount : Amount) :
    withdraw amount.value = .ok (.withdrawn amount) := by
  rw [withdraw, Amount.make_value]
  rfl

/-- A balance is made of its own value. -/
@[simp] theorem Balance.make_value (balance : Balance) : make balance.value = .ok balance := by
  unfold make
  split
  next => rfl
  next h => cases balance.nonneg.symm.trans h
  next h => cases balance.nonneg.symm.trans h

theorem Amount.value_of_make {movement : String} {value : Decimal} {amount : Amount}
    (made : Amount.make movement value = .ok amount) : amount.value = value := by
  unfold Amount.make at made
  split at made
  · cases made; rfl
  · cases made
  · cases made

theorem Amount.of_map_make {movement : String} {value : Decimal} {event : Event}
    {wrap : Amount → Event} (made : wrap <$> Amount.make movement value = .ok event) :
    ∃ amount : Amount, amount.value = value ∧ event = wrap amount := by
  cases amount : Amount.make movement value with
  | error fault => rw [amount] at made; cases made
  | ok amount' =>
    rw [amount] at made
    exact ⟨amount', value_of_make amount, (Except.ok.inj made).symm⟩

theorem depositInto_decides (balance : Balance) (amount : Decimal) :
    Decides (.deposit amount) (depositInto balance amount) := by
  refine decides_deciding fun valid _ => ?_
  cases valid with
  | false => exact decides_rejecting ..
  | true =>
    refine decides_deciding fun event made => ?_
    obtain ⟨amount, rfl, rfl⟩ := Amount.of_map_make made
    exact .confirmed (.deposited amount)

theorem withdrawFrom_decides (balance : Balance) (amount : Decimal) :
    Decides (.withdraw amount) (withdrawFrom balance amount) := by
  refine decides_deciding fun valid _ => ?_
  cases valid with
  | false => exact decides_rejecting ..
  | true =>
    refine decides_deciding fun covered _ => ?_
    cases covered with
    | false => exact decides_rejecting ..
    | true =>
      refine decides_deciding fun event made => ?_
      obtain ⟨amount, rfl, rfl⟩ := Amount.of_map_make made
      exact .confirmed (.withdrawn amount)

theorem closeEmptied_decides (balance : Balance) : Decides .close (closeEmptied balance) := by
  refine decides_deciding fun zero _ => ?_
  cases zero with
  | false => exact decides_rejecting ..
  | true => exact .confirmed .closed

theorem onOpened_decides (balance : Balance) (op : Operation) :
    Decides op (onOpened (.opened balance) (.operation op)) := by
  cases op with
  | create => exact decides_rejecting ..
  | deposit amount => exact depositInto_decides balance amount
  | withdraw amount => exact withdrawFrom_decides balance amount
  | getBalance => exact .replied nofun
  | close => exact closeEmptied_decides balance

theorem rejectClosed_decides (state : State) (op : Operation) :
    Decides op (rejectClosed state (.operation op)) := by
  cases op with
  | getBalance => exact .replied nofun
  | _ => exact decides_rejecting ..

/-- The handler that an operation finds in a state. -/
theorem dispatch_operation (policy : ClosedPolicy) (state : State) (op : Operation) :
    (dispatcher policy).dispatch state (.operation op) =
      match state, policy with
      | .empty, _ =>
        if op = .create then create state (.operation op) else drop state (.operation op)
      | .opened _, _ => onOpened state (.operation op)
      | .closed, .unhandled => drop state (.operation op)
      | .closed, .reject => rejectClosed state (.operation op) := by
  cases state <;> cases policy <;> cases op <;> rfl

theorem dispatch_decides (policy : ClosedPolicy) (state : State) (op : Operation) :
    Decides op ((dispatcher policy).dispatch state (.operation op)) := by
  rw [dispatch_operation]
  cases state with
  | empty =>
    dsimp only
    split
    next first => rw [first]; exact .confirmed .created
    next => exact .dropped
  | opened balance => exact onOpened_decides balance op
  | closed =>
    cases policy with
    | unhandled => exact .dropped
    | reject => exact rejectClosed_decides .closed op

/-- An operation that is recorded by an event accepts to be confirmed. -/
theorem Records.accepts {op : Operation} {event : Event} (records : Records op event) :
    CommandType.accepts (Command.operation op) Reply.confirmed = true := by
  cases records <;> rfl

end EventLedger.Account
