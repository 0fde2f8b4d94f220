import EventLedger.Proofs.AccountRules
import EventLedger.Proofs.StoredEvents

/-!
# What accounts decide is admitted

An account only ever holds a finite balance that is not negative, and then every event that a
command handler decides on has a finite amount and is one that the event handlers admit
(`dispatch_agreed`). The one thing that can go wrong is a movement whose sum or difference is too
large.
-/

namespace EventLedger.Account

theorem Balance.value_nonneg {b : Balance} (finite : b.value.isFinite = true) :
    0 ≤ b.value.value := by
  have nonneg := b.nonneg
  rw [Decimal.less_of_isFinite finite rfl, Decimal.value_zero] at nonneg
  exact not_lt.1 (of_decide_eq_false (Except.ok.inj nonneg))

/-- A sum that is not negative makes a balance, unless it overflows. -/
theorem Balance.make_of_rounds {q : ℚ} {r : Except Decimal.Signal Decimal}
    (rounds : Decimal.Rounds q r) (nonneg : 0 ≤ q) :
    (∃ b, liftSignal r >>= make = .ok b) ∨
      liftSignal r >>= make = .error (.arithmetic .overflow) := by
  cases rounds with
  | overflow => exact .inr rfl
  | @number n c e value digits unit small =>
    have value' : (Decimal.finite n c e).value = Decimal.rounded q := value
    rcases make_cases (rfl : (Decimal.finite n c e).isFinite = true) with ⟨neg, -⟩ | ⟨-, b, made, -⟩
    · rw [value', Decimal.rounded_of_nonneg nonneg] at neg
      exact absurd (Decimal.nearest_nonneg nonneg) (not_le.2 neg)
    · exact .inl ⟨b, made⟩

/-- A withdrawal is decided by the difference. -/
theorem withdrawal_of_sub {b : Balance} {a : Amount} {d : Decimal}
    (difference : b.value.sub a.value = .ok d) (finite : d.isFinite = true) :
    b.canWithdraw a.value = .ok (decide (0 ≤ d.value)) ∧ b.withdraw a.value = Balance.make d := by
  rw [Balance.canWithdraw, Balance.withdraw, difference]
  refine ⟨?_, rfl⟩
  show liftSignal (Decimal.atMost .zero d) = _
  rw [Decimal.atMost_of_isFinite rfl finite, Decimal.value_zero]
  rfl

/-- A balance covers an amount exactly if the rounded difference is not negative, and then that
difference is the balance that is left. -/
theorem covered_of_rounds {b : Balance} {a : Amount} {q : ℚ}
    (rounds : Decimal.Rounds q (b.value.sub a.value))
    (bounded : b.value.sub a.value ≠ .error .overflow) :
    b.canWithdraw a.value = .ok (decide (0 ≤ Decimal.rounded q)) ∧
      (0 ≤ Decimal.rounded q → ∃ b' : Balance, b.withdraw a.value = .ok b' ∧
        b'.value.isFinite = true ∧ b'.value.value = Decimal.rounded q) := by
  generalize difference : b.value.sub a.value = r at rounds bounded
  cases rounds with
  | overflow => exact absurd rfl bounded
  | @number n c e value =>
    have value' : (Decimal.finite n c e).value = Decimal.rounded q := value
    obtain ⟨covers, leads⟩ := withdrawal_of_sub difference rfl
    rw [value'] at covers
    refine ⟨covers, fun nonneg => ?_⟩
    rcases Balance.make_cases (rfl : (Decimal.finite n c e).isFinite = true) with
      ⟨neg, -⟩ | ⟨-, b', made, same⟩
    · exact absurd (value' ▸ nonneg) (not_le.2 neg)
    · exact ⟨b', leads.trans made, by rw [same]; rfl, by rw [same, value']⟩

section

variable {b : Balance} {a : Amount} (holds : b.value.isFinite = true)
  (moves : a.value.isFinite = true)
include holds moves

theorem deposit_cases :
    (∃ b', b.deposit a.value = .ok b') ∨ b.deposit a.value = .error (.arithmetic .overflow) :=
  Balance.make_of_rounds (Decimal.add_rounds holds moves)
    (add_nonneg (Balance.value_nonneg holds) (Amount.value_pos moves).le)

/-- A balance that covers an amount can be lowered by it. -/
theorem withdraw_cases :
    (b.canWithdraw a.value = .ok true ∧ ∃ b', b.withdraw a.value = .ok b') ∨
      b.canWithdraw a.value = .ok false ∨
      b.canWithdraw a.value = .error (.arithmetic .overflow) := by
  by_cases large : b.value.sub a.value = .error .overflow
  · rw [Balance.canWithdraw, large]
    exact .inr (.inr rfl)
  · obtain ⟨decided, left⟩ := covered_of_rounds (Decimal.sub_rounds holds moves) large
    by_cases nonneg : 0 ≤ Decimal.rounded (b.value.value - a.value.value)
    · obtain ⟨b', lowered, -⟩ := left nonneg
      exact .inl ⟨decide_eq_true nonneg ▸ decided, b', lowered⟩
    · exact .inr (.inl (decide_eq_false nonneg ▸ decided))

end

theorem isValidAmount_of_finite {amount : Decimal} (finite : amount.isFinite = true) :
    isValidAmount amount = .ok (decide (0 < amount.value)) := by
  rw [isValidAmount, if_pos finite, Decimal.less_of_isFinite rfl finite, Decimal.value_zero]
  rfl

/-- An amount that can be moved is a finite one above zero. -/
theorem isValidAmount_cases (amount : Decimal) :
    isValidAmount amount = .ok false ∨
      isValidAmount amount = .ok true ∧
        ∃ a : Amount, a.value = amount ∧ a.value.isFinite = true := by
  cases finite : amount.isFinite with
  | false => exact .inl (by rw [isValidAmount, finite]; rfl)
  | true =>
    have valid := isValidAmount_of_finite finite
    rcases Amount.make_cases "moved" finite with ⟨neg, -⟩ | ⟨pos, a, -, rfl⟩
    · rw [decide_eq_false (not_lt.2 neg)] at valid
      exact .inl valid
    · rw [decide_eq_true pos] at valid
      exact .inr ⟨valid, a, rfl, finite⟩

/-! ## Decisions -/

/-- The operations that are dropped without a reply. -/
def Dropped (policy : ClosedPolicy) (op : Operation) : State → Prop
  | .empty => op ≠ .create
  | .opened _ => False
  | .closed => policy = .unhandled

/-- What folding an event that was decided on leads to: a state, or an overflow of a deposit. -/
inductive Admitted (op : Operation) : Except (Failure State Event) State → Prop
  | state (s : State) : Admitted op (.ok s)
  | overflow {amount : Decimal} (deposits : op = .deposit amount) :
    Admitted op (.error (.fault (.arithmetic .overflow)))

/-- The decisions on an operation. -/
inductive Agreed (policy : ClosedPolicy) (state : State) (op : Operation) : Decided → Prop
  | overflow {amount : Decimal} (kept : ¬ Dropped policy op state)
    (withdraws : op = .withdraw amount) :
    Agreed policy state op (.error (.fault (.arithmetic .overflow)))
  | replied {reply : Reply} (kept : ¬ Dropped policy op state)
    (accepted : op.replyType.accepts reply = true) : Agreed policy state op (replying reply)
  | dropped (silent : Dropped policy op state) :
    Agreed policy state op (.ok (.effect .unhandledNoReply))
  | confirmed {event : Event} (kept : ¬ Dropped policy op state) (records : Records op event)
    (finite : event.Same event) (admitted : Admitted op (applier.fold state [event])) :
    Agreed policy state op (confirming event)

theorem isValidAmount_amount {a : Amount} (finite : a.value.isFinite = true) :
    isValidAmount a.value = .ok true := by
  rw [isValidAmount_of_finite finite, decide_eq_true (Amount.value_pos finite)]

theorem depositInto_amount (balance : Balance) {a : Amount} (finite : a.value.isFinite = true) :
    depositInto balance a.value = confirming (.deposited a) := by
  rw [depositInto, isValidAmount_amount finite, Event.deposit_amount]
  rfl

theorem withdrawFrom_amount {balance : Balance} {a : Amount} (finite : a.value.isFinite = true)
    (covered : balance.canWithdraw a.value = .ok true) :
    withdrawFrom balance a.value = confirming (.withdrawn a) := by
  rw [withdrawFrom, isValidAmount_amount finite, covered, Event.withdraw_amount]
  rfl

theorem apply_withdrawn {b b' : Balance} {a : Amount} (covered : b.canWithdraw a.value = .ok true)
    (left : b.withdraw a.value = .ok b') :
    applier.apply (.opened b) (.withdrawn a) = .ok (.opened b') := by
  show onOpenedEvent (.opened b) (.withdrawn a) = _
  rw [onOpenedEvent, covered, left]
  rfl

theorem fold_singleton (state : State) (event : Event) :
    applier.fold state [event] = applier.apply state event := by
  rw [Applier.fold_cons]
  cases applier.apply state event <;> rfl

section

variable (policy : ClosedPolicy) {b : Balance} (finite : b.value.isFinite = true)
include finite

theorem depositInto_agreed (amount : Decimal) :
    Agreed policy (.opened b) (.deposit amount) (depositInto b amount) := by
  rcases isValidAmount_cases amount with invalid | ⟨-, a, rfl, moves⟩
  · rw [depositInto, invalid]
    exact .replied id rfl
  · rw [depositInto_amount b moves]
    refine .confirmed id (.deposited a) (.deposited moves moves rfl) ?_
    rw [fold_singleton]
    show Admitted _ (leadingTo (b.deposit a.value))
    rcases deposit_cases finite moves with ⟨b', sum⟩ | large
    · rw [sum]; exact .state _
    · rw [large]; exact .overflow rfl

theorem withdrawFrom_agreed (amount : Decimal) :
    Agreed policy (.opened b) (.withdraw amount) (withdrawFrom b amount) := by
  rcases isValidAmount_cases amount with invalid | ⟨valid, a, rfl, moves⟩
  · rw [withdrawFrom, invalid]
    exact .replied id rfl
  · rcases withdraw_cases finite moves with ⟨covered, b', left⟩ | short | large
    · rw [withdrawFrom_amount moves covered]
      refine .confirmed id (.withdrawn a) (.withdrawn moves moves rfl) ?_
      rw [fold_singleton, apply_withdrawn covered left]
      exact .state _
    · rw [withdrawFrom, valid, short]; exact .replied id rfl
    · rw [withdrawFrom, valid, large]; exact .overflow id rfl

theorem isZero_of_finite : b.isZero = .ok (decide (b.value.value = 0)) := by
  rw [Balance.isZero, Decimal.equals_of_isFinite finite rfl, Decimal.value_zero]
  rfl

/-- An account that holds nothing is closed. -/
theorem close_emptied (zero : b.value.value = 0) :
    closeEmptied b = confirming .closed ∧ applier.apply (.opened b) .closed = .ok .closed := by
  have empty : b.isZero = .ok true := by rw [isZero_of_finite finite, decide_eq_true zero]
  constructor
  · rw [closeEmptied, empty]
    rfl
  · show onOpenedEvent (.opened b) .closed = _
    rw [onOpenedEvent, empty]

theorem closeEmptied_agreed : Agreed policy (.opened b) .close (closeEmptied b) := by
  by_cases zero : b.value.value = 0
  · obtain ⟨closes, folded⟩ := close_emptied finite zero
    rw [closes]
    refine .confirmed id .closed .closed ?_
    rw [fold_singleton, folded]
    exact .state _
  · rw [closeEmptied, isZero_of_finite finite, decide_eq_false zero]
    exact .replied id rfl

theorem onOpened_agreed (op : Operation) :
    Agreed policy (.opened b) op (onOpened (.opened b) (.operation op)) := by
  cases op with
  | create => exact .replied id rfl
  | deposit amount => exact depositInto_agreed policy finite amount
  | withdraw amount => exact withdrawFrom_agreed policy finite amount
  | getBalance => exact .replied id rfl
  | close => exact closeEmptied_agreed policy finite

end

/-- The handlers of commands decide on nothing that the handlers of events do not admit, and reply
with what the command declares. -/
theorem dispatch_agreed (policy : ClosedPolicy) {state : State} (fits : state.Fits)
    (op : Operation) :
    Agreed policy state op ((dispatcher policy).dispatch state (.operation op)) := by
  rw [dispatch_operation]
  cases fits with
  | empty =>
    dsimp only
    split
    next first =>
      subst first
      exact .confirmed (fun drops => drops rfl) .created .created (.state _)
    next other => exact .dropped other
  | opened finite => exact onOpened_agreed policy finite op
  | closed =>
    cases policy with
    | unhandled => exact .dropped rfl
    | reject =>
      cases op <;> exact .replied nofun rfl

/-- An operation is only confirmed with a finite amount. -/
theorem dispatch_finite {policy : ClosedPolicy} {state : State} (fits : state.Fits)
    {op : Operation} {event : Event}
    (h : (dispatcher policy).dispatch state (.operation op) = confirming event) :
    event.Same event := by
  have agreed := dispatch_agreed policy fits op
  rw [h] at agreed
  cases agreed with
  | confirmed _ _ finite => exact finite

end EventLedger.Account
