import EventLedger.Proofs.Decisions

/-!
# What accounts decide on commands of any kind

The tables of accounts find a handler by the kinds of state and command, for an application's own
commands as well (`dispatch_command`). Whatever is found decides in few ways (`Plain`): it fails for
the numbers in state or command, replies without an event, leaves the command unhandled, drops it,
or confirms it with one event. The event handlers fail for numbers only, too (`fault_of_fold`).
-/

namespace EventLedger

/-- A table in which one value is registered under several keys. -/
theorem Registry.get?_map_const {κ α : Type} [BEq κ] [LawfulBEq κ] [DecidableEq κ] (keys : List κ)
    (a : α) (key : κ) :
    Registry.get? key (keys.map fun k => (k, a)) = if key ∈ keys then some a else none := by
  induction keys with
  | nil => rfl
  | cons k keys ih =>
    rw [List.map_cons, Registry.get?, ih]
    by_cases same : k = key
    · simp [same]
    · have other : key ≠ k := fun h => same h.symm
      simp [same, other]

/-- What is found was registered. -/
theorem Registry.mem_of_get? {κ α : Type} [BEq κ] {key : κ} {r : Registry κ α} {a : α}
    (found : Registry.get? key r = some a) : a ∈ r.map Prod.snd := by
  induction r with
  | nil => cases found
  | cons entry r ih =>
    rw [List.map_cons, List.mem_cons]
    rw [Registry.get?] at found
    split at found
    · exact .inl (Option.some.inj found).symm
    · exact .inr (ih found)

namespace Account

/-- The kinds of operations. -/
def operationKinds : List Kind :=
  [Operation.createKind, Operation.closeKind, Operation.getBalanceKind, Operation.withdrawKind,
    Operation.depositKind]

theorem table_empty (policy : ClosedPolicy) :
    (dispatcher policy).table State.emptyKind =
      { onCommand := [(Operation.createKind, create)], onAny := some drop } := rfl

theorem table_opened (policy : ClosedPolicy) :
    (dispatcher policy).table State.openedKind =
      { onCommand := operationKinds.map fun kind => (kind, onOpened) } := rfl

/-- The handler that a command of any kind finds in a state. -/
theorem dispatch_command (policy : ClosedPolicy) (state : State) (command : Command) :
    (dispatcher policy).dispatch state command =
      match state, policy with
      | .empty, _ =>
        if kind command = Operation.createKind then create state command else drop state command
      | .opened _, _ =>
        if kind command ∈ operationKinds then onOpened state command
        else .ok (.effect .unhandled)
      | .closed, .unhandled => drop state command
      | .closed, .reject => rejectClosed state command := by
  rw [Dispatcher.dispatch, Dispatcher.lookup]
  cases state with
  | empty =>
    have table : (dispatcher policy).table (kind State.empty) = _ := table_empty policy
    rw [table, HandlerTable.lookup]
    by_cases first : kind command = Operation.createKind
    · simp [Registry.get?, first]
    · have other : Operation.createKind ≠ kind command := fun h => first h.symm
      simp [Registry.get?, first, other]
  | opened balance =>
    have table : (dispatcher policy).table (kind (State.opened balance)) = _ := table_opened policy
    rw [table, HandlerTable.lookup, Registry.get?_map_const]
    by_cases known : kind command ∈ operationKinds <;> simp [known]
  | closed => cases policy <;> rfl

/-- The faults of computations with amounts: those of arithmetic, and of values that cannot be
built. -/
def OfNumbers : Fault → Prop
  | .arithmetic _ | .invalid _ => True
  | _ => False

/-- A computation that has no faults but those of numbers. -/
def Computes {α : Type} (result : Except Fault α) : Prop :=
  ∀ fault, result = .error fault → OfNumbers fault

theorem computes_liftSignal {α : Type} (result : Except Decimal.Signal α) :
    Computes (liftSignal result) := by
  intro fault h
  cases result with
  | error signal => cases h; trivial
  | ok a => cases h

theorem Computes.bind {α β : Type} {result : Except Fault α} (computes : Computes result)
    {next : α → Except Fault β} (rest : ∀ a, Computes (next a)) :
    Computes (result >>= next) := by
  cases result with
  | error fault => intro _ h; cases h; exact computes fault rfl
  | ok a => exact rest a

theorem computes_balance (value : Decimal) : Computes (Balance.make value) := by
  unfold Balance.make
  split
  · nofun
  · rintro _ ⟨⟩; trivial
  · rintro _ ⟨⟩; trivial

/-- The ways to decide on a command. -/
inductive Plain : Decided → Prop
  | failed {fault : Fault} (ofNumbers : OfNumbers fault) : Plain (.error (.fault fault))
  | rejected (reason : String) : Plain (rejecting reason)
  | balance (value : Decimal) : Plain (replying (.currentBalance value))
  | unhandled : Plain (.ok (.effect .unhandled))
  | dropped : Plain (.ok (.effect .unhandledNoReply))
  | confirmed {event : Event} (finite : event.Same event) : Plain (confirming event)

theorem plain_deciding {α : Type} {result : Except Fault α} (computes : Computes result)
    {next : α → Decided} (rest : ∀ a, Plain (next a)) :
    Plain (deciding result next) := by
  cases result with
  | error fault => exact .failed (computes fault rfl)
  | ok a => exact rest a

theorem plain_depositInto (balance : Balance) (amount : Decimal) :
    Plain (depositInto balance amount) := by
  rcases isValidAmount_cases amount with invalid | ⟨-, a, rfl, moves⟩
  · rw [depositInto, invalid]
    exact .rejected _
  · rw [depositInto_amount balance moves]
    exact .confirmed (.deposited moves moves rfl)

theorem plain_withdrawFrom (balance : Balance) (amount : Decimal) :
    Plain (withdrawFrom balance amount) := by
  rcases isValidAmount_cases amount with invalid | ⟨valid, a, rfl, moves⟩
  · rw [withdrawFrom, invalid]
    exact .rejected _
  · rw [withdrawFrom, valid, Event.withdraw_amount]
    refine plain_deciding (computes_liftSignal _) fun covered => ?_
    cases covered with
    | false => exact .rejected _
    | true => exact .confirmed (.withdrawn moves moves rfl)

theorem plain_closeEmptied (balance : Balance) : Plain (closeEmptied balance) := by
  refine plain_deciding (computes_liftSignal _) fun zero => ?_
  cases zero with
  | false => exact .rejected _
  | true => exact .confirmed .closed

theorem plain_onOpened (state : State) (command : Command) : Plain (onOpened state command) := by
  unfold onOpened
  split
  · exact plain_depositInto _ _
  · exact plain_withdrawFrom _ _
  · exact .balance _
  · exact plain_closeEmptied _
  · exact .rejected _
  · exact .unhandled

theorem plain_rejectClosed (state : State) (command : Command) :
    Plain (rejectClosed state command) := by
  unfold rejectClosed
  split
  · exact .balance _
  all_goals exact .rejected _

/-- The ways in which the handler of a command decides, whatever its kind. -/
theorem plain_dispatch (policy : ClosedPolicy) (state : State) (command : Command) :
    Plain ((dispatcher policy).dispatch state command) := by
  rw [dispatch_command]
  cases state with
  | empty =>
    dsimp only
    split
    · exact .confirmed .created
    · exact .dropped
  | opened balance =>
    dsimp only
    split
    · exact plain_onOpened _ _
    · exact .unhandled
  | closed =>
    cases policy with
    | unhandled => exact .dropped
    | reject => exact plain_rejectClosed _ _

/-! ## Event handlers -/

theorem fault_of_leadingTo {result : Except Fault Balance} (computes : Computes result)
    {fault : Fault} (h : leadingTo result = .error (.fault fault)) : OfNumbers fault := by
  cases result with
  | error fault => cases h; exact computes fault rfl
  | ok b => cases h

theorem fault_of_onOpenedEvent {state : State} {event : Event} {fault : Fault}
    (h : onOpenedEvent state event = .error (.fault fault)) : OfNumbers fault := by
  unfold onOpenedEvent at h
  split at h
  · exact fault_of_leadingTo ((computes_liftSignal _).bind computes_balance) h
  · split at h
    next covers => cases h; exact computes_liftSignal _ _ covers
    next => cases h
    next => exact fault_of_leadingTo ((computes_liftSignal _).bind computes_balance) h
  · split at h
    next zero => cases h; exact computes_liftSignal _ _ zero
    next => cases h
    next => cases h
  · cases h

theorem fault_of_apply {state : State} {event : Event} {fault : Fault}
    (h : applier.apply state event = .error (.fault fault)) : OfNumbers fault := by
  unfold Applier.apply at h
  split at h
  next handler found =>
    have known : handler ∈ [onOpenedEvent, onOpenedEvent, onOpenedEvent, onCreated] :=
      Registry.mem_of_get? found
    simp only [List.mem_cons, List.not_mem_nil, or_false] at known
    rcases known with rfl | rfl | rfl | rfl
    · exact fault_of_onOpenedEvent h
    · exact fault_of_onOpenedEvent h
    · exact fault_of_onOpenedEvent h
    · cases h
  next => cases h

theorem fault_of_fold {state : State} {events : List Event} {fault : Fault}
    (h : applier.fold state events = .error (.fault fault)) : OfNumbers fault := by
  induction events generalizing state with
  | nil => cases h
  | cons event events ih =>
    rw [Applier.fold_cons] at h
    cases first : applier.apply state event with
    | error failure => rw [first] at h; cases h; exact fault_of_apply first
    | ok next => rw [first] at h; exact ih h

end Account

end EventLedger
