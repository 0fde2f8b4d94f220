import EventLedger.Proofs.Decisions

/-!
# Lawful histories of accounts

A history is `Lawful` if the account is created first, then money moves in and out with a running
balance that is never too large to be written and never below zero behind a withdrawal, and at last,
with nothing left, the account may be closed. The event handlers accept exactly these histories, and
lead them where they lead by the running balance; any other is refused at its first event that
breaks the form, with an overflow if the movement overflows and as an illegal fold otherwise
(`fold_accepts_lawful`).

`apply_applied` says all that an event can do to an opened account.
-/

namespace EventLedger

/-- A fold that fails does so at one of its events, behind those that were folded. -/
theorem Applier.exists_of_fold_error {S E : Type} [HasKind S] [HasKind E] (a : Applier S E)
    {state : S} {events : List E} {failure : Failure S E}
    (h : a.fold state events = .error failure) :
    ∃ before event after s, events = before ++ event :: after ∧ a.fold state before = .ok s ∧
      a.apply s event = .error failure := by
  induction events generalizing state with
  | nil => cases h
  | cons event events ih =>
    cases first : a.apply state event with
    | error failure' =>
      rw [Applier.fold_cons, first] at h
      cases h
      exact ⟨[], event, events, state, rfl, rfl, first⟩
    | ok next =>
      rw [Applier.fold_cons, first] at h
      obtain ⟨before, bad, after, s, rfl, folded, fails⟩ := ih h
      refine ⟨event :: before, bad, after, s, rfl, ?_, fails⟩
      rw [Applier.fold_cons, first]
      exact folded

namespace Account

/-- Movements lead from one running balance to another: a deposit is added and a withdrawal taken
off, rounded to the context, and behind a withdrawal the balance is not below zero. -/
inductive Runs : Decimal → List Event → Decimal → Prop
  | nil (d : Decimal) : Runs d [] d
  | deposited {d next last : Decimal} {a : Amount} {moves : List Event}
    (sum : d.add a.value = .ok next) (rest : Runs next moves last) :
    Runs d (.deposited a :: moves) last
  | withdrawn {d next last : Decimal} {a : Amount} {moves : List Event}
    (left : d.sub a.value = .ok next) (covered : 0 ≤ next.value) (rest : Runs next moves last) :
    Runs d (.withdrawn a :: moves) last

/-- What becomes of an account, by its running balance. -/
inductive Standing where
  | empty
  | opened (balance : Decimal)
  | closed

/-- The histories of accounts, and what they lead to. -/
inductive Lawful : List Event → Standing → Prop
  | empty : Lawful [] .empty
  | opened {moves : List Event} {d : Decimal} (runs : Runs .zero moves d) :
    Lawful (.created :: moves) (.opened d)
  | closed {moves : List Event} {d : Decimal} (runs : Runs .zero moves d) (nothing : d.value = 0) :
    Lawful (.created :: (moves ++ [.closed])) .closed

/-- What a state says of the account. -/
def State.standing : State → Standing
  | .empty => .empty
  | .opened balance => .opened balance.value
  | .closed => .closed

/-- The movement of an event is too large for the balance. -/
def Overflows : State → Event → Prop
  | .opened b, .deposited a => b.value.add a.value = .error .overflow
  | .opened b, .withdrawn a => b.value.sub a.value = .error .overflow
  | _, _ => False

/-! ## One event -/

theorem State.Fits.holds {b : Balance} (fits : (State.opened b).Fits) :
    b.value.isFinite = true := by
  cases fits with
  | opened finite => exact finite

/-- What an event does to an opened account. -/
inductive Applied (b : Balance) : Event → Except (Failure State Event) State → Prop
  | deposited {a : Amount} {next : Balance} (sum : b.value.add a.value = .ok next.value) :
    Applied b (.deposited a) (.ok (.opened next))
  | withdrawn {a : Amount} {next : Balance} (left : b.value.sub a.value = .ok next.value) :
    Applied b (.withdrawn a) (.ok (.opened next))
  | closed (nothing : b.value.value = 0) : Applied b .closed (.ok .closed)
  | overflow {e : Event} (overflows : Overflows (.opened b) e) :
    Applied b e (.error (.fault (.arithmetic .overflow)))
  | overdrawn {a : Amount} {d : Decimal} (left : b.value.sub a.value = .ok d)
    (short : d.value < 0) :
    Applied b (.withdrawn a) (.error (.illegalFold (.opened b) (.withdrawn a)))
  | unsettled (something : b.value.value ≠ 0) :
    Applied b .closed (.error (.illegalFold (.opened b) .closed))
  | again : Applied b .created (.error (.illegalFold (.opened b) .created))

section

variable {b : Balance} (holds : b.value.isFinite = true)
include holds

theorem deposited_applied {a : Amount} (moves : a.value.isFinite = true) :
    Applied b (.deposited a) (applier.apply (.opened b) (.deposited a)) := by
  show Applied b _ (leadingTo (b.deposit a.value))
  have rounds := Decimal.add_rounds holds moves
  have made := deposit_cases holds moves
  rw [Balance.deposit] at made ⊢
  generalize sum : b.value.add a.value = r at rounds made
  cases r with
  | error signal =>
    cases rounds
    exact .overflow sum
  | ok d =>
    change (∃ b', Balance.make d = .ok b') ∨ Balance.make d = .error _ at made
    show Applied b _ (leadingTo (Balance.make d))
    rcases Balance.make_cases rounds.fits.1 with ⟨-, negative⟩ | ⟨-, next, made', rfl⟩
    · rw [negative] at made
      rcases made with ⟨-, ⟨⟩⟩ | ⟨⟨⟩⟩
    · rw [made']
      exact .deposited sum

theorem withdrawn_applied {a : Amount} (moves : a.value.isFinite = true) :
    Applied b (.withdrawn a) (applier.apply (.opened b) (.withdrawn a)) := by
  show Applied b _ (onOpenedEvent (.opened b) (.withdrawn a))
  have rounds := Decimal.sub_rounds holds moves
  rw [onOpenedEvent]
  cases left : b.value.sub a.value with
  | error signal =>
    rw [left] at rounds
    cases rounds
    have covers : b.canWithdraw a.value = .error (.arithmetic .overflow) := by
      rw [Balance.canWithdraw, left]
      rfl
    rw [covers]
    exact .overflow left
  | ok d =>
    rw [left] at rounds
    have finite := rounds.fits.1
    obtain ⟨covers, leads⟩ := withdrawal_of_sub left finite
    rw [covers]
    rcases Balance.make_cases finite with ⟨negative, -⟩ | ⟨nonneg, next, made, rfl⟩
    · rw [decide_eq_false (not_le.2 negative)]
      exact .overdrawn left negative
    · rw [decide_eq_true nonneg]
      show Applied b _ (leadingTo (b.withdraw a.value))
      rw [leads, made]
      exact .withdrawn left

theorem closed_applied : Applied b .closed (applier.apply (.opened b) .closed) := by
  show Applied b _ (onOpenedEvent (.opened b) .closed)
  rw [onOpenedEvent, isZero_of_finite holds]
  by_cases nothing : b.value.value = 0
  · rw [decide_eq_true nothing]
    exact .closed nothing
  · rw [decide_eq_false nothing]
    exact .unsettled nothing

/-- All that an event can do to an opened account. -/
theorem apply_applied {e : Event} (finite : e.Same e) :
    Applied b e (applier.apply (.opened b) e) := by
  cases finite with
  | created => exact .again
  | deposited moves => exact deposited_applied holds moves
  | withdrawn moves => exact withdrawn_applied holds moves
  | closed => exact closed_applied holds

end

/-- An event that is refused overflows, or is illegal. -/
theorem failure_of_apply {state : State} (fits : state.Fits) {e : Event} (finite : e.Same e)
    {failure : Failure State Event} (h : applier.apply state e = .error failure) :
    Overflows state e ∧ failure = .fault (.arithmetic .overflow) ∨
      ¬ Overflows state e ∧ failure = .illegalFold state e := by
  cases fits with
  | empty => cases finite <;> cases h <;> exact .inr ⟨id, rfl⟩
  | closed => cases finite <;> cases h <;> exact .inr ⟨id, rfl⟩
  | opened holds =>
    have applied := apply_applied holds finite
    rw [h] at applied
    cases applied with
    | overflow overflows => exact .inl ⟨overflows, rfl⟩
    | overdrawn left =>
      refine .inr ⟨fun large => ?_, rfl⟩
      cases large.symm.trans left
    | unsettled => exact .inr ⟨id, rfl⟩
    | again => exact .inr ⟨id, rfl⟩

/-! ## Histories -/

/-- Movements that run are folded. -/
theorem Runs.fold {d last : Decimal} {moves : List Event} (runs : Runs d moves last) {b : Balance}
    (same : b.value = d) (fits : (State.opened b).Fits) (finite : ∀ e ∈ moves, e.Same e) :
    ∃ b' : Balance, b'.value = last ∧ applier.fold (.opened b) moves = .ok (.opened b') := by
  induction runs generalizing b with
  | nil d => exact ⟨b, same, rfl⟩
  | @deposited d next last a moves sum _ ih =>
    subst same
    rw [List.forall_mem_cons] at finite
    have applied := apply_applied fits.holds finite.1
    rw [Applier.fold_cons]
    generalize result : applier.apply (.opened b) (.deposited a) = r at applied
    cases applied with
    | deposited sum' =>
      cases sum'.symm.trans sum
      exact ih rfl (fits_of_apply fits finite.1 result) finite.2
    | overflow overflows => cases overflows.symm.trans sum
  | @withdrawn d next last a moves left covered _ ih =>
    subst same
    rw [List.forall_mem_cons] at finite
    have applied := apply_applied fits.holds finite.1
    rw [Applier.fold_cons]
    generalize result : applier.apply (.opened b) (.withdrawn a) = r at applied
    cases applied with
    | withdrawn left' =>
      cases left'.symm.trans left
      exact ih rfl (fits_of_apply fits finite.1 result) finite.2
    | overflow overflows => cases overflows.symm.trans left
    | overdrawn left' short =>
      cases left'.symm.trans left
      exact absurd covered (not_le.2 short)

/-- What is folded behind the creation are movements that run, and a closing with nothing left at
most. -/
theorem runs_of_fold {b : Balance} (fits : (State.opened b).Fits) {events : List Event}
    (finite : ∀ e ∈ events, e.Same e) {state : State}
    (folded : applier.fold (.opened b) events = .ok state) :
    (∃ b', state = .opened b' ∧ Runs b.value events b'.value) ∨
      state = .closed ∧ ∃ moves last, events = moves ++ [.closed] ∧ Runs b.value moves last ∧
        last.value = 0 := by
  induction events generalizing b with
  | nil => cases folded; exact .inl ⟨b, rfl, .nil _⟩
  | cons e events ih =>
    rw [List.forall_mem_cons] at finite
    rw [Applier.fold_cons] at folded
    obtain ⟨next, result, rest⟩ := exists_of_bind_ok folded
    have fits' := fits_of_apply fits finite.1 result
    have applied := apply_applied fits.holds finite.1
    rw [result] at applied
    cases applied with
    | deposited sum =>
      rcases ih fits' finite.2 rest with ⟨b', same, runs⟩ | ⟨same, moves, last, rfl, runs, nothing⟩
      · exact .inl ⟨b', same, .deposited sum runs⟩
      · exact .inr ⟨same, _ :: moves, last, rfl, .deposited sum runs, nothing⟩
    | withdrawn left =>
      have covered := Balance.value_nonneg fits'.holds
      rcases ih fits' finite.2 rest with ⟨b', same, runs⟩ | ⟨same, moves, last, rfl, runs, nothing⟩
      · exact .inl ⟨b', same, .withdrawn left covered runs⟩
      · exact .inr ⟨same, _ :: moves, last, rfl, .withdrawn left covered runs, nothing⟩
    | closed nothing =>
      cases events with
      | nil => cases rest; exact .inr ⟨rfl, [], b.value, rfl, .nil _, nothing⟩
      | cons e events =>
        rw [List.forall_mem_cons] at finite
        cases finite.2.1 <;> cases rest

theorem zero_fits : (State.opened .zero).Fits :=
  .opened rfl (Decimal.value_zero ▸ Decimal.fits_zero)

/-- A lawful history is folded to where it leads. -/
theorem Lawful.fold {events : List Event} {t : Standing} (lawful : Lawful events t)
    (finite : ∀ e ∈ events, e.Same e) :
    ∃ state : State, state.standing = t ∧ applier.fold .empty events = .ok state := by
  cases lawful with
  | empty => exact ⟨.empty, rfl, rfl⟩
  | opened runs =>
    obtain ⟨b, rfl, folded⟩ := runs.fold rfl zero_fits (List.forall_mem_cons.1 finite).2
    exact ⟨.opened b, rfl, folded⟩
  | @closed moves d runs nothing =>
    have finite' := List.forall_mem_append.1 (List.forall_mem_cons.1 finite).2
    obtain ⟨b, rfl, folded⟩ := runs.fold rfl zero_fits finite'.1
    have fits := fits_of_fold zero_fits finite'.1 folded
    have applied := apply_applied fits.holds .closed
    refine ⟨.closed, rfl, ?_⟩
    show applier.fold (.opened .zero) (moves ++ [.closed]) = _
    rw [Applier.fold_append, folded]
    show applier.fold (.opened b) [.closed] = _
    rw [fold_singleton]
    generalize applier.apply (.opened b) .closed = r at applied ⊢
    cases applied with
    | closed => rfl
    | overflow overflows => exact overflows.elim
    | unsettled something => exact absurd nothing something

/-- A history that is folded is lawful. -/
theorem lawful_of_fold {events : List Event} (finite : ∀ e ∈ events, e.Same e) {state : State}
    (folded : applier.fold .empty events = .ok state) : Lawful events state.standing := by
  cases events with
  | nil => cases folded; exact .empty
  | cons e events =>
    rw [List.forall_mem_cons] at finite
    rw [Applier.fold_cons] at folded
    obtain ⟨next, first, rest⟩ := exists_of_bind_ok folded
    cases finite.1 with
    | created =>
      cases first
      rcases runs_of_fold zero_fits finite.2 rest with
        ⟨b, rfl, runs⟩ | ⟨rfl, moves, last, rfl, runs, nothing⟩
      · exact .opened runs
      · exact .closed runs nothing
    | deposited => cases first
    | withdrawn => cases first
    | closed => cases first

/-- The event handlers accept exactly the lawful histories of events with finite amounts, and lead
them where they lead, with a finite balance that is not negative if the account is opened. A history
that is not lawful is refused at its first event that breaks the form: as an overflow if this event
overflows the balance, and else as an illegal fold of this event into the state before it. -/
theorem fold_accepts_lawful (events : List Event) (finite : ∀ e ∈ events, e.Same e) :
    (∀ t, Lawful events t ↔
      ∃ state : State, state.standing = t ∧ applier.fold .empty events = .ok state) ∧
    (∀ d, Lawful events (.opened d) → d.isFinite = true ∧ 0 ≤ d.value) ∧
    ((∀ t, ¬ Lawful events t) → ∃ before event after state,
      events = before ++ event :: after ∧ Lawful before state.standing ∧
      applier.fold .empty before = .ok state ∧ (∀ t, ¬ Lawful (before ++ [event]) t) ∧
      (Overflows state event ∧
          applier.fold .empty events = .error (.fault (.arithmetic .overflow)) ∨
        ¬ Overflows state event ∧
          applier.fold .empty events = .error (.illegalFold state event))) := by
  have accepts : ∀ t, Lawful events t ↔
      ∃ state : State, state.standing = t ∧ applier.fold .empty events = .ok state := fun t =>
    ⟨fun lawful => lawful.fold finite,
      fun ⟨state, same, folded⟩ => same ▸ lawful_of_fold finite folded⟩
  refine ⟨accepts, fun d lawful => ?_, fun unlawful => ?_⟩
  · obtain ⟨state, same, folded⟩ := lawful.fold finite
    have fits := fits_of_fold .empty finite folded
    cases state with
    | opened b =>
      cases same
      exact ⟨fits.holds, Balance.value_nonneg fits.holds⟩
    | empty => cases same
    | closed => cases same
  · cases result : applier.fold .empty events with
    | ok state => exact absurd (lawful_of_fold finite result) (unlawful _)
    | error failure =>
      obtain ⟨before, event, after, state, rfl, folded, fails⟩ :=
        applier.exists_of_fold_error result
      rw [List.forall_mem_append, List.forall_mem_cons] at finite
      obtain ⟨finite, own, -⟩ := finite
      have fits := fits_of_fold .empty finite folded
      refine ⟨before, event, after, state, rfl, lawful_of_fold finite folded, folded, ?_, ?_⟩
      · intro t lawful
        have finite' : ∀ e ∈ before ++ [event], e.Same e :=
          List.forall_mem_append.2 ⟨finite, List.forall_mem_singleton.2 own⟩
        obtain ⟨state', -, folded'⟩ := lawful.fold finite'
        rw [Applier.fold_append, folded] at folded'
        change applier.fold state [event] = _ at folded'
        rw [fold_singleton, fails] at folded'
        cases folded'
      · rcases failure_of_apply fits own fails with ⟨overflows, rfl⟩ | ⟨moves, rfl⟩
        · exact .inl ⟨overflows, rfl⟩
        · exact .inr ⟨moves, rfl⟩

/-- Five units of money. -/
def five : Amount := ⟨.ofNat 5, by decide +kernel⟩

/-- `fold_accepts_lawful` for five units that are taken out again twice. -/
theorem fold_accepts_lawful_overdrawn :
    let front : List Event := [.created, .deposited five, .withdrawn five]
    let events := front ++ [.withdrawn five, .closed]
    (∀ e ∈ events, e.Same e) ∧ (∀ t, ¬ Lawful events t) ∧ Lawful front (.opened .zero) ∧
      ∃ before event after state, events = before ++ event :: after ∧
        Lawful before state.standing ∧ applier.fold .empty before = .ok state ∧
        (∀ t, ¬ Lawful (before ++ [event]) t) ∧
        (Overflows state event ∧
            applier.fold .empty events = .error (.fault (.arithmetic .overflow)) ∨
          ¬ Overflows state event ∧
            applier.fold .empty events = .error (.illegalFold state event)) := by
  intro front events
  have finite : ∀ e ∈ events, e.Same e := by
    have moves : five.value.isFinite = true := rfl
    simp only [events, front, List.cons_append, List.nil_append, List.forall_mem_cons]
    exact ⟨.created, .deposited moves moves rfl, .withdrawn moves moves rfl,
      .withdrawn moves moves rfl, .closed, List.forall_mem_nil _⟩
  obtain ⟨accepts, -, refuses⟩ := fold_accepts_lawful events finite
  have refused : (applier.fold .empty events).toOption = none := by decide +kernel
  have unlawful : ∀ t, ¬ Lawful events t := by
    intro t lawful
    obtain ⟨state, -, folded⟩ := (accepts t).1 lawful
    rw [folded] at refused
    cases refused
  have lawful : Lawful front (.opened .zero) := by
    have sum : Decimal.zero.add five.value = .ok five.value := by decide +kernel
    have left : five.value.sub five.value = .ok .zero := by decide +kernel
    exact .opened (.deposited sum (.withdrawn left Decimal.value_zero.ge (.nil _)))
  exact ⟨finite, unlawful, lawful, refuses unlawful⟩

end Account

end EventLedger
