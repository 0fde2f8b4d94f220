import EventLedger.Proofs.Agreement
import EventLedger.Proofs.LiveState

/-!
# Conservation of money

The balance of an account is what its confirmed deposits brought less what its confirmed withdrawals
took, as long as that number fits into 28 digits whenever the account is opened; if it once does not
fit, the balance is another number (`balance_conserved_iff`). Amounts of any length are confirmed, so
this can happen (`balance_loses_unit`).

Every movement is rounded once (`Movement`). The sum is followed from step to step, along with the
events that record the confirmed operations (`Conserved.step`).
-/

namespace EventLedger.Account

open Session

variable {X : Type}

/-- What an operation adds to the balance once it is confirmed. -/
def Operation.moved : Operation → ℚ
  | .deposit amount => amount.value
  | .withdraw amount => -amount.value
  | .create | .getBalance | .close => 0

/-- The exact sum of what operations move. -/
def total (operations : List Operation) : ℚ :=
  (operations.map Operation.moved).sum

theorem total_append (operations more : List Operation) :
    total (operations ++ more) = total operations + total more := by
  rw [total, List.map_append, List.sum_append, total, total]

/-- The account is opened with a balance, as its events in the log say. -/
def Opened (closed : ClosedPolicy) (log : MemoryLog Event) (entity : String) (b : Balance) : Prop :=
  ∃ recovered, Replay.replay (behavior closed)
      (log.read ((behavior closed).persistenceId entity) 0) none = .ok recovered ∧
    recovered.state = .opened b

theorem opened_iff {closed : ClosedPolicy} {log : MemoryLog Event} (numbered : log.Numbered)
    (entity : String) (b : Balance) :
    Opened closed log entity b ↔
      applier.fold .empty (eventsOf log ((behavior closed).persistenceId entity)) =
        .ok (.opened b) := by
  have replayed : Replay.replay (behavior closed)
      (log.read ((behavior closed).persistenceId entity) 0) none = _ :=
    (Replay.replay_numbered (behavior closed) numbered _).trans (Replay.resume_records ..)
  rw [Opened, replayed]
  show (∃ recovered, Except.map _ (applier.fold .empty (eventsOf log _)) = _ ∧ _) ↔ _
  cases applier.fold .empty (eventsOf log ((behavior closed).persistenceId entity)) with
  | error failure =>
    constructor
    · rintro ⟨_, ⟨⟩, -⟩
    · rintro ⟨⟩
  | ok state =>
    constructor
    · rintro ⟨_, ⟨⟩, opened⟩
      exact congrArg Except.ok opened
    · rintro ⟨⟩
      exact ⟨_, rfl, rfl⟩

theorem value_of_make {q : ℚ} {r : Except Decimal.Signal Decimal} (rounds : Decimal.Rounds q r)
    {b : Balance} (h : leadingTo (liftSignal r >>= Balance.make) = .ok (.opened b)) :
    b.value.value = Decimal.rounded q := by
  cases rounds with
  | overflow => cases h
  | @number n c e value =>
    change leadingTo (Balance.make (.finite n c e)) = _ at h
    rcases Balance.make_cases (rfl : (Decimal.finite n c e).isFinite = true) with
      ⟨-, made⟩ | ⟨-, b', made, same⟩
    · rw [made] at h; cases h
    · rw [made] at h
      cases h
      rw [same]
      exact value

/-- What leads to an opened account: its creation, or a movement, which is rounded. -/
inductive Movement (b : Balance) : State → Operation → Prop
  | created (zero : b = .zero) : Movement b .empty .create
  | moved {before : Balance} {op : Operation}
    (rounded : b.value.value = Decimal.rounded (before.value.value + op.moved)) :
    Movement b (.opened before) op

theorem movement_of_apply {state : State} (fits : state.Fits) {op : Operation} {event : Event}
    (records : Records op event) (finite : event.Same event) {b : Balance}
    (h : applier.apply state event = .ok (.opened b)) : Movement b state op := by
  cases fits with
  | empty =>
    cases records with
    | created => cases h; exact .created rfl
    | deposited | withdrawn | closed => cases h
  | closed => cases records <;> cases h
  | @opened before holds _ =>
    cases records with
    | created => cases h
    | deposited amount =>
      cases finite with
      | deposited moves => exact .moved (value_of_make (Decimal.add_rounds holds moves) h)
    | withdrawn amount =>
      cases finite with
      | withdrawn moves =>
        change onOpenedEvent (.opened before) (.withdrawn amount) = _ at h
        rw [onOpenedEvent] at h
        refine .moved ?_
        rw [Operation.moved, ← sub_eq_add_neg]
        cases covered : before.canWithdraw amount.value with
        | error fault => rw [covered] at h; cases h
        | ok covers =>
          rw [covered] at h
          cases covers with
          | false => cases h
          | true => exact value_of_make (Decimal.sub_rounds holds moves) h
    | closed =>
      change onOpenedEvent (.opened before) .closed = _ at h
      rw [onOpenedEvent] at h
      cases zero : before.isZero with
      | error fault => rw [zero] at h; cases h
      | ok empty => rw [zero] at h; cases empty <;> cases h

theorem leadingTo_ne_empty (result : Except Fault Balance) : leadingTo result ≠ .ok .empty := by
  cases result <;> nofun

/-- No event empties an account. -/
theorem apply_ne_empty (state : State) {event : Event} (finite : event.Same event) :
    applier.apply state event ≠ .ok .empty := by
  intro emptied
  cases state with
  | empty => cases finite <;> cases emptied
  | closed => cases finite <;> cases emptied
  | opened b =>
    cases finite with
    | created => cases emptied
    | deposited => exact leadingTo_ne_empty _ emptied
    | @withdrawn a =>
      change onOpenedEvent (.opened b) (.withdrawn a) = _ at emptied
      rw [onOpenedEvent] at emptied
      generalize b.canWithdraw a.value = allowed at emptied
      rcases allowed with fault | ⟨_ | _⟩
      · cases emptied
      · cases emptied
      · exact leadingTo_ne_empty _ emptied
    | closed =>
      change onOpenedEvent (.opened b) .closed = _ at emptied
      rw [onOpenedEvent] at emptied
      generalize b.isZero = zero at emptied
      rcases zero with fault | ⟨_ | _⟩ <;> cases emptied

theorem exists_of_fold_concat {state after : State} {events : List Event} {event : Event}
    (h : applier.fold state (events ++ [event]) = .ok after) :
    ∃ before, applier.fold state events = .ok before ∧ applier.apply before event = .ok after := by
  rw [Applier.fold_append] at h
  obtain ⟨before, earlier, last⟩ := exists_of_bind_ok h
  exact ⟨before, earlier, fold_singleton before event ▸ last⟩

/-- What is followed from step to step. Every balance is the sum of what was moved, and as long as no
event is stored, nothing was moved. -/
structure Conserved (closed : ClosedPolicy) (entity : String)
    (s : Session X State Command Event Reply) : Prop where
  new : applier.fold .empty (eventsOf s.world.log ((behavior closed).persistenceId entity)) =
      .ok .empty → total (confirmed entity s.history) = 0
  balance : ∀ b, Opened closed s.world.log entity b →
    b.value.value = total (confirmed entity s.history)

variable {closed : ClosedPolicy} {unhandled : UnhandledPolicy} (note : String → Notice → X → X)

theorem Steady.finite_eventsOf {s : Session X State Command Event Reply}
    (steady : Steady closed unhandled s) (entity : String) :
    ∀ e ∈ eventsOf s.world.log entity, e.Same e :=
  List.forall_mem_map.2 fun record mem => steady.finite record (List.mem_of_mem_filter mem)

/-- A stored event keeps the balance right, if the sum behind it fits. -/
theorem Conserved.record {entity : String} {s s' : Session X State Command Event Reply}
    (conserved : Conserved closed entity s) (steady : Steady closed unhandled s)
    (steady' : Steady closed unhandled s') {op : Operation} {event : Event}
    (records : Records op event)
    (operations : confirmed entity s'.history = confirmed entity s.history ++ [op])
    (events : eventsOf s'.world.log ((behavior closed).persistenceId entity) =
      eventsOf s.world.log ((behavior closed).persistenceId entity) ++ [event])
    (fits : ∀ b, Opened closed s'.world.log entity b →
      Decimal.Fits (total (confirmed entity s'.history))) : Conserved closed entity s' := by
  have all := steady'.finite_eventsOf ((behavior closed).persistenceId entity)
  rw [events, List.forall_mem_append, List.forall_mem_singleton] at all
  obtain ⟨old, finite⟩ := all
  refine ⟨fun empty => ?_, fun b opened => ?_⟩
  · rw [events] at empty
    obtain ⟨before, -, last⟩ := exists_of_fold_concat empty
    exact absurd last (apply_ne_empty before finite)
  · have folded := (opened_iff steady'.sound.numbered entity b).1 opened
    rw [events] at folded
    obtain ⟨before, earlier, last⟩ := exists_of_fold_concat folded
    have movement := movement_of_apply (fits_of_fold .empty old earlier) records finite last
    have fit := fits b opened
    have moved : total [op] = op.moved := List.sum_singleton
    rw [operations, total_append, moved] at fit ⊢
    cases movement with
    | created zero =>
      rw [conserved.new earlier, zero, Operation.moved, add_zero]
      exact Decimal.value_zero
    | moved rounded =>
      have held := conserved.balance _ ((opened_iff steady.sound.numbered entity _).2 earlier)
      rw [rounded, held]
      exact fit.rounded_eq

/-- A step keeps the balance right, if the sum behind it fits. -/
theorem Conserved.step {s : Session X State Command Event Reply}
    (steady : Steady closed unhandled s) {entity : String} (conserved : Conserved closed entity s)
    (next : AccountStep X)
    (fits : ∀ b, Opened closed
        (s.step (engine closed unhandled) note next.step).world.log entity b →
      Decimal.Fits (total (confirmed entity
        (s.step (engine closed unhandled) note next.step).history))) :
    Conserved closed entity (s.step (engine closed unhandled) note next.step) := by
  have steady' := steady.step note next
  cases adds_of_step note steady.sound next entity with
  | nothing operations events =>
    refine ⟨by rw [operations, events]; exact conserved.new, fun b opened => ?_⟩
    rw [opened_iff steady'.sound.numbered, events, ← opened_iff steady.sound.numbered] at opened
    rw [operations]
    exact conserved.balance b opened
  | recorded records operations events =>
    exact conserved.record steady steady' records operations events fits

/-- One more step of a session is taken, unless there is none. -/
theorem run_take_succ (s : Session X State Command Event Reply) (steps : List (AccountStep X))
    (n : Nat) :
    let taken (n : Nat) := s.run (engine closed unhandled) note
      ((steps.take n).map AccountStep.step)
    taken (n + 1) = taken n ∨ ∃ next ∈ steps,
      taken (n + 1) = (taken n).step (engine closed unhandled) note next.step := by
  intro taken
  rcases Nat.lt_or_ge n steps.length with more | all
  · refine .inr ⟨steps[n], List.getElem_mem more, ?_⟩
    have split : steps.take (n + 1) = steps.take n ++ [steps[n]] :=
      (List.take_concat_get' steps n more).symm
    show s.run _ _ ((steps.take (n + 1)).map _) = _
    rw [split, List.map_append]
    exact s.run_concat ..
  · refine .inl ?_
    show s.run _ _ ((steps.take (n + 1)).map _) = s.run _ _ ((steps.take n).map _)
    rw [List.take_of_length_le all, List.take_of_length_le (Nat.le_succ_of_le all)]

/-- A handle that was not overtaken shows what the log says. -/
theorem opened_of_handle {s : Session X State Command Event Reply}
    (steady : Steady closed unhandled s) (fresh : s.handles = []) {steps : List (AccountStep X)}
    {i : Nat}
    (current : ¬ s.Overtaken (engine closed unhandled) note (steps.map AccountStep.step) i)
    {handle : Handle State Command Event}
    (found : (s.run (engine closed unhandled) note (steps.map AccountStep.step)).handles[i]? =
      some handle) {b : Balance} (shows : handle.state = .opened b) :
    Opened closed
      (s.run (engine closed unhandled) note (steps.map AccountStep.step)).world.log handle.entity
      b := by
  have follows := follows_run note steady.sound fresh _ current found
  rw [Handle.Follows, shows] at follows
  exact ⟨_, follows, rfl⟩

/-- A session before its first step, over an empty log. -/
theorem steady_start (closed : ClosedPolicy) (unhandled : UnhandledPolicy) (outside : X) :
    Steady closed unhandled (start {} outside) :=
  ⟨⟨MemoryLog.numbered_empty, by simp [start]⟩, by simp [start], nofun⟩

variable (closed unhandled)

/-- In every session of accounts that begins with an empty log, after any number of its steps: an
opened account that a handle shows is opened so in the log, unless another handle of the account has
stored events. And its balance is the exact sum of the confirmed deposits less the confirmed
withdrawals, throughout the session, exactly if that sum fits into 28 digits throughout it. -/
theorem balance_conserved_iff (outside : X) (steps : List (AccountStep X)) (entity : String) :
    let begin : Session X State Command Event Reply := start {} outside
    let taken (n : Nat) := (steps.take n).map AccountStep.step
    let s (n : Nat) := begin.run (engine closed unhandled) note (taken n)
    let sum (n : Nat) := total (confirmed entity (s n).history)
    (∀ n i handle b, (s n).handles[i]? = some handle → handle.entity = entity →
      handle.state = .opened b → ¬ begin.Overtaken (engine closed unhandled) note (taken n) i →
      Opened closed (s n).world.log entity b) ∧
    ((∀ n b, Opened closed (s n).world.log entity b → b.value.value = sum n) ↔
      ∀ n b, Opened closed (s n).world.log entity b → Decimal.Fits (sum n)) := by
  intro begin taken s sum
  have begins : Steady closed unhandled begin := steady_start closed unhandled outside
  have steady : ∀ n, Steady closed unhandled (s n) := fun n => begins.run note (steps.take n)
  refine ⟨fun n i handle b found own state current => ?_, fun exact n b opened => ?_, fun fits => ?_⟩
  · exact own ▸ opened_of_handle note begins rfl current found state
  · have folded := (opened_iff (steady n).sound.numbered entity b).1 opened
    have held := fits_of_fold .empty ((steady n).finite_eventsOf _) folded
    rw [← exact n b opened]
    cases held with
    | opened _ fits => exact fits
  · have conserved : ∀ n, Conserved closed entity (s n) := by
      intro n
      induction n with
      | zero => exact ⟨fun _ => rfl, fun b ⟨_, h, opened⟩ => by cases h; cases opened⟩
      | succ n ih =>
        have more : s (n + 1) = s n ∨ ∃ next ∈ steps,
            s (n + 1) = (s n).step (engine closed unhandled) note next.step :=
          run_take_succ note begin steps n
        rcases more with same | ⟨next, _, stepped⟩
        · rw [same]; exact ih
        · have fit : ∀ b, Opened closed (s (n + 1)).world.log entity b →
              Decimal.Fits (total (confirmed entity (s (n + 1)).history)) := fits (n + 1)
          rw [stepped] at fit ⊢
          exact ih.step note (steady n) next fit
    exact fun n => (conserved n).balance

/-! ## A lost unit -/

/-- The number 10 ^ 28, in one digit. -/
def tenTo28 : Amount := ⟨.finite false 1 28, by decide +kernel⟩

/-- One, which is below the last of the 28 digits of the number above. -/
def unit : Amount := ⟨.ofNat 1, by decide +kernel⟩

/-- An account is created, and two deposits are made. -/
def losingSteps : List (AccountStep Unit) :=
  let channel : Channel Unit Reply := fun _ x => (none, x)
  [.activate "acc", .submit 0 .create channel none, .submit 0 (.deposit tenTo28.value) channel none,
    .submit 0 (.deposit unit.value) channel none]

/-- After confirmed deposits of 10 ^ 28 and of one, the account is opened with 10 ^ 28. -/
theorem balance_loses_unit :
    let s : Session Unit State Command Event Reply :=
      (start {} ()).run (engine .unhandled .log) (fun _ _ x => x)
        (losingSteps.map AccountStep.step)
    confirmed "acc" s.history = [.create, .deposit tenTo28.value, .deposit unit.value] ∧
      ∃ b, Opened .unhandled s.world.log "acc" b ∧ b.value.value = 10 ^ 28 ∧
        total (confirmed "acc" s.history) = 10 ^ 28 + 1 := by
  intro s
  have operations : confirmed "acc" s.history =
      [.create, .deposit tenTo28.value, .deposit unit.value] := by decide +kernel
  have shown : s.handles.map (fun handle => (handle.entity, handle.state)) =
      [("acc", .opened ⟨.finite false (10 ^ 27) 1, by decide +kernel⟩)] := by decide +kernel
  obtain ⟨handle, handles, same⟩ := List.map_eq_singleton_iff.1 shown
  obtain ⟨own, state⟩ := Prod.mk.inj same
  have current : ¬ (start {} () : Session Unit State Command Event Reply).Overtaken
      (engine .unhandled .log) (fun _ _ x => x) (losingSteps.map AccountStep.step) 0 := by
    refine not_overtaken_of_own _ fun j request refusal mem => ?_
    simp only [losingSteps, List.map_cons, List.map_nil, AccountStep.step, List.mem_cons,
      List.not_mem_nil, reduceCtorEq, Step.submit.injEq, false_or, or_false] at mem
    rcases mem with ⟨rfl, -⟩ | ⟨rfl, -⟩ | ⟨rfl, -⟩ <;> rfl
  have found : s.handles[0]? = some handle := by rw [handles]; rfl
  refine ⟨operations, _,
    own ▸ opened_of_handle _ (steady_start .unhandled .log ()) rfl current found state, ?_, ?_⟩
  · norm_num [Decimal.value, Decimal.withSign, Decimal.magnitude]
  · rw [operations]
    norm_num [total, Operation.moved, tenTo28, unit, Decimal.ofNat, Decimal.value,
      Decimal.withSign, Decimal.magnitude]

end EventLedger.Account
