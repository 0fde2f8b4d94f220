import Mathlib.Data.List.Forall2
import EventLedger.Proofs.AccountRules
import EventLedger.Proofs.Session

/-!
# The log records the confirmed commands

An operation on an account either is confirmed, and then its one event is all that it adds to the
log, or it is not, and then log and state stay as they are (`submission_effected`). So in every session
that begins with an empty log, the events of an account are those that record its confirmed
operations, one for one and in order (`log_records_confirmed`).
-/

namespace EventLedger.Account

open Session

variable {X : Type}

/-- What happens in a session of accounts. -/
inductive AccountStep (X : Type) where
  | activate (entity : String)
  /-- An operation for the handle with a number, and the cause for which its append is refused, if
  it is. -/
  | submit (index : Nat) (op : Operation) (channel : Channel X Reply) (refusal : Option StoreFault)

/-- A step with accounts as a step of a session. -/
def AccountStep.step : AccountStep X → Step X Command Reply
  | .activate entity => .activate entity
  | .submit index op channel refusal =>
    .submit index (.via channel (.operation op)) refusal

/-- The operation that was confirmed in an exchange, if one was. -/
def confirmed? (exchange : Exchange State Command Event Reply) : Option Operation :=
  match exchange.command, exchange.result with
  | .operation op, .ok (.replied .confirmed _) => some op
  | _, _ => none

/-- The operations on an entity that were confirmed, in order. -/
def confirmed (entity : String) (history : List (Exchange State Command Event Reply)) :
    List Operation :=
  (history.filter fun exchange => exchange.entity == entity).filterMap confirmed?

/-- The events of an entity in a log, in order. -/
def eventsOf (log : MemoryLog Event) (persistenceId : String) : List Event :=
  (log.entries persistenceId).map Record.event

theorem eventsOf_extend_self (log : MemoryLog Event) (persistenceId : String)
    (events : List Event) :
    eventsOf (log.extend persistenceId events) persistenceId =
      eventsOf log persistenceId ++ events := by
  rw [eventsOf, MemoryLog.entries_extend_self, List.map_append, MemoryLog.map_event_recordsFrom,
    eventsOf]

theorem eventsOf_extend_of_ne (log : MemoryLog Event) {persistenceId other : String}
    (h : other ≠ persistenceId) (events : List Event) :
    eventsOf (log.extend other events) persistenceId = eventsOf log persistenceId := by
  rw [eventsOf, MemoryLog.entries_extend_of_ne log h, eventsOf]

theorem Decides.unconfirmed {op : Operation} {reply : Reply}
    (decides : Decides op (.ok (.effect (.replyOnly reply)))) : reply ≠ .confirmed := by
  generalize same : (Except.ok (.effect (.replyOnly reply)) : Decided) = decided at decides
  cases decides with
  | replied unconfirmed => cases same; exact unconfirmed
  | _ => cases same

theorem Decides.recorded {op : Operation} {events : List Event} {nonempty : events ≠ []}
    {replyWith : ReplyFunction State Event Reply}
    (decides : Decides op (.ok (.effect (.persistAndReply events nonempty replyWith)))) :
    ∃ event, Records op event ∧ events = [event] ∧ replyWith = confirm := by
  generalize same :
    (Except.ok (.effect (.persistAndReply events nonempty replyWith)) : Decided) = decided at decides
  cases decides with
  | confirmed records => cases same; exact ⟨_, records, rfl, rfl⟩
  | _ => cases same

/-- The engine of accounts with its two policies. -/
def engine (closed : ClosedPolicy) (unhandled : UnhandledPolicy) :
    Engine State Command Event Reply where
  behavior := behavior closed
  unhandledPolicy := unhandled

variable (closed : ClosedPolicy) (unhandled : UnhandledPolicy) (note : String → Notice → X → X)

/-- What an operation emits is one event that records it, and it is confirmed. -/
theorem emits_recorded {handle : Handle State Command Event} {op : Operation} {events : List Event}
    {replyWith : ReplyFunction State Event Reply}
    (emits : (engine closed unhandled).Emits handle (.operation op) events replyWith) :
    ∃ event, Records op event ∧ events = [event] ∧ replyWith = confirm ∧
      (dispatcher closed).dispatch handle.state (.operation op) = confirming event := by
  obtain ⟨nonempty, decided⟩ := emits
  change (dispatcher closed).dispatch handle.state (.operation op) = _ at decided
  have decides := dispatch_decides closed handle.state op
  rw [decided] at decides
  obtain ⟨event, records, rfl, rfl⟩ := decides.recorded
  exact ⟨event, records, rfl, rfl, decided⟩

/-- What one operation does: it is confirmed and recorded, or nothing changes. -/
inductive Effected (handle : Handle State Command Event) (op : Operation) (log : MemoryLog Event) :
    Submission (MemoryWorld X Event) State Command Event Reply → Prop
  | recorded {event : Event} {r : Submission (MemoryWorld X Event) State Command Event Reply}
    (records : Records op event) (result : r.result = .ok (.replied .confirmed [event]))
    (stored : r.world.log = log.extend handle.persistenceId [event]) : Effected handle op log r
  | unchanged {r : Submission (MemoryWorld X Event) State Command Event Reply}
    (result : ∀ persisted, r.result ≠ .ok (.replied .confirmed persisted))
    (same : r.world.log = log) (state : r.handle.state = handle.state) : Effected handle op log r

theorem submission_effected (handle : Handle State Command Event) (op : Operation)
    (request : Request X Command Reply) (asks : request.command = .operation op)
    (refusal : Option StoreFault) (s : Session X State Command Event Reply) :
    Effected handle op s.world.log
      (s.submission (engine closed unhandled) note handle request refusal) := by
  have ending := (engine closed unhandled).submit_ending (MemoryWorld.host note refusal)
    (request.outside Event) s.world handle
  rw [Session.submission]
  generalize (engine closed unhandled).submit _ handle _ s.world = r at ending ⊢
  have decides : Decides op
      ((engine closed unhandled).decision handle (request.outside Event).command) := by
    show Decides op ((engine closed unhandled).decision handle request.command)
    rw [asks]; exact dispatch_decides closed handle.state op
  cases ending with
  | refused => exact .unchanged (by simp) rfl rfl
  | silent => exact .unchanged (by simp) rfl rfl
  | replied ready decided =>
    rw [decided] at decides
    refine .unchanged ?_ (Request.log_handOver ..) rfl
    rintro persisted ⟨⟩
    exact decides.unconfirmed rfl
  | illegal => exact .unchanged (by simp) rfl rfl
  | unfolded => exact .unchanged (by simp) rfl rfl
  | unstored ready emits folded appended =>
    obtain ⟨nonempty, -⟩ := emits
    rcases MemoryWorld.append_cases note refusal (handle.sending _) nonempty s.world with
      ⟨cause, -, eq⟩ | ⟨-, eq⟩ <;> cases appended.symm.trans eq
    exact .unchanged (by simp) rfl rfl
  | stored ready emits folded appended reported =>
    change (engine closed unhandled).Emits handle request.command _ _ at emits
    rw [asks] at emits
    obtain ⟨event, records, rfl, rfl, -⟩ := emits_recorded closed unhandled emits
    rcases MemoryWorld.append_cases note refusal (handle.sending _) (List.cons_ne_nil _ _)
      s.world with ⟨cause, -, eq⟩ | ⟨-, eq⟩ <;> cases appended.symm.trans eq
    cases reported with
    | wrong wrong =>
      change CommandType.accepts request.command _ = _ at wrong
      rw [asks, records.accepts] at wrong
      cases wrong
    | replied => exact .recorded records rfl (Request.log_handOver ..)

/-! ## Runs -/

/-- The events of every account in the log record its confirmed operations. -/
structure Recorded (s : Session X State Command Event Reply) : Prop where
  sound : s.Sound (engine closed unhandled)
  events : ∀ entity, List.Forall₂ Records (confirmed entity s.history)
    (eventsOf s.world.log ((behavior closed).persistenceId entity))

theorem confirmed_append (entity : String)
    (history more : List (Exchange State Command Event Reply)) :
    confirmed entity (history ++ more) = confirmed entity history ++ confirmed entity more := by
  rw [confirmed, List.filter_append, List.filterMap_append, confirmed, confirmed]

theorem confirmed_of_ne {entity : String} {exchange : Exchange State Command Event Reply}
    (h : exchange.entity ≠ entity) : confirmed entity [exchange] = [] := by
  simp [confirmed, h]

theorem confirmed_of_result_ne (entity : String)
    {exchange : Exchange State Command Event Reply}
    (h : ∀ persisted, exchange.result ≠ .ok (.replied .confirmed persisted)) :
    confirmed entity [exchange] = [] := by
  have none : confirmed? exchange = none := by
    unfold confirmed?
    split
    next => exact absurd ‹_› (h _)
    next => rfl
  by_cases own : exchange.entity = entity <;> simp [confirmed, own, none]

variable {closed unhandled}

/-- What a step adds for an account: nothing, or a confirmed operation and the event that records
it. -/
inductive Adds (closed : ClosedPolicy) (entity : String)
    (s s' : Session X State Command Event Reply) : Prop
  | nothing (operations : confirmed entity s'.history = confirmed entity s.history)
    (events : eventsOf s'.world.log ((behavior closed).persistenceId entity) =
      eventsOf s.world.log ((behavior closed).persistenceId entity)) : Adds closed entity s s'
  | recorded {op : Operation} {event : Event} (records : Records op event)
    (operations : confirmed entity s'.history = confirmed entity s.history ++ [op])
    (events : eventsOf s'.world.log ((behavior closed).persistenceId entity) =
      eventsOf s.world.log ((behavior closed).persistenceId entity) ++ [event]) :
    Adds closed entity s s'

theorem adds_of_step {s : Session X State Command Event Reply}
    (sound : s.Sound (engine closed unhandled)) (next : AccountStep X) (entity : String) :
    Adds closed entity s (s.step (engine closed unhandled) note next.step) := by
  cases next with
  | activate other =>
    obtain ⟨log, history, -⟩ := s.activate_cases (engine closed unhandled) note other
    exact .nothing (congrArg _ history) (congrArg (eventsOf · _) log)
  | submit index op channel refusal =>
    rw [AccountStep.step, Session.step]
    cases found : s.handles[index]? with
    | none => rw [submit_of_no_handle _ note found]; exact .nothing rfl rfl
    | some handle =>
      rw [submit_of_handle _ note found]
      have named : handle.persistenceId = (behavior closed).persistenceId handle.entity :=
        sound.named handle (List.mem_of_getElem? found)
      have effected := submission_effected closed unhandled note handle op
        (.via channel (.operation op)) rfl refusal s
      generalize s.submission _ note handle _ refusal = r at effected ⊢
      cases effected with
      | unchanged result same state =>
        refine .nothing ?_ (congrArg (eventsOf · _) same)
        rw [confirmed_append, confirmed_of_result_ne _ result, List.append_nil]
      | @recorded event _ records result stored =>
        rw [named] at stored
        by_cases own : handle.entity = entity
        · subst own
          refine .recorded records ?_ ?_
          · rw [confirmed_append, result, confirmed, confirmed, List.filter_cons_of_pos (by simp)]
            rfl
          · rw [stored, eventsOf_extend_self]
        · refine .nothing ?_ ?_
          · rw [confirmed_append, confirmed_of_ne own, List.append_nil]
          · rw [stored, eventsOf_extend_of_ne]
            exact fun same => own ((Behavior.persistenceId_inj _).1 same)

theorem Recorded.step {s : Session X State Command Event Reply}
    (recorded : Recorded closed unhandled s) (next : AccountStep X) :
    Recorded closed unhandled (s.step (engine closed unhandled) note next.step) := by
  refine ⟨recorded.sound.step note next.step, fun entity => ?_⟩
  have before := recorded.events entity
  cases adds_of_step note recorded.sound next entity with
  | nothing operations events => rw [operations, events]; exact before
  | recorded records operations events =>
    rw [operations, events]
    exact List.rel_append before (.cons records .nil)

theorem Recorded.run {s : Session X State Command Event Reply}
    (recorded : Recorded closed unhandled s) (steps : List (AccountStep X)) :
    Recorded closed unhandled
      (s.run (engine closed unhandled) note (steps.map AccountStep.step)) := by
  induction steps generalizing s with
  | nil => exact recorded
  | cons next steps ih => exact ih (recorded.step note next)

variable (closed unhandled)

/-- In every session of accounts that begins with an empty log, under any policies, whatever appends
are refused and channels fail: the events of an account are those that record its confirmed
operations, one for one and in order, and an operation that is not confirmed leaves the log and the
state of its handle as they were. -/
theorem log_records_confirmed (outside : X) (steps : List (AccountStep X)) :
    let s := (start {} outside).run (engine closed unhandled) note (steps.map AccountStep.step)
    (∀ entity, List.Forall₂ Records (confirmed entity s.history)
      (eventsOf s.world.log ((behavior closed).persistenceId entity))) ∧
    ∀ handle op channel refusal,
      let r := s.submission (engine closed unhandled) note handle (.via channel (.operation op))
        refusal
      (∃ event, Records op event ∧ r.result = .ok (.replied .confirmed [event]) ∧
        r.world.log = s.world.log.extend handle.persistenceId [event]) ∨
      ((∀ persisted, r.result ≠ .ok (.replied .confirmed persisted)) ∧
        r.world.log = s.world.log ∧ r.handle.state = handle.state) := by
  intro s
  have empty : Recorded closed unhandled (start {} outside : Session X _ _ _ _) :=
    ⟨⟨MemoryLog.numbered_empty, by simp [start]⟩, fun _ => .nil⟩
  refine ⟨(empty.run note steps).events, fun handle op channel refusal => ?_⟩
  intro r
  have effected : Effected handle op s.world.log r :=
    submission_effected closed unhandled note handle op _ rfl refusal s
  cases effected with
  | recorded records result stored => exact .inl ⟨_, records, result, stored⟩
  | unchanged result same state => exact .inr ⟨result, same, state⟩

end EventLedger.Account
