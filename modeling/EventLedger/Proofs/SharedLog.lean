import EventLedger.Proofs.Strands
import EventLedger.Proofs.Submission

/-!
# Submissions on logs with the same strand

What an entity has on a log is its strand, whatever the log has for others. So a submission ends the
same on two logs on which its entity has the same strand, with the same result, the same handle but for
sequence numbers, and the same strand afterwards (`Engine.submit_twins`). A submission to the handle of
another entity leaves the strand alone (`Engine.submit_other`).
-/

namespace EventLedger

/-- A log, and all that lies outside of it. -/
structure LogWorld (X E : Type) where
  log : EventLog E
  outside : X

section

variable {X S C E R : Type} [HasFields E]

namespace LogWorld

/-- The answer to an append, and the log after it. An append is refused if there is a cause for
that. -/
def answer (refusal : Option StoreFault) (entity : String) (events : List E) (log : EventLog E) :
    Except Fault (Receipt E) × EventLog E :=
  match refusal with
  | some cause => (.error (.store cause), log)
  | none => log.append entity events

/-- The world as an engine knows it. -/
def host (note : String → Notice → X → X) (refusal : Option StoreFault) :
    Host (LogWorld X E) S C E :=
  .ofLog (fun entity start w => w.log.read entity start)
    (fun entity events w =>
      let (reply, log) := answer refusal entity events w.log
      (reply, { w with log := log }))
    (fun entity notice w => { w with outside := note entity notice w.outside })

theorem append_host (note : String → Notice → X → X) (refusal : Option StoreFault)
    (handle : Handle S C E) (events : List E) (w : LogWorld X E) :
    (host note refusal).append handle events w =
      ((answer refusal handle.persistenceId events w.log).1, handle,
        { w with log := (answer refusal handle.persistenceId events w.log).2 }) := rfl

end LogWorld

/-- The request in a world whose log its channel does not know. -/
def Request.besideLog [CommandType C R] (E : Type) (request : Request X C R) :
    Request (LogWorld X E) C R where
  command := request.command
  channel := request.channel.map fun channel reply w =>
    let (lost, x) := channel reply w.outside
    (lost, { w with outside := x })
  answerable enforced := by simpa using request.answerable enforced

theorem LogWorld.log_handOver [HasKind R] [CommandType C R] (note : String → Notice → X → X)
    (refusal : Option StoreFault) (handle : Handle S C E) (request : Request X C R) (reply : R)
    (w : LogWorld X E) :
    (Engine.handOver (host note refusal) handle (request.besideLog E) reply w).log = w.log := by
  have delivered : ((request.besideLog E).deliver reply w).2.log = w.log := by
    obtain ⟨command, _ | channel, answerable⟩ := request <;> rfl
  rw [Engine.handOver]
  rcases given : (request.besideLog E).deliver reply w with ⟨_ | reason, after⟩ <;>
    rw [given] at delivered <;> exact delivered

end

namespace Handle

variable {S C E : Type}

/-- The handle with another number for its last event. -/
def numbered (handle : Handle S C E) (seq : Seq) : Handle S C E :=
  { handle with lastSeq := seq }

/-- The handle without the number of its last event. -/
def unnumbered (handle : Handle S C E) : Handle S C E :=
  handle.numbered .beforeFirst

theorem exists_numbered {handle other : Handle S C E} (h : other.unnumbered = handle.unnumbered) :
    ∃ seq, other = handle.numbered seq :=
  ⟨other.lastSeq, congrArg (·.numbered other.lastSeq) h⟩

end Handle

/-- Two logs of a kind with the same strand for an entity. -/
def Same {E : Type} (entity : String) (kind : LogKind E) (log log' : EventLog E) : Prop :=
  ∃ strand, Has entity kind log strand ∧ Has entity kind log' strand

/-! ## Submissions on two logs -/

namespace Engine

variable {X S C E R : Type} [HasFields E] [CommandType C R] (engine : Engine S C E R)
  (note : String → Notice → X → X) (refusal : Option StoreFault) (request : Request X C R)
  {kind : LogKind E} {entity : String} {v w : LogWorld X E}

/-- Submissions that end the same for an entity, but for sequence numbers. -/
structure Twins (kind : LogKind E) (entity : String)
    (r r' : Submission (LogWorld X E) S C E R) : Prop where
  result : r'.result = r.result
  handle : r'.handle.unnumbered = r.handle.unnumbered
  same : Same entity kind r.world.log r'.world.log

theorem leaveUnhandled_twins [HasKind S] (same : Same entity kind v.log w.log) (handle : Handle S C E)
    (seq : Seq) :
    Twins kind entity
      (engine.leaveUnhandled (LogWorld.host note refusal) handle (request.besideLog E) v)
      (engine.leaveUnhandled (LogWorld.host note refusal) (handle.numbered seq)
        (request.besideLog E) w) := by
  unfold leaveUnhandled
  cases CommandType.enforced (request.besideLog E).command <;> cases engine.unhandledPolicy <;>
    exact ⟨rfl, rfl, same⟩

variable [HasKind R]

theorem answer_twins (same : Same entity kind v.log w.log) (handle : Handle S C E) (seq : Seq)
    (events : List E) (reply : R) :
    Twins kind entity
      (answer (LogWorld.host note refusal) handle (request.besideLog E) events reply v)
      (answer (LogWorld.host note refusal) (handle.numbered seq) (request.besideLog E) events reply
        w) := by
  cases accepted : CommandType.accepts (request.besideLog E).command reply with
  | false =>
    rw [answer_of_not_accepts _ _ _ _ accepted, answer_of_not_accepts _ _ _ _ accepted]
    exact ⟨rfl, rfl, same⟩
  | true =>
    rw [answer_of_accepts _ _ _ _ accepted, answer_of_accepts _ _ _ _ accepted]
    refine ⟨rfl, rfl, ?_⟩
    rw [LogWorld.log_handOver, LogWorld.log_handOver]
    exact same

variable [HasKind S]

theorem persistAndReply_twins (same : Same entity kind v.log w.log) (handle : Handle S C E)
    (seq : Seq) {events : List E} (nonempty : events ≠ [])
    (replyWith : ReplyFunction S E R) :
    Twins kind entity
      (engine.persistAndReply (LogWorld.host note refusal) handle (request.besideLog E) events
        replyWith v)
      (engine.persistAndReply (LogWorld.host note refusal) (handle.numbered seq)
        (request.besideLog E) events replyWith w) := by
  unfold persistAndReply
  dsimp only [Handle.numbered]
  cases engine.behavior.applier.fold handle.state events with
  | error failure => cases failure <;> exact ⟨rfl, rfl, same⟩
  | ok state =>
    simp only [LogWorld.append_host]
    cases refusal with
    | some cause => exact ⟨rfl, rfl, same⟩
    | none =>
      -- Both logs are given the same events, so both fail alike or add the same to the strand.
      obtain ⟨strand, left, right⟩ := same
      have first := left.append handle.persistenceId nonempty
      have second := right.append handle.persistenceId nonempty
      simp only [LogWorld.answer]
      generalize v.log.append handle.persistenceId events = a at first
      generalize w.log.append handle.persistenceId events = b at second
      cases first with
      | failed fails =>
        cases second with
        | failed fails' =>
          cases fails.symm.trans fails'
          exact ⟨rfl, rfl, strand, left, right⟩
        | stored results => cases fails.symm.trans results
      | stored results has =>
        cases second with
        | failed fails => cases results.symm.trans fails
        | stored results' has' =>
          cases results.symm.trans results'
          cases replyWith state with
          | error failure => exact ⟨rfl, rfl, _, has, has'⟩
          | ok reply => exact answer_twins note none request ⟨_, has, has'⟩ _ _ events reply

/-- A submission ends the same on logs with the same strand. -/
theorem submit_twins (same : Same entity kind v.log w.log) (handle : Handle S C E) (seq : Seq) :
    Twins kind entity
      (engine.submit (LogWorld.host note refusal) handle (request.besideLog E) v)
      (engine.submit (LogWorld.host note refusal) (handle.numbered seq) (request.besideLog E) w) := by
  -- Nothing that decides on the way of a submission looks at the number.
  have mode : (handle.numbered seq).mode = handle.mode := rfl
  have flying : (handle.numbered seq).inFlight = handle.inFlight := rfl
  have state : (handle.numbered seq).state = handle.state := rfl
  unfold submit
  rw [mode, flying, state]
  by_cases active : handle.mode = .active
  · rw [if_neg (not_not_intro active), if_neg (not_not_intro active)]
    cases handle.inFlight with
    | some earlier => exact ⟨rfl, rfl, same⟩
    | none =>
      cases engine.behavior.dispatcher.dispatch handle.state (request.besideLog E).command with
      | error failure => exact ⟨rfl, rfl, same⟩
      | ok decision =>
        cases decision with
        | other => exact ⟨rfl, rfl, same⟩
        | effect effect =>
          cases effect with
          | persistAndReply events nonempty replyWith =>
            exact engine.persistAndReply_twins note refusal request same handle seq nonempty replyWith
          | replyOnly reply => exact answer_twins note refusal request same handle seq [] reply
          | unhandled => exact engine.leaveUnhandled_twins note refusal request same handle seq
          | unhandledNoReply => exact ⟨rfl, rfl, same⟩
  · rw [if_pos active, if_pos active]
    exact ⟨rfl, rfl, same⟩

/-- A submission leaves the name of its handle alone, and the log is as it was or as an append by this
handle leaves it. -/
theorem submit_log (handle : Handle S C E) (v : LogWorld X E) :
    (engine.submit (LogWorld.host note refusal) handle (request.besideLog E) v).handle.persistenceId =
        handle.persistenceId ∧
      ((engine.submit (LogWorld.host note refusal) handle (request.besideLog E) v).world.log = v.log ∨
        ∃ events, events ≠ [] ∧
          (engine.submit (LogWorld.host note refusal) handle (request.besideLog E) v).world.log =
            (LogWorld.answer refusal handle.persistenceId events v.log).2) := by
  have ending := engine.submit_ending (LogWorld.host note refusal) (request.besideLog E) v handle
  generalize engine.submit _ handle _ v = r at ending ⊢
  cases ending with
  | refused => exact ⟨rfl, .inl rfl⟩
  | silent => exact ⟨rfl, .inl rfl⟩
  | replied => exact ⟨rfl, .inl (LogWorld.log_handOver ..)⟩
  | illegal => exact ⟨rfl, .inl rfl⟩
  | unfolded => exact ⟨rfl, .inl rfl⟩
  | unstored ready emits folded appended =>
    obtain ⟨nonempty, -⟩ := emits
    simp only [LogWorld.append_host, Prod.mk.injEq] at appended
    obtain ⟨-, rfl, rfl⟩ := appended
    exact ⟨rfl, .inr ⟨_, nonempty, rfl⟩⟩
  | @stored events replyWith state _ _ _ _ ready emits folded appended reported =>
    obtain ⟨nonempty, -⟩ := emits
    simp only [LogWorld.append_host, Prod.mk.injEq] at appended
    obtain ⟨-, rfl, rfl⟩ := appended
    generalize replyWith state = answer at reported
    cases reported with
    | failed => exact ⟨rfl, .inr ⟨events, nonempty, rfl⟩⟩
    | wrong => exact ⟨rfl, .inr ⟨events, nonempty, rfl⟩⟩
    | replied => exact ⟨rfl, .inr ⟨events, nonempty, LogWorld.log_handOver ..⟩⟩

/-- A submission to the handle of another entity leaves the strand alone. -/
theorem submit_other {strand : Strand E} (has : Has entity kind v.log strand)
    {handle : Handle S C E} (other : handle.persistenceId ≠ entity) :
    Has entity kind
        (engine.submit (LogWorld.host note refusal) handle (request.besideLog E) v).world.log
        strand := by
  obtain ⟨-, same | ⟨events, nonempty, log⟩⟩ := engine.submit_log note refusal request handle v
  · rw [same]
    exact has
  · rw [log]
    cases refusal with
    | some cause => exact has
    | none =>
      have appended := has.append handle.persistenceId nonempty
      rw [LogWorld.answer]
      generalize v.log.append handle.persistenceId events = a at appended ⊢
      cases appended with
      | failed => exact has
      | stored results has' =>
        rw [if_neg other, List.append_nil] at has'
        exact has'

end Engine

end EventLedger
