import EventLedger.Engine.Submit

/-!
# The ends of a submission

`submit` has many ways out, and every law of the engine is a statement about all of them. `Ending`
lists them once, each with the condition under which it is taken: `submit_ending`. A submission is
refused before anything happens (`Refusal`), stays without a reply (`Silence`), is answered from the
state alone, or carries events. In the last case the events may be illegal, the fold may have a
fault, the log may refuse them, or they are stored; then the handle is committed
(`Handle.commit`), whatever becomes of the reply.
-/

namespace EventLedger

/-- The request for a command whose reply goes to a channel. -/
def Request.via {W C R : Type} [CommandType C R] (channel : Channel W R) (command : C) :
    Request W C R where
  command := command
  channel := some channel
  answerable _ := rfl

/-- A handle that takes a command: active, with no append on its way. -/
def Handle.Ready {S C E : Type} (handle : Handle S C E) : Prop :=
  handle.mode = .active ∧ handle.inFlight = none

/-- The handle after its events were stored. -/
def Handle.commit {S C E : Type} (handle : Handle S C E) (state : S) (events : List E)
    (receipt : Receipt E) : Handle S C E :=
  { handle with
    inFlight := none
    state := state
    applied := handle.applied + events.length
    lastSeq := receipt.lastSeq }

/-- The handle while its append is on its way. -/
def Handle.sending {S C E : Type} (handle : Handle S C E) (command : C) : Handle S C E :=
  { handle with inFlight := some command }

/-- The handle with no append on its way. -/
def Handle.settled {S C E : Type} (handle : Handle S C E) : Handle S C E :=
  { handle with inFlight := none }

theorem Handle.settled_sending {S C E : Type} {handle : Handle S C E} (ready : handle.Ready)
    (command : C) : (handle.sending command).settled = handle := by
  obtain ⟨-, idle⟩ := ready
  simp only [Handle.settled, Handle.sending, ← idle]

namespace Engine

variable {W S C E R : Type} [HasKind R] [CommandType C R]

/-- The world after a reply was handed over; a channel that fails is reported. -/
def handOver (host : Host W S C E) (handle : Handle S C E) (request : Request W C R) (reply : R)
    (w : W) : W :=
  match request.deliver reply w with
  | (some reason, w) => host.note handle.persistenceId (.replyLost (kind request.command) reason) w
  | (none, w) => w

/-- The failure for a reply that is not of the type the command declares. -/
def wrongReply (command : C) (reply : R) : Failure S E :=
  .fault (.invalidEffect (.wrongReply (kind command) (CommandType.expected command) (kind reply)))

theorem answer_of_accepts (host : Host W S C E) (handle : Handle S C E) (request : Request W C R)
    (persisted : List E) {reply : R} (h : CommandType.accepts request.command reply = true) (w : W) :
    answer host handle request persisted reply w =
      ⟨.ok (.replied reply persisted), handle, handOver host handle request reply w⟩ := by
  simp only [answer, h, if_true, handOver]
  rcases request.deliver reply w with ⟨_ | reason, w⟩ <;> rfl

theorem answer_of_not_accepts (host : Host W S C E) (handle : Handle S C E)
    (request : Request W C R) (persisted : List E) {reply : R}
    (h : CommandType.accepts request.command reply = false) (w : W) :
    answer host handle request persisted reply w =
      ⟨.error (wrongReply request.command reply), handle, w⟩ := by
  simp only [answer, h, Bool.false_eq_true, if_false, wrongReply]

/-- What becomes of a reply that is computed after the events were stored. -/
inductive Reported (host : Host W S C E) (handle : Handle S C E) (request : Request W C R)
    (events : List E) (w : W) : Except (Failure S E) R → Submission W S C E R → Prop
  | failed (failure : Failure S E) :
    Reported host handle request events w (.error failure) ⟨.error failure, handle, w⟩
  | wrong {reply : R} (wrong : CommandType.accepts request.command reply = false) :
    Reported host handle request events w (.ok reply)
      ⟨.error (wrongReply request.command reply), handle, w⟩
  | replied {reply : R} (accepted : CommandType.accepts request.command reply = true) :
    Reported host handle request events w (.ok reply)
      ⟨.ok (.replied reply events), handle, handOver host handle request reply w⟩

theorem answer_reported (host : Host W S C E) (handle : Handle S C E) (request : Request W C R)
    (events : List E) (reply : R) (w : W) :
    Reported host handle request events w (.ok reply)
      (answer host handle request events reply w) := by
  cases accepted : CommandType.accepts request.command reply with
  | false => rw [answer_of_not_accepts _ _ _ _ accepted]; exact .wrong accepted
  | true => rw [answer_of_accepts _ _ _ _ accepted]; exact .replied accepted

/-! ## Ends -/

variable [HasKind S] [HasKind E]

/-- What the handler of a command decides in the state of a handle. -/
def decision (engine : Engine S C E R) (handle : Handle S C E) (command : C) :
    Except (Failure S E) (Decision S E R) :=
  engine.behavior.dispatcher.dispatch handle.state command

/-- The reasons for which a submission ends before it does anything. -/
inductive Refusal (engine : Engine S C E R) (handle : Handle S C E) (command : C) :
    Failure S E → Prop
  | notAccepting (inactive : handle.mode ≠ .active) :
    Refusal engine handle command
      (.fault (.notAccepting handle.persistenceId handle.mode.name))
  | busy {earlier : C} (active : handle.mode = .active) (flying : handle.inFlight = some earlier) :
    Refusal engine handle command (.fault (.busy handle.persistenceId (kind earlier)))
  | handlerFailed {failure : Failure S E} (ready : handle.Ready)
    (decided : engine.decision handle command = .error failure) :
    Refusal engine handle command failure
  | noEffect {kind : Kind} {literal : String} (ready : handle.Ready)
    (decided : engine.decision handle command = .ok (.other kind literal)) :
    Refusal engine handle command (.fault (.invalidEffect (.unsupported literal)))
  | unhandled (ready : handle.Ready)
    (decided : engine.decision handle command = .ok (.effect .unhandled))
    (enforced : CommandType.enforced command = true) (policy : engine.unhandledPolicy = .raise) :
    Refusal engine handle command (.fault (.unhandledCommand (kind command) (kind handle.state)))
  | wrongReply {reply : R} (ready : handle.Ready)
    (decided : engine.decision handle command = .ok (.effect (.replyOnly reply)))
    (wrong : CommandType.accepts command reply = false) :
    Refusal engine handle command (Engine.wrongReply command reply)

/-- The reasons for which a command stays without a reply, each with its notice. -/
inductive Silence (engine : Engine S C E R) (handle : Handle S C E) (command : C) : Notice → Prop
  | dropped (decided : engine.decision handle command = .ok (.effect .unhandledNoReply)) :
    Silence engine handle command (.dropped (kind command) (kind handle.state))
  | unanswered (decided : engine.decision handle command = .ok (.effect .unhandled))
    (enforced : CommandType.enforced command = true) (policy : engine.unhandledPolicy = .log) :
    Silence engine handle command (.unanswered (kind command) (kind handle.state))
  | unhandled (decided : engine.decision handle command = .ok (.effect .unhandled))
    (free : CommandType.enforced command = false) :
    Silence engine handle command (.unhandled (kind command) (kind handle.state))

/-- The handler of a command decides on events and a reply. -/
def Emits (engine : Engine S C E R) (handle : Handle S C E) (command : C) (events : List E)
    (replyWith : ReplyFunction S E R) : Prop :=
  ∃ nonempty,
    engine.decision handle command = .ok (.effect (.persistAndReply events nonempty replyWith))

/-- The world after events were stored for a handle, which is noted. -/
def storedWorld (host : Host W S C E) (handle : Handle S C E) (events : List E)
    (receipt : Receipt E) (w : W) : W :=
  host.note handle.persistenceId (.persisted (events.map kind) receipt.lastSeq) w

/-- The ends of a submission. -/
inductive Ending (engine : Engine S C E R) (host : Host W S C E) (handle : Handle S C E)
    (request : Request W C R) (w : W) : Submission W S C E R → Prop
  | refused {failure : Failure S E} (why : Refusal engine handle request.command failure) :
    Ending engine host handle request w ⟨.error failure, handle, w⟩
  | silent {notice : Notice} (ready : handle.Ready)
    (why : Silence engine handle request.command notice) :
    Ending engine host handle request w
      ⟨.ok .noReply, handle, host.note handle.persistenceId notice w⟩
  | replied {reply : R} (ready : handle.Ready)
    (decided : engine.decision handle request.command = .ok (.effect (.replyOnly reply)))
    (accepted : CommandType.accepts request.command reply = true) :
    Ending engine host handle request w
      ⟨.ok (.replied reply []), handle, handOver host handle request reply w⟩
  | illegal {events : List E} {replyWith : ReplyFunction S E R} {state : S} {event : E}
    (ready : handle.Ready) (emits : engine.Emits handle request.command events replyWith)
    (folded : engine.behavior.applier.fold handle.state events =
      .error (.illegalFold state event)) :
    Ending engine host handle request w
      ⟨.error (.illegalFold state event), handle.stop (.illegalFold state event),
        host.note handle.persistenceId
          (.stopped (Failure.illegalFold state event : Failure S E).message) w⟩
  | unfolded {events : List E} {replyWith : ReplyFunction S E R} {fault : Fault}
    (ready : handle.Ready) (emits : engine.Emits handle request.command events replyWith)
    (folded : engine.behavior.applier.fold handle.state events = .error (.fault fault)) :
    Ending engine host handle request w ⟨.error (.fault fault), handle, w⟩
  | unstored {events : List E} {replyWith : ReplyFunction S E R} {state : S} {fault : Fault}
    {after : Handle S C E} {w' : W}
    (ready : handle.Ready) (emits : engine.Emits handle request.command events replyWith)
    (folded : engine.behavior.applier.fold handle.state events = .ok state)
    (appended : host.append (handle.sending request.command) events w =
      (.error fault, after, w')) :
    Ending engine host handle request w ⟨.error (.fault fault), after.settled, w'⟩
  | stored {events : List E} {replyWith : ReplyFunction S E R} {state : S} {receipt : Receipt E}
    {after : Handle S C E} {w' : W} {r : Submission W S C E R}
    (ready : handle.Ready) (emits : engine.Emits handle request.command events replyWith)
    (folded : engine.behavior.applier.fold handle.state events = .ok state)
    (appended : host.append (handle.sending request.command) events w = (.ok receipt, after, w'))
    (reported : Reported host (after.commit state events receipt) request events
      (storedWorld host after events receipt w') (replyWith state) r) :
    Ending engine host handle request w r

variable (engine : Engine S C E R) (host : Host W S C E) {handle : Handle S C E}
  (request : Request W C R) (w : W)

theorem persistAndReply_ending (ready : handle.Ready) {events : List E}
    {replyWith : ReplyFunction S E R}
    (emits : engine.Emits handle request.command events replyWith) :
    Ending engine host handle request w
      (engine.persistAndReply host handle request events replyWith w) := by
  unfold persistAndReply
  cases folded : engine.behavior.applier.fold handle.state events with
  | error failure =>
    cases failure with
    | illegalFold state event => exact .illegal ready emits folded
    | fault fault => exact .unfolded ready emits folded
  | ok state =>
    rcases appended : host.append (handle.sending request.command) events w with
      ⟨fault | receipt, after, w'⟩ <;> rw [Handle.sending] at appended <;>
      simp only [appended]
    · exact .unstored ready emits folded appended
    · refine .stored ready emits folded appended ?_
      cases replyWith state with
      | error failure => exact .failed failure
      | ok reply =>
        exact answer_reported host (after.commit state events receipt) request events reply _

theorem leaveUnhandled_ending (ready : handle.Ready)
    (decided : engine.decision handle request.command = .ok (.effect .unhandled)) :
    Ending engine host handle request w (engine.leaveUnhandled host handle request w) := by
  unfold leaveUnhandled
  cases enforced : CommandType.enforced request.command with
  | false => exact .silent ready (.unhandled decided enforced)
  | true =>
    cases policy : engine.unhandledPolicy with
    | log => exact .silent ready (.unanswered decided enforced policy)
    | raise => exact .refused (.unhandled ready decided enforced policy)

/-- A submission ends in one of the ways of `Ending`. -/
theorem submit_ending (handle : Handle S C E) :
    Ending engine host handle request w (engine.submit host handle request w) := by
  unfold submit
  by_cases active : handle.mode = .active
  · rw [if_neg (not_not_intro active)]
    cases flying : handle.inFlight with
    | some earlier => exact .refused (.busy active flying)
    | none =>
      have ready : handle.Ready := ⟨active, flying⟩
      simp only
      cases decided : engine.behavior.dispatcher.dispatch handle.state request.command with
      | error failure => exact .refused (.handlerFailed ready decided)
      | ok decision =>
        cases decision with
        | other kind literal => exact .refused (.noEffect ready decided)
        | effect effect =>
          cases effect with
          | persistAndReply events nonempty replyWith =>
            exact engine.persistAndReply_ending host request w ready ⟨nonempty, decided⟩
          | unhandled => exact engine.leaveUnhandled_ending host request w ready decided
          | unhandledNoReply => exact .silent ready (.dropped decided)
          | replyOnly reply =>
            show Ending engine host handle request w (answer host handle request [] reply w)
            cases accepted : CommandType.accepts request.command reply with
            | false =>
              rw [answer_of_not_accepts _ _ _ _ accepted]
              exact .refused (.wrongReply ready decided accepted)
            | true =>
              rw [answer_of_accepts _ _ _ _ accepted]; exact .replied ready decided accepted
  · rw [if_pos active]
    exact .refused (.notAccepting active)

/-- A command whose events are stored is answered with the reply of the state that they lead to. -/
theorem submit_of_appended {handle : Handle S C E} (ready : handle.Ready) {events : List E}
    {replyWith : ReplyFunction S E R} (emits : engine.Emits handle request.command events replyWith)
    {state : S} (folded : engine.behavior.applier.fold handle.state events = .ok state)
    {receipt : Receipt E} {after : Handle S C E} {w' : W}
    (appended : host.append (handle.sending request.command) events w = (.ok receipt, after, w')) :
    engine.submit host handle request w =
      match replyWith state with
      | .error failure =>
        ⟨.error failure, after.commit state events receipt,
          storedWorld host after events receipt w'⟩
      | .ok reply =>
        answer host (after.commit state events receipt) request events reply
          (storedWorld host after events receipt w') := by
  obtain ⟨nonempty, decided⟩ := emits
  rw [decision] at decided
  rw [Handle.sending] at appended
  rw [submit, if_neg (not_not_intro ready.1)]
  simp only [ready.2, decided, execute, persistAndReply, folded, appended]
  rfl

/-- A command whose events are stored and whose reply is accepted is answered. -/
theorem submit_of_stored {handle : Handle S C E} (ready : handle.Ready) {events : List E}
    {replyWith : ReplyFunction S E R} (emits : engine.Emits handle request.command events replyWith)
    {state : S} (folded : engine.behavior.applier.fold handle.state events = .ok state)
    {receipt : Receipt E} {after : Handle S C E} {w' : W}
    (appended : host.append (handle.sending request.command) events w = (.ok receipt, after, w'))
    {reply : R} (replies : replyWith state = .ok reply)
    (accepted : CommandType.accepts request.command reply = true) :
    engine.submit host handle request w =
      ⟨.ok (.replied reply events), after.commit state events receipt,
        handOver host (after.commit state events receipt) request reply
          (storedWorld host after events receipt w')⟩ := by
  rw [submit_of_appended engine host request w ready emits folded appended, replies]
  exact answer_of_accepts host _ request events accepted _

end Engine

end EventLedger
