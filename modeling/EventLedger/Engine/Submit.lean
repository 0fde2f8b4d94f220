import EventLedger.Engine.Activate
import EventLedger.Request

/-!
# Submitting commands

`submit` handles one command: the handler decides, and its effect is carried out. Events are folded
before they are appended, so an event that does not fit never reaches the log; the reply is computed
from the state after them, checked against the type that the command declares, and handed over last.
A channel that fails is reported and otherwise ignored: by then the events are durable.
-/

namespace EventLedger

/-- What came of a command: it was answered, with the events that were appended for it, or not. -/
inductive Outcome (E R : Type) where
  | replied (reply : R) (persisted : List E)
  | noReply
deriving DecidableEq

/-- The end of a submission: its outcome or failure, and handle and world afterwards. -/
structure Submission (W S C E R : Type) where
  result : Except (Failure S E) (Outcome E R)
  handle : Handle S C E
  world : W

namespace Engine

variable {W S C E R : Type} [HasKind S] [HasKind E] [HasKind R] [CommandType C R]

/-- Checks a reply and hands it over. -/
def answer (host : Host W S C E) (handle : Handle S C E) (request : Request W C R)
    (persisted : List E) (reply : R) (w : W) : Submission W S C E R :=
  let command := request.command
  if CommandType.accepts command reply then
    let (lost, w) := request.deliver reply w
    let w := match lost with
      | some reason => host.note handle.persistenceId (.replyLost (kind command) reason) w
      | none => w
    ⟨.ok (.replied reply persisted), handle, w⟩
  else
    let fault := .wrongReply (kind command) (CommandType.expected command) (kind reply)
    ⟨.error (.fault (.invalidEffect fault)), handle, w⟩

/-- Folds and appends events, then answers. -/
def persistAndReply (engine : Engine S C E R) (host : Host W S C E) (handle : Handle S C E)
    (request : Request W C R) (events : List E) (replyWith : ReplyFunction S E R) (w : W) :
    Submission W S C E R :=
  match engine.behavior.applier.fold handle.state events with
  | .error (.illegalFold state event) =>
    let failure := Failure.illegalFold state event
    ⟨.error failure, handle.stop failure,
      host.note handle.persistenceId (.stopped failure.message) w⟩
  | .error (.fault fault) => ⟨.error (.fault fault), handle, w⟩
  | .ok state =>
    match host.append { handle with inFlight := some request.command } events w with
    | (.error fault, handle, w) =>
      ⟨.error (.fault fault), { handle with inFlight := none }, w⟩
    | (.ok receipt, handle, w) =>
      let handle :=
        { handle with
          inFlight := none
          state := state
          applied := handle.applied + events.length
          lastSeq := receipt.lastSeq }
      let w := host.note handle.persistenceId (.persisted (events.map kind) receipt.lastSeq) w
      match replyWith state with
      | .error failure => ⟨.error failure, handle, w⟩
      | .ok reply => answer host handle request events reply w

/-- Leaves a command without a reply because it has no handler. -/
def leaveUnhandled (engine : Engine S C E R) (host : Host W S C E) (handle : Handle S C E)
    (request : Request W C R) (w : W) : Submission W S C E R :=
  let command := kind request.command
  let state := kind handle.state
  if CommandType.enforced request.command then
    match engine.unhandledPolicy with
    | .raise => ⟨.error (.fault (.unhandledCommand command state)), handle, w⟩
    | .log =>
      ⟨.ok .noReply, handle, host.note handle.persistenceId (.unanswered command state) w⟩
  else ⟨.ok .noReply, handle, host.note handle.persistenceId (.unhandled command state) w⟩

/-- Carries out the effect of a command. -/
def execute (engine : Engine S C E R) (host : Host W S C E) (handle : Handle S C E)
    (request : Request W C R) (w : W) : Effect S E R → Submission W S C E R
  | .unhandledNoReply =>
    ⟨.ok .noReply, handle,
      host.note handle.persistenceId (.dropped (kind request.command) (kind handle.state)) w⟩
  | .unhandled => engine.leaveUnhandled host handle request w
  | .replyOnly reply => answer host handle request [] reply w
  | .persistAndReply events _ replyWith =>
    engine.persistAndReply host handle request events replyWith w

/-- Handles one command. -/
def submit (engine : Engine S C E R) (host : Host W S C E) (handle : Handle S C E)
    (request : Request W C R) (w : W) : Submission W S C E R :=
  if handle.mode ≠ .active then
    ⟨.error (.fault (.notAccepting handle.persistenceId handle.mode.name)), handle, w⟩
  else
    match handle.inFlight with
    | some command => ⟨.error (.fault (.busy handle.persistenceId (kind command))), handle, w⟩
    | none =>
      match engine.behavior.dispatcher.dispatch handle.state request.command with
      | .error failure => ⟨.error failure, handle, w⟩
      | .ok (.other _ literal) =>
        ⟨.error (.fault (.invalidEffect (.unsupported literal))), handle, w⟩
      | .ok (.effect effect) => engine.execute host handle request w effect

end Engine

end EventLedger
