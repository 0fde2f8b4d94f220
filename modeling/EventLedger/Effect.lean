import EventLedger.Fault

/-!
# Effects

A command handler does nothing itself. It returns an `Effect`: events to append together with a
reply to compute afterwards, a reply alone, or nothing, where nothing is either a missing handler
(`unhandled`) or a declared drop (`unhandledNoReply`). The engine carries the effect out.

`persist` begins an effect with events. Until `thenReply` adds the reply it is only `Pending`, and
no effect that an engine would carry out.
-/

namespace EventLedger

variable {S E R : Type}

/-- The reply computed from the state that the events lead to. -/
abbrev ReplyFunction (S E R : Type) := S → Except (Failure S E) R

/-- What a command handler wants to be done. -/
inductive Effect (S E R : Type) where
  /-- Append the events together, then reply. -/
  | persistAndReply (events : List E) (nonempty : events ≠ []) (replyWith : ReplyFunction S E R)
  | replyOnly (reply : R)
  /-- No handler for the command. -/
  | unhandled
  /-- A declared drop of the command. -/
  | unhandledNoReply

namespace Effect

/-- The name of the kind of an effect. -/
def kind : Effect S E R → Kind
  | .persistAndReply .. => "PersistAndReply"
  | .replyOnly _ => "ReplyOnly"
  | .unhandled => "Unhandled"
  | .unhandledNoReply => "UnhandledNoReply"

/-- An effect with events; it needs an event and a reply function. -/
def ofEvents (events : List E) (replyWith : Option (ReplyFunction S E R)) :
    Except Fault (Effect S E R) :=
  if h : events = [] then .error (.invalidEffect .noEvents)
  else
    match replyWith with
    | none => .error (.invalidEffect .noReplyFunction)
    | some f => .ok (.persistAndReply events h f)

/-- A command left unhandled, with or without a declaration. -/
def unhandledAs (declared : Bool) : Effect S E R :=
  if declared then .unhandledNoReply else .unhandled

end Effect

/-- Events that wait for their reply. -/
structure Pending (E : Type) where
  events : List E
  nonempty : events ≠ []

/-- Begins an effect with events. -/
def persist (events : List E) : Except Fault (Pending E) :=
  if h : events = [] then .error (.invalidEffect .nothingToPersist) else .ok ⟨events, h⟩

/-- Adds the reply to the events. -/
def Pending.thenReply (p : Pending E) (replyWith : Option (ReplyFunction S E R)) :
    Except Fault (Effect S E R) :=
  Effect.ofEvents p.events replyWith

/-- What a command handler returns: an effect, or something that is none. -/
inductive Decision (S E R : Type) where
  | effect (effect : Effect S E R)
  /-- A value that is no effect, with its kind and its literal. -/
  | other (kind : Kind) (literal : String)

/-- The kind of what a handler returns. -/
def Decision.kind : Decision S E R → Kind
  | .effect e => e.kind
  | .other kind _ => kind

end EventLedger
