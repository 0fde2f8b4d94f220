import EventLedger.Fault
import EventLedger.Logging.Level
import EventLedger.Log.Seq

/-!
# Live entities

A `Handle` is an entity that an engine holds in memory: the state that its events led to, how far in
the log that is, and whether it takes commands. While an append is on its way the command is
`inFlight`.

A `Notice` is what the engine reports about an entity while it works.
-/

namespace EventLedger

/-- Whether an entity takes commands. -/
inductive Mode where
  /-- Its events have not been folded yet. -/
  | recovering
  | active
  /-- It met an event that does not fit its state. -/
  | stopped
deriving DecidableEq

/-- The name of a mode. -/
def Mode.name : Mode → String
  | .recovering => "recovering"
  | .active => "active"
  | .stopped => "stopped"

/-- An entity held in memory. -/
structure Handle (S C E : Type) where
  entity : String
  /-- The name of the entity in the log. -/
  persistenceId : String
  state : S
  mode : Mode := .recovering
  /-- How many events have been folded. -/
  applied : Nat := 0
  /-- The sequence number of the last folded event. -/
  lastSeq : Seq := .beforeFirst
  /-- The command that waits for its append. -/
  inFlight : Option C := none
  /-- The failure that stopped the entity. -/
  failure : Option (Failure S E) := none

/-- Stops an entity for a failure. -/
def Handle.stop {S C E : Type} (handle : Handle S C E) (failure : Failure S E) : Handle S C E :=
  { handle with mode := .stopped, failure := some failure }

/-- What the engine reports about an entity. -/
inductive Notice where
  | recovered (applied : Nat) (state : Kind)
  | persisted (events : List Kind) (lastSeq : Seq)
  | replyLost (command : Kind) (reason : String)
  | dropped (command state : Kind)
  /-- A command without a handler that needs no answer. -/
  | unhandled (command state : Kind)
  /-- A command without a handler that should have been answered. -/
  | unanswered (command state : Kind)
  | stopped (reason : String)
deriving DecidableEq

/-- The level of a notice. -/
def Notice.level : Notice → Level
  | .persisted .. => .debug
  | .recovered .. | .dropped .. | .unhandled .. => .info
  | .replyLost .. => .warning
  | .unanswered .. | .stopped _ => .error

/-- The wording of a notice. -/
def Notice.message : Notice → String
  | .recovered applied state =>
    "Entity recovered: " ++ Text.natText applied ++ " events applied, state " ++ state
  | .persisted events lastSeq =>
    "Persisted " ++ (Value.list (events.map Value.str)).literal ++ " up to seq " ++ lastSeq.text
  | .replyLost command reason => "Reply to " ++ command ++ " not delivered: " ++ reason
  | .dropped command state => "Dropped " ++ command ++ " without reply in state " ++ state
  | .unhandled command state => "Unhandled command " ++ command ++ " in state " ++ state
  | .unanswered command state => (Fault.unhandledCommand command state).message
  | .stopped reason => "Entity stopped: " ++ reason

end EventLedger
