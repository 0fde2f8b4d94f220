import EventLedger.Applier
import EventLedger.Dispatcher

/-!
# Behaviors

A `Behavior` is the definition of one type of entity: what its entities are called in the log, the
state they start from, and the handlers of their commands and events.
-/

namespace EventLedger

/-- The definition of a type of entity. -/
structure Behavior (S C E R : Type) where
  /-- The name of the type of entity. -/
  typeKey : String
  /-- The state before any event. -/
  emptyState : S
  dispatcher : Dispatcher S C E R
  applier : Applier S E

/-- The name of an entity in the log. -/
def Behavior.persistenceId {S C E R : Type} (b : Behavior S C E R) (entity : String) : String :=
  b.typeKey ++ "|" ++ entity

end EventLedger
