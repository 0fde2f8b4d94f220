import EventLedger.Fault

/-!
# Event handler tables

An `Applier` finds the handler of an event by the kinds of state and event, and folds lists of
events. A pair without a handler is an illegal fold.
-/

namespace EventLedger

/-- An event handler. -/
abbrev EventHandler (S E : Type) := S → E → Except (Failure S E) S

/-- The event handlers, by the kinds of state and event. -/
structure Applier (S E : Type) where
  handlers : Registry (Kind × Kind) (EventHandler S E) := []

namespace Applier

variable {S E : Type}

/-- Registers a handler for kinds of state and event. -/
def register (a : Applier S E) (state event : Kind) (handler : EventHandler S E) : Applier S E :=
  ⟨Registry.set (state, event) handler a.handlers⟩

variable [HasKind S] [HasKind E]

/-- The state after an event. -/
def apply (a : Applier S E) (state : S) (event : E) : Except (Failure S E) S :=
  match Registry.get? (kind state, kind event) a.handlers with
  | some handler => handler state event
  | none => .error (.illegalFold state event)

/-- The state after a list of events. -/
def fold (a : Applier S E) (state : S) (events : List E) : Except (Failure S E) S :=
  events.foldlM a.apply state

@[simp] theorem fold_nil (a : Applier S E) (state : S) : a.fold state [] = .ok state := rfl

theorem fold_cons (a : Applier S E) (state : S) (event : E) (events : List E) :
    a.fold state (event :: events) = a.apply state event >>= fun s => a.fold s events := rfl

theorem fold_append (a : Applier S E) (state : S) (before after : List E) :
    a.fold state (before ++ after) = a.fold state before >>= fun s => a.fold s after :=
  List.foldlM_append ..

end Applier

end EventLedger
