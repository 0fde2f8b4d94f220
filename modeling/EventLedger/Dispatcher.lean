import EventLedger.Effect

/-!
# Command handler tables

A `Dispatcher` finds the handler of a command: first the table of the state's kind, then in it the
handler of the command's kind, or else the table's fallback. `missingHandlers` lists the pairs of
kinds that have none.
-/

namespace EventLedger

/-- A command handler. -/
abbrev CommandHandler (S C E R : Type) := S → C → Except (Failure S E) (Decision S E R)

/-- The command handlers for one kind of state. -/
structure HandlerTable (S C E R : Type) where
  onCommand : Registry Kind (CommandHandler S C E R) := []
  /-- The fallback for commands without a handler of their own. -/
  onAny : Option (CommandHandler S C E R) := none

/-- The handler for a kind of command. -/
def HandlerTable.lookup {S C E R : Type} (table : HandlerTable S C E R) (command : Kind) :
    Option (CommandHandler S C E R) :=
  match Registry.get? command table.onCommand with
  | some handler => some handler
  | none => table.onAny

/-- The handler tables, by the kind of the state. -/
structure Dispatcher (S C E R : Type) where
  tables : Registry Kind (HandlerTable S C E R) := []

namespace Dispatcher

variable {S C E R : Type}

/-- The table for a kind of state. -/
def table (d : Dispatcher S C E R) (state : Kind) : HandlerTable S C E R :=
  (Registry.get? state d.tables).getD {}

/-- Registers a handler for a kind of command. -/
def onCommand (d : Dispatcher S C E R) (state command : Kind) (handler : CommandHandler S C E R) :
    Dispatcher S C E R :=
  let table := d.table state
  ⟨Registry.set state { table with onCommand := Registry.set command handler table.onCommand }
    d.tables⟩

/-- Registers the fallback for a kind of state. -/
def onAnyCommand (d : Dispatcher S C E R) (state : Kind) (handler : CommandHandler S C E R) :
    Dispatcher S C E R :=
  ⟨Registry.set state { d.table state with onAny := some handler } d.tables⟩

/-- The handler for kinds of state and command. -/
def lookup (d : Dispatcher S C E R) (state command : Kind) : Option (CommandHandler S C E R) :=
  (d.table state).lookup command

/-- Runs the handler of a command in a state. Without one the command is unhandled. -/
def dispatch [HasKind S] [HasKind C] (d : Dispatcher S C E R) (state : S) (command : C) :
    Except (Failure S E) (Decision S E R) :=
  match d.lookup (kind state) (kind command) with
  | some handler => handler state command
  | none => .ok (.effect .unhandled)

/-- The pairs of kinds that have no handler, state by state. -/
def missingHandlers (d : Dispatcher S C E R) (states commands : List Kind) : List (Kind × Kind) :=
  states.flatMap fun state =>
    (commands.filter fun command => (d.lookup state command).isNone).map fun command =>
      (state, command)

end Dispatcher

end EventLedger
