import Mathlib.Data.List.Induction
import Mathlib.Data.List.ProdSigma
import EventLedger.Dispatcher
import EventLedger.Proofs.Lists

/-!
# Handlers and gaps

Handlers are registered in any order, for kinds of command or as fallbacks, and registered again.
What counts afterwards is the last handler for just these kinds, or else the last fallback for the
kind of state (`Registration.chosen?`, `lookup_registerAll`). So the list of gaps holds exactly the
pairs of kinds for which dispatch runs no handler (`missingHandlers_exact`).

Registrations name their handlers, and what the names stand for is left open. A handler is run if
the result is its result whatever the names stand for, and none is run if the result never depends
on them. In this way a missing handler differs from one that leaves the command unhandled.
-/

namespace EventLedger

/-- The registration of a handler, by the name of the handler. -/
inductive Registration (ι : Type) where
  /-- For one kind of command in one kind of state. -/
  | onCommand (state command : Kind) (handler : ι)
  /-- For every command in one kind of state that has no handler of its own. -/
  | onAnyCommand (state : Kind) (handler : ι)

namespace Registration

variable {ι : Type}

/-- The handler that is registered for just these kinds. -/
def own? (state command : Kind) : Registration ι → Option ι
  | .onCommand s c handler => if s = state ∧ c = command then some handler else none
  | .onAnyCommand .. => none

/-- The handler that is registered as the fallback for a kind of state. -/
def fallback? (state : Kind) : Registration ι → Option ι
  | .onCommand .. => none
  | .onAnyCommand s handler => if s = state then some handler else none

/-- The handler that counts: the last one for just these kinds or, if there is none, the last
fallback for the kind of state. -/
def chosen? (registrations : List (Registration ι)) (state command : Kind) : Option ι :=
  (registrations.filterMap (own? state command)).getLast?.or
    (registrations.filterMap (fallback? state)).getLast?

end Registration

open Registration

namespace Dispatcher

variable {ι S C E R : Type}

theorem table_onCommand (d : Dispatcher S C E R) (state command : Kind)
    (handler : CommandHandler S C E R) (k : Kind) :
    (d.onCommand state command handler).table k =
      if state = k then
        { d.table k with onCommand := Registry.set command handler (d.table k).onCommand }
      else d.table k := by
  rw [table, onCommand]
  dsimp only
  rw [Registry.get?_set]
  by_cases same : state = k
  · simp [same]
  · simp [same, table]

theorem table_onAnyCommand (d : Dispatcher S C E R) (state : Kind)
    (handler : CommandHandler S C E R) (k : Kind) :
    (d.onAnyCommand state handler).table k =
      if state = k then { d.table k with onAny := some handler } else d.table k := by
  rw [table, onAnyCommand]
  dsimp only
  rw [Registry.get?_set]
  by_cases same : state = k
  · simp [same]
  · simp [same, table]

section

variable (handlers : ι → CommandHandler S C E R)

/-- The dispatcher after one more registration. -/
def register (d : Dispatcher S C E R) : Registration ι → Dispatcher S C E R
  | .onCommand state command handler => d.onCommand state command (handlers handler)
  | .onAnyCommand state handler => d.onAnyCommand state (handlers handler)

/-- The dispatcher after registrations, one after the other. -/
def registerAll (registrations : List (Registration ι)) : Dispatcher S C E R :=
  registrations.foldl (register handlers) {}

theorem registerAll_concat (registrations : List (Registration ι)) (r : Registration ι) :
    registerAll handlers (registrations ++ [r]) =
      register handlers (registerAll handlers registrations) r :=
  List.foldl_append ..

/-- A kind of command has the last handler that was registered for it. -/
theorem onCommand_registerAll (registrations : List (Registration ι)) (state command : Kind) :
    Registry.get? command ((registerAll handlers registrations).table state).onCommand =
      (registrations.filterMap (own? state command)).getLast?.map handlers := by
  induction registrations using List.reverseRecOn with
  | nil => rfl
  | append_singleton registrations r ih =>
    rw [registerAll_concat, getLast?_filterMap_concat]
    cases r with
    | onCommand s c handler =>
      rw [register, table_onCommand]
      by_cases there : s = state
      · by_cases same : c = command
        · simp [there, same, own?]
        · simp [there, same, own?, Registry.get?_set_of_ne same, ih]
      · simp [there, own?, ih]
    | onAnyCommand s handler =>
      rw [register, table_onAnyCommand, own?, Option.none_or, ← ih]
      split <;> rfl

/-- A kind of state has the last fallback that was registered for it. -/
theorem onAny_registerAll (registrations : List (Registration ι)) (state : Kind) :
    ((registerAll handlers registrations).table state).onAny =
      (registrations.filterMap (fallback? state)).getLast?.map handlers := by
  induction registrations using List.reverseRecOn with
  | nil => rfl
  | append_singleton registrations r ih =>
    rw [registerAll_concat, getLast?_filterMap_concat]
    cases r with
    | onCommand s c handler =>
      rw [register, table_onCommand, fallback?, Option.none_or, ← ih]
      split <;> rfl
    | onAnyCommand s handler =>
      rw [register, table_onAnyCommand]
      by_cases there : s = state
      · simp [there, fallback?]
      · simp [there, fallback?, ih]

/-- The handler that is found is the one that counts. -/
theorem lookup_registerAll (registrations : List (Registration ι)) (state command : Kind) :
    (registerAll handlers registrations).lookup state command =
      (chosen? registrations state command).map handlers := by
  rw [lookup, HandlerTable.lookup, onCommand_registerAll, onAny_registerAll, chosen?]
  cases (registrations.filterMap (own? state command)).getLast? <;> rfl

theorem dispatch_registerAll [HasKind S] [HasKind C] (registrations : List (Registration ι))
    (state : S) (command : C) :
    (registerAll handlers registrations).dispatch state command =
      match chosen? registrations (kind state) (kind command) with
      | some handler => handlers handler state command
      | none => .ok (.effect .unhandled) := by
  rw [dispatch, lookup_registerAll]
  cases chosen? registrations (kind state) (kind command) <;> rfl

end

/-- The gaps are listed in the order of the pairs, each as often as its pair. -/
theorem missingHandlers_eq (d : Dispatcher S C E R) (states commands : List Kind) :
    d.missingHandlers states commands =
      (states ×ˢ commands).filter fun p => (d.lookup p.1 p.2).isNone := by
  show _ = (states.flatMap fun state => commands.map (Prod.mk state)).filter _
  simp only [missingHandlers, List.filter_flatMap, List.filter_map, Function.comp_def]

/-! ## What dispatch runs -/

section

variable [HasKind S] [HasKind C] (E R) (registrations : List (Registration ι)) (state : S)
  (command : C)

/-- Dispatch runs no handler and leaves the command unhandled, whatever the handlers do. -/
def RunsNone : Prop :=
  ∀ handlers : ι → CommandHandler S C E R,
    (registerAll handlers registrations).dispatch state command = .ok (.effect .unhandled)

/-- Dispatch runs one handler and returns what it returns, whatever this and the others do. -/
def RunsOnly (handler : ι) : Prop :=
  ∀ handlers : ι → CommandHandler S C E R,
    (registerAll handlers registrations).dispatch state command = handlers handler state command

end

section

variable [HasKind S] [HasKind C] {registrations : List (Registration ι)} {state : S} {command : C}

theorem runsOnly_iff {handler : ι} :
    RunsOnly E R registrations state command handler ↔
      chosen? registrations (kind state) (kind command) = some handler := by
  classical
  constructor
  · intro runs
    -- This handler alone declares a drop, so that its result is known among all others.
    have drops := runs fun other _ _ =>
      .ok (.effect (if other = handler then .unhandledNoReply else .unhandled))
    rw [dispatch_registerAll, if_pos rfl] at drops
    cases chosen : chosen? registrations (kind state) (kind command) with
    | none => rw [chosen] at drops; cases drops
    | some other =>
      rw [chosen] at drops
      by_cases same : other = handler
      · rw [same]
      · simp only [if_neg same] at drops
        cases drops
  · intro chosen handlers
    rw [dispatch_registerAll, chosen]

theorem runsNone_iff :
    RunsNone E R registrations state command ↔
      chosen? registrations (kind state) (kind command) = none := by
  constructor
  · intro idle
    have drops := idle fun _ _ _ => .ok (.effect .unhandledNoReply)
    rw [dispatch_registerAll] at drops
    cases chosen : chosen? registrations (kind state) (kind command) with
    | none => rfl
    | some handler => rw [chosen] at drops; cases drops
  · intro chosen handlers
    rw [dispatch_registerAll, chosen]

end

/-- After registrations in any order, the list of gaps has, in the order of the pairs and as often as
they are asked for, the pairs of kinds without a handler that counts. For a state and a command of
such kinds dispatch runs no handler, and leaves the command unhandled. For all others it runs one
handler, the one that counts, and returns its decision. -/
theorem missingHandlers_exact [HasKind S] [HasKind C] (registrations : List (Registration ι))
    (states commands : List Kind) :
    (∀ handlers : ι → CommandHandler S C E R,
      (registerAll handlers registrations).missingHandlers states commands =
        (states ×ˢ commands).filter fun p => (chosen? registrations p.1 p.2).isNone) ∧
    ∀ (state : S) (command : C),
      (RunsNone E R registrations state command ↔
        chosen? registrations (kind state) (kind command) = none) ∧
      ∀ handler, RunsOnly E R registrations state command handler ↔
        chosen? registrations (kind state) (kind command) = some handler := by
  refine ⟨fun handlers => ?_, fun state command => ⟨runsNone_iff, fun handler => runsOnly_iff⟩⟩
  rw [missingHandlers_eq]
  simp only [lookup_registerAll, Option.isNone_map]

end Dispatcher

end EventLedger
