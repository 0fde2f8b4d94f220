import EventLedger.Engine.Handle
import EventLedger.Replay

/-!
# Engines and activation

An `Engine` runs the entities of one behavior. It works in a world of type `W`, of which it knows
only what a `Host` gives it: a log to read and to append to, and a place for its notices.

`activate` recovers an entity from its events. It changes nothing in the world but the notices.
-/

namespace EventLedger

/-- What becomes of a command that has no handler and should have been answered. -/
inductive UnhandledPolicy where
  /-- It is reported, and gets no reply. -/
  | log
  /-- It fails. -/
  | raise
deriving DecidableEq

/-- The policy with a name. -/
def UnhandledPolicy.ofName (name : String) : Except Fault UnhandledPolicy :=
  match name with
  | "log" => .ok .log
  | "raise" => .ok .raise
  | _ => .error (.invalid (.unknownUnhandledPolicy name))

/-- Runs the entities of one behavior. -/
structure Engine (S C E R : Type) where
  behavior : Behavior S C E R
  unhandledPolicy : UnhandledPolicy := .log

/-- What an engine knows of the world. -/
structure Host (W S C E : Type) where
  /-- The records of an entity from a sequence number on. -/
  read : String → Int → W → Reading E
  /-- Appends events for the entity in flight. The log may call back into the engine before it
  answers, so it is given the handle and returns it. -/
  append : Handle S C E → List E → W → Except Fault (Receipt E) × Handle S C E × W
  /-- Takes a notice about the entity with a name in the log. -/
  note : String → Notice → W → W

/-- A host whose log leaves the handle alone. -/
def Host.ofLog {W S C E : Type} (read : String → Int → W → Reading E)
    (append : String → List E → W → Except Fault (Receipt E) × W)
    (note : String → Notice → W → W) : Host W S C E where
  read := read
  append handle events w :=
    let (answer, w) := append handle.persistenceId events w
    (answer, handle, w)
  note := note

/-- The end of an activation. -/
inductive Activation (S C E : Type) where
  | active (handle : Handle S C E)
  /-- The stored events do not fit; the handle is stopped for that. -/
  | stopped (handle : Handle S C E) (failure : Failure S E)
  /-- The log could not be read, or an event handler failed. -/
  | failed (fault : Fault)

namespace Engine

variable {W S C E R : Type} [HasKind S] [HasKind E]

/-- The handle of an entity before its events are folded. -/
def fresh (engine : Engine S C E R) (entity : String) : Handle S C E where
  entity := entity
  persistenceId := engine.behavior.persistenceId entity
  state := engine.behavior.emptyState

/-- Recovers an entity from its events and makes it active. -/
def activate (engine : Engine S C E R) (host : Host W S C E) (entity : String) (w : W) :
    Activation S C E × W :=
  let handle := engine.fresh entity
  match Replay.replay engine.behavior (host.read handle.persistenceId 0 w) none with
  | .error (.illegalFold state event) =>
    let failure := Failure.illegalFold state event
    (.stopped (handle.stop failure) failure,
      host.note handle.persistenceId (.stopped failure.message) w)
  | .error (.fault fault) => (.failed fault, w)
  | .ok recovered =>
    let handle :=
      { handle with
        state := recovered.state
        applied := recovered.applied
        lastSeq := recovered.lastSeq
        mode := .active }
    (.active handle,
      host.note handle.persistenceId (.recovered recovered.applied (kind recovered.state)) w)

end Engine

end EventLedger
