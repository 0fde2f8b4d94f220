import Mathlib.Data.List.Induction
import EventLedger.Proofs.MemoryReplay
import EventLedger.Proofs.Submission

/-!
# Sessions over a log in memory

A `Session` is one engine at work: entities are activated, commands are submitted to the handles
that came of it, and all of them share one log in memory. An append may be refused at any step.
Channels and notices act on whatever lies outside of the log. The session keeps what every caller
saw of a submission (`Exchange`).

`submit_change` says all that a submission does to log and handle: nothing, or the handle is
stopped, or events are stored and the handle is committed. A channel that gives commands itself is
called when the submission has done everything else, so what it does counts as later steps.
-/

namespace EventLedger

/-- A log in memory, and all that lies outside of it. -/
structure MemoryWorld (X E : Type) where
  log : MemoryLog E := {}
  outside : X

namespace MemoryWorld

variable {X S C E : Type}

/-- The world as an engine knows it. An append is refused if there is a cause for that. -/
def host (note : String → Notice → X → X) (refusal : Option StoreFault) :
    Host (MemoryWorld X E) S C E :=
  .ofLog (fun entity start w => w.log.read entity start)
    (fun entity events w =>
      match refusal with
      | some cause => (.error (.store cause), w)
      | none =>
        let (answer, log) := w.log.append entity events
        (answer, { w with log := log }))
    (fun entity notice w => { w with outside := note entity notice w.outside })

/-- An append by this host either is refused and changes nothing, or stores all of its events. -/
theorem append_cases (note : String → Notice → X → X) (refusal : Option StoreFault)
    (handle : Handle S C E) {events : List E} (nonempty : events ≠ []) (w : MemoryWorld X E) :
    (∃ cause, refusal = some cause ∧
      (host note refusal).append handle events w = (.error (.store cause), handle, w)) ∨
    (refusal = none ∧
      (host note refusal).append handle events w =
        (.ok ⟨MemoryLog.recordsFrom handle.persistenceId w.log.records.length events⟩, handle,
          { w with log := w.log.extend handle.persistenceId events })) := by
  cases refusal with
  | some cause => exact .inl ⟨cause, rfl, rfl⟩
  | none =>
    refine .inr ⟨rfl, ?_⟩
    simp only [host, Host.ofLog, MemoryLog.append_eq nonempty]

end MemoryWorld

/-- The active handle of an entity that was replayed. -/
def Engine.recovered {S C E R : Type} (engine : Engine S C E R) (entity : String)
    (recovered : Recovered S) : Handle S C E :=
  { engine.fresh entity with
    state := recovered.state
    applied := recovered.applied
    lastSeq := recovered.lastSeq
    mode := .active }

namespace Engine

variable {W S C E R : Type} [HasKind S] [HasKind E] {engine : Engine S C E R} {host : Host W S C E}
  {entity : String} {w : W}

/-- An entity that can be replayed is activated. -/
theorem activate_of_replay {recovered : Recovered S}
    (replayed : Replay.replay engine.behavior
      (host.read (engine.behavior.persistenceId entity) 0 w) none = .ok recovered) :
    engine.activate host entity w = (.active (engine.recovered entity recovered),
      host.note (engine.behavior.persistenceId entity)
        (.recovered recovered.applied (kind recovered.state)) w) := by
  simp only [activate, fresh, replayed]
  rfl

/-- A handle that is activated holds what the replay gave. -/
theorem replay_of_activate {handle : Handle S C E} {w' : W}
    (active : engine.activate host entity w = (.active handle, w')) :
    ∃ recovered, Replay.replay engine.behavior
        (host.read (engine.behavior.persistenceId entity) 0 w) none = .ok recovered ∧
      handle = engine.recovered entity recovered ∧
      w' = host.note (engine.behavior.persistenceId entity)
        (.recovered recovered.applied (kind recovered.state)) w := by
  unfold activate at active
  dsimp only [fresh] at active
  cases replayed : Replay.replay engine.behavior
      (host.read (engine.behavior.persistenceId entity) 0 w) none with
  | ok recovered =>
    rw [replayed] at active
    cases active
    exact ⟨recovered, rfl, rfl, rfl⟩
  | error failure => rw [replayed] at active; cases failure <;> cases active

end Engine

/-- Entities have names of their own in the log. -/
theorem Behavior.persistenceId_inj {S C E R : Type} (behavior : Behavior S C E R)
    {entity other : String} :
    behavior.persistenceId entity = behavior.persistenceId other ↔ entity = other := by
  refine ⟨fun h => ?_, congrArg _⟩
  have chars := congrArg String.toList h
  simp only [Behavior.persistenceId, String.toList_append] at chars
  exact String.toList_inj.1 (List.append_cancel_left chars)

namespace Request

variable {X C R : Type} [CommandType C R] (E : Type)

/-- The request in a world whose log its channel does not know. -/
def outside (request : Request X C R) : Request (MemoryWorld X E) C R where
  command := request.command
  channel := request.channel.map fun channel reply w =>
    let (lost, x) := channel reply w.outside
    (lost, { w with outside := x })
  answerable enforced := by simpa using request.answerable enforced

theorem deliver_outside (request : Request X C R) (reply : R) (w : MemoryWorld X E) :
    (request.outside E).deliver reply w =
      ((request.deliver reply w.outside).1,
        { w with outside := (request.deliver reply w.outside).2 }) := by
  obtain ⟨command, _ | channel, answerable⟩ := request <;> rfl

theorem log_handOver {S : Type} [HasKind S] [HasKind E] [HasKind R]
    (note : String → Notice → X → X) (refusal : Option StoreFault) (handle : Handle S C E)
    (request : Request X C R) (reply : R) (w : MemoryWorld X E) :
    (Engine.handOver (MemoryWorld.host note refusal) handle (request.outside E) reply w).log =
      w.log := by
  rw [Engine.handOver, deliver_outside]
  rcases request.deliver reply w.outside with ⟨_ | reason, x⟩ <;> rfl

end Request

/-- A submission as its caller saw it. -/
structure Exchange (S C E R : Type) where
  entity : String
  command : C
  result : Except (Failure S E) (Outcome E R)

/-- An engine at work. -/
structure Session (X S C E R : Type) where
  world : MemoryWorld X E
  /-- The handles that activations returned, in order. -/
  handles : List (Handle S C E) := []
  /-- The submissions to these handles, in order. -/
  history : List (Exchange S C E R) := []

/-- What happens in a session. -/
inductive Step (X C R : Type) [CommandType C R] where
  | activate (entity : String)
  /-- A submission to the handle with a number, and the cause for which its append is refused, if
  it is. -/
  | submit (index : Nat) (request : Request X C R) (refusal : Option StoreFault)

namespace Session

variable {X S C E R : Type} [HasKind S] [HasKind E] (engine : Engine S C E R)
  (note : String → Notice → X → X)

/-- The session that begins with a log. -/
def start (log : MemoryLog E) (outside : X) : Session X S C E R where
  world := ⟨log, outside⟩

/-- Activates an entity. A stopped handle is not returned. -/
def activate (entity : String) (s : Session X S C E R) : Session X S C E R :=
  match engine.activate (MemoryWorld.host note none) entity s.world with
  | (.active handle, w) => { s with world := w, handles := s.handles ++ [handle] }
  | (_, w) => { s with world := w }

/-- An activation leaves the log and the handles alone. If its entity can be replayed, it adds the
handle that this gives. -/
theorem activate_cases (entity : String) (s : Session X S C E R) :
    (s.activate engine note entity).world.log = s.world.log ∧
      (s.activate engine note entity).history = s.history ∧
      ((s.activate engine note entity).handles = s.handles ∨
        ∃ recovered, Replay.replay engine.behavior
            (s.world.log.read (engine.behavior.persistenceId entity) 0) none = .ok recovered ∧
          (s.activate engine note entity).handles =
            s.handles ++ [engine.recovered entity recovered]) := by
  unfold activate Engine.activate
  dsimp only
  cases replayed : Replay.replay engine.behavior _ none with
  | ok recovered => exact ⟨rfl, rfl, .inr ⟨recovered, replayed, rfl⟩⟩
  | error failure => cases failure <;> exact ⟨rfl, rfl, .inl rfl⟩

variable [CommandType C R]

/-- What a submission can do to a handle and the log. -/
inductive Change (handle : Handle S C E) (command : C) (log : MemoryLog E) :
    Handle S C E → MemoryLog E → Prop
  | none : Change handle command log handle log
  | stopped (failure : Failure S E) : Change handle command log (handle.stop failure) log
  | stored {events : List E} {replyWith : ReplyFunction S E R} {state : S}
    (emits : engine.Emits handle command events replyWith)
    (folded : engine.behavior.applier.fold handle.state events = .ok state) :
    Change handle command log
      (handle.commit state events
        ⟨MemoryLog.recordsFrom handle.persistenceId log.records.length events⟩)
      (log.extend handle.persistenceId events)

variable {engine}

theorem Change.names {handle after : Handle S C E} {command : C} {log log' : MemoryLog E}
    (h : Change engine handle command log after log') :
    after.entity = handle.entity ∧ after.persistenceId = handle.persistenceId := by
  cases h <;> exact ⟨rfl, rfl⟩

theorem Change.numbered {handle after : Handle S C E} {command : C} {log log' : MemoryLog E}
    (h : Change engine handle command log after log') (numbered : log.Numbered) :
    log'.Numbered := by
  cases h with
  | none => exact numbered
  | stopped => exact numbered
  | stored => exact numbered.extend _ _

variable (engine) [HasKind R]

/-- The end of a submission to a handle of the session. -/
def submission (handle : Handle S C E) (request : Request X C R) (refusal : Option StoreFault)
    (s : Session X S C E R) : Submission (MemoryWorld X E) S C E R :=
  engine.submit (MemoryWorld.host note refusal) handle (request.outside E) s.world

/-- A submission changes nothing, or stops the handle, or stores events and commits the handle. -/
theorem submit_change (handle : Handle S C E) (request : Request X C R)
    (refusal : Option StoreFault) (s : Session X S C E R) :
    Change engine handle request.command s.world.log
      (s.submission engine note handle request refusal).handle
      (s.submission engine note handle request refusal).world.log := by
  have ending := engine.submit_ending (MemoryWorld.host note refusal) (request.outside E) s.world
    handle
  rw [submission]
  generalize engine.submit _ handle _ s.world = r at ending ⊢
  cases ending with
  | refused => exact .none
  | silent => exact .none
  | replied => rw [Request.log_handOver]; exact .none
  | illegal => exact .stopped _
  | unfolded => exact .none
  | unstored ready emits folded appended =>
    obtain ⟨nonempty, -⟩ := emits
    rcases MemoryWorld.append_cases note refusal (handle.sending request.command) nonempty
      s.world with ⟨cause, -, eq⟩ | ⟨-, eq⟩ <;> cases appended.symm.trans eq
    rw [Handle.settled_sending ready]; exact .none
  | @stored events replyWith state _ _ _ _ ready emits folded appended reported =>
    obtain ⟨nonempty, -⟩ := id emits
    rcases MemoryWorld.append_cases note refusal (handle.sending request.command) nonempty
      s.world with ⟨cause, -, eq⟩ | ⟨-, eq⟩ <;> cases appended.symm.trans eq
    generalize replyWith state = answer at reported
    cases reported with
    | failed => exact .stored emits folded
    | wrong => exact .stored emits folded
    | replied => rw [Request.log_handOver]; exact .stored emits folded

/-- Submits a command to the handle with a number, if there is one. -/
def submit (index : Nat) (request : Request X C R) (refusal : Option StoreFault)
    (s : Session X S C E R) : Session X S C E R :=
  match s.handles[index]? with
  | none => s
  | some handle =>
    let r := s.submission engine note handle request refusal
    { world := r.world
      handles := s.handles.set index r.handle
      history := s.history ++ [⟨handle.entity, request.command, r.result⟩] }

theorem submit_of_handle {s : Session X S C E R} {index : Nat}
    {handle : Handle S C E} (found : s.handles[index]? = some handle) (request : Request X C R)
    (refusal : Option StoreFault) :
    s.submit engine note index request refusal =
      { world := (s.submission engine note handle request refusal).world
        handles :=
          s.handles.set index (s.submission engine note handle request refusal).handle
        history := s.history ++ [⟨handle.entity, request.command,
          (s.submission engine note handle request refusal).result⟩] } := by
  simp only [submit, found]

theorem submit_of_no_handle {s : Session X S C E R} {index : Nat} (none : s.handles[index]? = none)
    (request : Request X C R) (refusal : Option StoreFault) :
    s.submit engine note index request refusal = s := by
  simp only [submit, none]

/-- Takes a step. -/
def step (s : Session X S C E R) : Step X C R → Session X S C E R
  | .activate entity => s.activate engine note entity
  | .submit index request refusal => s.submit engine note index request refusal

/-- Takes steps, one after the other. -/
def run (s : Session X S C E R) (steps : List (Step X C R)) : Session X S C E R :=
  steps.foldl (step engine note) s

@[simp] theorem run_nil (s : Session X S C E R) : s.run engine note [] = s := rfl

theorem run_append (s : Session X S C E R) (before after : List (Step X C R)) :
    s.run engine note (before ++ after) = (s.run engine note before).run engine note after :=
  List.foldl_append

theorem run_concat (s : Session X S C E R) (steps : List (Step X C R)) (next : Step X C R) :
    s.run engine note (steps ++ [next]) = (s.run engine note steps).step engine note next :=
  s.run_append engine note steps [next]

/-! ## What holds throughout a session -/

/-- What holds throughout a session: the log is numbered, and the handles are named as the behavior
names their entities. -/
structure Sound (s : Session X S C E R) : Prop where
  numbered : s.world.log.Numbered
  named : ∀ handle ∈ s.handles,
    handle.persistenceId = engine.behavior.persistenceId handle.entity

variable {engine}

theorem Sound.step {s : Session X S C E R} (sound : s.Sound engine) (next : Step X C R) :
    (s.step engine note next).Sound engine := by
  cases next with
  | activate entity =>
    obtain ⟨log, -, same | ⟨recovered, -, more⟩⟩ := s.activate_cases engine note entity
    · exact ⟨by rw [Session.step, log]; exact sound.numbered,
        by rw [Session.step, same]; exact sound.named⟩
    · refine ⟨by rw [Session.step, log]; exact sound.numbered, fun handle mem => ?_⟩
      rw [Session.step, more, List.mem_append, List.mem_singleton] at mem
      rcases mem with mem | rfl
      · exact sound.named handle mem
      · rfl
  | submit index request refusal =>
    rw [Session.step]
    cases found : s.handles[index]? with
    | none => rw [submit_of_no_handle engine note found]; exact sound
    | some handle =>
      rw [submit_of_handle engine note found]
      have change := s.submit_change engine note handle request refusal
      refine ⟨change.numbered sound.numbered, fun other mem => ?_⟩
      rcases List.mem_or_eq_of_mem_set mem with mem | rfl
      · exact sound.named other mem
      · rw [change.names.1, change.names.2]
        exact sound.named handle (List.mem_of_getElem? found)

theorem Sound.run {s : Session X S C E R} (sound : s.Sound engine) (steps : List (Step X C R)) :
    (s.run engine note steps).Sound engine := by
  induction steps using List.reverseRecOn with
  | nil => exact sound
  | append_singleton steps next ih => rw [run_concat]; exact ih.step note next

end Session

end EventLedger
