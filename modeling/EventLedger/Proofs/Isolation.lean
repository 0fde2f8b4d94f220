import Mathlib.Logic.Function.Basic
import EventLedger.Proofs.Session
import EventLedger.Proofs.SharedLog

/-!
# Entities that share a log are isolated

The entities of one behavior share a log, in memory or in a file, and with it the sequence numbers, the
hash chain and the codec. Each has a single live handle, and they take turns in any order; a turn
activates an entity or submits a command to its handle. What the callers of one entity see, the
answers and the handle after each turn, is what they would see if it were alone on a log of its own,
but for sequence numbers (`SharedSession.entity_isolated`).

Both runs are kept side by side: a turn of the entity comes out the same on both logs
(`Alongside.own`), and a turn of another entity is not noticed (`Alongside.other`), because all that
counts on a log is the strand of the entity.
-/

namespace EventLedger

/-- What an entity is asked to do. -/
inductive Turn (X C R : Type) [CommandType C R] where
  | activate (entity : String)
  /-- A submission to the live handle of an entity, and the cause for which its append is refused,
  if it is. -/
  | submit (entity : String) (request : Request X C R) (refusal : Option StoreFault)

/-- The answer to a turn. -/
inductive Answer (S E R : Type) where
  | activated (result : Except (Failure S E) Unit)
  | submitted (result : Except (Failure S E) (Outcome E R))
  /-- There is no handle to submit to. -/
  | absent

/-- What comes of a turn: the answer, the live handle of the entity, and the world. -/
structure Taken (X S C E R : Type) where
  answer : Answer S E R
  live : Option (Handle S C E)
  world : LogWorld X E

namespace Turn

variable {X S C E R : Type} [HasFields E] [HasKind S] [CommandType C R]

/-- The entity whose turn it is. -/
def entity : Turn X C R → String
  | .activate entity => entity
  | .submit entity _ _ => entity

variable [HasKind R] (engine : Engine S C E R) (note : String → Notice → X → X)

/-- Takes a turn, given the live handle of its entity. An activation that fails hands out the stopped
handle, if there is one. -/
def take (turn : Turn X C R) (live : Option (Handle S C E)) (w : LogWorld X E) :
    Taken X S C E R :=
  match turn with
  | .activate entity =>
    match engine.activate (LogWorld.host note none) entity w with
    | (.active handle, w) => ⟨.activated (.ok ()), some handle, w⟩
    | (.stopped handle failure, w) => ⟨.activated (.error failure), some handle, w⟩
    | (.failed fault, w) => ⟨.activated (.error (.fault fault)), live, w⟩
  | .submit _ request refusal =>
    match live with
    | none => ⟨.absent, none, w⟩
    | some handle =>
      let r := engine.submit (LogWorld.host note refusal) handle (request.besideLog E) w
      ⟨.submitted r.result, some r.handle, r.world⟩

/-- The handle is named as the behavior names the entity. -/
def Named (entity : String) (live : Option (Handle S C E)) : Prop :=
  ∀ handle ∈ live, handle.persistenceId = engine.behavior.persistenceId entity

variable {engine} (turn : Turn X C R) {live live' : Option (Handle S C E)} {v w : LogWorld X E}

theorem named_take (named : Named engine turn.entity live) :
    Named engine turn.entity (turn.take engine note live w).live := by
  cases turn with
  | activate entity =>
    unfold take Engine.activate
    dsimp only
    cases Replay.replay engine.behavior _ none with
    | ok recovered => rintro handle ⟨⟩; rfl
    | error failure =>
      cases failure with
      | illegalFold => rintro handle ⟨⟩; rfl
      | fault => exact named
  | submit entity request refusal =>
    cases live with
    | none => exact named
    | some handle =>
      rintro after ⟨⟩
      exact (engine.submit_log note refusal request handle w).1.trans (named handle rfl)

variable {kind : LogKind E} {entity : String}

/-- A turn of another entity leaves the strand alone. -/
theorem take_other {strand : Strand E}
    (has : Has (engine.behavior.persistenceId entity) kind w.log strand)
    (other : turn.entity ≠ entity) (named : Named engine turn.entity live) :
    Has (engine.behavior.persistenceId entity) kind (turn.take engine note live w).world.log
      strand := by
  cases turn with
  | activate name =>
    unfold take Engine.activate
    dsimp only
    cases Replay.replay engine.behavior _ none with
    | ok recovered => exact has
    | error failure => cases failure <;> exact has
  | submit name request refusal =>
    cases live with
    | none => exact has
    | some handle =>
      refine engine.submit_other note refusal request has ?_
      rw [named handle rfl, ne_eq, engine.behavior.persistenceId_inj]
      exact other

/-- A turn of the entity comes out the same on logs with the same strand. -/
theorem take_own (same : Same (engine.behavior.persistenceId turn.entity) kind v.log w.log)
    (alike : live'.map Handle.unnumbered = live.map Handle.unnumbered) :
    (turn.take engine note live' w).answer = (turn.take engine note live v).answer ∧
      (turn.take engine note live' w).live.map Handle.unnumbered =
        (turn.take engine note live v).live.map Handle.unnumbered ∧
      Same (engine.behavior.persistenceId turn.entity) kind
        (turn.take engine note live v).world.log (turn.take engine note live' w).world.log := by
  cases turn with
  | activate entity =>
    -- Both replays go through the same strand, so they differ in the last number at most.
    obtain ⟨strand, left, right⟩ := id same
    have replayed := Replay.replay_of_has engine.behavior left right
    unfold take Engine.activate
    dsimp only [LogWorld.host, Host.ofLog, Engine.fresh, Turn.entity] at replayed ⊢
    generalize Replay.replay engine.behavior (v.log.read _ 0) none = a at replayed
    generalize Replay.replay engine.behavior (w.log.read _ 0) none = b at replayed
    rcases a with failure | recovered <;> rcases b with failure' | recovered' <;>
      simp only [Except.map, Except.error.injEq, Except.ok.injEq, reduceCtorEq] at replayed
    · subst replayed
      cases failure with
      | illegalFold => exact ⟨rfl, rfl, same⟩
      | fault => exact ⟨rfl, alike, same⟩
    · obtain ⟨state, applied, seq⟩ := recovered
      obtain ⟨state', applied', seq'⟩ := recovered'
      simp only [Recovered.unnumbered, Recovered.mk.injEq] at replayed
      obtain ⟨rfl, rfl, -⟩ := replayed
      exact ⟨rfl, rfl, same⟩
  | submit entity request refusal =>
    rcases live with _ | handle <;> rcases live' with _ | handle'
    · exact ⟨rfl, rfl, same⟩
    · cases alike
    · cases alike
    · obtain ⟨seq, rfl⟩ := Handle.exists_numbered (Option.some.inj alike)
      obtain ⟨result, handle, same⟩ := engine.submit_twins note refusal request same handle seq
      exact ⟨congrArg Answer.submitted result, congrArg some handle, same⟩

end Turn

/-! ## Sessions -/

/-- What the caller of a turn sees: the answer, and the live handle after it. -/
structure Seen (S C E R : Type) where
  entity : String
  answer : Answer S E R
  live : Option (Handle S C E)

/-- What the caller sees, but for sequence numbers. -/
def Seen.unnumbered {S C E R : Type} (seen : Seen S C E R) : Seen S C E R :=
  { seen with live := seen.live.map Handle.unnumbered }

/-- Entities at work on one log, each with a single live handle. -/
structure SharedSession (X S C E R : Type) where
  world : LogWorld X E
  /-- The live handles of the entities that have one. -/
  live : String → Option (Handle S C E) := fun _ => none
  /-- What was seen of the turns, in order. -/
  history : List (Seen S C E R) := []

namespace SharedSession

variable {X S C E R : Type} [HasFields E] [HasKind S] [HasKind R] [CommandType C R]
  (engine : Engine S C E R) (note : String → Notice → X → X)

/-- The session that begins with a new log. -/
def start (kind : LogKind E) (path : String) (outside : X) : SharedSession X S C E R where
  world := ⟨kind.new path, outside⟩

/-- Takes a turn. -/
def step (s : SharedSession X S C E R) (turn : Turn X C R) : SharedSession X S C E R :=
  let taken := turn.take engine note (s.live turn.entity) s.world
  { world := taken.world
    live := Function.update s.live turn.entity taken.live
    history := s.history ++ [⟨turn.entity, taken.answer, taken.live⟩] }

/-- Takes turns, one after the other. -/
def run (s : SharedSession X S C E R) (turns : List (Turn X C R)) : SharedSession X S C E R :=
  turns.foldl (step engine note) s

/-- What is seen of turns is seen of each of them, in order. -/
theorem entities_run (s : SharedSession X S C E R) (turns : List (Turn X C R)) :
    (s.run engine note turns).history.map (·.entity) =
      s.history.map (·.entity) ++ turns.map Turn.entity := by
  induction turns generalizing s with
  | nil => exact (List.append_nil _).symm
  | cons turn turns ih =>
    refine (ih (s.step engine note turn)).trans ?_
    rw [step]
    simp only [List.map_append, List.map_cons, List.map_nil, List.append_assoc, List.cons_append,
      List.nil_append]

/-- A session next to one with the turns of one entity only. -/
structure Alongside (kind : LogKind E) (entity : String) (s alone : SharedSession X S C E R) :
    Prop where
  same : Same (engine.behavior.persistenceId entity) kind s.world.log alone.world.log
  live : (alone.live entity).map Handle.unnumbered = (s.live entity).map Handle.unnumbered
  seen : alone.history.map Seen.unnumbered =
    (s.history.filter (·.entity == entity)).map Seen.unnumbered
  named : ∀ name, Turn.Named engine name (s.live name)

variable {engine} {kind : LogKind E} {entity : String} {s alone : SharedSession X S C E R}
  {turn : Turn X C R}

theorem named_step (named : ∀ name, Turn.Named engine name (s.live name)) (turn : Turn X C R)
    (name : String) : Turn.Named engine name ((s.step engine note turn).live name) := by
  rw [step]
  dsimp only
  by_cases own : name = turn.entity
  · subst own
    rw [Function.update_self]
    exact turn.named_take note (named turn.entity)
  · rw [Function.update_of_ne own]
    exact named name

/-- A turn of the entity is taken in both sessions. -/
theorem Alongside.own (h : Alongside engine kind entity s alone) (own : turn.entity = entity) :
    Alongside engine kind entity (s.step engine note turn) (alone.step engine note turn) := by
  subst own
  obtain ⟨answer, live, same⟩ := turn.take_own note h.same h.live
  refine ⟨same, ?_, ?_, named_step note h.named turn⟩
  · rw [step, step]
    dsimp only
    rw [Function.update_self, Function.update_self]
    exact live
  · rw [step, step]
    dsimp only
    rw [List.map_append, List.filter_append, List.map_append, h.seen]
    refine congrArg _ ?_
    simp only [List.filter_cons, beq_self_eq_true, if_true, List.filter_nil, List.map_cons,
      List.map_nil, Seen.unnumbered, answer, live]

/-- A turn of another entity is not noticed. -/
theorem Alongside.other (h : Alongside engine kind entity s alone) (other : turn.entity ≠ entity) :
    Alongside engine kind entity (s.step engine note turn) alone := by
  obtain ⟨strand, here, there⟩ := h.same
  refine ⟨⟨strand, turn.take_other note here other (h.named _), there⟩, ?_, ?_,
    named_step note h.named turn⟩
  · rw [step]
    dsimp only
    rw [Function.update_of_ne other.symm]
    exact h.live
  · rw [step]
    dsimp only
    rw [List.filter_append, List.filter_cons_of_neg (by simpa using other), List.filter_nil,
      List.append_nil]
    exact h.seen

theorem Alongside.run (h : Alongside engine kind entity s alone) (turns : List (Turn X C R)) :
    Alongside engine kind entity (s.run engine note turns)
      (alone.run engine note (turns.filter (·.entity == entity))) := by
  induction turns generalizing s alone with
  | nil => exact h
  | cons turn turns ih =>
    by_cases own : turn.entity = entity
    · rw [List.filter_cons_of_pos (by simpa using own)]
      exact ih (h.own note own)
    · rw [List.filter_cons_of_neg (by simpa using own)]
      exact ih (h.other note own)

/-- Whatever the turns of other entities are: what is seen of one entity that shares a log with them,
the answer to each of its turns and its handle after it, is what is seen when it takes the same turns
alone on a log of its own, but for sequence numbers. -/
theorem entity_isolated (engine : Engine S C E R) (note : String → Notice → X → X)
    (kind : LogKind E) (path path' : String) (outside outside' : X) (turns : List (Turn X C R))
    (entity : String) :
    ((start kind path outside).run engine note turns).history.map (·.entity) =
        turns.map Turn.entity ∧
      (((start kind path outside).run engine note turns).history.filter
          (·.entity == entity)).map Seen.unnumbered =
        ((start kind path' outside').run engine note
          (turns.filter (·.entity == entity))).history.map Seen.unnumbered := by
  have begun : Alongside engine kind entity (start kind path outside : SharedSession X S C E R)
      (start kind path' outside') :=
    ⟨⟨[], has_new _ kind path, has_new _ kind path'⟩, rfl, rfl, fun _ _ none => by cases none⟩
  exact ⟨entities_run engine note _ turns, (begun.run note turns).seen.symm⟩

end SharedSession

end EventLedger
