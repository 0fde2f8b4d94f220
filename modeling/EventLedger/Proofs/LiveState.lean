import EventLedger.Account.Tables
import EventLedger.Proofs.Lists
import EventLedger.Proofs.Session

/-!
# Live state and recovered state

A handle `Follows` a log if replaying its entity gives its state, its count of events and its last
sequence number. An activation returns a handle that follows; a submission keeps that for its own
handle (`Change.follows`), and for the handles of other entities (`Change.follows_of_ne`). So
throughout a session every handle follows, as long as no other handle of its entity has stored
events since it was activated (`Overtaken`): `replay_eq_live`.
-/

namespace EventLedger

variable {X S C E R : Type} [HasKind S] [HasKind E]

/-- Replaying the entity of the handle gives what the handle holds. -/
def Handle.Follows (handle : Handle S C E) (behavior : Behavior S C E R) (log : MemoryLog E) :
    Prop :=
  Replay.replay behavior (log.read (behavior.persistenceId handle.entity) 0) none =
    .ok ⟨handle.state, handle.applied, handle.lastSeq⟩

variable (behavior : Behavior S C E R) {log : MemoryLog E} {handle : Handle S C E}

/-- A handle that follows the log follows it after its events were stored. -/
theorem Handle.Follows.commit (follows : handle.Follows behavior log) (numbered : log.Numbered)
    (named : handle.persistenceId = behavior.persistenceId handle.entity) {events : List E}
    (nonempty : events ≠ []) {state : S}
    (folded : behavior.applier.fold handle.state events = .ok state) :
    (handle.commit state events
      ⟨MemoryLog.recordsFrom handle.persistenceId log.records.length events⟩).Follows behavior
        (log.extend handle.persistenceId events) := by
  have before : Replay.resume behavior.applier none none { state := behavior.emptyState }
      (log.entries handle.persistenceId) = .ok ⟨handle.state, handle.applied, handle.lastSeq⟩ := by
    rw [named, ← Replay.replay_numbered behavior numbered]; exact follows
  have stored : Replay.resume behavior.applier none none
      { state := behavior.emptyState }
      ((log.extend handle.persistenceId events).entries handle.persistenceId) =
      .ok ⟨state, handle.applied + events.length, Replay.lastSeq handle.lastSeq
        (MemoryLog.recordsFrom handle.persistenceId log.records.length events)⟩ := by
    rw [MemoryLog.entries_extend_self, Replay.resume_append, before]
    refine (Replay.resume_records ..).trans ?_
    rw [MemoryLog.map_event_recordsFrom, folded, MemoryLog.length_recordsFrom]
    rfl
  rw [Handle.Follows, Replay.replay_numbered behavior (numbered.extend _ _)]
  show Replay.resume _ _ _ _ (MemoryLog.entries _ (behavior.persistenceId handle.entity)) = _
  rw [← named, stored]
  simp only [Handle.commit, Receipt.lastSeq_recordsFrom nonempty handle.lastSeq]

/-- Events of another entity do not matter. -/
theorem Handle.Follows.extend_of_ne (follows : handle.Follows behavior log)
    (numbered : log.Numbered) {other : String} (h : other ≠ behavior.persistenceId handle.entity)
    (events : List E) : handle.Follows behavior (log.extend other events) := by
  rw [Handle.Follows, Replay.replay_numbered behavior (numbered.extend _ _),
    MemoryLog.entries_extend_of_ne log h, ← Replay.replay_numbered behavior numbered]
  exact follows

namespace Session

variable [CommandType C R] {engine : Engine S C E R}

/-- The handle of a submission follows the log as before. -/
theorem Change.follows {command : C} {after : Handle S C E} {log' : MemoryLog E}
    (h : Change engine handle command log after log') (numbered : log.Numbered)
    (named : handle.persistenceId = engine.behavior.persistenceId handle.entity)
    (follows : handle.Follows engine.behavior log) : after.Follows engine.behavior log' := by
  cases h with
  | none => exact follows
  | stopped => exact follows
  | stored emits folded => exact follows.commit _ numbered named emits.1 folded

/-- A handle of another entity follows the log as before. -/
theorem Change.follows_of_ne {command : C} {after : Handle S C E} {log' : MemoryLog E}
    (h : Change engine handle command log after log') (numbered : log.Numbered)
    (named : handle.persistenceId = engine.behavior.persistenceId handle.entity)
    {other : Handle S C E} (ne : other.entity ≠ handle.entity)
    (follows : other.Follows engine.behavior log) : other.Follows engine.behavior log' := by
  cases h with
  | none => exact follows
  | stopped => exact follows
  | stored =>
    refine follows.extend_of_ne _ numbered ?_ _
    rw [named, Ne, Behavior.persistenceId_inj]
    exact ne.symm

variable [HasKind R] (note : String → Notice → X → X)

/-- A step other than a submission to a handle of the same entity that changes the log keeps a
handle following the log. -/
theorem step_follows {s : Session X S C E R} (sound : s.Sound engine) {i : Nat}
    {next : Step X C R}
    (before : ∀ handle, s.handles[i]? = some handle → handle.Follows engine.behavior s.world.log)
    (kept : ∀ j request refusal handle other, next = .submit j request refusal → j ≠ i →
      s.handles[i]? = some handle → s.handles[j]? = some other → other.entity = handle.entity →
      (s.step engine note next).world.log = s.world.log)
    (found : (s.step engine note next).handles[i]? = some handle) :
    handle.Follows engine.behavior (s.step engine note next).world.log := by
  cases next with
  | activate entity =>
    obtain ⟨log, -, same | ⟨recovered, replayed, more⟩⟩ := s.activate_cases engine note entity
    · rw [Session.step, same] at found
      rw [Session.step, log]; exact before handle found
    · rw [Session.step, more] at found
      rw [Session.step, log]
      obtain old | ⟨-, rfl⟩ := of_getElem?_concat found
      · exact before handle old
      · exact replayed
  | submit j request refusal =>
    rw [Session.step] at found kept ⊢
    cases there : s.handles[j]? with
    | none =>
      rw [submit_of_no_handle engine note there] at found ⊢
      exact before handle found
    | some other =>
      have change := s.submit_change engine note other request refusal
      have named := sound.named other (List.mem_of_getElem? there)
      rw [submit_of_handle engine note there] at found kept ⊢
      by_cases own : j = i
      · subst own
        rw [List.getElem?_set_self (List.getElem?_eq_some_iff.1 there).1] at found
        cases found
        exact change.follows sound.numbered named (before other there)
      · rw [List.getElem?_set_ne own] at found
        by_cases same : other.entity = handle.entity
        · have log := kept j request refusal handle other rfl own found there same
          rw [log]; exact before handle found
        · exact change.follows_of_ne sound.numbered named (Ne.symm same) (before handle found)

/-! ## Runs -/

variable (engine)

/-- Since the handle with a number was activated, another handle of its entity has stored events. -/
def Overtaken (s : Session X S C E R) (steps : List (Step X C R)) (i : Nat) : Prop :=
  ∃ before j request refusal after handle other,
    steps = before ++ Step.submit j request refusal :: after ∧ j ≠ i ∧
      (s.run engine note before).handles[i]? = some handle ∧
      (s.run engine note before).handles[j]? = some other ∧ other.entity = handle.entity ∧
      ((s.run engine note before).step engine note (.submit j request refusal)).world.log ≠
        (s.run engine note before).world.log

variable {engine}

theorem Overtaken.concat {s : Session X S C E R} {steps : List (Step X C R)} {i : Nat}
    (h : s.Overtaken engine note steps i) (next : Step X C R) :
    s.Overtaken engine note (steps ++ [next]) i := by
  obtain ⟨before, j, request, refusal, after, handle, other, rfl, rest⟩ := h
  exact ⟨before, j, request, refusal, after ++ [next], handle, other, by simp, rest⟩

/-- If only the handle itself is given commands, nothing overtakes it. -/
theorem not_overtaken_of_own {s : Session X S C E R} {steps : List (Step X C R)} {i : Nat}
    (own : ∀ j request refusal, Step.submit j request refusal ∈ steps → j = i) :
    ¬ s.Overtaken engine note steps i := by
  rintro ⟨before, j, request, refusal, after, -, -, rfl, ne, -⟩
  exact ne (own j request refusal (by simp))

theorem follows_run {s : Session X S C E R} (sound : s.Sound engine) (fresh : s.handles = [])
    (steps : List (Step X C R)) {i : Nat} (current : ¬ s.Overtaken engine note steps i)
    {handle : Handle S C E} (found : (s.run engine note steps).handles[i]? = some handle) :
    handle.Follows engine.behavior (s.run engine note steps).world.log := by
  induction steps using List.reverseRecOn generalizing handle with
  | nil => simp [fresh] at found
  | append_singleton steps next ih =>
    have before : ¬ s.Overtaken engine note steps i := fun overtaken =>
      current (overtaken.concat note next)
    rw [run_concat] at found ⊢
    refine step_follows note (sound.run note steps) (fun _ => ih before) ?_ found
    rintro j request refusal handle other rfl ne own there same
    by_contra changed
    exact current
      ⟨steps, j, request, refusal, [], handle, other, rfl, ne, own, there, same, changed⟩

/-- In a session over a log in memory, whatever handlers, channels and refused appends do: replaying
the entity of a handle gives exactly its state, its count of events and its last sequence number,
unless another handle of the entity has stored events since the handle was activated. An activation
itself changes neither the log nor the handles that are there. -/
theorem replay_eq_live (engine : Engine S C E R) (note : String → Notice → X → X)
    (log : MemoryLog E) (numbered : log.Numbered) (outside : X) (steps : List (Step X C R)) :
    let s : Session X S C E R := (start log outside).run engine note steps
    (∀ i handle, s.handles[i]? = some handle → ¬ (start log outside).Overtaken engine note steps i →
      Replay.replay engine.behavior
          (s.world.log.read (engine.behavior.persistenceId handle.entity) 0) none =
        .ok ⟨handle.state, handle.applied, handle.lastSeq⟩) ∧
    ∀ entity, (s.activate engine note entity).world.log = s.world.log ∧
      s.handles <+: (s.activate engine note entity).handles := by
  intro s
  have sound : (start log outside : Session X S C E R).Sound engine := ⟨numbered, by simp [start]⟩
  refine ⟨fun i handle found current => follows_run note sound rfl steps current found, ?_⟩
  intro entity
  obtain ⟨same, -, handles | ⟨recovered, -, handles⟩⟩ := s.activate_cases engine note entity
  · exact ⟨same, handles ▸ List.prefix_rfl⟩
  · exact ⟨same, handles ▸ List.prefix_append ..⟩

section

open Account

/-- An account is created for a caller whose channel fails, its closing is not stored, and a second
handle of it is activated. -/
def createdSteps : List (Step Unit Command Reply) :=
  let channel : Channel Unit Reply := fun _ x => (some "caller went away", x)
  [.activate "a", .submit 0 (.via channel (.operation .create)) none,
    .submit 0 (.via channel (.operation .close)) (some (.device "disk full")),
    .activate "a"]

/-- `replay_eq_live` for the handle of an account that was created, but could not be closed. -/
theorem replay_eq_live_created :
    let engine : Engine State Command Event Reply := ⟨Account.behavior .unhandled, .log⟩
    let note : String → Notice → Unit → Unit := fun _ _ x => x
    let s := (start {} ()).run engine note createdSteps
    ({} : MemoryLog Event).Numbered ∧ ¬ (start {} ()).Overtaken engine note createdSteps 0 ∧
      Replay.replay engine.behavior
          (s.world.log.read (engine.behavior.persistenceId "a") 0) none =
        .ok ⟨.opened .zero, 1, .whole 0⟩ := by
  intro engine note s
  have current : ¬ (start {} ()).Overtaken engine note createdSteps 0 := by
    refine not_overtaken_of_own note fun j request refusal mem => ?_
    simp only [createdSteps, List.mem_cons, List.not_mem_nil, reduceCtorEq, Step.submit.injEq,
      false_or, or_false] at mem
    rcases mem with ⟨rfl, -⟩ | ⟨rfl, -⟩ <;> rfl
  refine ⟨MemoryLog.numbered_empty, current, ?_⟩
  exact (replay_eq_live engine note {} MemoryLog.numbered_empty () createdSteps).1 0
    { entity := "a", persistenceId := "Account|a", state := .opened .zero, mode := .active,
      applied := 1, lastSeq := .whole 0 } rfl current

end

end Session

end EventLedger
