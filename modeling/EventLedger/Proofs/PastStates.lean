import Mathlib.Data.List.Basic
import EventLedger.Proofs.Lists
import EventLedger.Proofs.LiveState

/-!
# Past states

A log in memory only grows (`Session.records_run`), and the numbers of an entity's records increase,
though the numbers in between belong to others (`MemoryLog.Numbered.entries_split`). So replaying an
entity up to the last number that its handle had at some moment of a session gives what the handle
held then, whatever was stored afterwards: `Session.replay_upTo_past`.
-/

namespace EventLedger

namespace Replay

variable {S E : Type} [HasKind S] [HasKind E]

/-- Replaying up to a number stops behind the records that are not above it. -/
theorem resume_upTo (applier : Applier S E) (recovered : Recovered S) {upTo : Int}
    {records more : List (Record E)} (within : ∀ record ∈ records, record.seq.isAbove upTo = false)
    (beyond : ∀ record ∈ more, record.seq.isAbove upTo = true) :
    resume applier (some upTo) none recovered (records ++ more) =
      resume applier none none recovered records := by
  induction records generalizing recovered with
  | nil =>
    cases more with
    | nil => rfl
    | cons record more =>
      have above : record.seq.isAbove upTo = true := beyond record List.mem_cons_self
      simp only [List.nil_append, resume, Option.any_some, above, if_true]
  | cons record records ih =>
    rw [List.forall_mem_cons] at within
    rw [List.cons_append, resume, resume]
    simp only [Option.any_some, within.1, Option.any_none, Bool.false_eq_true, if_false]
    cases applier.apply recovered.state record.event with
    | error failure => rfl
    | ok state => exact ih _ within.2

end Replay

namespace MemoryLog

variable {E : Type} {log : MemoryLog E}

/-- The numbers of the records increase. -/
theorem Numbered.pairwise (numbered : log.Numbered) :
    log.records.Pairwise fun record later =>
      ∃ i j : Nat, record.seq = .whole i ∧ later.seq = .whole j ∧ i < j := by
  rw [List.pairwise_iff_getElem]
  intro i j hi hj less
  exact ⟨i, j, numbered i _ (List.getElem?_eq_getElem hi),
    numbered j _ (List.getElem?_eq_getElem hj), less⟩

/-- The last number of an entity's records, which is one before all numbers if there are none, is
not below that of any of them, and below the number of the next record of the log. -/
theorem Numbered.lastSeq_entries (numbered : log.Numbered) (entity : String) :
    ∃ last : Int, Replay.lastSeq .beforeFirst (log.entries entity) = .whole last ∧
      last < log.records.length ∧
      ∀ record ∈ log.entries entity, record.seq.isAbove last = false := by
  have increasing := numbered.pairwise.filter (fun record => record.entity == entity)
  change (log.entries entity).Pairwise _ at increasing
  rcases List.eq_nil_or_concat' (log.entries entity) with none | ⟨front, final, split⟩
  · rw [none]
    exact ⟨-1, rfl, by omega, List.forall_mem_nil _⟩
  · have mem : final ∈ log.records := by
      refine List.mem_of_mem_filter (p := fun record => record.entity == entity) ?_
      show final ∈ log.entries entity
      rw [split]
      exact List.mem_append_right _ (List.mem_singleton_self final)
    obtain ⟨i, place⟩ := List.getElem?_of_mem mem
    have number : final.seq = .whole i := numbered i final place
    have within : i < log.records.length := (List.getElem?_eq_some_iff.1 place).1
    rw [split] at increasing ⊢
    refine ⟨i, ?_, by omega, fun record mem => ?_⟩
    · rw [Replay.lastSeq, List.getLast?_concat, Option.map_some, number]
      rfl
    · rcases List.mem_append.1 mem with earlier | same
      · obtain ⟨k, l, seq, seq', less⟩ := (List.pairwise_append.1 increasing).2.2 record earlier
          final (List.mem_singleton_self final)
        rw [number, Seq.whole.injEq] at seq'
        rw [seq, Seq.isAbove_whole, decide_eq_false]
        omega
      · rw [List.mem_singleton.1 same, number, Seq.isAbove_whole, decide_eq_false (Int.lt_irrefl _)]

/-- Behind a log, an entity's records are those that it has in the log, up to its last number there,
and records above that number. -/
theorem Numbered.entries_split {later : MemoryLog E} (numbered : log.Numbered)
    (numbered' : later.Numbered) (grown : log.records <+: later.records) (entity : String) :
    ∃ last more, Replay.lastSeq .beforeFirst (log.entries entity) = .whole last ∧
      later.entries entity = log.entries entity ++ more ∧
      (∀ record ∈ log.entries entity, record.seq.isAbove last = false) ∧
      ∀ record ∈ more, record.seq.isAbove last = true := by
  obtain ⟨last, number, below, within⟩ := numbered.lastSeq_entries entity
  obtain ⟨added, records⟩ := grown
  refine ⟨last, added.filter fun record => record.entity == entity, number, ?_, within,
    fun record mem => ?_⟩
  · rw [entries, ← records, List.filter_append, entries]
  · obtain ⟨i, place⟩ := List.getElem?_of_mem (List.mem_of_mem_filter mem)
    have place' : later.records[log.records.length + i]? = some record := by
      rw [← records, List.getElem?_append_right (Nat.le_add_right _ _), Nat.add_sub_cancel_left,
        place]
    rw [numbered' _ record place', Seq.isAbove_whole, decide_eq_true]
    omega

end MemoryLog

/-- A handle that follows a log follows every log that this one has grown to, up to the last number
that the handle has. -/
theorem Handle.Follows.upTo {S C E R : Type} [HasKind S] [HasKind E] {behavior : Behavior S C E R}
    {handle : Handle S C E} {log later : MemoryLog E} (follows : handle.Follows behavior log)
    (numbered : log.Numbered) (numbered' : later.Numbered)
    (grown : log.records <+: later.records) :
    ∃ last, handle.lastSeq = .whole last ∧
      Replay.replay behavior (later.read (behavior.persistenceId handle.entity) 0) (some last) =
        .ok ⟨handle.state, handle.applied, handle.lastSeq⟩ := by
  obtain ⟨last, more, number, entries, within, beyond⟩ :=
    numbered.entries_split numbered' grown (behavior.persistenceId handle.entity)
  rw [Handle.Follows, Replay.replay_numbered behavior numbered] at follows
  have seq : handle.lastSeq = .whole last := by
    have recovered := follows
    rw [Replay.resume_records] at recovered
    obtain ⟨state, -, same⟩ := exists_of_map_ok recovered
    rw [← number]
    exact congrArg Recovered.lastSeq same
  refine ⟨last, seq, ?_⟩
  rw [MemoryLog.read_of_numbered numbered', entries]
  exact (Replay.resume_upTo behavior.applier _ within beyond).trans follows

namespace Session

variable {X S C E R : Type} [HasKind S] [HasKind E] [CommandType C R] {engine : Engine S C E R}

/-- A submission keeps the records of the log. -/
theorem Change.records {handle after : Handle S C E} {command : C} {log log' : MemoryLog E}
    (h : Change engine handle command log after log') : log.records <+: log'.records := by
  cases h with
  | none => exact List.prefix_rfl
  | stopped => exact List.prefix_rfl
  | stored => exact List.prefix_append ..

variable [HasKind R] (note : String → Notice → X → X)

/-- A step keeps the records of the log. -/
theorem records_step (s : Session X S C E R) (next : Step X C R) :
    s.world.log.records <+: (s.step engine note next).world.log.records := by
  cases next with
  | activate entity =>
    obtain ⟨log, -⟩ := s.activate_cases engine note entity
    simp only [Session.step, log, List.prefix_rfl]
  | submit index request refusal =>
    rw [Session.step]
    cases found : s.handles[index]? with
    | none => simp only [submit_of_no_handle engine note found, List.prefix_rfl]
    | some handle =>
      rw [submit_of_handle engine note found]
      exact (s.submit_change engine note handle request refusal).records

/-- What is in the log stays there. -/
theorem records_run (s : Session X S C E R) (steps : List (Step X C R)) :
    s.world.log.records <+: (s.run engine note steps).world.log.records := by
  induction steps generalizing s with
  | nil => exact List.prefix_rfl
  | cons next steps ih => exact (s.records_step note next).trans (ih _)

/-! ## Replaying to a past number -/

/-- Whatever happens in a session over a log in memory after some moment of it, to the entity of a
handle or to others: replaying the entity up to the last number that the handle had at that moment
gives exactly the state, the count of events and the last number that the handle had then, unless
another handle of the entity had stored events before. -/
theorem replay_upTo_past (engine : Engine S C E R) (note : String → Notice → X → X)
    (log : MemoryLog E) (numbered : log.Numbered) (outside : X) (steps : List (Step X C R))
    (i : Nat) (current : ¬ (start log outside).Overtaken engine note steps i)
    (handle : Handle S C E)
    (found : ((start log outside).run engine note steps).handles[i]? = some handle)
    (more : List (Step X C R)) :
    ∃ last, handle.lastSeq = .whole last ∧
      Replay.replay engine.behavior
          (((start log outside).run engine note (steps ++ more)).world.log.read
            (engine.behavior.persistenceId handle.entity) 0) (some last) =
        .ok ⟨handle.state, handle.applied, handle.lastSeq⟩ := by
  have sound : (start log outside : Session X S C E R).Sound engine := ⟨numbered, by simp [start]⟩
  have before := sound.run note steps
  rw [run_append]
  have follows := follows_run note sound rfl steps current found
  exact follows.upTo before.numbered (before.run note more).numbered (records_run note _ more)

section

open Account

/-- `replay_upTo_past` for a new account, into which money is deposited later, after another account
was created. -/
theorem replay_upTo_past_created :
    let engine : Engine State Command Event Reply := ⟨Account.behavior .unhandled, .log⟩
    let note : String → Notice → Unit → Unit := fun _ _ x => x
    let channel : Channel Unit Reply := fun _ x => (none, x)
    let steps : List (Step Unit Command Reply) :=
      [.activate "a", .submit 0 (.via channel (.operation .create)) none]
    let more : List (Step Unit Command Reply) :=
      [.activate "b", .submit 1 (.via channel (.operation .create)) none,
        .submit 0 (.via channel (.operation (.deposit (.ofNat 5)))) none]
    let s := (start {} ()).run engine note (steps ++ more)
    ({} : MemoryLog Event).Numbered ∧ ¬ (start {} ()).Overtaken engine note steps 0 ∧
      s.world.log.size = 3 ∧
      Replay.replay engine.behavior
          (s.world.log.read (engine.behavior.persistenceId "a") 0) (some 0) =
        .ok ⟨.opened .zero, 1, .whole 0⟩ := by
  intro engine note channel steps more s
  have current : ¬ (start {} ()).Overtaken engine note steps 0 := by
    refine not_overtaken_of_own note fun j request refusal mem => ?_
    simp only [steps, List.mem_cons, List.not_mem_nil, reduceCtorEq, Step.submit.injEq, false_or,
      or_false] at mem
    exact mem.1
  let handle : Handle State Command Event :=
    { entity := "a", persistenceId := "Account|a", state := .opened .zero, mode := .active,
      applied := 1, lastSeq := .whole 0 }
  obtain ⟨last, number, replayed⟩ := replay_upTo_past engine note {} MemoryLog.numbered_empty ()
    steps 0 current handle rfl more
  cases number
  exact ⟨MemoryLog.numbered_empty, current, by decide +kernel, replayed⟩

end

end Session

end EventLedger
