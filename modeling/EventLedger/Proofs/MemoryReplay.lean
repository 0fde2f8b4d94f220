import EventLedger.Log.Memory
import EventLedger.Replay

/-!
# Replay of the log in memory

Replaying all records is one fold of their events: `Replay.resume_records`. In a log in memory that
is `Numbered` (every record at the place that its sequence number names, as appends leave it), the
records of an entity are the log without the others (`MemoryLog.entries`), and an append adds its
events to those of its own entity only (`entries_append`).
-/

namespace EventLedger

namespace Replay

variable {S E : Type}

/-- The sequence number of the last of some records, or `before` if there is none. -/
def lastSeq (before : Seq) (records : List (Record E)) : Seq :=
  (records.getLast?.map Record.seq).getD before

theorem lastSeq_cons (before : Seq) (record : Record E) (records : List (Record E)) :
    lastSeq before (record :: records) = lastSeq record.seq records := by
  cases records with
  | nil => rfl
  | cons next records => simp [lastSeq, List.getLast?_cons]

theorem lastSeq_append (before : Seq) (records more : List (Record E)) :
    lastSeq before (records ++ more) = lastSeq (lastSeq before records) more := by
  induction records generalizing before with
  | nil => rfl
  | cons record records ih => rw [List.cons_append, lastSeq_cons, ih, lastSeq_cons]

variable [HasKind S] [HasKind E]

/-- Replaying records to their end folds their events, counts them and keeps the last sequence
number. -/
theorem resume_records (applier : Applier S E) (recovered : Recovered S)
    (records : List (Record E)) :
    resume applier none none recovered records =
      (applier.fold recovered.state (records.map Record.event)).map fun state =>
        ⟨state, recovered.applied + records.length, lastSeq recovered.lastSeq records⟩ := by
  induction records generalizing recovered with
  | nil => rfl
  | cons record records ih =>
    rw [resume, List.map_cons, Applier.fold_cons, lastSeq_cons]
    simp only [Option.any_none, Bool.false_eq_true, if_false]
    cases applier.apply recovered.state record.event with
    | error failure => rfl
    | ok state =>
      refine (ih _).trans ?_
      rw [List.length_cons, Nat.add_assoc, Nat.add_comm 1]
      rfl

theorem resume_fault (applier : Applier S E) (fault : Fault) (recovered : Recovered S)
    (records : List (Record E)) :
    ∃ failure, resume applier none (some fault) recovered records = .error failure := by
  induction records generalizing recovered with
  | nil => exact ⟨.fault fault, rfl⟩
  | cons record records ih =>
    rw [resume]
    simp only [Option.any_none, Bool.false_eq_true, if_false]
    cases applier.apply recovered.state record.event with
    | error failure => exact ⟨failure, rfl⟩
    | ok state => exact ih _

/-- A replay that succeeds has folded the events of all records. -/
theorem folded_of_replay {C R : Type} {behavior : Behavior S C E R} {reading : Reading E}
    {recovered : Recovered S} (replayed : replay behavior reading none = .ok recovered) :
    behavior.applier.fold behavior.emptyState (reading.records.map Record.event) =
      .ok recovered.state := by
  rw [replay] at replayed
  cases stops : reading.fault with
  | some fault =>
    rw [stops] at replayed
    obtain ⟨failure, fails⟩ := resume_fault behavior.applier fault
      { state := behavior.emptyState } reading.records
    cases replayed.symm.trans fails
  | none =>
    rw [stops, resume_records] at replayed
    cases folded : behavior.applier.fold behavior.emptyState (reading.records.map Record.event) with
    | error failure => rw [folded] at replayed; cases replayed
    | ok state => rw [folded] at replayed; cases replayed; rfl

/-- Replaying more records goes on from what the records before them gave. -/
theorem resume_append (applier : Applier S E) (recovered : Recovered S)
    (records more : List (Record E)) :
    resume applier none none recovered (records ++ more) =
      resume applier none none recovered records >>= fun recovered =>
        resume applier none none recovered more := by
  rw [resume_records, resume_records, List.map_append, Applier.fold_append]
  cases applier.fold recovered.state (records.map Record.event) with
  | error failure => rfl
  | ok state =>
    refine Eq.trans ?_ (resume_records applier _ more).symm
    rw [List.length_append, lastSeq_append, ← Nat.add_assoc]
    rfl

end Replay

/-! ## The records of an entity -/

namespace MemoryLog

variable {E : Type}

/-- Every record is at the place that its sequence number names. -/
def Numbered (log : MemoryLog E) : Prop :=
  ∀ (i : Nat) (record : Record E), log.records[i]? = some record → record.seq = .whole i

/-- The records of one entity, in order. -/
def entries (log : MemoryLog E) (entity : String) : List (Record E) :=
  log.records.filter fun record => record.entity == entity

/-- The log with events of one entity behind it. -/
def extend (log : MemoryLog E) (entity : String) (events : List E) : MemoryLog E :=
  ⟨log.records ++ recordsFrom entity log.records.length events⟩

theorem numbered_empty : Numbered ({} : MemoryLog E) := by
  intro i record h
  simp at h

theorem recordsFrom_getElem? (entity : String) (base : Nat) (events : List E) (i : Nat) :
    (recordsFrom entity base events)[i]? =
      events[i]?.map fun event => ⟨entity, .whole (base + i), event⟩ :=
  List.getElem?_mapIdx ..

theorem recordsFrom_cons (entity : String) (base : Nat) (event : E) (events : List E) :
    recordsFrom entity base (event :: events) =
      ⟨entity, .whole base, event⟩ :: recordsFrom entity (base + 1) events := by
  simp [recordsFrom, List.mapIdx_cons, Int.add_assoc, Int.add_comm 1]

@[simp] theorem length_recordsFrom (entity : String) (base : Nat) (events : List E) :
    (recordsFrom entity base events).length = events.length :=
  List.length_mapIdx ..

theorem entity_of_mem_recordsFrom {entity : String} {base : Nat} {events : List E}
    {record : Record E} (h : record ∈ recordsFrom entity base events) : record.entity = entity := by
  obtain ⟨i, -, rfl⟩ := List.mem_mapIdx.1 h
  rfl

@[simp] theorem map_event_recordsFrom (entity : String) (base : Nat) (events : List E) :
    (recordsFrom entity base events).map Record.event = events := by
  refine List.ext_getElem? fun i => ?_
  rw [List.getElem?_map, recordsFrom_getElem?, Option.map_map]
  exact Option.map_id' ..

theorem Numbered.extend {log : MemoryLog E} (h : log.Numbered) (entity : String)
    (events : List E) : (log.extend entity events).Numbered := by
  intro i record hi
  rw [MemoryLog.extend] at hi
  by_cases old : i < log.records.length
  · rw [List.getElem?_append_left old] at hi
    exact h i record hi
  · rw [List.getElem?_append_right (Nat.le_of_not_lt old), recordsFrom_getElem?] at hi
    obtain ⟨event, -, rfl⟩ := Option.map_eq_some_iff.1 hi
    simp only [Seq.whole.injEq]
    omega

/-- Reading a numbered log from its start yields the records of the entity, and no fault. -/
theorem read_of_numbered {log : MemoryLog E} (h : log.Numbered) (entity : String) :
    log.read entity 0 = { records := log.entries entity } := by
  refine congrArg (fun records => ({ records := records } : Reading E)) ?_
  refine List.filter_congr fun record mem => ?_
  obtain ⟨i, hi⟩ := List.getElem?_of_mem mem
  simp [h i record hi]

theorem append_eq {log : MemoryLog E} {events : List E} (nonempty : events ≠ []) (entity : String) :
    log.append entity events =
      (.ok ⟨recordsFrom entity log.records.length events⟩, log.extend entity events) := by
  simp only [append, List.isEmpty_iff, nonempty, if_false, extend]

theorem entries_extend_self (log : MemoryLog E) (entity : String) (events : List E) :
    (log.extend entity events).entries entity =
      log.entries entity ++ recordsFrom entity log.records.length events := by
  rw [entries, extend, List.filter_append, entries]
  refine congrArg _ (List.filter_eq_self.2 fun record mem => ?_)
  simp [entity_of_mem_recordsFrom mem]

theorem entries_extend_of_ne (log : MemoryLog E) {entity other : String} (h : other ≠ entity)
    (events : List E) : (log.extend other events).entries entity = log.entries entity := by
  rw [entries, extend, List.filter_append, entries]
  refine (congrArg _ (List.filter_eq_nil_iff.2 fun record mem => ?_)).trans (List.append_nil _)
  simp [entity_of_mem_recordsFrom mem, h]

end MemoryLog

/-- The receipt for events ends with the last of their records. -/
theorem Receipt.lastSeq_recordsFrom {E : Type} {entity : String} {base : Nat} {events : List E}
    (nonempty : events ≠ []) (before : Seq) :
    (Receipt.mk (MemoryLog.recordsFrom entity base events)).lastSeq =
      Replay.lastSeq before (MemoryLog.recordsFrom entity base events) := by
  rw [Receipt.lastSeq, Replay.lastSeq]
  cases last : (MemoryLog.recordsFrom entity base events).getLast? with
  | some record => rfl
  | none =>
    have empty := congrArg List.length (List.getLast?_eq_none_iff.1 last)
    rw [MemoryLog.length_recordsFrom] at empty
    exact absurd (List.length_eq_zero_iff.1 empty) nonempty

/-- Replaying an entity of a numbered log replays its records. -/
theorem Replay.replay_numbered {S C E R : Type} [HasKind S] [HasKind E] (behavior : Behavior S C E R)
    {log : MemoryLog E} (numbered : log.Numbered) (entity : String) :
    Replay.replay behavior (log.read entity 0) none =
      Replay.resume behavior.applier none none { state := behavior.emptyState }
        (log.entries entity) := by
  rw [MemoryLog.read_of_numbered numbered]; rfl

end EventLedger
