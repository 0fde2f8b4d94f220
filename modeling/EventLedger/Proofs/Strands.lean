import EventLedger.Proofs.ReadableFile

/-!
# What a log has for one entity

A log in memory and a log in a file have the same thing to say of an entity: its `Strand`, the items
that a reader meets, each of them an event or the fault that stops the reader. What an append adds to
a strand, or why it fails, depends on nothing but the kind of the log and the events
(`LogKind.results`), and it adds to the strand of its own entity only (`Has.append`). A reader is told
what is on the strand (`Has.read`), and replaying it gives the same for all logs with this strand, but
for sequence numbers (`replay_unnumbered`).
-/

namespace EventLedger

/-- A log in memory or in a file. -/
inductive EventLog (E : Type) where
  | memory (log : MemoryLog E)
  | file (log : FileLog E)

/-- The kind of a log; one in a file has a codec. -/
inductive LogKind (E : Type) where
  | memory
  | file (codec : Codec E)

/-- What a reader meets for one entity, item by item. -/
abbrev Strand (E : Type) := List (Except Fault E)

variable {E : Type}

/-- A new log of a kind. A path is used only by a log in a file. -/
def LogKind.new (kind : LogKind E) (path : String) : EventLog E :=
  match kind with
  | .memory => .memory {}
  | .file codec => .file ⟨path, codec, FileLog.opened .missing⟩

namespace EventLog

/-- The records of one entity with sequence numbers from `start` on. -/
def read (log : EventLog E) (entity : String) (start : Int) : Reading E :=
  match log with
  | .memory log => log.read entity start
  | .file log => log.read entity start

/-- Appends events of one entity. -/
def append [HasFields E] (log : EventLog E) (entity : String) (events : List E) :
    Except Fault (Receipt E) × EventLog E :=
  match log with
  | .memory log =>
    let (answer, log) := log.append entity events
    (answer, .memory log)
  | .file log =>
    let (answer, log) := log.append entity events
    (answer, .file log)

end EventLog

/-- The event that a codec makes of a stored form. -/
def Codec.restore (codec : Codec E) (e : Stored) : Except Fault E :=
  codec.decode e.name e.payload

/-- The strand of an entity among stored forms. -/
def Codec.strand (codec : Codec E) (entity : String) (stored : List Stored) : Strand E :=
  (stored.filter (·.entity == entity)).map codec.restore

/-- What an append of events adds to the strand of its entity, or the fault that it fails with. -/
def LogKind.results [HasFields E] (kind : LogKind E) (entity : String) (events : List E) :
    Except Fault (Strand E) :=
  match kind with
  | .memory => .ok (events.map .ok)
  | .file codec => (FileLog.storedForms codec entity events).map (·.map codec.restore)

/-- An event whose stored form is a document adds what this form is decoded as. -/
theorem LogKind.results_of_encode [HasFields E] {codec : Codec E} (entity : String) {event : E}
    {name : String} {payload : Value} (encodes : codec.encode event = .ok (name, payload))
    (document : payload.Document) :
    (LogKind.file codec).results entity [event] = .ok [codec.decode name payload] := by
  rw [results, FileLog.storedForms, List.mapM_cons, encodes]
  show (FileLog.rereadAll entity [(name, payload)]).map _ = _
  rw [FileLog.rereadAll_cons, FileLog.restored_document entity name document]
  rfl

/-- A log of a kind has a strand for an entity. -/
inductive Has (entity : String) : LogKind E → EventLog E → Strand E → Prop
  | memory {log : MemoryLog E} (numbered : log.Numbered) :
    Has entity .memory (.memory log) ((log.entries entity).map fun record => .ok record.event)
  | file {path : String} {codec : Codec E} {content : List UInt8} {stored : List Stored}
    (carries : FileLog.Carries content stored) :
    Has entity (.file codec) (.file ⟨path, codec, .file content⟩) (codec.strand entity stored)

/-- A new log has an empty strand for every entity. -/
theorem has_new (entity : String) (kind : LogKind E) (path : String) :
    Has entity kind (kind.new path) [] := by
  cases kind with
  | memory => exact .memory MemoryLog.numbered_empty
  | file codec => exact .file FileLog.carries_empty

theorem entity_of_storedForms [HasFields E] {codec : Codec E} {entity : String} {events : List E}
    {stored : List Stored} (h : FileLog.storedForms codec entity events = .ok stored) :
    ∀ e ∈ stored, e.entity = entity := by
  obtain ⟨encoded, -, rereads⟩ := exists_of_bind_ok h
  refine forall_mem_of_forall₂ (forall₂_of_mapM rereads).flip fun e p restores => ?_
  have cases := FileLog.restored_cases entity p.1 p.2
  rw [restores] at cases
  cases cases
  rfl

theorem Codec.strand_append (codec : Codec E) {entity other : String} (stored : List Stored)
    {more : List Stored} (own : ∀ e ∈ more, e.entity = other) :
    codec.strand entity (stored ++ more) =
      codec.strand entity stored ++ if other = entity then more.map codec.restore else [] := by
  rw [strand, List.filter_append, List.map_append]
  refine congrArg (codec.strand entity stored ++ ·) ?_
  split
  next same =>
    rw [List.filter_eq_self.2 fun e mem => by simp [own e mem, same]]
  next other =>
    rw [List.filter_eq_nil_iff.2 fun e mem => by simp [own e mem, other]]
    rfl

theorem MemoryLog.strand_extend (log : MemoryLog E) (entity other : String) (events : List E) :
    ((log.extend other events).entries entity).map (fun record => (.ok record.event : Except Fault E)) =
      (log.entries entity).map (fun record => .ok record.event) ++
        if other = entity then events.map .ok else [] := by
  split
  next same =>
    subst same
    have events_eq := map_event_recordsFrom other log.records.length events
    rw [entries_extend_self, List.map_append]
    refine congrArg _ ?_
    conv_rhs => rw [← events_eq, List.map_map]
    rfl
  next other => rw [entries_extend_of_ne log other, List.append_nil]

/-- What an append to a log with a strand for an entity can do: it fails and changes nothing, or adds
its results to the strand of its own entity. -/
inductive AppendedTo [HasFields E] (entity : String) (kind : LogKind E) (log : EventLog E)
    (strand : Strand E) (other : String) (events : List E) :
    Except Fault (Receipt E) × EventLog E → Prop
  | failed {fault : Fault} (fails : kind.results other events = .error fault) :
    AppendedTo entity kind log strand other events (.error fault, log)
  | stored {more : Strand E} {receipt : Receipt E} {log' : EventLog E}
    (results : kind.results other events = .ok more)
    (has : Has entity kind log' (strand ++ if other = entity then more else [])) :
    AppendedTo entity kind log strand other events (.ok receipt, log')

theorem Has.append [HasFields E] {entity : String} {kind : LogKind E} {log : EventLog E}
    {strand : Strand E} (h : Has entity kind log strand) (other : String) {events : List E}
    (nonempty : events ≠ []) :
    AppendedTo entity kind log strand other events (log.append other events) := by
  cases h with
  | @memory log numbered =>
    rw [EventLog.append, MemoryLog.append_eq nonempty]
    refine .stored rfl ?_
    rw [← MemoryLog.strand_extend]
    exact .memory (numbered.extend _ _)
  | @file path codec content stored carries =>
    cases stores : FileLog.storedForms codec other events with
    | error fault =>
      rw [EventLog.append, FileLog.append_unwritten carries nonempty stores]
      exact .failed (by rw [LogKind.results, stores]; rfl)
    | ok more =>
      obtain ⟨content', appended, carries'⟩ :=
        @FileLog.append_carries other E _ path codec content stored events carries nonempty more stores
      have results : (LogKind.file codec).results other events = .ok (more.map codec.restore) := by
        rw [LogKind.results, stores]
        rfl
      rw [EventLog.append, appended]
      refine .stored results ?_
      rw [← codec.strand_append stored (entity_of_storedForms stores)]
      exact .file carries'

/-- The events up to the first fault, and the fault. -/
def Strand.told : Strand E → List E × Option Fault
  | [] => ([], none)
  | .ok event :: items => (event :: (told items).1, (told items).2)
  | .error fault :: _ => ([], some fault)

/-- What a reading tells, whatever the sequence numbers are. -/
def Reading.told (reading : Reading E) : List E × Option Fault :=
  (reading.records.map (·.event), reading.fault)

theorem Strand.told_map_ok (events : List E) : told (events.map .ok) = (events, none) := by
  induction events with
  | nil => rfl
  | cons event events ih => rw [List.map_cons, told, ih]

theorem Strand.mem_of_told {strand : Strand E} {event : E} (mem : event ∈ strand.told.1) :
    .ok event ∈ strand := by
  induction strand with
  | nil => cases mem
  | cons item items ih =>
    cases item with
    | error fault => cases mem
    | ok first =>
      rcases List.mem_cons.1 mem with rfl | mem
      · exact List.mem_cons_self
      · exact List.mem_cons_of_mem _ (ih mem)

theorem FileLog.told_readStored (codec : Codec E) (entity : String) (base : Nat)
    (stored : List Stored) :
    (readStored codec entity 0 base stored).told = (codec.strand entity stored).told := by
  induction stored generalizing base with
  | nil => rfl
  | cons e stored ih =>
    rw [readStored]
    by_cases own : e.entity = entity
    · have strand : codec.strand entity (e :: stored) =
          codec.restore e :: codec.strand entity stored := by
        simp only [Codec.strand, own, List.filter_cons, beq_self_eq_true, if_true, List.map_cons]
      rw [if_neg (not_or.2 ⟨by omega, not_not_intro own⟩), strand, Codec.restore]
      cases codec.decode e.name e.payload with
      | error fault => rfl
      | ok event => rw [Strand.told, ← ih (base + 1)]; rfl
    · have strand : codec.strand entity (e :: stored) = codec.strand entity stored := by
        simp only [Codec.strand, List.filter_cons, beq_eq_false_iff_ne.2 own, Bool.false_eq_true,
          if_false]
      rw [if_pos (.inr own), strand, ih]

/-- A reader is told what is on the strand. -/
theorem Has.read {entity : String} {kind : LogKind E} {log : EventLog E} {strand : Strand E}
    (h : Has entity kind log strand) : (log.read entity 0).told = strand.told := by
  cases h with
  | @memory log numbered =>
    have items : (log.entries entity).map (fun record => (.ok record.event : Except Fault E)) =
        ((log.entries entity).map (·.event)).map .ok := (List.map_map ..).symm
    rw [EventLog.read, MemoryLog.read_of_numbered numbered, items, Strand.told_map_ok]
    rfl
  | file carries =>
    rw [EventLog.read, FileLog.read_carries carries]
    exact FileLog.told_readStored ..

/-! ## Replay -/

/-- What is recovered, without the number of the last event. -/
def Recovered.unnumbered {S : Type} (recovered : Recovered S) : Recovered S :=
  { recovered with lastSeq := .beforeFirst }

namespace Replay

variable {S C R : Type} [HasKind S] [HasKind E]

theorem resume_unnumbered (applier : Applier S E) (fault : Option Fault)
    {records records' : List (Record E)}
    (same : records.map (·.event) = records'.map (·.event)) {a b : Recovered S}
    (alike : a.unnumbered = b.unnumbered) :
    (resume applier none fault a records).map Recovered.unnumbered =
      (resume applier none fault b records').map Recovered.unnumbered := by
  induction records generalizing records' a b with
  | nil =>
    cases records' with
    | nil =>
      cases fault with
      | some fault => rfl
      | none => exact congrArg Except.ok alike
    | cons => cases same
  | cons record records ih =>
    cases records' with
    | nil => cases same
    | cons record' records' =>
      obtain ⟨event, others⟩ := List.cons.inj same
      change record.event = record'.event at event
      have state := congrArg Recovered.state alike
      have applied := congrArg Recovered.applied alike
      change a.state = b.state at state
      change a.applied = b.applied at applied
      rw [resume, resume]
      simp only [Option.any_none, Bool.false_eq_true, if_false]
      rw [event, state]
      cases applier.apply b.state record'.event with
      | error failure => rfl
      | ok next => exact ih others (by rw [applied]; rfl)

/-- Readings that tell the same are replayed alike. -/
theorem replay_unnumbered (behavior : Behavior S C E R) {reading reading' : Reading E}
    (same : reading.told = reading'.told) :
    (replay behavior reading none).map Recovered.unnumbered =
      (replay behavior reading' none).map Recovered.unnumbered := by
  obtain ⟨events, fault⟩ := Prod.mk.inj same
  rw [replay, replay, fault]
  exact resume_unnumbered _ _ events rfl

/-- Logs with the same strand for an entity are replayed alike. -/
theorem replay_of_has (behavior : Behavior S C E R) {entity : String} {kind : LogKind E}
    {log log' : EventLog E} {strand : Strand E} (h : Has entity kind log strand)
    (h' : Has entity kind log' strand) :
    (replay behavior (log.read entity 0) none).map Recovered.unnumbered =
      (replay behavior (log'.read entity 0) none).map Recovered.unnumbered :=
  replay_unnumbered behavior (h.read.trans h'.read.symm)

end Replay

end EventLedger
