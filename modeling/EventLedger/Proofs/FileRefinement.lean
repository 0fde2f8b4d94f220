import EventLedger.Proofs.FileReplay
import EventLedger.Proofs.StoredEvents
import EventLedger.Account.Tables

/-!
# The log in a file refines the log in memory

Both logs are given the same calls, for any entities. The file keeps the events as text and the log
in memory keeps them as they are; with amounts that need no rounding, nobody can tell which of the
two is there (`Account.file_refines_memory`): the answers are the same, and so are the records that
are read and the states they fold to, up to how numbers are written. The names of entities have to
be texts that can be stored: under a name with a half of a character the file stores nothing
(`Account.file_refines_memory_half`).

What the file holds stays in step with the records in memory (`Account.Lockstep`), call by call.
-/

namespace EventLedger

/-- What some calls of `append` are answered, one after the other, and the log behind them. -/
def appendAll {L E N : Type} (append : L → N → List E → Except Fault (Receipt E N) × L) (log : L) :
    List (N × List E) → List (Except Fault (Receipt E N)) × L
  | [] => ([], log)
  | (entity, events) :: calls =>
    let (answer, log) := append log entity events
    let (answers, log) := appendAll append log calls
    (answer :: answers, log)

namespace Account

/-- The amount of the event, if there is one, is finite and needs no rounding. -/
structure Event.Representable (e : Event) : Prop where
  finite : e.Same e
  fits : e.Fits

/-- Two events of one kind that are equal: their amounts are compared as numbers. -/
inductive Event.Equal : Event → Event → Prop
  | created : Equal .created .created
  | deposited {a a' : Amount} (same : a.value.equals a'.value = .ok true) :
    Equal (.deposited a) (.deposited a')
  | withdrawn {a a' : Amount} (same : a.value.equals a'.value = .ok true) :
    Equal (.withdrawn a) (.withdrawn a')
  | closed : Equal .closed .closed

/-- Two readings without a fault, whose records have the same entities, sequence numbers and
events. -/
structure ReadAlike (r r' : Reading Event) : Prop where
  complete : r.fault = none ∧ r'.fault = none
  records : List.Forall₂
    (fun record record' => record.entity = record'.entity ∧ record.seq = record'.seq ∧
      record.event.Equal record'.event) r.records r'.records

/-- Two replays with equal results, or with failures of one kind. -/
inductive ReplayAlike : Except (Failure State Event) (Recovered State) →
    Except (Failure State Event) (Recovered State) → Prop
  | recovered {r r' : Recovered State} (state : r.state.equals r'.state = .ok true)
    (hash : ∃ hash, r.state.hash = .ok hash ∧ r'.state.hash = .ok hash)
    (applied : r.applied = r'.applied) (lastSeq : r.lastSeq = r'.lastSeq) :
    ReplayAlike (.ok r) (.ok r')
  | illegal {s s' : State} {e e' : Event} (state : s.equals s' = .ok true) (event : e.Equal e') :
    ReplayAlike (.error (.illegalFold s e)) (.error (.illegalFold s' e'))
  | fault (fault : Fault) : ReplayAlike (.error (.fault fault)) (.error (.fault fault))

theorem Event.Same.equal {e e' : Event} (h : e.Same e') : e.Equal e' := by
  cases h with
  | created => exact .created
  | closed => exact .closed
  | deposited left right same =>
    exact .deposited (by rw [Decimal.equals_of_isFinite left right, decide_eq_true same])
  | withdrawn left right same =>
    exact .withdrawn (by rw [Decimal.equals_of_isFinite left right, decide_eq_true same])

/-- Records in memory, and the stored forms of the same events, both numbered from `base`. -/
inductive Mirrored : Nat → List (Record Event) → List Stored → Prop
  | nil (base : Nat) : Mirrored base [] []
  | cons {base : Nat} {entity name : String} {payload : Value} {event decoded : Event}
    {records : List (Record Event)} {stored : List Stored}
    (decodes : codec.decode name payload = .ok decoded) (same : event.Same decoded)
    (rest : Mirrored (base + 1) records stored) :
    Mirrored base (⟨entity, .whole base, event⟩ :: records) (⟨entity, name, payload⟩ :: stored)

/-- Two records that differ at most in how the amount is written. -/
def SameRecord (r r' : Record Event) : Prop :=
  r.entity = r'.entity ∧ r.seq = r'.seq ∧ r.event.Same r'.event

section

variable {base : Nat} {records more : List (Record Event)} {stored stored' : List Stored}

theorem Mirrored.length_eq (h : Mirrored base records stored) :
    records.length = stored.length := by
  induction h with
  | nil => rfl
  | cons _ _ _ ih => exact congrArg (· + 1) ih

theorem Mirrored.append (h : Mirrored base records stored)
    (h' : Mirrored (base + records.length) more stored') :
    Mirrored base (records ++ more) (stored ++ stored') := by
  induction h with
  | nil => exact h'
  | cons decodes same _ ih =>
    refine .cons decodes same (ih ?_)
    rw [List.length_cons] at h'
    rwa [Nat.add_assoc, Nat.add_comm 1]

/-- What is read of the stored forms is what is read of the records. -/
theorem Mirrored.read (h : Mirrored base records stored) (entity : String) (start : Int) :
    ∃ found, FileLog.readStored codec entity start base stored = { records := found } ∧
      List.Forall₂ SameRecord
        (records.filter fun r => r.entity == entity && !r.seq.isBelow start) found := by
  induction h with
  | nil => exact ⟨[], rfl, .nil⟩
  | @cons base owner name payload event decoded records stored decodes same _ ih =>
    obtain ⟨found, reads, alike⟩ := ih
    rw [FileLog.readStored, reads]
    by_cases skipped : (base : Int) < start ∨ owner ≠ entity
    · have dropped : (owner == entity && !(Seq.whole base).isBelow start) = false := by
        rcases skipped with early | other
        · simp [early]
        · simp [other]
      simp only [List.filter_cons, dropped, Bool.false_eq_true, if_false, if_pos skipped]
      exact ⟨found, rfl, alike⟩
    · obtain ⟨late, rfl⟩ := not_or.1 skipped |>.imp_right not_not.1
      have kept : (owner == owner && !(Seq.whole base).isBelow start) = true := by simp [late]
      simp only [List.filter_cons, kept, if_true, if_neg skipped, decodes]
      exact ⟨_, rfl, .cons ⟨rfl, rfl, same⟩ alike⟩

end

/-- Events that need no rounding have stored forms, which stay in step with their records. -/
theorem exists_mirrored {events : List Event} (representable : ∀ e ∈ events, e.Representable)
    (entity : String) (base : Nat) :
    ∃ encoded, events.mapM codec.encode = .ok encoded ∧ (∀ p ∈ encoded, Value.Document p.2) ∧
      Mirrored base (MemoryLog.recordsFrom entity base events)
        (encoded.map fun p => ⟨entity, p.1, p.2⟩) := by
  induction events generalizing base with
  | nil => exact ⟨[], rfl, nofun, .nil base⟩
  | cons e events ih =>
    rw [List.forall_mem_cons] at representable
    obtain ⟨first, others⟩ := representable
    obtain ⟨name, payload, e', encodes, document, decodes, same⟩ :=
      encode_of_fits first.finite first.fits
    obtain ⟨encoded, encodes', documents, mirrored⟩ := ih others (base + 1)
    refine ⟨(name, payload) :: encoded, ?_, List.forall_mem_cons.2 ⟨document, documents⟩, ?_⟩
    · rw [List.mapM_cons, encodes, encodes']
      rfl
    · rw [MemoryLog.recordsFrom_cons]
      exact .cons decodes same mirrored

/-- The file holds the stored forms of the records in memory. -/
def Lockstep (path : String) (memory : MemoryLog Event) (file : FileLog Event) : Prop :=
  ∃ content stored last, file = ⟨path, codec, .file content⟩ ∧
    FileLog.Holds content stored last ∧ Mirrored 0 memory.records stored

/-- One call is answered the same, and leaves the logs in step. -/
theorem Lockstep.append {path : String} {memory : MemoryLog Event} {file : FileLog Event}
    (h : Lockstep path memory file) (entity : String) {events : List Event}
    (representable : ∀ e ∈ events, e.Representable) :
    (file.append entity events).1 = (memory.append entity events).1 ∧
      Lockstep path (memory.append entity events).2 (file.append entity events).2 := by
  by_cases empty : events = []
  · rw [empty]
    exact ⟨rfl, h⟩
  · obtain ⟨content, stored, last, rfl, holds, mirrored⟩ := h
    obtain ⟨encoded, encodes, documents, mirrored'⟩ :=
      exists_mirrored representable entity memory.records.length
    obtain ⟨content', last', appended, holds'⟩ :=
      @FileLog.append_holds _ _ path _ _ _ _ holds entity _ empty _ encodes documents
    rw [appended, MemoryLog.append_eq empty, ← mirrored.length_eq]
    refine ⟨rfl, content', _, last', rfl, holds', mirrored.append ?_⟩
    rwa [Nat.zero_add]

/-- Any calls are answered the same, and leave the logs in step. -/
theorem Lockstep.appendAll {path : String} {memory : MemoryLog Event} {file : FileLog Event}
    (h : Lockstep path memory file) {calls : List (String × List Event)}
    (representable : ∀ call ∈ calls, ∀ e ∈ call.2, e.Representable) :
    (EventLedger.appendAll FileLog.append file calls).1 =
        (EventLedger.appendAll MemoryLog.append memory calls).1 ∧
      Lockstep path (EventLedger.appendAll MemoryLog.append memory calls).2
        (EventLedger.appendAll FileLog.append file calls).2 := by
  induction calls generalizing memory file with
  | nil => exact ⟨rfl, h⟩
  | cons call calls ih =>
    rw [List.forall_mem_cons] at representable
    obtain ⟨answer, next⟩ := h.append call.1 representable.1
    obtain ⟨answers, last⟩ := ih next representable.2
    exact ⟨congrArg₂ List.cons answer answers, last⟩

/-! ## Reading and replaying -/

/-- What is read of logs in step differs at most in how amounts are written. -/
theorem Lockstep.read {path : String} {memory : MemoryLog Event} {file : FileLog Event}
    (h : Lockstep path memory file) (entity : String) (start : Int) :
    ∃ found, file.read entity start = { records := found } ∧
      List.Forall₂ SameRecord (memory.read entity start).records found := by
  obtain ⟨content, stored, last, rfl, holds, mirrored⟩ := h
  rw [FileLog.read_holds holds]
  exact mirrored.read entity start

theorem Lockstep.readAlike {path : String} {memory : MemoryLog Event} {file : FileLog Event}
    (h : Lockstep path memory file) (entity : String) (start : Int) :
    ReadAlike (memory.read entity start) (file.read entity start) := by
  obtain ⟨found, reads, alike⟩ := h.read entity start
  rw [reads]
  exact ⟨⟨rfl, rfl⟩, alike.imp fun _ _ same => ⟨same.1, same.2.1, same.2.2.equal⟩⟩

/-- What two replays end with has a hash, since the balance fits. -/
theorem recovered_alike {r r' : Recovered State} (state : r.state.Same r'.state)
    (fits : r.state.Fits) (applied : r.applied = r'.applied) (lastSeq : r.lastSeq = r'.lastSeq) :
    ReplayAlike (.ok r) (.ok r') := by
  obtain ⟨hash, hashed⟩ := fits.hash
  exact .recovered state.equals ⟨hash, hashed, state.hash ▸ hashed⟩ applied lastSeq

/-- Records with the same numbers are folded alike, up to any sequence number. Only the balances need
to fit for that, and those that finite amounts lead to do. -/
theorem resume_alike (upTo : Option Int) {records records' : List (Record Event)}
    (h : List.Forall₂ SameRecord records records') {r r' : Recovered State}
    (state : r.state.Same r'.state) (fits : r.state.Fits) (applied : r.applied = r'.applied)
    (lastSeq : r.lastSeq = r'.lastSeq) :
    ReplayAlike (Replay.resume applier upTo none r records)
      (Replay.resume applier upTo none r' records') := by
  induction h generalizing r r' with
  | nil => exact recovered_alike state fits applied lastSeq
  | @cons record record' _ _ same _ ih =>
    obtain ⟨-, seq, event⟩ := same
    rw [Replay.resume, Replay.resume, ← seq]
    cases upTo.any record.seq.isAbove with
    | true => exact recovered_alike state fits applied lastSeq
    | false =>
      have first := apply_alike state event
      have kept := fun s => @fits_of_apply _ s fits _ (event.trans event.symm)
      show ReplayAlike (applier.apply r.state record.event >>= _)
        (applier.apply r'.state record'.event >>= _)
      generalize applier.apply r.state record.event = x at first kept ⊢
      generalize applier.apply r'.state record'.event = x' at first ⊢
      cases first with
      | @state s s' same =>
        exact @ih ⟨s, _, _⟩ ⟨s', _, _⟩ same (kept s rfl) (congrArg (· + 1) applied) rfl
      | illegal state event => exact .illegal state.equals event.equal
      | fault fault => exact .fault fault

theorem Lockstep.replayAlike {path : String} {memory : MemoryLog Event} {file : FileLog Event}
    (h : Lockstep path memory file) (closed : ClosedPolicy) (persistenceId : String)
    (upTo : Option Int) :
    ReplayAlike (Replay.replay (behavior closed) (memory.read persistenceId 0) upTo)
      (Replay.replay (behavior closed) (file.read persistenceId 0) upTo) := by
  obtain ⟨found, reads, alike⟩ := h.read persistenceId 0
  rw [reads]
  exact resume_alike upTo alike .empty .empty rfl rfl

/-- Whatever is appended to an empty log in a file and to one in memory, as long as no amount needs
rounding: the answers are the same, and so is what is read of any entity from any number on, and
what is replayed of it up to any number. -/
theorem file_refines_memory {path : String} {initial : FileState}
    (empty : initial = .missing ∨ initial = .file []) {log : FileLog Event}
    (opened : FileLog.openAt path codec initial = .ok log) {calls : List (String × List Event)}
    (representable : ∀ call ∈ calls, ∀ e ∈ call.2, e.Representable) :
    let memory := appendAll MemoryLog.append {} calls
    let file := appendAll FileLog.append log calls
    file.1 = memory.1 ∧
      (∀ entity start, ReadAlike (memory.2.read entity start) (file.2.read entity start)) ∧
      ∀ (closed : ClosedPolicy) (entity : String) (upTo : Option Int),
        let persistenceId := (behavior closed).persistenceId entity
        ReplayAlike (Replay.replay (behavior closed) (memory.2.read persistenceId 0) upTo)
          (Replay.replay (behavior closed) (file.2.read persistenceId 0) upTo) := by
  obtain ⟨rfl, -⟩ := FileLog.openAt_ok opened
  have new : FileLog.opened initial = .file [] := by
    rcases empty with rfl | rfl <;> rfl
  have start : Lockstep path {} ⟨path, codec, FileLog.opened initial⟩ :=
    ⟨[], [], _, by rw [new], FileLog.holds_empty, .nil 0⟩
  obtain ⟨answers, last⟩ := start.appendAll representable
  exact ⟨answers, last.readAlike, fun closed entity => last.replayAlike closed _⟩

/-- A finite number that rounding leaves as it is needs none. -/
theorem fits_of_round_self {d : Decimal} (finite : d.isFinite = true) (round : d.round = .ok d) :
    Decimal.Fits d.value := by
  have rounds := Decimal.round_rounds finite
  rw [round] at rounds
  exact rounds.fits.2

/-- Twelve and a half, with a zero behind it. -/
def twelveFifty : Amount := ⟨.finite false 1250 (-2), by decide +kernel⟩

/-- `file_refines_memory` for the calls of two accounts, one of which has no events. -/
theorem file_refines_memory_interleaved :
    let calls : List (String × List Event) :=
      [("Account|a", [.created, .deposited twelveFifty]), ("Account|b", [.created]),
        ("Account|a", []), ("Account|a", [.withdrawn twelveFifty, .closed])]
    let memory := appendAll MemoryLog.append {} calls
    let file := appendAll FileLog.append (⟨"log.jsonl", codec, .file []⟩ : FileLog Event) calls
    (FileState.missing = .missing ∨ FileState.missing = .file []) ∧
      FileLog.openAt "log.jsonl" codec .missing = .ok ⟨"log.jsonl", codec, .file []⟩ ∧
      (∀ call ∈ calls, ∀ e ∈ call.2, e.Representable) ∧ file.1 = memory.1 ∧
      (∀ entity start, ReadAlike (memory.2.read entity start) (file.2.read entity start)) ∧
      ∀ (closed : ClosedPolicy) (entity : String) (upTo : Option Int),
        let persistenceId := (behavior closed).persistenceId entity
        ReplayAlike (Replay.replay (behavior closed) (memory.2.read persistenceId 0) upTo)
          (Replay.replay (behavior closed) (file.2.read persistenceId 0) upTo) := by
  intro calls memory file
  have opened : FileLog.openAt "log.jsonl" codec .missing =
      .ok ⟨"log.jsonl", codec, .file []⟩ := rfl
  have fits : Decimal.Fits twelveFifty.value.value :=
    fits_of_round_self rfl (by decide +kernel)
  have representable : ∀ call ∈ calls, ∀ e ∈ call.2, e.Representable := by
    have created : Event.created.Representable := ⟨.created, trivial⟩
    have closed : Event.closed.Representable := ⟨.closed, trivial⟩
    have deposited : (Event.deposited twelveFifty).Representable := ⟨.deposited rfl rfl rfl, fits⟩
    have withdrawn : (Event.withdrawn twelveFifty).Representable := ⟨.withdrawn rfl rfl rfl, fits⟩
    simp [calls, created, closed, deposited, withdrawn]
  exact ⟨.inl rfl, opened, representable, file_refines_memory (.inl rfl) opened representable⟩

end Account

namespace FileLog

variable {E N : Type} [EntityName N] {entity : N}

/-- Event data under a name with a half have no hash. -/
theorem hashRecord_halved (half : (EntityName.stored entity).hasHalf = true) (seq : Seq)
    (name : String) (payload : Value) (previous : String) :
    ∃ fault, Chain.hashRecord previous (eventData entity seq name payload) = .error fault := by
  have data : (eventData entity seq name payload).hasHalf = true := by
    simp [eventData, half]
  cases text : (eventData entity seq name payload).canonicalChars with
  | error fault => exact ⟨fault, by rw [Chain.hashRecord, Value.canonicalBytes, text]; rfl⟩
  | ok cs => cases data.symm.trans (Value.whole_of_canonicalChars text).2

theorem chainLines_halved (half : (EntityName.stored entity).hasHalf = true) (last hash : Value)
    (offset : Nat) (event : String × Value) (events : List (String × Value)) :
    ∃ fault, chainLines entity last offset hash (event :: events) = .error fault := by
  obtain ⟨name, payload⟩ := event
  rw [chainLines]
  cases Seq.ofValue? last with
  | none => exact ⟨_, rfl⟩
  | some s =>
    cases hash with
    | str previous =>
      obtain ⟨fault, fails⟩ := hashRecord_halved half (s.next offset) name payload previous
      exact ⟨fault, by simp only [Chain.link, fails, bind, Except.bind]⟩
    | _ => exact ⟨_, rfl⟩

/-- Nothing is stored under a name with a half. -/
theorem append_halved [HasFields E] (half : (EntityName.stored entity).hasHalf = true)
    (log : FileLog E) (events : List E) : ∃ fault, (log.append entity events).1 = .error fault := by
  rw [append]
  split
  next => exact ⟨_, rfl⟩
  next nonempty =>
    cases encodes : events.mapM log.codec.encode with
    | error fault => exact ⟨fault, rfl⟩
    | ok encoded =>
      obtain _ | ⟨event, encoded⟩ := encoded
      · cases forall₂_of_mapM encodes
        exact absurd rfl nonempty
      have refused (content : List UInt8) :
          ∃ fault, appendContent entity content (event :: encoded) = .error fault := by
        rw [appendContent]
        cases last (.file content) with
        | error fault => exact ⟨fault, rfl⟩
        | ok ends =>
          obtain ⟨fault, fails⟩ := chainLines_halved half ends.1 ends.2 0 event encoded
          exact ⟨fault, by simp only [bind, Except.bind, fails]⟩
      cases log.state with
      | directory => exact ⟨_, rfl⟩
      | missing =>
        obtain ⟨fault, fails⟩ := refused []
        exact ⟨fault, by simp only [fails]⟩
      | file content =>
        obtain ⟨fault, fails⟩ := refused content
        exact ⟨fault, by simp only [fails]⟩

end FileLog

namespace Account

/-- Under a name that is one half of a pair, the log in memory stores an event as record 0, and the
log in a file refuses it. -/
theorem file_refines_memory_half :
    let calls : List (List Text.Point × List Event) := [([.half ⟨0⟩], [.created])]
    let memory := appendAll MemoryLog.append {} calls
    let file := appendAll FileLog.append (⟨"log.jsonl", codec, .file []⟩ : FileLog Event) calls
    FileLog.openAt "log.jsonl" codec .missing = .ok ⟨"log.jsonl", codec, .file []⟩ ∧
      (∀ call ∈ calls, ∀ e ∈ call.2, e.Representable) ∧
      memory.1 = [.ok ⟨[⟨[.half ⟨0⟩], .whole 0, .created⟩]⟩] ∧ file.1 ≠ memory.1 := by
  intro calls memory file
  have created : Event.created.Representable := ⟨.created, trivial⟩
  have stored : memory.1 = [.ok ⟨[⟨[.half ⟨0⟩], .whole 0, .created⟩]⟩] := rfl
  have half : (EntityName.stored ([.half ⟨0⟩] : List Text.Point)).hasHalf = true := rfl
  obtain ⟨fault, fails⟩ := FileLog.append_halved half
    (⟨"log.jsonl", codec, .file []⟩ : FileLog Event) [.created]
  have refused : file.1 = [.error fault] := congrArg (fun answer => [answer]) fails
  refine ⟨rfl, by simp [calls, created], stored, fun same => ?_⟩
  cases refused.symm.trans (same.trans stored)

end Account

end EventLedger
