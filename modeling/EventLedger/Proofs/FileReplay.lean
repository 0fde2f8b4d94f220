import EventLedger.Proofs.FileChain
import EventLedger.Proofs.MemoryReplay

/-!
# Replay of the log in a file

An append to a file that holds events stores all of its events, numbered behind those before, if
they have stored forms (`append_holds`); otherwise it changes nothing (`append_unencoded`). Replaying
the only entity of a file folds the decoded events (`replay_holds`); if one of them cannot be
decoded, the replay fails (`replay_undecoded`).
-/

namespace EventLedger

variable {E : Type}

namespace FileLog

/-- A log that was opened at a path; a file that is there is opened as it is. -/
theorem openAt_ok {path : String} {codec : Codec E} {state : FileState} {log : FileLog E}
    (h : openAt path codec state = .ok log) :
    log = ⟨path, codec, opened state⟩ ∧
      ∀ content, openAt path codec (.file content) = .ok ⟨path, codec, .file content⟩ := by
  unfold openAt at h ⊢
  split at h
  next => cases h
  next named =>
    split at h
    next => cases h
    next clean =>
      cases h
      exact ⟨rfl, fun content => by rw [if_neg named, if_neg clean]; rfl⟩

theorem receipt_eq (entity : String) (base : Nat) (events : List E) :
    receipt entity (seqsFrom base events.length) events =
      ⟨MemoryLog.recordsFrom entity base events⟩ := by
  refine congrArg Receipt.mk ?_
  induction events generalizing base with
  | nil => rfl
  | cons event events ih =>
    rw [List.length_cons, seqsFrom_succ, List.zip_cons_cons, List.map_cons, ih,
      MemoryLog.recordsFrom_cons]

variable [HasFields E]

/-- An append of events without a stored form changes nothing. -/
theorem append_unencoded {log : FileLog E} {entity : String} {events : List E}
    (nonempty : events ≠ []) {fault : Fault} (h : events.mapM log.codec.encode = .error fault) :
    log.append entity events = (.error fault, log) := by
  simp only [append, List.isEmpty_iff, nonempty, if_false, h]

/-- An append does to a file what it does to its content. -/
theorem append_of_content (path : String) {codec : Codec E} {content content' : List UInt8}
    {entity : String} {events : List E} (nonempty : events ≠ []) {encoded : List (String × Value)}
    (encodes : events.mapM codec.encode = .ok encoded) {base : Nat}
    (appended : appendContent entity content encoded =
      .ok (seqsFrom base encoded.length, content')) :
    (⟨path, codec, .file content⟩ : FileLog E).append entity events =
      (.ok ⟨MemoryLog.recordsFrom entity base events⟩, ⟨path, codec, .file content'⟩) := by
  rw [← receipt_eq, (forall₂_of_mapM encodes).length_eq]
  simp only [append, List.isEmpty_iff, nonempty, if_false, encodes, appended]

/-- An append of events with stored forms puts them behind the events in the file. -/
theorem append_holds {path : String} {codec : Codec E} {content : List UInt8}
    {stored : List Stored} {last : String} (h : Holds content stored last) (entity : String)
    {events : List E} (nonempty : events ≠ []) {encoded : List (String × Value)}
    (encodes : events.mapM codec.encode = .ok encoded)
    (documents : ∀ p ∈ encoded, Value.Document p.2) :
    ∃ content' last', (⟨path, codec, .file content⟩ : FileLog E).append entity events =
        (.ok ⟨MemoryLog.recordsFrom entity stored.length events⟩,
          ⟨path, codec, .file content'⟩) ∧
      Holds content' (stored ++ encoded.map fun p => ⟨entity, p.1, p.2⟩) last' := by
  obtain ⟨content', last', appended, holds⟩ := appendContent_holds h entity documents
  exact ⟨content', last', append_of_content path nonempty encodes appended, holds⟩

end FileLog

namespace FileLog

variable {codec : Codec E} {entity : String}

/-- Events of the entity that can all be decoded are read as records. -/
theorem readStored_decoded {stored : List Stored} {events : List E}
    (h : List.Forall₂ (fun s event => s.entity = entity ∧ codec.decode s.name s.payload = .ok event)
      stored events) (base : Nat) :
    readStored codec entity 0 base stored =
      { records := MemoryLog.recordsFrom entity base events } := by
  induction h generalizing base with
  | nil => rfl
  | cons first _ ih =>
    have own : ¬ ((base : Int) < 0 ∨ _ ≠ entity) :=
      not_or.2 ⟨by omega, not_not_intro first.1⟩
    rw [readStored, if_neg own, ih, MemoryLog.recordsFrom_cons]
    simp only [first.2]
    rfl

/-- If an event of the entity cannot be decoded, reading ends with a fault. -/
theorem readStored_undecoded {stored : List Stored} (own : ∀ s ∈ stored, s.entity = entity)
    {s : Stored} (mem : s ∈ stored) {fault : Fault}
    (fails : codec.decode s.name s.payload = .error fault) (base : Nat) :
    ∃ fault, (readStored codec entity 0 base stored).fault = some fault := by
  induction stored generalizing base with
  | nil => cases mem
  | cons s' stored ih =>
    rw [List.forall_mem_cons] at own
    have within : ¬ ((base : Int) < 0 ∨ s'.entity ≠ entity) :=
      not_or.2 ⟨by omega, not_not_intro own.1⟩
    rw [readStored, if_neg within]
    cases decoded : codec.decode s'.name s'.payload with
    | error fault => exact ⟨fault, rfl⟩
    | ok event =>
      rcases List.mem_cons.1 mem with rfl | mem
      · rw [fails] at decoded; cases decoded
      · exact ih own.2 mem (base + 1)

end FileLog

namespace Replay

theorem lastSeq_recordsFrom (entity : String) (base : Nat) (events : List E) :
    lastSeq (.whole (base - 1)) (MemoryLog.recordsFrom entity base events) =
      .whole (base + events.length - 1) := by
  induction events generalizing base with
  | nil => rw [List.length_nil, Int.natCast_zero, Int.add_zero]; rfl
  | cons event events ih =>
    have number : ((base + 1 : Nat) : Int) - 1 = base := by omega
    rw [MemoryLog.recordsFrom_cons, lastSeq_cons, ← number, ih, List.length_cons]
    congr 1
    omega

variable {S C R : Type} [HasKind S] [HasKind E]

variable (behavior : Behavior S C E R)

/-- Replaying the one entity of a file folds its events, if all of them can be decoded. -/
theorem replay_holds {path : String} {codec : Codec E} {entity : String} {content : List UInt8}
    {stored : List Stored} {last : String} (h : FileLog.Holds content stored last)
    {events : List E}
    (decoded : List.Forall₂
      (fun s event => s.entity = entity ∧ codec.decode s.name s.payload = .ok event) stored events) :
    replay behavior ((⟨path, codec, .file content⟩ : FileLog E).read entity 0) none =
      (behavior.applier.fold behavior.emptyState events).map fun state =>
        ⟨state, events.length, .whole (events.length - 1)⟩ := by
  have lastSeq := lastSeq_recordsFrom entity 0 events
  rw [Int.natCast_zero, Int.zero_add] at lastSeq
  rw [replay, FileLog.read_holds h, FileLog.readStored_decoded decoded]
  refine (resume_records ..).trans ?_
  rw [MemoryLog.map_event_recordsFrom, MemoryLog.length_recordsFrom]
  cases behavior.applier.fold behavior.emptyState events with
  | error failure => rfl
  | ok state =>
    show Except.ok (⟨state, 0 + events.length, _⟩ : Recovered S) = _
    rw [Nat.zero_add]
    exact congrArg (fun seq => Except.ok (⟨state, events.length, seq⟩ : Recovered S)) lastSeq

/-- The replay fails if one of the events cannot be decoded. -/
theorem replay_undecoded {path : String} {codec : Codec E} {entity : String}
    {content : List UInt8} {stored : List Stored} {last : String}
    (h : FileLog.Holds content stored last) (own : ∀ s ∈ stored, s.entity = entity) {s : Stored}
    (mem : s ∈ stored) {fault : Fault} (fails : codec.decode s.name s.payload = .error fault) :
    ∃ failure,
      replay behavior ((⟨path, codec, .file content⟩ : FileLog E).read entity 0) none =
        .error failure := by
  obtain ⟨fault, stops⟩ := FileLog.readStored_undecoded own mem fails 0
  rw [replay, FileLog.read_holds h, stops]
  exact resume_fault ..

end Replay

end EventLedger
