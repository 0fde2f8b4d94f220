import EventLedger.Proofs.FileReplay

/-!
# Files that every reader can read

A codec may store events under any payload. What is read of a payload need not be the payload, and
some payloads cannot be written at all, but an append fails or succeeds for what it is given alone
(`storedForms`): it does not matter what else is in the file, as long as that was appended too. If it
fails nothing changes (`append_unwritten`), and otherwise its events are behind those that the file
carries (`append_carries`).
-/

namespace EventLedger.FileLog

open Value

variable {entity name : String} {payload : Value}

/-- What an event that is stored has become when it is read again. What number it is stored under
does not matter for that. -/
def restored (entity name : String) (payload : Value) : Except Fault Stored := do
  let _ ← (eventData entity (.whole 0) name payload).canonicalChars
  return ⟨entity, name, ← payload.reread⟩

/-- What can become of an event that is to be stored and read again. -/
inductive Restoring (entity name : String) (payload : Value) : Except Fault Stored → Prop
  | unwritten {fault : Fault}
    (fails : ∀ seq, (eventData entity seq name payload).canonicalChars = .error fault) :
    Restoring entity name payload (.error fault)
  | read {w : Value} {text : List Char} (written : payload.canonicalChars = .ok text)
    (becomes : payload.reread = .ok w) : Restoring entity name payload (.ok ⟨entity, name, w⟩)

theorem restored_cases (entity name : String) (payload : Value) :
    Restoring entity name payload (restored entity name payload) := by
  rw [restored]
  cases data : (eventData entity (.whole 0) name payload).canonicalChars with
  | error fault => exact .unwritten (canonicalChars_eventData_error entity name data)
  | ok cs =>
    obtain ⟨text, written⟩ := (eventData_written_iff entity name).1 ⟨cs, data⟩
    have cases := payload.reread_cases
    cases becomes : payload.reread with
    | ok w => exact .read written becomes
    | error fault =>
      rw [becomes] at cases
      cases cases with
      | unwritten fails => cases fails.symm.trans written

/-- An event whose payload is a document is restored as it is. -/
theorem restored_document (entity name : String) (document : Document payload) :
    restored entity name payload = .ok ⟨entity, name, payload⟩ := by
  obtain ⟨text, written, -⟩ := document.exists_canonicalChars
  obtain ⟨cs, data⟩ :=
    (@eventData_written_iff entity name payload (.whole 0)).2 ⟨text, written⟩
  rw [restored, data, document.reread]
  rfl

/-- The record of an event that can be restored makes a line behind any hash. -/
theorem exists_line_of_restored {e : Stored} (restores : restored entity name payload = .ok e)
    (previous : String) (base : Nat) :
    ∃ hash cs, Chain.hashRecord previous (eventData entity (.whole base) name payload) = .ok hash ∧
      (Chain.recordOf previous hash (eventData entity (.whole base) name payload)).canonicalChars =
        .ok cs ∧
      Line cs (e.document previous hash base) := by
  have cases := restored_cases entity name payload
  rw [restores] at cases
  cases cases with
  | @read w _ written becomes =>
    have cases := payload.reread_cases
    rw [becomes] at cases
    cases cases with
    | @read p _ cs form text reads =>
      have field : ReadsField ("payload", p) ("payload", w) := ⟨rfl, _, text, reads⟩
      obtain ⟨hash, hashed⟩ := hash_of_payload entity name written (.whole base) previous
      obtain ⟨cs, chars, line, -⟩ := line_of_payload entity name form field (readsField_whole base)
        (whole_of_canonicalChars written).2 previous hash
      exact ⟨hash, cs, hashed, chars, line⟩

/-- What encoded events have become when they are read again. -/
def rereadAll (entity : String) (encoded : List (String × Value)) : Except Fault (List Stored) :=
  encoded.mapM fun p => restored entity p.1 p.2

theorem rereadAll_cons (entity name : String) (payload : Value) (encoded : List (String × Value)) :
    rereadAll entity ((name, payload) :: encoded) = (do
      let e ← restored entity name payload
      let events ← rereadAll entity encoded
      return e :: events) := by
  rw [rereadAll, List.mapM_cons]
  rfl

variable {encoded : List (String × Value)} {k : Int}

/-- An event that cannot be written stops an append, whatever number and hash it would have. -/
theorem chainLines_unwritten {fault : Fault} (fails : rereadAll entity encoded = .error fault)
    {offset base : Nat} (number : k + 1 + offset = base) (previous : String) :
    chainLines entity (.int k) offset (.str previous) encoded = .error fault := by
  induction encoded generalizing offset base previous with
  | nil => cases fails
  | cons p encoded ih =>
    obtain ⟨name, payload⟩ := p
    rw [rereadAll_cons] at fails
    cases restores : restored entity name payload with
    | error cause =>
      rw [restores] at fails
      cases fails
      have cases := restored_cases entity name payload
      rw [restores] at cases
      cases cases with
      | unwritten unwritten =>
        rw [chainLines]
        simp only [Seq.ofValue?, Chain.link, Chain.hashRecord, canonicalBytes, unwritten]
        rfl
    | ok e =>
      -- This event has a line, with whatever hash; the one that cannot be written stands behind it.
      obtain ⟨hash, cs, hashed, chars, -⟩ := exists_line_of_restored restores previous base
      rw [restores] at fails
      cases others : rereadAll entity encoded with
      | error cause =>
        rw [others] at fails
        cases fails
        rw [chainLines_cons number hashed chars,
          ih others (show k + 1 + (offset + 1 : Nat) = (base + 1 : Nat) by omega)]
        rfl
      | ok events => rw [others] at fails; cases fails

/-- The lines of an append carry what its events have become. -/
theorem chainLines_listed {events : List Stored} (rereads : rereadAll entity encoded = .ok events)
    {offset base : Nat} (number : k + 1 + offset = base) (previous : String) :
    ∃ lines documents,
      chainLines entity (.int k) offset (.str previous) encoded = .ok lines ∧
        lines.map (·.1) = seqsFrom base encoded.length ∧
        List.Forall₂ Line (lines.map (·.2)) documents ∧ Listed base events documents := by
  induction encoded generalizing offset base previous events with
  | nil => cases rereads; exact ⟨[], [], rfl, rfl, .nil, .nil _⟩
  | cons p encoded ih =>
    obtain ⟨name, payload⟩ := p
    rw [rereadAll_cons] at rereads
    obtain ⟨e, restores, rereads⟩ := exists_of_bind_ok rereads
    obtain ⟨events', others, rereads⟩ := exists_of_bind_ok rereads
    cases rereads
    obtain ⟨hash, cs, hashed, chars, line⟩ := exists_line_of_restored restores previous base
    obtain ⟨lines, documents, written, numbers, forms, listed⟩ :=
      ih others (show k + 1 + (offset + 1 : Nat) = (base + 1 : Nat) by omega) hash
    refine ⟨(.whole base, cs) :: lines, _, ?_, ?_, .cons line forms, .cons previous hash listed⟩
    · rw [chainLines_cons number hashed chars, written]
      rfl
    · rw [List.map_cons, numbers, List.length_cons, seqsFrom_succ]

theorem lastFrom_listed {base : Nat} {events : List Stored} {documents : List Value}
    (h : Listed base events documents) (previous : String) :
    ∃ last, lastFrom (.int (base - 1)) (.str previous) (documents.map .ok) =
      .ok (.int (base + events.length - 1), .str last) := by
  induction h generalizing previous with
  | nil => exact ⟨previous, by rw [List.length_nil, Int.natCast_zero, Int.add_zero]; rfl⟩
  | @cons base e events documents before hash _ ih =>
    have number : ((base + 1 : Nat) : Int) - 1 = base := by omega
    obtain ⟨last, ends⟩ := ih hash
    rw [number] at ends
    refine ⟨last, ?_⟩
    show lastFrom (.int base) (.str hash) (documents.map .ok) = _
    rw [ends, List.length_cons]
    congr 4
    omega

variable {E : Type} [HasFields E] {path : String} {codec : Codec E} {content : List UInt8}
  {stored : List Stored} {events : List E}

theorem last_carries (h : Carries content stored) :
    ∃ last, FileLog.last (.file content) = .ok (.int (stored.length - 1), .str last) := by
  obtain ⟨lines, documents, rfl, forms, listed⟩ := h
  obtain ⟨last, ends⟩ := lastFrom_listed listed Chain.zeroHash
  rw [Int.natCast_zero, Int.zero_add] at ends
  refine ⟨last, ?_⟩
  rw [FileLog.last, rawRecords_lineBytes forms]
  exact ends

/-- What events are when they are stored by a codec and read again. -/
def storedForms (codec : Codec E) (entity : String) (events : List E) :
    Except Fault (List Stored) := do
  rereadAll entity (← events.mapM codec.encode)

/-- An append of events that cannot be stored changes nothing. -/
theorem append_unwritten (h : Carries content stored) (nonempty : events ≠ []) {fault : Fault}
    (fails : storedForms codec entity events = .error fault) :
    (⟨path, codec, .file content⟩ : FileLog E).append entity events =
      (.error fault, ⟨path, codec, .file content⟩) := by
  rw [storedForms] at fails
  cases encodes : events.mapM codec.encode with
  | error cause =>
    rw [encodes] at fails
    cases fails
    exact append_unencoded nonempty encodes
  | ok encoded =>
    rw [encodes] at fails
    obtain ⟨last, ends⟩ := last_carries h
    have number : (stored.length - 1 : Int) + 1 + (0 : Nat) = stored.length := by omega
    have stops : appendContent entity content encoded = .error fault := by
      rw [appendContent, ends]
      simp only [bind, Except.bind, chainLines_unwritten fails number last]
    simp only [append, List.isEmpty_iff, nonempty, if_false, encodes, stops]

/-- An append of events that can be stored puts them behind those that the file carries. -/
theorem append_carries (h : Carries content stored) (nonempty : events ≠ []) {more : List Stored}
    (stores : storedForms codec entity events = .ok more) :
    ∃ content', (⟨path, codec, .file content⟩ : FileLog E).append entity events =
        (.ok ⟨MemoryLog.recordsFrom entity stored.length events⟩, ⟨path, codec, .file content'⟩) ∧
      Carries content' (stored ++ more) := by
  obtain ⟨encoded, encodes, rereads⟩ := exists_of_bind_ok stores
  obtain ⟨last, ends⟩ := last_carries h
  have number : (stored.length - 1 : Int) + 1 + (0 : Nat) = stored.length := by omega
  obtain ⟨lines', documents', written, numbers, forms', listed'⟩ :=
    chainLines_listed rereads number last
  have appended : appendContent entity content encoded =
      .ok (seqsFrom stored.length encoded.length, content ++ lineBytes (lines'.map (·.2))) := by
    rw [appendContent, ends, ← numbers]
    simp only [bind, Except.bind, written]
    rfl
  obtain ⟨lines, documents, rfl, forms, listed⟩ := h
  refine ⟨_, append_of_content path nonempty encodes appended, lines ++ lines'.map (·.2),
    documents ++ documents', List.flatMap_append.symm, List.rel_append forms forms',
    listed.append ?_⟩
  rwa [Nat.zero_add]

end EventLedger.FileLog
