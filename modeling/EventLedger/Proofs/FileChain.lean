import EventLedger.Proofs.RecordLines

/-!
# The chain in a file

A file `Carries` stored events if it has one line for each, in order, with the number of its event. It
`Holds` them if, moreover, the lines make a chain: each carries the hash of the line before it and its
own hash (`Chained`). An append to such a file continues the chain (`appendContent_holds`), and
reading it yields the events of the entity, decoded one by one (`readFrom_listed`, `read_carries`).
-/

namespace EventLedger

namespace Stored

/-- The event data under a sequence number. -/
def data (e : Stored) (seq : Nat) : Value :=
  FileLog.eventData e.entity (.whole seq) e.name e.payload

/-- The event data as they are read, in order. -/
def storedData (e : Stored) (seq : Nat) : Value :=
  .record [("entity_id", .str e.entity), ("payload", e.payload), ("seq", .int seq),
    ("type", .str e.name)]

/-- The document on the line of the event. -/
def document (e : Stored) (previous hash : String) (seq : Nat) : Value :=
  .record [("event", e.storedData seq), ("event_hash", .str hash), ("prev_hash", .str previous)]

end Stored

namespace FileLog

open Json Value

variable {e : Stored}

theorem canonicalField_event (h : Document e.payload) (seq : Nat) :
    CanonicalField ("event", e.data seq) ("event", e.storedData seq) where
  name := rfl
  form := by
    rw [Stored.data, canonicalize_eventData, h.canonicalize]
    rfl
  document := .record (order_data ..) <| by
    simp only [List.forall_mem_cons]
    exact ⟨.str _, h, .int _, .str _, List.forall_mem_nil _⟩

/-- The record of an event behind any hash makes a line. -/
theorem line_of_event (h : Document e.payload) (previous hash : String) (seq : Nat) :
    ∃ cs, (Chain.recordOf previous hash (e.data seq)).canonicalChars = .ok cs ∧
      Line cs (e.document previous hash seq) := by
  obtain ⟨cs, text, line, -⟩ := line_of_payload e.entity e.name h.canonicalize ⟨rfl, h.written⟩
    (readsField_whole seq) h.whole previous hash
  exact ⟨cs, text, line⟩

/-- The data of an event have a hash behind any other. -/
theorem hash_of_event (h : Document e.payload) (previous : String) (seq : Nat) :
    ∃ hash, Chain.hashRecord previous (e.data seq) = .ok hash := by
  obtain ⟨text, written, -⟩ := h.exists_canonicalChars
  exact hash_of_payload e.entity e.name written (.whole seq) previous

/-- Documents that carry events numbered from `base`, whatever their hashes are. -/
inductive Listed : Nat → List Stored → List Value → Prop
  | nil (base : Nat) : Listed base [] []
  | cons {base : Nat} {e : Stored} {events : List Stored} {documents : List Value}
    (previous hash : String) (rest : Listed (base + 1) events documents) :
    Listed base (e :: events) (e.document previous hash base :: documents)

theorem Listed.append {base : Nat} {events more : List Stored} {documents documents' : List Value}
    (h : Listed base events documents) (h' : Listed (base + events.length) more documents') :
    Listed base (events ++ more) (documents ++ documents') := by
  induction h with
  | nil => exact h'
  | cons previous hash _ ih =>
    refine .cons previous hash (ih ?_)
    rw [List.length_cons] at h'
    rwa [Nat.add_assoc, Nat.add_comm 1]

/-- Documents that carry events behind a hash, numbered from `base`, and the hash of the last. -/
inductive Chained : String → Nat → List Stored → List Value → String → Prop
  | nil (previous : String) (base : Nat) : Chained previous base [] [] previous
  | cons {previous hash last : String} {base : Nat} {e : Stored} {events : List Stored}
    {documents : List Value} (hashed : Chain.hashRecord previous (e.data base) = .ok hash)
    (rest : Chained hash (base + 1) events documents last) :
    Chained previous base (e :: events) (e.document previous hash base :: documents) last

theorem Chained.listed {previous last : String} {base : Nat} {events : List Stored}
    {documents : List Value} (h : Chained previous base events documents last) :
    Listed base events documents := by
  induction h with
  | nil => exact .nil _
  | cons _ _ ih => exact .cons _ _ ih

theorem Chained.append {previous middle last : String} {base : Nat} {events more : List Stored}
    {documents documents' : List Value} (h : Chained previous base events documents middle)
    (h' : Chained middle (base + events.length) more documents' last) :
    Chained previous base (events ++ more) (documents ++ documents') last := by
  induction h with
  | nil => exact h'
  | cons hashed _ ih =>
    refine .cons hashed (ih ?_)
    rw [List.length_cons] at h'
    rwa [Nat.add_assoc, Nat.add_comm 1]

/-- The end of a chain is the number and the hash of its last document. -/
theorem lastFrom_chained {previous last : String} {base : Nat} {events : List Stored}
    {documents : List Value} (h : Chained previous base events documents last) :
    lastFrom (.int (base - 1)) (.str previous) (documents.map .ok) =
      .ok (.int (base + events.length - 1), .str last) := by
  induction h with
  | nil => rw [List.length_nil, Int.natCast_zero, Int.add_zero]; rfl
  | @cons previous hash last base e events documents hashed _ ih =>
    have number : ((base + 1 : Nat) : Int) - 1 = base := by omega
    rw [number] at ih
    show lastFrom (.int base) (.str hash) (documents.map .ok) = _
    rw [ih, List.length_cons]
    congr 4
    omega

/-- Consecutive sequence numbers. -/
def seqsFrom (base count : Nat) : List Seq :=
  (List.range' base count).map fun n : Nat => .whole n

theorem seqsFrom_succ (base count : Nat) :
    seqsFrom base (count + 1) = .whole base :: seqsFrom (base + 1) count := by
  rw [seqsFrom, List.range'_succ, List.map_cons, seqsFrom]

/-- An append begins with the line of its first event. -/
theorem chainLines_cons {entity name previous hash : String} {payload : Value} {k : Int}
    {offset base : Nat} (number : k + 1 + offset = base)
    (hashed : Chain.hashRecord previous (eventData entity (.whole base) name payload) = .ok hash)
    {cs : List Char}
    (text : (Chain.recordOf previous hash
      (eventData entity (.whole base) name payload)).canonicalChars = .ok cs)
    (encoded : List (String × Value)) :
    chainLines entity (.int k) offset (.str previous) ((name, payload) :: encoded) =
      (chainLines entity (.int k) (offset + 1) (.str hash) encoded).map
        ((.whole base, cs) :: ·) := by
  have next : (Seq.whole k).next offset = .whole base := congrArg Seq.whole number
  have link : Chain.link previous (eventData entity (.whole base) name payload) =
      .ok (hash, Chain.recordOf previous hash (eventData entity (.whole base) name payload)) := by
    rw [Chain.link, hashed]
    rfl
  rw [chainLines]
  simp only [Seq.ofValue?, next, link, bind, Except.bind, text]
  rfl

/-- The records of an append make lines that continue the chain. -/
theorem chainLines_chained (entity : String) (k : Int) {encoded : List (String × Value)}
    (documents : ∀ p ∈ encoded, Document p.2) (offset base : Nat) (previous : String)
    (number : k + 1 + offset = base) :
    ∃ lines documents last,
      chainLines entity (.int k) offset (.str previous) encoded = .ok lines ∧
        lines.map (·.1) = seqsFrom base encoded.length ∧
        List.Forall₂ Line (lines.map (·.2)) documents ∧
        Chained previous base (encoded.map fun p => ⟨entity, p.1, p.2⟩) documents last := by
  induction encoded generalizing offset base previous with
  | nil => exact ⟨[], [], previous, rfl, rfl, .nil, .nil ..⟩
  | cons p encoded ih =>
    rw [List.forall_mem_cons] at documents
    obtain ⟨name, payload⟩ := p
    have first : (⟨entity, name, payload⟩ : Stored).payload.Document := documents.1
    obtain ⟨hash, hashed⟩ := hash_of_event first previous base
    obtain ⟨cs, text, line⟩ := line_of_event first previous hash base
    obtain ⟨lines, others, last, written, numbers, forms, chained⟩ :=
      ih documents.2 (offset + 1) (base + 1) hash (by omega)
    refine ⟨(.whole base, cs) :: lines, _, last, ?_, ?_, .cons line forms, .cons hashed chained⟩
    · rw [chainLines_cons number hashed text, written]
      rfl
    · rw [List.map_cons, numbers, List.length_cons, seqsFrom_succ]

/-- The content has one line for each of the events, whatever hashes are on the lines. -/
def Carries (content : List UInt8) (events : List Stored) : Prop :=
  ∃ lines documents, content = lineBytes lines ∧ List.Forall₂ Line lines documents ∧
    Listed 0 events documents

theorem carries_empty : Carries [] [] :=
  ⟨[], [], rfl, .nil, .nil _⟩

/-- The content has one line for each of the events, and the lines make a chain up to a hash. -/
def Holds (content : List UInt8) (events : List Stored) (last : String) : Prop :=
  ∃ lines documents, content = lineBytes lines ∧ List.Forall₂ Line lines documents ∧
    Chained Chain.zeroHash 0 events documents last

theorem holds_empty : Holds [] [] Chain.zeroHash :=
  ⟨[], [], rfl, .nil, .nil ..⟩

theorem Holds.carries {content : List UInt8} {events : List Stored} {last : String}
    (h : Holds content events last) : Carries content events := by
  obtain ⟨lines, documents, rfl, forms, chained⟩ := h
  exact ⟨lines, documents, rfl, forms, chained.listed⟩

theorem last_holds {content : List UInt8} {events : List Stored} {last : String}
    (h : Holds content events last) :
    FileLog.last (.file content) = .ok (.int (events.length - 1), .str last) := by
  obtain ⟨lines, documents, rfl, forms, chained⟩ := h
  have ends := lastFrom_chained chained
  rw [Int.natCast_zero, Int.zero_add] at ends
  rw [FileLog.last, rawRecords_lineBytes forms]
  exact ends

/-- An append behind a known number and hash adds a line for each event, whatever else the file
has. -/
theorem appendContent_of_last {content : List UInt8} {base : Nat} {previous : String}
    (ends : FileLog.last (.file content) = .ok (.int (base - 1), .str previous)) (entity : String)
    {encoded : List (String × Value)} (payloads : ∀ p ∈ encoded, Document p.2) :
    ∃ lines documents last,
      appendContent entity content encoded =
        .ok (seqsFrom base encoded.length, content ++ lineBytes (lines.map (·.2))) ∧
      chainLines entity (.int (base - 1)) 0 (.str previous) encoded = .ok lines ∧
      List.Forall₂ Line (lines.map (·.2)) documents ∧
      Chained previous base (encoded.map fun p => ⟨entity, p.1, p.2⟩) documents last := by
  obtain ⟨lines, documents, last, written, numbers, forms, chained⟩ :=
    chainLines_chained entity (base - 1) payloads 0 base previous (by omega)
  refine ⟨lines, documents, last, ?_, written, forms, chained⟩
  rw [appendContent, ends]
  show (chainLines entity (.int (base - 1)) 0 (.str previous) encoded).map (fun lines =>
    (lines.map Prod.fst, content ++ lineBytes (lines.map Prod.snd))) = _
  rw [written, ← numbers]
  rfl

/-- An append continues the chain: it adds a line for each event, numbered behind those before. -/
theorem appendContent_holds {content : List UInt8} {events : List Stored} {last : String}
    (h : Holds content events last) (entity : String) {encoded : List (String × Value)}
    (payloads : ∀ p ∈ encoded, Document p.2) :
    ∃ content' last', appendContent entity content encoded =
        .ok (seqsFrom events.length encoded.length, content') ∧
      Holds content' (events ++ encoded.map fun p => ⟨entity, p.1, p.2⟩) last' := by
  obtain ⟨lines', documents', last', appended, -, forms', chained'⟩ :=
    appendContent_of_last (last_holds h) entity payloads
  obtain ⟨lines, documents, rfl, forms, chained⟩ := h
  refine ⟨_, last', appended, lines ++ lines'.map (·.2), documents ++ documents', ?_,
    List.rel_append forms forms', chained.append ?_⟩
  · exact List.flatMap_append.symm
  · rwa [Nat.zero_add]

/-! ## Reading -/

variable {E : Type}

/-- What is read of stored events: those of the entity from a number on, decoded one by one up to the
first that cannot be. -/
def readStored (codec : Codec E) (entity : String) (start : Int) (base : Nat) :
    List Stored → Reading E
  | [] => { records := [] }
  | e :: events =>
    if base < start ∨ e.entity ≠ entity then readStored codec entity start (base + 1) events
    else
      match codec.decode e.name e.payload with
      | .error fault => { records := [], fault := some fault }
      | .ok event =>
        (readStored codec entity start (base + 1) events).cons ⟨entity, .whole base, event⟩

theorem readRecord_document (codec : Codec E) (entity : String) (start : Int) (e : Stored)
    (previous hash : String) (base : Nat) :
    readRecord codec entity start (e.document previous hash base) =
      if base < start ∨ e.entity ≠ entity then .ok none
      else (codec.decode e.name e.payload).map fun event => some ⟨entity, .whole base, event⟩ := by
  have event : Chain.require "event" (e.document previous hash base) =
      .ok (e.storedData base) := rfl
  have seq : Chain.require "seq" (e.storedData base) = .ok (.int base) := rfl
  have owner : Chain.require "entity_id" (e.storedData base) = .ok (.str e.entity) := rfl
  have name : Chain.require "type" (e.storedData base) = .ok (.str e.name) := rfl
  have payload : Chain.lookup "payload" (.map []) (e.storedData base) = .ok e.payload := rfl
  have parts : readRecord codec entity start (e.document previous hash base) =
      if (Seq.whole base).isBelow start then .ok none
      else if !(Value.str e.entity).isStr entity then .ok none
      else (codec.decode e.name e.payload).map fun event => some ⟨entity, .whole base, event⟩ := by
    rw [readRecord, event]
    simp only [Except.bind, bind, seq, owner, name, payload, Seq.ofValue?, Codec.decodeStored]
    rfl
  rw [parts, Seq.isBelow_whole]
  by_cases below : (base : Int) < start
  · simp [below]
  · by_cases own : e.entity = entity
    · simp [below, own, isStr]
    · simp [below, own, isStr, Ne.symm own]

theorem readFrom_listed (codec : Codec E) (entity : String) (start : Int) {base : Nat}
    {events : List Stored} {documents : List Value} (h : Listed base events documents) :
    readFrom codec entity start (documents.map .ok) =
      readStored codec entity start base events := by
  induction h with
  | nil => rfl
  | @cons base e events documents previous hash _ ih =>
    have record := readRecord_document codec entity start e previous hash base
    have document : (Except.ok (e.document previous hash base) >>= readRecord codec entity start) =
        readRecord codec entity start (e.document previous hash base) := rfl
    rw [List.map_cons, readFrom, readStored, document, record, ih]
    split_ifs
    · rfl
    · cases codec.decode e.name e.payload <;> rfl

/-- Reading a file yields what can be read of the events that it carries. -/
theorem read_carries {content : List UInt8} {events : List Stored} (h : Carries content events)
    (path : String) (codec : Codec E) (entity : String) (start : Int) :
    (⟨path, codec, .file content⟩ : FileLog E).read entity start =
      readStored codec entity start 0 events := by
  obtain ⟨lines, documents, rfl, forms, listed⟩ := h
  rw [FileLog.read, rawRecords_lineBytes forms]
  exact readFrom_listed codec entity start listed

theorem read_holds {content : List UInt8} {events : List Stored} {last : String}
    (h : Holds content events last) (path : String) (codec : Codec E) (entity : String)
    (start : Int) :
    (⟨path, codec, .file content⟩ : FileLog E).read entity start =
      readStored codec entity start 0 events :=
  read_carries h.carries path codec entity start

end FileLog

end EventLedger
