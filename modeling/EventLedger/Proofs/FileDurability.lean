import EventLedger.Proofs.FileRefinement
import EventLedger.Proofs.OpenLines
import EventLedger.Proofs.RecordLines

/-!
# Durability of what was acknowledged

The file may have been left by anyone, as long as it can be read. If nothing but blanks stands behind
its last newline, events that an append acknowledges are read back behind everything that was read
before, under the numbers of the receipt (`Account.append_durable`). These go on from whatever number
the last record has, so a reader that starts at zero does not see the ones below it.

If the last record has lost its newline, the file is read as before, and an append is acknowledged.
But then nobody can read the file any more (`Account.append_behind_cut`).
-/

namespace EventLedger

namespace FileLog

open Json Value

/-- A number that an append gives is written so that it is read back. -/
theorem written_next (s : Seq) (k : Nat) :
    ∃ cs, write .compact (s.next k).toValue = .ok cs ∧ Reads cs (s.next k).toValue := by
  cases s with
  | whole i => exact ⟨_, rfl, reads_int _⟩
  | flag b => exact ⟨_, rfl, reads_int _⟩
  | real d => exact ⟨_, rfl, Double.reads_double (Double.valid_add _ _)⟩

/-- The record of an event under any number that an append gives makes a line. -/
theorem line_of_next {e : Stored} (h : Document e.payload) (previous hash : String) (s : Seq)
    (k : Nat) :
    ∃ cs, (Chain.recordOf previous hash
        (eventData e.entity (s.next k) e.name e.payload)).canonicalChars = .ok cs ∧
      Line cs (e.numberedDocument previous hash (s.next k)) ∧
      EndsItself (Text.chars cs) (e.numberedDocument previous hash (s.next k)) :=
  line_of_payload e.entity e.name h.canonicalize ⟨rfl, h.written⟩ ⟨rfl, written_next s k⟩ h.whole
    previous hash

/-- A line with the record of an encoded event under its number. -/
def RecordLine (entity : String) (p : String × Value) (l : Seq × List Char) : Prop :=
  ∃ previous hash,
    Line l.2 ((⟨entity, p.1, p.2⟩ : Stored).numberedDocument previous hash l.1) ∧
      EndsItself (Text.chars l.2) ((⟨entity, p.1, p.2⟩ : Stored).numberedDocument previous hash l.1)

/-- All lines that an append writes are lines with records. -/
theorem recordLines_of_chainLines {entity : String} {encoded : List (String × Value)}
    (documents : ∀ p ∈ encoded, Document p.2) {offset : Nat} {last hash : Value}
    {lines : List (Seq × List Char)}
    (h : chainLines entity last offset hash encoded = .ok lines) :
    List.Forall₂ (RecordLine entity) encoded lines := by
  induction encoded generalizing offset last hash lines with
  | nil => cases h; exact .nil
  | cons p encoded ih =>
    rw [List.forall_mem_cons] at documents
    obtain ⟨name, payload⟩ := p
    rw [chainLines] at h
    cases number : Seq.ofValue? last with
    | none => rw [number] at h; cases h
    | some s =>
      rw [number] at h
      cases hash with
      | str previous =>
        obtain ⟨⟨hash, record⟩, linked, h⟩ := exists_of_bind_ok h
        obtain ⟨cs, text, h⟩ := exists_of_bind_ok h
        obtain ⟨others, written, h⟩ := exists_of_bind_ok h
        obtain ⟨hash', -, made⟩ := exists_of_bind_ok linked
        cases h
        cases made
        obtain ⟨cs', text', line⟩ := line_of_next (e := ⟨entity, name, payload⟩) documents.1
          previous hash s offset
        cases text.symm.trans text'
        exact .cons ⟨previous, hash, line⟩ (ih documents.2 written)
      | _ => cases h

variable {E : Type} {codec : Codec E} {entity : String} {start : Int}

theorem readRecord_numbered (entity : String) {name : String} {payload : Value} {event : E}
    (decodes : codec.decode name payload = .ok event) {seq : Seq}
    (late : seq.isBelow start = false) (previous hash : String) :
    readRecord codec entity start
        ((⟨entity, name, payload⟩ : Stored).numberedDocument previous hash seq) =
      .ok (some ⟨entity, seq, event⟩) := by
  let e : Stored := ⟨entity, name, payload⟩
  have data : Chain.require "event" (e.numberedDocument previous hash seq) =
      .ok (e.numberedData seq) := rfl
  have number : Chain.require "seq" (e.numberedData seq) = .ok seq.toValue := rfl
  have owner : Chain.require "entity_id" (e.numberedData seq) = .ok (.str entity) := rfl
  have type : Chain.require "type" (e.numberedData seq) = .ok (.str name) := rfl
  have body : Chain.lookup "payload" (.map []) (e.numberedData seq) = .ok payload := rfl
  have own : EntityName.isStored entity (.str entity) = true := beq_self_eq_true entity
  rw [readRecord, data]
  simp only [Except.bind, bind, number, owner, type, body, own, ofValue?_toValue, late,
    Codec.decodeStored, decodes]
  rfl

/-- What stands behind documents that can be read is read behind them. -/
theorem readFrom_append {front : List (Except Fault Value)} {records : List (Record E)}
    (h : readFrom codec entity start front = { records := records })
    (back : List (Except Fault Value)) :
    readFrom codec entity start (front ++ back) =
      { readFrom codec entity start back with
        records := records ++ (readFrom codec entity start back).records } := by
  induction front generalizing records with
  | nil => cases h; rfl
  | cons document front ih =>
    rw [List.cons_append, readFrom]
    rw [readFrom] at h
    cases read : document >>= readRecord codec entity start with
    | error fault => rw [read] at h; cases h
    | ok found =>
      rw [read] at h
      cases found with
      | none => exact ih h
      | some record =>
        cases others : readFrom codec entity start front with
        | mk records' fault =>
          simp only [others, Reading.cons] at h
          cases h
          simp only [ih others, Reading.cons, List.cons_append]

/-- Nobody reads past a line that is no document. -/
theorem exists_fault_readFrom (codec : Codec E) (entity : String) (start : Int)
    (front : List (Except Fault Value)) (fault : Fault) (back : List (Except Fault Value)) :
    ∃ fault', (readFrom codec entity start (front ++ .error fault :: back)).fault = some fault' := by
  induction front with
  | nil => exact ⟨fault, rfl⟩
  | cons document front ih =>
    rw [List.cons_append, readFrom]
    cases document >>= readRecord codec entity start with
    | error fault => exact ⟨fault, rfl⟩
    | ok found =>
      cases found with
      | none => exact ih
      | some record => exact ih

/-- Lines with records are read as the decoded events under their numbers. -/
theorem readFrom_recordLines {encoded : List (String × Value)} {lines : List (Seq × List Char)}
    (h : List.Forall₂ (RecordLine entity) encoded lines) {decoded : List E}
    (decodes : List.Forall₂ (fun p event => codec.decode p.1 p.2 = .ok event) encoded decoded)
    (late : ∀ l ∈ lines, l.1.isBelow start = false) :
    ∃ documents, List.Forall₂ Line (lines.map (·.2)) documents ∧
      readFrom codec entity start (documents.map .ok) =
        { records := (receipt entity (lines.map (·.1)) decoded).records } := by
  induction h generalizing decoded with
  | nil => cases decodes; exact ⟨[], .nil, rfl⟩
  | @cons p l encoded lines first _ ih =>
    cases decodes with
    | cons decode decodes =>
      rw [List.forall_mem_cons] at late
      obtain ⟨previous, hash, line, -⟩ := first
      obtain ⟨documents, forms, reads⟩ := ih decodes late.2
      have record := readRecord_numbered entity decode late.1 previous hash
      refine ⟨_, .cons line forms, ?_⟩
      rw [List.map_cons, readFrom, reads]
      simp only [bind, Except.bind, record]
      rfl

theorem receipt_cons (entity : String) (seq : Seq) (seqs : List Seq) (event : E) (events : List E) :
    (receipt entity (seq :: seqs) (event :: events)).records =
      ⟨entity, seq, event⟩ :: (receipt entity seqs events).records := rfl

/-- What an append that is acknowledged has done. -/
theorem exists_of_append [HasFields E] {path : String} {content : List UInt8} {events : List E}
    {r : Receipt E} {log : FileLog E}
    (h : (⟨path, codec, .file content⟩ : FileLog E).append entity events = (.ok r, log)) :
    ∃ encoded seq hash lines, events.mapM codec.encode = .ok encoded ∧
      chainLines entity seq 0 hash encoded = .ok lines ∧
      r = receipt entity (lines.map (·.1)) events ∧
      log = ⟨path, codec, .file (content ++ lineBytes (lines.map (·.2)))⟩ := by
  rw [append] at h
  split at h
  next => cases h
  next =>
    cases encodes : events.mapM codec.encode with
    | error fault => rw [encodes] at h; cases h
    | ok encoded =>
      rw [encodes] at h
      cases written : appendContent entity content encoded with
      | error fault => simp only [written] at h; cases h
      | ok result =>
        obtain ⟨⟨seq, hash⟩, -, rest⟩ := exists_of_bind_ok written
        obtain ⟨lines, lined, rest⟩ := exists_of_bind_ok rest
        cases rest
        simp only [written] at h
        cases h
        exact ⟨encoded, seq, hash, lines, rfl, lined, rfl, rfl⟩

end FileLog

namespace Account

/-! ## What was acknowledged is read -/

open FileLog

/-- Equal events under the same numbers make receipts that cannot be told apart. -/
theorem receipt_alike {events decoded : List Event} (h : List.Forall₂ Event.Same events decoded)
    (entity : String) (seqs : List Seq) :
    List.Forall₂ SameRecord (receipt entity seqs events).records
      (receipt entity seqs decoded).records := by
  induction h generalizing seqs with
  | nil => cases seqs <;> exact .nil
  | cons same _ ih =>
    cases seqs with
    | nil => exact .nil
    | cons seq seqs =>
      rw [receipt_cons, receipt_cons]
      exact .cons ⟨rfl, rfl, same⟩ (ih seqs)

/-- Events that need no rounding are decoded as equal ones. -/
theorem exists_decoded {events : List Event} (representable : ∀ e ∈ events, e.Representable)
    {encoded : List (String × Value)} (encodes : events.mapM codec.encode = .ok encoded) :
    ∃ decoded, (∀ p ∈ encoded, Value.Document p.2) ∧
      List.Forall₂ (fun p event => codec.decode p.1 p.2 = .ok event) encoded decoded ∧
      List.Forall₂ Event.Same events decoded := by
  have pairs := forall₂_of_mapM encodes
  clear encodes
  induction pairs with
  | nil => exact ⟨[], List.forall_mem_nil _, .nil, .nil⟩
  | @cons e p events encoded encodes _ ih =>
    rw [List.forall_mem_cons] at representable
    obtain ⟨name, payload, e', encodes', document, decodes, same⟩ :=
      encode_of_fits representable.1.finite representable.1.fits
    cases encodes.symm.trans encodes'
    obtain ⟨decoded, documents, others, alike⟩ := ih representable.2
    exact ⟨e' :: decoded, List.forall_mem_cons.2 ⟨document, documents⟩, .cons decodes others,
      .cons same alike⟩

/-- Whatever is in a file that can be read: if only blanks stand behind its last newline, events that
an append acknowledges are read back behind everything that was read before, under the numbers of
the receipt, unless these are below zero. -/
theorem append_durable {path : String} {content : List UInt8}
    (skipped : ∀ b ∈ openEnd content, IsSkipped b) {entity : String} {records : List (Record Event)}
    (reads : (⟨path, codec, .file content⟩ : FileLog Event).read entity 0 = { records := records })
    {events : List Event} (representable : ∀ e ∈ events, e.Representable) {r : Receipt Event}
    {log : FileLog Event}
    (appended : (⟨path, codec, .file content⟩ : FileLog Event).append entity events = (.ok r, log))
    (late : ∀ record ∈ r.records, record.seq.isBelow 0 = false) :
    r.records.map (·.event) = events ∧
      ∃ more, log.read entity 0 = { records := records ++ more } ∧
        ReadAlike { records := r.records } { records := more } := by
  obtain ⟨encoded, seq, hash, lines, encodes, chained, rfl, rfl⟩ := exists_of_append appended
  obtain ⟨decoded, documents, decodes, same⟩ := exists_decoded representable encodes
  have recordLines := recordLines_of_chainLines documents chained
  have length : events.length = lines.length := same.length_eq.trans
    (decodes.length_eq.symm.trans recordLines.length_eq)
  have events_eq : (receipt entity (lines.map (·.1)) events).records.map (·.event) = events := by
    rw [receipt, List.map_map]
    exact List.map_snd_zip (by rw [List.length_map, length])
  have numbers : (receipt entity (lines.map (·.1)) events).records.map (·.seq) =
      lines.map (·.1) := by
    rw [receipt, List.map_map]
    exact List.map_fst_zip (by rw [List.length_map, length])
  have late' : ∀ l ∈ lines, l.1.isBelow 0 = false := by
    intro l mem
    have listed : l.1 ∈ lines.map (·.1) := List.mem_map_of_mem mem
    rw [← numbers, List.mem_map] at listed
    obtain ⟨record, mem, seq⟩ := listed
    rw [← seq]
    exact late record mem
  obtain ⟨documents, forms, reads'⟩ := readFrom_recordLines recordLines decodes late'
  have alike := receipt_alike same entity (lines.map (·.1))
  refine ⟨events_eq, _, ?_, ⟨rfl, rfl⟩, alike.imp fun _ _ h => ⟨h.1, h.2.1, h.2.2.equal⟩⟩
  have front : readFrom codec entity 0 (rawRecords (.file content)) = { records := records } := reads
  rw [FileLog.read, rawRecords_behind skipped forms, readFrom_append front, reads']

theorem append_durable_new :
    (∀ b ∈ openEnd [], IsSkipped b) ∧
      (⟨"log.jsonl", codec, .file []⟩ : FileLog Event).read "Account|acc" 0 = { records := [] } ∧
      (∀ e ∈ [Event.created], e.Representable) ∧
      ∃ r log, (⟨"log.jsonl", codec, .file []⟩ : FileLog Event).append "Account|acc" [.created] =
          (.ok r, log) ∧
        (∀ record ∈ r.records, record.seq.isBelow 0 = false) ∧
        r.records.map (·.event) = [.created] ∧
        ∃ more, log.read "Account|acc" 0 = { records := [] ++ more } ∧
          ReadAlike { records := r.records } { records := more } := by
  have representable : ∀ e ∈ [Event.created], e.Representable :=
    List.forall_mem_singleton.2 ⟨.created, trivial⟩
  have empty : (⟨"log.jsonl", codec, .file []⟩ : FileLog Event).read "Account|acc" 0 =
      { records := [] } := rfl
  obtain ⟨content, last, appended, -⟩ := @append_holds _ _ "log.jsonl" _ _ _ _ holds_empty
    "Account|acc" [Event.created] (List.cons_ne_nil _ _) _
    (mapM_of_forall₂ (.cons encode_created .nil)) (List.forall_mem_singleton.2 document_empty)
  have late : ∀ record ∈ MemoryLog.recordsFrom "Account|acc" 0 [Event.created],
      record.seq.isBelow 0 = false := by decide
  exact ⟨List.forall_mem_nil _, empty, representable, _, _, appended, late,
    append_durable (List.forall_mem_nil _) empty representable appended late⟩

/-! ## A record that has lost its newline -/

theorem closed_lineBytes (lines : List (List Char)) : Closed (lineBytes lines) := by
  rcases List.eq_nil_or_concat' lines with rfl | ⟨init, cs, rfl⟩
  · exact .inl rfl
  · refine .inr ⟨lineBytes init ++ Text.encode cs, ?_⟩
    rw [lineBytes, List.flatMap_append, List.append_assoc]
    exact congrArg _ (List.append_nil _)

/-- An append that is acknowledged ends with the line of a record, behind closed lines. -/
theorem exists_last_line {path : String} {content : List UInt8} {stored : List Stored}
    {last : String} (holds : Holds content stored last) {entity : String} {events : List Event}
    (nonempty : events ≠ []) (representable : ∀ e ∈ events, e.Representable) {r : Receipt Event}
    {content' : List UInt8}
    (appended : (⟨path, codec, .file content⟩ : FileLog Event).append entity events =
      (.ok r, ⟨path, codec, .file content'⟩)) :
    ∃ front cs v, content' = front ++ Text.encode cs ++ [newline] ∧ Closed front ∧ Line cs v ∧
      Json.EndsItself (Text.chars cs) v := by
  obtain ⟨encoded, seq, hash, lines, encodes, chained, -, file⟩ := exists_of_append appended
  obtain ⟨decoded, documents, -⟩ := exists_decoded representable encodes
  have recordLines := recordLines_of_chainLines documents chained
  rcases List.eq_nil_or_concat' lines with rfl | ⟨init, l, rfl⟩
  · cases recordLines
    exact absurd (List.forall₂_nil_right_iff.1 (forall₂_of_mapM encodes)) nonempty
  obtain ⟨p, -, previous, hash', line, ends⟩ :=
    exists_of_forall₂ recordLines.flip l (List.mem_append_right _ (List.mem_singleton_self l))
  obtain ⟨lines, -, rfl, -⟩ := holds
  refine ⟨lineBytes (lines ++ init.map (·.2)), l.2, _, ?_, closed_lineBytes _, line, ends⟩
  cases file
  simp only [lineBytes, List.map_append, List.map_singleton, List.flatMap_append,
    List.flatMap_singleton, List.append_assoc]

/-- A file of any history, whose last record has lost its newline, is read as before, and every
append to it is acknowledged. But then reading ends with a fault, for every entity. -/
theorem append_behind_cut {path : String} {content : List UInt8} {stored : List Stored}
    {last : String} (holds : Holds content stored last) (entity : String) {events : List Event}
    (nonempty : events ≠ []) (representable : ∀ e ∈ events, e.Representable) :
    ∃ cut, (⟨path, codec, .file content⟩ : FileLog Event).append entity events =
        (.ok ⟨MemoryLog.recordsFrom entity stored.length events⟩,
          ⟨path, codec, .file (cut ++ [newline])⟩) ∧
      (∀ (reader : String) start, (⟨path, codec, .file cut⟩ : FileLog Event).read reader start =
        (⟨path, codec, .file (cut ++ [newline])⟩ : FileLog Event).read reader start) ∧
      ∀ (owner : String) more, more ≠ [] → (∀ e ∈ more, e.Representable) →
        ∃ log, (⟨path, codec, .file cut⟩ : FileLog Event).append owner more =
            (.ok ⟨MemoryLog.recordsFrom owner (stored.length + events.length) more⟩, log) ∧
          ∀ (reader : String) start, ∃ fault, (log.read reader start).fault = some fault := by
  obtain ⟨encoded, encodes, documents, -⟩ := exists_mirrored representable entity stored.length
  obtain ⟨content', last', appended, holds'⟩ :=
    @append_holds _ _ path _ _ _ _ holds entity _ nonempty _ encodes documents
  obtain ⟨front, cs, v, rfl, closed, line, ends⟩ :=
    exists_last_line holds nonempty representable appended
  -- The newline makes no difference to what is read.
  have whole : rawRecords (.file (front ++ Text.encode cs ++ [newline])) =
      rawRecords (.file (front ++ Text.encode cs)) := by
    rw [List.append_assoc, rawRecords_append closed, rawRecords_append closed,
      rawRecords_cut line]
    exact congrArg (_ ++ ·) (rawRecords_first line (List.forall_mem_nil _))
  refine ⟨front ++ Text.encode cs, appended, fun reader start => ?_, fun owner more ne fit => ?_⟩
  · rw [FileLog.read, FileLog.read, whole]
  · obtain ⟨encoded', encodes', documents', -⟩ :=
      exists_mirrored fit owner (stored.length + events.length)
    have count : (stored ++ encoded.map fun p => (⟨entity, p.1, p.2⟩ : Stored)).length =
        stored.length + events.length := by
      rw [List.length_append, List.length_map, (forall₂_of_mapM encodes).length_eq]
    have ends' := last_holds holds'
    rw [FileLog.last, whole, count] at ends'
    obtain ⟨lines, documents, -, appended', chained, forms, -⟩ :=
      appendContent_of_last ends' owner documents'
    refine ⟨_, append_of_content path ne encodes' appended', fun reader start => ?_⟩
    have recordLines := recordLines_of_chainLines documents' chained
    cases lines with
    | nil =>
      cases recordLines
      exact absurd (List.forall₂_nil_right_iff.1 (forall₂_of_mapM encodes')) ne
    | cons l lines =>
      cases forms with
      | cons next _ =>
        obtain ⟨fault, rest, records⟩ :=
          rawRecords_glued closed line ends next (lines.map (·.2))
        rw [FileLog.read]
        simp only [List.map_cons, records]
        exact exists_fault_readFrom ..

/-- Events that are acknowledged make a file unreadable from which everything could be read: its last
record has lost its newline. -/
theorem append_durable_fails_cut :
    ∃ content, (⟨"log.jsonl", codec, .file []⟩ : FileLog Event).append "Account|acc" [.created] =
        (.ok ⟨[⟨"Account|acc", .whole 0, .created⟩]⟩,
          ⟨"log.jsonl", codec, .file (content ++ [newline])⟩) ∧
      (⟨"log.jsonl", codec, .file content⟩ : FileLog Event).read "Account|acc" 0 =
        { records := [⟨"Account|acc", .whole 0, .created⟩] } ∧
      ∃ log, (⟨"log.jsonl", codec, .file content⟩ : FileLog Event).append "Account|acc" [.closed] =
          (.ok ⟨[⟨"Account|acc", .whole 1, .closed⟩]⟩, log) ∧
        ¬ ∃ records, log.read "Account|acc" 0 = { records := records } := by
  have created : ∀ e ∈ [Event.created], e.Representable :=
    List.forall_mem_singleton.2 ⟨.created, trivial⟩
  have closed : ∀ e ∈ [Event.closed], e.Representable :=
    List.forall_mem_singleton.2 ⟨.closed, trivial⟩
  obtain ⟨content, appended, reads, broken⟩ := @append_behind_cut "log.jsonl" _ _ _ holds_empty
    "Account|acc" _ (List.cons_ne_nil _ _) created
  obtain ⟨log, appended', faults⟩ := broken "Account|acc" _ (List.cons_ne_nil _ _) closed
  obtain ⟨content', last, appended'', holds⟩ := @append_holds _ _ "log.jsonl" _ _ _ _ holds_empty
    "Account|acc" [Event.created] (List.cons_ne_nil _ _) _
    (mapM_of_forall₂ (.cons encode_created .nil)) (List.forall_mem_singleton.2 document_empty)
  cases appended.symm.trans appended''
  refine ⟨content, appended, ?_, log, appended', ?_⟩
  · rw [reads, read_holds holds]
    exact @readStored_decoded _ codec _ _ [Event.created] (.cons ⟨rfl, rfl⟩ .nil) 0
  · rintro ⟨records, read⟩
    obtain ⟨fault, failed⟩ := faults "Account|acc" 0
    rw [read] at failed
    cases failed

end Account

end EventLedger
