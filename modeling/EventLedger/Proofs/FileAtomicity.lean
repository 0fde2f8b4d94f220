import EventLedger.Proofs.FailedSubmission
import EventLedger.Proofs.FileDurability
import EventLedger.Proofs.ReadableFile

/-!
# Appends that write all their lines or nothing

An append can be hindered in many places: there is nothing to append, an event cannot be encoded, a
line that is already in the file cannot be read, the chain ends in something that cannot be continued,
or a payload cannot be written (`Hindrance`). All of that comes up before the file is touched, whatever
its content is and wherever in the batch the event stands. `append_whole` is the law: an append that is
hindered leaves the file as it was, and every other puts one whole line for each event behind all
bytes that were there.
-/

namespace EventLedger.FileLog

open Json Value

/-- The sequence number and the hash of a document that an append continues. -/
def chainEnd (document : Value) : Except Fault (Value × Value) := do
  let seq ← Chain.require "seq" (← Chain.require "event" document)
  let hash ← Chain.require "event_hash" document
  return (seq, hash)

theorem lastFrom_eq_bind (seq hash : Value) (document : Except Fault Value)
    (documents : List (Except Fault Value)) :
    lastFrom seq hash (document :: documents) =
      (document >>= chainEnd) >>= fun p => lastFrom p.1 p.2 documents := by
  rw [lastFrom]
  cases document with
  | error fault => rfl
  | ok v =>
    simp only [bind, Except.bind, chainEnd]
    cases Chain.require "event" v with
    | error fault => rfl
    | ok event =>
      simp only
      cases Chain.require "seq" event with
      | error fault => rfl
      | ok seq => cases Chain.require "event_hash" v <;> rfl

/-- The end of a chain is found if all documents can be read and have what is looked for. -/
theorem exists_lastFrom_iff {documents : List (Except Fault Value)} (seq hash : Value) :
    (∃ p, lastFrom seq hash documents = .ok p) ↔
      ∀ d ∈ documents, ∃ p, d >>= chainEnd = .ok p := by
  induction documents generalizing seq hash with
  | nil => exact ⟨fun _ => nofun, fun _ => ⟨_, rfl⟩⟩
  | cons document documents ih =>
    rw [lastFrom_eq_bind, List.forall_mem_cons]
    cases found : document >>= chainEnd with
    | error fault => exact ⟨fun ⟨_, h⟩ => (nomatch h), fun ⟨⟨_, h⟩, _⟩ => (nomatch h)⟩
    | ok p => exact (ih p.1 p.2).trans ⟨fun h => ⟨⟨p, rfl⟩, h⟩, fun h => h.2⟩

variable {entity : String} {encoded : List (String × Value)} {last hash : Value}

/-- The record of an event whose payload can be written makes a line under any number that an append
gives. -/
theorem exists_line_of_written {payload : Value} {text : List Char}
    (written : payload.canonicalChars = .ok text) (entity name previous : String) (s : Seq) (k : Nat) :
    ∃ hash cs document,
      Chain.hashRecord previous (eventData entity (s.next k) name payload) = .ok hash ∧
        (Chain.recordOf previous hash (eventData entity (s.next k) name payload)).canonicalChars =
          .ok cs ∧
        Line cs document := by
  obtain ⟨points, whole⟩ := whole_of_canonicalChars written
  obtain ⟨p, form, text⟩ := exists_of_bind_ok points
  obtain ⟨w, reads⟩ := exists_reads_of_write text
  have field : ReadsField ("payload", p) ("payload", w) := ⟨rfl, _, text, reads⟩
  have number : ReadsField ("seq", (s.next k).toValue) ("seq", (s.next k).toValue) :=
    ⟨rfl, written_next s k⟩
  obtain ⟨hash, hashed⟩ := hash_of_payload entity name written (s.next k) previous
  obtain ⟨cs, canonical, line, -⟩ :=
    line_of_payload entity name form field number whole previous hash
  exact ⟨hash, cs, _, hashed, canonical, line⟩

/-- Events whose payloads can be written make one line each. -/
theorem exists_chainLines {s : Seq} (number : Seq.ofValue? last = some s)
    (written : ∀ p ∈ encoded, ∃ text, p.2.canonicalChars = .ok text) (offset : Nat)
    (previous : String) :
    ∃ lines, chainLines entity last offset (.str previous) encoded = .ok lines ∧
      lines.length = encoded.length ∧ ∀ l ∈ lines, newline ∉ Text.encode l.2 := by
  induction encoded generalizing last offset previous with
  | nil => exact ⟨[], rfl, rfl, nofun⟩
  | cons p encoded ih =>
    rw [List.forall_mem_cons] at written
    obtain ⟨⟨text, first⟩, others⟩ := written
    obtain ⟨name, payload⟩ := p
    obtain ⟨hash, cs, document, hashed, canonical, line⟩ :=
      exists_line_of_written first entity name previous s offset
    obtain ⟨lines, chained, length, whole⟩ := ih (ofValue?_toValue s) others (offset + 1) hash
    refine ⟨(s.next offset, cs) :: lines, ?_, congrArg (· + 1) length,
      List.forall_mem_cons.2 ⟨line.newline_not_mem, whole⟩⟩
    rw [chainLines]
    simp only [number, Chain.link, hashed, canonical, chained, bind, Except.bind, pure, Except.pure]

/-- Lines are made only for payloads that can be written. -/
theorem written_of_chainLines {offset : Nat} {lines : List (Seq × List Char)}
    (chained : chainLines entity last offset hash encoded = .ok lines) :
    ∀ p ∈ encoded, ∃ text, p.2.canonicalChars = .ok text := by
  induction encoded generalizing last offset hash lines with
  | nil => nofun
  | cons p encoded ih =>
    obtain ⟨name, payload⟩ := p
    rw [chainLines] at chained
    cases number : Seq.ofValue? last with
    | none => rw [number] at chained; cases chained
    | some s =>
      rw [number] at chained
      cases hash with
      | str previous =>
        obtain ⟨⟨hash, record⟩, linked, chained⟩ := exists_of_bind_ok chained
        obtain ⟨cs, -, chained⟩ := exists_of_bind_ok chained
        obtain ⟨others, written, -⟩ := exists_of_bind_ok chained
        obtain ⟨_, hashed, -⟩ := exists_of_bind_ok linked
        obtain ⟨_, bytes, -⟩ := exists_of_bind_ok hashed
        obtain ⟨cs, chars, -⟩ := exists_of_bind_ok bytes
        exact List.forall_mem_cons.2
          ⟨(eventData_written_iff entity name).1 ⟨cs, chars⟩, ih written⟩
      | _ => cases chained

/-- The first line needs a number and a hash to continue. -/
theorem ends_of_chainLines (nonempty : encoded ≠ []) {offset : Nat}
    {lines : List (Seq × List Char)}
    (chained : chainLines entity last offset hash encoded = .ok lines) :
    (∃ s, Seq.ofValue? last = some s) ∧ ∃ previous, hash = .str previous := by
  obtain _ | ⟨⟨name, payload⟩, encoded⟩ := encoded
  · exact absurd rfl nonempty
  rw [chainLines] at chained
  cases number : Seq.ofValue? last with
  | none => rw [number] at chained; cases chained
  | some s =>
    rw [number] at chained
    cases hash with
    | str previous => exact ⟨⟨s, rfl⟩, previous, rfl⟩
    | _ => cases chained

/-- What an append has written is one whole line for each event. -/
theorem lines_of_chainLines {offset : Nat} {lines : List (Seq × List Char)}
    (chained : chainLines entity last offset hash encoded = .ok lines) :
    lines.length = encoded.length ∧ ∀ l ∈ lines, newline ∉ Text.encode l.2 := by
  by_cases empty : encoded = []
  · subst empty; cases chained; exact ⟨rfl, nofun⟩
  · obtain ⟨⟨s, number⟩, previous, rfl⟩ := ends_of_chainLines empty chained
    obtain ⟨lines', chained', whole⟩ :=
      exists_chainLines number (written_of_chainLines chained) offset previous
    cases chained.symm.trans chained'
    exact whole

variable {E : Type} [HasFields E] {codec : Codec E} {content : List UInt8} {events : List E}

/-- What keeps events from being appended to a file. -/
inductive Hindrance (codec : Codec E) (content : List UInt8) (events : List E) : Prop
  | nothing (empty : events = [])
  | unencoded {event : E} {fault : Fault} (listed : event ∈ events)
    (fails : codec.encode event = .error fault)
  /-- The payload of an event cannot be written. -/
  | unwritten {event : E} {name : String} {payload : Value} {fault : Fault}
    (listed : event ∈ events) (encodes : codec.encode event = .ok (name, payload))
    (fails : payload.canonicalChars = .error fault)
  /-- A line is no document, or lacks the number or the hash of its record. -/
  | unread {line : List UInt8} {fault : Fault} (listed : line ∈ contentLines content)
    (fails : parseLine line >>= chainEnd = .error fault)
  /-- The last record has something else for its number. -/
  | unnumbered {seq hash : Value} (ends : FileLog.last (.file content) = .ok (seq, hash))
    (other : Seq.ofValue? seq = none)
  /-- The last record has something else for its hash. -/
  | unhashed {seq hash : Value} (ends : FileLog.last (.file content) = .ok (seq, hash))
    (other : ∀ previous, hash ≠ .str previous)

theorem exists_last_iff :
    (∃ p, FileLog.last (.file content) = .ok p) ↔
      ∀ line ∈ contentLines content, ∃ p, parseLine line >>= chainEnd = .ok p := by
  rw [FileLog.last, exists_lastFrom_iff, rawRecords, List.forall_mem_map]

/-- The lines of an append that nothing hinders. -/
theorem exists_lines_of_unhindered (free : ¬ Hindrance codec content events) (entity : String) :
    ∃ encoded seq hash lines, events.mapM codec.encode = .ok encoded ∧
      FileLog.last (.file content) = .ok (seq, hash) ∧
      chainLines entity seq 0 hash encoded = .ok lines := by
  have encodes : ∀ event ∈ events, ∃ p, codec.encode event = .ok p := fun _ listed =>
    exists_ok fun _ fails => free (.unencoded listed fails)
  obtain ⟨encoded, items⟩ := exists_forall₂ encodes
  obtain ⟨⟨seq, hash⟩, ends⟩ := exists_last_iff.2 fun _ listed =>
    exists_ok fun _ fails => free (.unread listed fails)
  obtain ⟨s, number⟩ := Option.ne_none_iff_exists'.1 fun other => free (.unnumbered ends other)
  obtain ⟨previous, rfl⟩ : ∃ previous, hash = .str previous :=
    not_forall_not.1 fun other => free (.unhashed ends other)
  have written : ∀ p ∈ encoded, ∃ text, p.2.canonicalChars = .ok text := fun p mem => by
    obtain ⟨event, listed, encodes⟩ := exists_of_forall₂ items.flip p mem
    exact exists_ok fun fault fails => free (.unwritten listed encodes fails)
  obtain ⟨lines, chained, -⟩ := exists_chainLines number written 0 previous
  exact ⟨encoded, seq, _, lines, mapM_of_forall₂ items, ends, chained⟩

/-- Lines are made only if nothing hinders that. -/
theorem Hindrance.not_chained (hindered : Hindrance codec content events)
    (nonempty : events ≠ []) {encoded : List (String × Value)}
    (encodes : events.mapM codec.encode = .ok encoded) {seq hash : Value}
    (ends : FileLog.last (.file content) = .ok (seq, hash)) {lines : List (Seq × List Char)} :
    chainLines entity seq 0 hash encoded ≠ .ok lines := by
  intro chained
  have items := forall₂_of_mapM encodes
  have some : encoded ≠ [] := fun empty => nonempty (List.length_eq_zero_iff.1 (by
    rw [items.length_eq, empty, List.length_nil]))
  obtain ⟨⟨s, number⟩, previous, text⟩ := ends_of_chainLines some chained
  cases hindered with
  | nothing empty => exact nonempty empty
  | unencoded listed fails =>
    obtain ⟨p, -, succeeds⟩ := exists_of_forall₂ items _ listed
    cases fails.symm.trans succeeds
  | unwritten listed encodes fails =>
    obtain ⟨p, mem, succeeds⟩ := exists_of_forall₂ items _ listed
    cases encodes.symm.trans succeeds
    obtain ⟨text, chars⟩ := written_of_chainLines chained _ mem
    cases fails.symm.trans chars
  | unread listed fails =>
    obtain ⟨p, succeeds⟩ := exists_last_iff.1 ⟨_, ends⟩ _ listed
    cases fails.symm.trans succeeds
  | unnumbered ends' other =>
    cases ends'.symm.trans ends
    cases other.symm.trans number
  | unhashed ends' other =>
    cases ends'.symm.trans ends
    exact other previous text

/-! ## Appends -/

/-- The content is followed by a number of lines, each with its newline and no other. -/
def Lengthened (count : Nat) (content content' : List UInt8) : Prop :=
  ∃ lines : List (List UInt8), lines.length = count ∧ (∀ line ∈ lines, newline ∉ line) ∧
    content' = content ++ lines.flatMap fun line => line ++ [newline]

theorem lengthened_lineBytes {lines : List (Seq × List Char)}
    (whole : ∀ l ∈ lines, newline ∉ Text.encode l.2) (content : List UInt8) :
    Lengthened lines.length content (content ++ lineBytes (lines.map (·.2))) := by
  refine ⟨lines.map fun l => Text.encode l.2, List.length_map _, List.forall_mem_map.2 whole, ?_⟩
  rw [lineBytes, List.flatMap_map, List.flatMap_map]

omit [HasFields E] in
theorem receipt_events {seqs : List Seq} (length : seqs.length = events.length) (entity : String) :
    (receipt entity seqs events).records.map (fun r => (r.entity, r.event)) =
      events.map (entity, ·) := by
  rw [receipt, List.map_map]
  show (seqs.zip events).map ((entity, ·) ∘ Prod.snd) = _
  rw [← List.map_map, List.map_snd_zip length.ge]

/-- An append that is hindered fails, and leaves the file as it was. -/
theorem append_hindered (hindered : Hindrance codec content events) (path entity : String) :
    ∃ fault, (⟨path, codec, .file content⟩ : FileLog E).append entity events =
      (.error fault, ⟨path, codec, .file content⟩) := by
  by_cases empty : events = []
  · subst empty; exact ⟨_, rfl⟩
  cases encodes : events.mapM codec.encode with
  | error fault => exact ⟨fault, append_unencoded empty encodes⟩
  | ok encoded =>
    cases written : appendContent entity content encoded with
    | error fault =>
      exact ⟨fault, by simp only [append, List.isEmpty_iff, empty, if_false, encodes, written]⟩
    | ok result =>
      obtain ⟨⟨seq, hash⟩, ends, rest⟩ := exists_of_bind_ok written
      obtain ⟨lines, chained, -⟩ := exists_of_bind_ok rest
      exact absurd chained (hindered.not_chained empty encodes ends)

/-- An append that nothing hinders is acknowledged. -/
theorem append_unhindered (free : ¬ Hindrance codec content events) (path entity : String) :
    ∃ receipt content', (⟨path, codec, .file content⟩ : FileLog E).append entity events =
      (.ok receipt, ⟨path, codec, .file content'⟩) := by
  have nonempty : events ≠ [] := fun empty => free (.nothing empty)
  obtain ⟨encoded, seq, hash, lines, encodes, ends, chained⟩ :=
    exists_lines_of_unhindered free entity
  have written : appendContent entity content encoded =
      .ok (lines.map (·.1), content ++ lineBytes (lines.map (·.2))) := by
    rw [appendContent, ends]
    simp only [bind, Except.bind, chained, pure, Except.pure]
  refine ⟨receipt entity (lines.map (·.1)) events, content ++ lineBytes (lines.map (·.2)), ?_⟩
  simp only [append, List.isEmpty_iff, nonempty, if_false, encodes, written]

/-- An append that is acknowledged found a file, or made one without content. -/
theorem append_opened {log log' : FileLog E} {r : Receipt E}
    (appended : log.append entity events = (.ok r, log')) :
    (⟨log.path, log.codec, .file log.state.bytes⟩ : FileLog E).append entity events =
      (.ok r, log') := by
  obtain ⟨path, codec, state⟩ := log
  rw [append] at appended ⊢
  split at appended
  next => cases appended
  next nonempty =>
    rw [if_neg nonempty]
    cases encodes : events.mapM codec.encode with
    | error fault => rw [encodes] at appended; cases appended
    | ok encoded =>
      rw [encodes] at appended
      cases state with
      | missing => exact appended
      | file content => exact appended
      | directory => cases appended

/-- An append that is acknowledged lists its events, and puts one line for each of them behind the
content. -/
theorem lengthened_of_append {path : String} {log : FileLog E} {r : Receipt E}
    (appended : (⟨path, codec, .file content⟩ : FileLog E).append entity events = (.ok r, log)) :
    r.records.map (fun r => (r.entity, r.event)) = events.map (entity, ·) ∧
      Lengthened events.length content log.state.bytes := by
  obtain ⟨encoded, seq, hash, lines, encodes, chained, rfl, rfl⟩ := exists_of_append appended
  obtain ⟨length, whole⟩ := lines_of_chainLines chained
  rw [← (forall₂_of_mapM encodes).length_eq] at length
  refine ⟨receipt_events ((List.length_map _).trans length) entity, ?_⟩
  rw [← length]
  exact lengthened_lineBytes whole content

/-- An append to a file that something hinders fails, and leaves the file as it was. Every other
append is acknowledged with its events in order, and puts one whole line for each of them behind the
bytes of the file. -/
theorem append_whole (path : String) (codec : Codec E) (content : List UInt8) (entity : String)
    (events : List E) :
    (Hindrance codec content events ∧ ∃ fault,
      (⟨path, codec, .file content⟩ : FileLog E).append entity events =
        (.error fault, ⟨path, codec, .file content⟩)) ∨
    (¬ Hindrance codec content events ∧ ∃ receipt content',
      (⟨path, codec, .file content⟩ : FileLog E).append entity events =
        (.ok receipt, ⟨path, codec, .file content'⟩) ∧
      receipt.records.map (fun r => (r.entity, r.event)) = events.map (entity, ·) ∧
      Lengthened events.length content content') := by
  by_cases hindered : Hindrance codec content events
  · exact .inl ⟨hindered, append_hindered hindered path entity⟩
  · obtain ⟨receipt, content', appended⟩ := append_unhindered hindered path entity
    exact .inr ⟨hindered, receipt, content', appended, lengthened_of_append appended⟩

end EventLedger.FileLog
