import EventLedger.Proofs.ChainVerification
import EventLedger.Proofs.FileReplay
import EventLedger.Proofs.StoredEvents

/-!
# What a file represents

Any number of logs may be opened at one path, and appends made through any of them. Each append
reads the end of the chain anew, so the file always has one line for each event of the calls that
returned, in order, and the lines verify as one chain (`OpenLogs.Represented`). What this rests on is
preserved by each step (`OpenLogs.Sound.step`), as long as stored forms are documents. Those of an
account's events are, whatever the amounts (`Account.file_represents_calls`).
-/

namespace EventLedger

variable {E : Type}

namespace FileLog

open Chain Value

theorem Chained.length_eq {previous last : String} {base : Nat} {events : List Stored}
    {documents : List Value} (h : Chained previous base events documents last) :
    documents.length = events.length := by
  induction h with
  | nil => rfl
  | cons _ _ ih => exact congrArg (· + 1) ih

/-- The documents of a chain carry its events, each with its number and the hash before it. -/
theorem Chained.document {previous last : String} {base : Nat} {events : List Stored}
    {documents : List Value} (h : Chained previous base events documents last) :
    ∃ hashes : List String, hashes.length = events.length ∧ hashes.getLastD previous = last ∧
      ∀ (i : Nat) (e : Stored), events[i]? = some e → ∃ before hash,
        (previous :: hashes)[i]? = some before ∧ hashes[i]? = some hash ∧
          documents[i]? = some (e.document before hash (base + i)) := by
  induction h with
  | nil => exact ⟨[], rfl, rfl, by simp⟩
  | @cons previous hash last base e events documents _ _ ih =>
    obtain ⟨hashes, count, ends, carried⟩ := ih
    refine ⟨hash :: hashes, congrArg (· + 1) count, ?_, fun i e' found => ?_⟩
    · rw [List.getLastD_cons, ends]
    · cases i with
      | zero => cases found; exact ⟨previous, hash, rfl, rfl, rfl⟩
      | succ i =>
        have number : base + (i + 1) = base + 1 + i := by omega
        rw [number]
        exact carried i e' found

/-- Event data have one hash, before they are written and after they are read. -/
theorem hashRecord_storedData {e : Stored} (h : Document e.payload) (previous : String)
    (seq : Nat) : hashRecord previous (e.storedData seq) = hashRecord previous (e.data seq) := by
  have field := canonicalField_event h seq
  have form : (e.data seq).canonicalize = (e.storedData seq).canonicalize :=
    field.form.trans field.document.canonicalize.symm
  rw [hashRecord, hashRecord, canonicalBytes, canonicalBytes, canonicalChars_congr form]

/-- A chain whose payloads are documents verifies. -/
theorem verifyFrom_chained {previous last : String} {base : Nat} {events : List Stored}
    {documents : List Value} (h : Chained previous base events documents last)
    (payloads : ∀ e ∈ events, Document e.payload) :
    verifyFrom previous (documents.map .ok) = .ok events.length := by
  induction h with
  | nil => rfl
  | @cons previous hash last base e events documents hashed _ ih =>
    rw [List.forall_mem_cons] at payloads
    -- The hash was taken of the data as they were put together, but is checked on them as read.
    have accepted : verifyRecord previous (e.document previous hash base) = .ok hash :=
      verifyRecord_of_parts rfl rfl rfl ((hashRecord_storedData payloads.1 ..).trans hashed)
    show (verifyRecord previous (e.document previous hash base) >>= fun hash =>
      verifyFrom hash (documents.map .ok) >>= fun n => .ok (n + 1)) = _
    rw [accepted]
    show (verifyFrom hash (documents.map .ok) >>= fun n => .ok (n + 1)) = _
    rw [ih payloads.2]
    rfl

end FileLog

/-- The file has one line for each event of an entity, in order. The lines have numbers from 0 on,
each has the hash of the line before it, and together they verify as one chain. -/
structure Represents (codec : Codec E) [HasFields E] (state : FileState)
    (events : List (String × E)) (lines : List (List Char)) (hashes : List String) : Prop where
  content : state = .file (FileLog.lineBytes lines)
  lines_length : lines.length = events.length
  hashes_length : hashes.length = events.length
  line : ∀ (i : Nat) (entity : String) (event : E), events[i]? = some (entity, event) →
    ∃ line previous hash name payload, lines[i]? = some line ∧
      (Chain.zeroHash :: hashes)[i]? = some previous ∧ hashes[i]? = some hash ∧
      codec.encode event = .ok (name, payload) ∧ FileLog.newline ∉ Text.encode line ∧
      FileLog.parseLine (Text.encode (line ++ ['\n'])) =
        .ok (Stored.document ⟨entity, name, payload⟩ previous hash i)
  verify : ∀ log : FileLog E, log.state = state → log.verify = .ok lines.length
  lastHash : ∀ log : FileLog E, log.state = state →
    log.lastHash = .ok (.str (hashes.getLastD Chain.zeroHash))

/-- The stored form of an event of an entity. -/
def StoresAs [HasFields E] (codec : Codec E) (event : String × E) (s : Stored) : Prop :=
  s.entity = event.1 ∧ codec.encode event.2 = .ok (s.name, s.payload)

/-- A file that holds the stored forms of events represents them. -/
theorem represents_of_holds [HasFields E] {codec : Codec E} {content : List UInt8}
    {stored : List Stored} {last : String} (holds : FileLog.Holds content stored last)
    (payloads : ∀ s ∈ stored, s.payload.Document) {events : List (String × E)}
    (forms : List.Forall₂ (StoresAs codec) events stored) :
    ∃ lines hashes, Represents codec (.file content) events lines hashes := by
  have ends := FileLog.last_holds holds
  obtain ⟨lines, documents, rfl, written, chained⟩ := holds
  obtain ⟨hashes, count, lastHash, carried⟩ := chained.document
  have verifies := FileLog.verifyFrom_chained chained payloads
  have length : lines.length = stored.length := by
    rw [written.length_eq, chained.length_eq]
  refine ⟨lines, hashes, rfl, length.trans forms.length_eq.symm, count.trans forms.length_eq.symm,
    fun i entity event found => ?_, fun log state => ?_, fun log state => ?_⟩
  · -- From the event to its stored form, to its document, and back to the line of that.
    obtain ⟨s, found', own, form⟩ := getElem?_of_forall₂ forms found
    obtain ⟨previous, hash, before, here, document⟩ := carried i s found'
    obtain ⟨line, found'', written⟩ := getElem?_of_forall₂ written.flip document
    cases own
    rw [Nat.zero_add] at written
    exact ⟨line, previous, hash, s.name, s.payload, found'', before, here, form,
      written.newline_not_mem, written.parseLine⟩
  · rw [FileLog.verify, state, FileLog.rawRecords_lineBytes written, length]
    exact verifies
  · rw [FileLog.lastHash, state, ends, lastHash]
    rfl

/-- A call of `append`, and what it answered. -/
structure AppendCall (E : Type) where
  entity : String
  events : List E
  answer : Except Fault (Receipt E)

/-- The events that a call stored, if it returned. -/
def AppendCall.stored (call : AppendCall E) : List (String × E) :=
  match call.answer with
  | .ok _ => call.events.map fun event => (call.entity, event)
  | .error _ => []

/-- What a path leads to, the logs that were opened at it, and the calls made through them. -/
structure OpenLogs (E : Type) where
  state : FileState
  logs : List (FileLog E)
  calls : List (AppendCall E) := []

namespace OpenLogs

/-- What may be done next. -/
inductive Step (E : Type) where
  /-- One more log is opened at the path. -/
  | another
  /-- One of the logs is asked to append. -/
  | append (index : Nat) (entity : String) (events : List E)

/-- The events that a step tries to append. -/
def Step.events : Step E → List E
  | .another => []
  | .append _ _ events => events

/-- The events of the calls that returned, in order. -/
def stored (s : OpenLogs E) : List (String × E) :=
  s.calls.flatMap AppendCall.stored

theorem stored_concat (s : OpenLogs E) (call : AppendCall E) (state : FileState) :
    ({ s with state := state, calls := s.calls ++ [call] } : OpenLogs E).stored =
      s.stored ++ call.stored := by
  simp [stored]

variable [HasFields E]

/-- Appends through a log, which finds what the other logs have left. -/
def append (s : OpenLogs E) (log : FileLog E) (entity : String) (events : List E) : OpenLogs E :=
  let (answer, log) := { log with state := s.state }.append entity events
  { s with state := log.state, calls := s.calls ++ [⟨entity, events, answer⟩] }

variable (path : String) (codec : Codec E)

/-- Takes one step. -/
def step (s : OpenLogs E) : Step E → OpenLogs E
  | .another =>
    match FileLog.openAt path codec s.state with
    | .error _ => s
    | .ok log => { s with state := log.state, logs := s.logs ++ [log] }
  | .append index entity events =>
    match s.logs[index]? with
    | none => s
    | some log => s.append log entity events

/-- Takes steps, one after the other. -/
def run (s : OpenLogs E) (steps : List (Step E)) : OpenLogs E :=
  steps.foldl (step path codec) s

end OpenLogs

section

variable [HasFields E]

/-- A call behind some number of stored events returns exactly if it has events and all of them have
stored forms. Its receipt has the events, numbered behind those before. -/
structure AppendCall.Answered (codec : Codec E) (base : Nat) (call : AppendCall E) : Prop where
  returns : (∃ receipt, call.answer = .ok receipt) ↔
    call.events ≠ [] ∧ ∀ event ∈ call.events, ∃ p, codec.encode event = .ok p
  receipt : ∀ receipt, call.answer = .ok receipt →
    receipt = ⟨MemoryLog.recordsFrom call.entity base call.events⟩

/-- Every call is answered as is right behind the calls before it. -/
def AnsweredInOrder (codec : Codec E) (calls : List (AppendCall E)) : Prop :=
  ∀ before call after, calls = before ++ call :: after →
    call.Answered codec (before.flatMap AppendCall.stored).length

/-- The file represents the events of the calls that returned, and the calls were answered so. -/
structure OpenLogs.Represented (codec : Codec E) (s : OpenLogs E) : Prop where
  file : ∃ lines hashes, Represents codec s.state s.stored lines hashes
  answers : AnsweredInOrder codec s.calls

theorem AnsweredInOrder.concat {codec : Codec E} {calls : List (AppendCall E)}
    (h : AnsweredInOrder codec calls) {call : AppendCall E}
    (answered : call.Answered codec (calls.flatMap AppendCall.stored).length) :
    AnsweredInOrder codec (calls ++ [call]) := by
  intro before call' after split
  rcases List.eq_nil_or_concat after with rfl | ⟨after, last, rfl⟩
  · obtain ⟨rfl, same⟩ := List.append_inj' split rfl
    cases same
    exact answered
  · rw [List.concat_eq_append, ← List.cons_append, ← List.append_assoc] at split
    exact h before call' after (List.append_inj' split rfl).1

/-- Whatever stored form the event has is a document. -/
def Storable (codec : Codec E) (event : E) : Prop :=
  ∀ name payload, codec.encode event = .ok (name, payload) → payload.Document

namespace OpenLogs

variable {path : String} {codec : Codec E} {s : OpenLogs E}

/-- The file holds the stored forms of the events of the calls that returned. -/
structure Sound (path : String) (codec : Codec E) (s : OpenLogs E) : Prop where
  own : ∀ log ∈ s.logs, log.path = path ∧ log.codec = codec
  holds : ∃ content stored last, s.state = .file content ∧ FileLog.Holds content stored last ∧
    (∀ e ∈ stored, e.payload.Document) ∧ List.Forall₂ (StoresAs codec) s.stored stored
  answers : AnsweredInOrder codec s.calls

theorem Sound.represented (sound : s.Sound path codec) : s.Represented codec := by
  obtain ⟨content, stored, last, state, holds, payloads, forms⟩ := sound.holds
  exact ⟨state ▸ represents_of_holds holds payloads forms, sound.answers⟩

theorem sound_opened (path : String) (codec : Codec E) :
    (⟨.file [], [⟨path, codec, .file []⟩], []⟩ : OpenLogs E).Sound path codec where
  own := by simp
  holds := ⟨[], [], _, rfl, FileLog.holds_empty, nofun, .nil⟩
  answers := by intro before call after split; simp at split

/-- A call that raises changes nothing. -/
theorem Sound.raised (sound : s.Sound path codec) {call : AppendCall E} {fault : Fault}
    (raises : call.answer = .error fault)
    (reason : ¬ (call.events ≠ [] ∧ ∀ event ∈ call.events, ∃ p, codec.encode event = .ok p)) :
    ({ s with calls := s.calls ++ [call] } : OpenLogs E).Sound path codec where
  own := sound.own
  holds := by
    have none : call.stored = [] := by rw [AppendCall.stored, raises]
    rw [stored_concat, none, List.append_nil]
    exact sound.holds
  answers := by
    have no : ∀ receipt, call.answer ≠ .ok receipt := by rw [raises]; nofun
    exact sound.answers.concat
      ⟨iff_of_false (fun ⟨receipt, returned⟩ => no receipt returned) reason,
        fun receipt returned => absurd returned (no receipt)⟩

/-- A call that returns puts the stored forms of its events behind those in the file. -/
theorem Sound.returned (sound : s.Sound path codec) (entity : String) {events : List E}
    (nonempty : events ≠ []) {encoded : List (String × Value)}
    (encodes : events.mapM codec.encode = .ok encoded)
    (storable : ∀ event ∈ events, Storable codec event) :
    ∃ content receipt, (⟨path, codec, s.state⟩ : FileLog E).append entity events =
        (.ok receipt, ⟨path, codec, .file content⟩) ∧
      ({ s with state := .file content, calls := s.calls ++ [⟨entity, events, .ok receipt⟩] } :
        OpenLogs E).Sound path codec := by
  obtain ⟨content, stored, last, state, holds, payloads, forms⟩ := sound.holds
  have each := forall₂_of_mapM encodes
  have documents : ∀ p ∈ encoded, Value.Document p.2 := by
    intro p mem
    obtain ⟨event, mem, form⟩ := exists_of_forall₂ each.flip p mem
    exact storable event mem p.1 p.2 form
  obtain ⟨content', last', appended, holds'⟩ :=
    @FileLog.append_holds _ _ path _ _ _ _ holds entity _ nonempty _ encodes documents
  refine ⟨content', _, state ▸ appended, sound.own, ⟨content', _, last', rfl, holds', ?_, ?_⟩, ?_⟩
  · rw [List.forall_mem_append, List.forall_mem_map]
    exact ⟨payloads, documents⟩
  · rw [stored_concat]
    refine List.rel_append forms (List.forall₂_map_left_iff.2 (List.forall₂_map_right_iff.2 ?_))
    exact each.imp fun _ _ form => ⟨rfl, form⟩
  · have all : ∀ event ∈ events, ∃ p, codec.encode event = .ok p := fun event mem =>
      (exists_of_forall₂ each event mem).imp fun _ form => form.2
    refine sound.answers.concat ⟨⟨fun _ => ⟨nonempty, all⟩, fun _ => ⟨_, rfl⟩⟩, ?_⟩
    rintro _ ⟨⟩
    rw [← forms.length_eq]
    rfl

/-- An append through any of the logs keeps the file sound. -/
theorem Sound.append (sound : s.Sound path codec) {log : FileLog E} (mem : log ∈ s.logs)
    (entity : String) {events : List E} (storable : ∀ event ∈ events, Storable codec event) :
    (s.append log entity events).Sound path codec := by
  -- A log keeps its path and codec only, so that it continues what any other has left.
  have now : ({ log with state := s.state } : FileLog E) = ⟨path, codec, s.state⟩ := by
    obtain ⟨rfl, rfl⟩ := sound.own log mem
    rfl
  rw [OpenLogs.append, now]
  by_cases nonempty : events = []
  · subst nonempty
    exact sound.raised rfl fun ⟨event, _⟩ => event rfl
  cases encodes : events.mapM codec.encode with
  | error fault =>
    rw [FileLog.append_unencoded nonempty encodes]
    refine sound.raised rfl fun ⟨_, all⟩ => ?_
    obtain ⟨encoded, each⟩ := exists_forall₂ all
    cases encodes.symm.trans (mapM_of_forall₂ each)
  | ok encoded =>
    obtain ⟨content, receipt, appended, sound'⟩ :=
      sound.returned entity nonempty encodes storable
    rw [appended]
    exact sound'

theorem Sound.step (sound : s.Sound path codec) {step : Step E}
    (storable : ∀ event ∈ step.events, Storable codec event) :
    (s.step path codec step).Sound path codec := by
  cases step with
  | another =>
    rw [OpenLogs.step]
    split
    next => exact sound
    next log opens =>
      obtain ⟨content, stored, last, state, holds⟩ := sound.holds
      obtain ⟨rfl, -⟩ := FileLog.openAt_ok opens
      rw [state]
      refine ⟨?_, ⟨content, stored, last, rfl, holds⟩, sound.answers⟩
      rw [List.forall_mem_append, List.forall_mem_singleton]
      exact ⟨sound.own, rfl, rfl⟩
  | append index entity events =>
    rw [OpenLogs.step]
    split
    next => exact sound
    next log found => exact sound.append (List.mem_of_getElem? found) entity storable

theorem Sound.run (sound : s.Sound path codec) {steps : List (Step E)}
    (storable : ∀ step ∈ steps, ∀ event ∈ step.events, Storable codec event) :
    (s.run path codec steps).Sound path codec := by
  induction steps generalizing s with
  | nil => exact sound
  | cons step steps ih =>
    rw [List.forall_mem_cons] at storable
    exact ih (sound.step storable.1) storable.2

end OpenLogs

end

/-! ## Stored forms -/

namespace Codec

variable [HasFields E] {codec : Codec E}

/-- What an event is stored as is its fields in canonical form. -/
theorem canonicalize_of_encode {event : E} {name : String} {payload : Value}
    (h : codec.encode event = .ok (name, payload)) :
    (Value.record (HasFields.fields event)).canonicalize = .ok payload := by
  unfold encode at h
  split at h
  next => cases h
  next =>
    obtain ⟨_, form, ⟨⟩⟩ := exists_of_bind_ok h
    exact form

theorem unknown_not_encoded {event : E} (unknown : Registry.get? (kind event) codec.names = none)
    (p : String × Value) : codec.encode event ≠ .ok p := by
  rw [encode, unknown]
  nofun

end Codec

/-! ## Files of accounts -/

namespace Account

open Value

/-- An event of the account's own; or one of an application that is stored under no name, or whose
fields are documents under different names. -/
def Event.Plain : Event → Prop
  | .other kind fields => Registry.get? kind codec.names = none ∨
    (fields.Pairwise fun f g => f.1 ≠ g.1) ∧ ∀ f ∈ fields, Document f.2
  | _ => True

theorem document_of_canonicalize_amount {d : Decimal} {payload : Value}
    (h : (record [("amount", .decimal d)]).canonicalize = .ok payload) : payload.Document := by
  rw [canonicalize_amount] at h
  obtain ⟨t, -, rfl⟩ := exists_of_map_ok h
  exact document_amount t

/-- Documents under different names are a document in the order of their names. -/
theorem document_of_canonicalize_fields {fields : List (String × Value)}
    (distinct : fields.Pairwise fun f g => f.1 ≠ g.1) (documents : ∀ f ∈ fields, Document f.2)
    {payload : Value} (h : (record fields).canonicalize = .ok payload) : payload.Document := by
  obtain ⟨sorted, perm, order⟩ := exists_sorted distinct
  have forms : List.Forall₂ CanonicalField fields fields :=
    List.forall₂_same.2 fun f mem => (documents f mem).field f.1
  cases (canonicalize_record forms perm order).symm.trans h
  exact document_record forms perm order

/-- The stored form of such an event, if it has one, is a document. -/
theorem Event.Plain.storable {event : Event} (plain : event.Plain) : Storable codec event := by
  intro name payload encodes
  have form := Codec.canonicalize_of_encode encodes
  cases event with
  | created | closed =>
    cases document_empty.canonicalize.symm.trans form
    exact document_empty
  | deposited | withdrawn => exact document_of_canonicalize_amount form
  | other kind fields =>
    rcases plain with unknown | ⟨distinct, documents⟩
    · exact absurd encodes (Codec.unknown_not_encoded unknown _)
    · exact document_of_canonicalize_fields distinct documents form

/-- Whatever is appended at a path that is missing or leads to an empty file, through any number of
logs, to any entities and in calls that may raise, the file represents the events of the calls that
returned. -/
theorem file_represents_calls {path : String} {initial : FileState}
    (empty : initial = .missing ∨ initial = .file []) {log : FileLog Event}
    (opened : FileLog.openAt path codec initial = .ok log) {steps : List (OpenLogs.Step Event)}
    (plain : ∀ step ∈ steps, ∀ event ∈ step.events, event.Plain) :
    ((⟨log.state, [log], []⟩ : OpenLogs Event).run path codec steps).Represented codec := by
  obtain ⟨rfl, -⟩ := FileLog.openAt_ok opened
  have file : FileLog.opened initial = .file [] := by rcases empty with rfl | rfl <;> rfl
  rw [file]
  refine ((OpenLogs.sound_opened path codec).run fun step mem event mem' => ?_).represented
  exact (plain step mem event mem').storable

/-- `file_represents_calls` for two logs, an entity with a newline and a quote, a call without
events, and a call with an event that the codec does not know. -/
theorem file_represents_calls_interleaved :
    let steps : List (OpenLogs.Step Event) :=
      [.append 0 "a\"\n\x00é" [.created, .deposited ⟨.infinite false, rfl⟩], .another,
        .append 1 "" [],
        .append 1 "b" [.created, .other "Audited" [("amount", .decimal .zero)]],
        .append 0 "b" [.created, .closed]]
    (FileState.missing = .missing ∨ FileState.missing = .file []) ∧
      FileLog.openAt "log.jsonl" codec .missing = .ok ⟨"log.jsonl", codec, .file []⟩ ∧
      (∀ step ∈ steps, ∀ event ∈ step.events, event.Plain) ∧
      ((⟨.file [], [⟨"log.jsonl", codec, .file []⟩], []⟩ : OpenLogs Event).run "log.jsonl" codec
        steps).Represented codec := by
  intro steps
  have opened : FileLog.openAt "log.jsonl" codec .missing =
      .ok ⟨"log.jsonl", codec, .file []⟩ := rfl
  have plain : ∀ step ∈ steps, ∀ event ∈ step.events, event.Plain := by
    have unknown : Registry.get? "Audited" codec.names = none := rfl
    simp [steps, OpenLogs.Step.events, Event.Plain, unknown]
  exact ⟨.inl rfl, opened, plain, file_represents_calls (.inl rfl) opened plain⟩

end Account

end EventLedger
