import EventLedger.Proofs.FileLines
import EventLedger.Proofs.WrittenValues

/-!
# Lines with records

A record makes a line of the file if its event data can be written (`line_of_data`), which they can
if their payload can (`line_of_payload`). What is read from the line is the record of what the
payload has become. If the payload cannot be written, neither can the event data
(`eventData_written_iff`), and the fault is the same whatever their number and the hash before them
are (`canonicalChars_eventData_error`).
-/

namespace EventLedger

/-- An event as it is stored: the entity it belongs to, its name and its payload. -/
structure Stored where
  entity : String
  name : String
  payload : Value

namespace Stored

/-- The event data under any number, as they are read. -/
def numberedData (e : Stored) (seq : Seq) : Value :=
  .record [("entity_id", .str e.entity), ("payload", e.payload), ("seq", seq.toValue),
    ("type", .str e.name)]

/-- The document on the line of the event. -/
def numberedDocument (e : Stored) (previous hash : String) (seq : Seq) : Value :=
  .record [("event", e.numberedData seq), ("event_hash", .str hash), ("prev_hash", .str previous)]

end Stored

namespace FileLog

open Json Value

/-- What is read of the line of a record with some event data. -/
def storedRecord (previous hash : String) (event : Value) : Value :=
  .record [("event", event), ("event_hash", .str hash), ("prev_hash", .str previous)]

theorem readsField_str (name s : String) : ReadsField (name, .str s) (name, .str s) :=
  ⟨rfl, (Document.str s).written⟩

/-- A record behind any hash makes a line if its event data can be written. -/
theorem line_of_data {data p w : Value} (form : data.canonicalize = .ok p)
    (reads : ReadsField ("event", p) ("event", w)) (whole : data.hasHalf = false)
    (previous hash : String) :
    ∃ cs, (Chain.recordOf previous hash data).canonicalChars = .ok cs ∧
      Line cs (storedRecord previous hash w) ∧
      EndsItself (Text.chars cs) (storedRecord previous hash w) := by
  have entries : ([("event", .ok p), ("event_hash", .ok (.str hash)),
        ("prev_hash", .ok (.str previous))] : List (String × Except Fault Value)).Perm
      ([("prev_hash", .str previous), ("event_hash", .str hash), ("event", data)].map
        fun f => (f.1, f.2.canonicalize)) := by
    simp only [List.map_cons, List.map_nil, form, (Document.str _).canonicalize]
    exact List.reverse_perm [("prev_hash", _), ("event_hash", _), ("event", _)]
  obtain ⟨cs, chars, line, ends⟩ := @canonicalChars_fields _
    [("event", p), ("event_hash", .str hash), ("prev_hash", .str previous)] _ entries
    (order_of_names ["event", "event_hash", "prev_hash"] rfl (by decide))
    (.cons reads (.cons (readsField_str ..) (.cons (readsField_str ..) .nil)))
    (List.cons_ne_nil _ _) (by simp [whole, hasHalf])
  exact ⟨_, chars, ⟨⟨cs, rfl⟩, line⟩, ends⟩

theorem ofValue?_toValue (s : Seq) : Seq.ofValue? s.toValue = some s := by
  cases s <;> rfl

theorem canonicalize_toValue (s : Seq) : s.toValue.canonicalize = .ok s.toValue := by
  cases s <;> rfl

variable (entity name : String) {payload : Value}

theorem order_data {α : Type} (a b c d : α) :
    [("entity_id", a), ("payload", b), ("seq", c), ("type", d)].Pairwise
      fun f g => f.1 < g.1 :=
  order_of_names ["entity_id", "payload", "seq", "type"] rfl (by decide)

theorem perm_data {α : Type} (a b c d : α) : [a, d, b, c].Perm [a, b, c, d] :=
  .cons a (@List.perm_append_comm _ [d] [b, c])

/-- The event data have a canonical form if the payload has one. -/
theorem canonicalize_eventData (payload : Value) (seq : Seq) :
    (eventData entity seq name payload).canonicalize =
      payload.canonicalize.map fun p => (⟨entity, name, p⟩ : Stored).numberedData seq := by
  have entries : ([("entity_id", .str entity), ("seq", seq.toValue), ("type", .str name),
        ("payload", payload)].map fun f => (f.1, f.2.canonicalize)) =
      [("entity_id", .ok (.str entity)), ("seq", .ok seq.toValue), ("type", .ok (.str name)),
        ("payload", payload.canonicalize)] := by
    simp only [List.map_cons, List.map_nil, canonicalize_toValue]
    rfl
  have stored : EntityName.stored entity = .str entity := rfl
  rw [eventData, stored, record_eq, canonicalize, canonicalEntries_named, entries,
    sortByKey_named (perm_data ..) (order_data ..)]
  cases payload.canonicalize <;> rfl

theorem hasHalf_eventData (payload : Value) (seq : Seq) :
    (eventData entity seq name payload).hasHalf = payload.hasHalf := by
  cases seq <;> simp [eventData, EntityName.stored, Seq.toValue, hasHalf]

theorem exists_write_toValue (seq : Seq) : ∃ ps, write .compact seq.toValue = .ok ps := by
  cases seq <;> exact ⟨_, rfl⟩

/-- What stands in front of the payload in event data. -/
def dataFront : List Text.Point :=
  .char '\x7b' :: writeString false "entity_id" ++ .char ':' :: (writeString false entity ++
    .char ',' :: writeString false "payload" ++ [.char ':'])

/-- Event data can be written if the payload can. The number stands behind the payload. -/
theorem canonicalPoints_eventData (payload : Value) (seq : Seq) :
    ∃ back, (eventData entity seq name payload).canonicalPoints =
      payload.canonicalPoints.map fun ps => dataFront entity ++ ps ++ .char ',' :: back := by
  obtain ⟨number, written⟩ := exists_write_toValue seq
  refine ⟨writeString false "seq" ++ .char ':' :: number ++
    .char ',' :: (writeString false "type" ++ .char ':' :: writeString false name ++
      [.char '\x7d']), ?_⟩
  rw [canonicalPoints, canonicalPoints, canonicalize_eventData]
  cases payload.canonicalize with
  | error cause => rfl
  | ok p =>
    show write .compact ((⟨entity, name, p⟩ : Stored).numberedData seq) = (write .compact p).map _
    cases text : write .compact p with
    | error cause =>
      rw [Stored.numberedData, write_ordered (order_data ..)]
      simp only [List.map_cons, List.map_nil, text, written]
      rfl
    | ok ps =>
      have members : List.Forall₂ WritesMember [("entity_id", .str entity), ("payload", p),
          ("seq", seq.toValue), ("type", .str name)] _ :=
        .cons ⟨_, rfl, rfl⟩ (.cons ⟨ps, rfl, text⟩ (.cons ⟨number, rfl, written⟩
          (.cons ⟨_, rfl, rfl⟩ .nil)))
      rw [Stored.numberedData, write_fields (order_data ..) members]
      simp only [join_cons_cons, join_singleton, dataFront, Style.compact, Except.map,
        List.append_assoc, List.cons_append, List.nil_append]

/-- Event data can be written just if their payload can. -/
theorem eventData_written_iff {payload : Value} {seq : Seq} :
    (∃ cs, (eventData entity seq name payload).canonicalChars = .ok cs) ↔
      ∃ text, payload.canonicalChars = .ok text := by
  obtain ⟨back, data⟩ := canonicalPoints_eventData entity name payload seq
  refine ⟨fun ⟨cs, written⟩ => ?_, fun ⟨text, written⟩ => ?_⟩ <;>
    obtain ⟨points, whole⟩ := whole_of_canonicalChars written
  · obtain ⟨ps, points, -⟩ := exists_of_map_ok (data.symm.trans points)
    obtain ⟨text, -, chars⟩ := canonicalChars_of_whole (hasHalf_eventData .. ▸ whole) points
    exact ⟨text, chars⟩
  · rw [points] at data
    obtain ⟨cs, -, chars⟩ := canonicalChars_of_whole ((hasHalf_eventData ..).trans whole) data
    exact ⟨cs, chars⟩

/-- If event data cannot be written, their number has no part in it. -/
theorem canonicalChars_eventData_error {fault : Fault} {seq : Seq}
    (fails : (eventData entity seq name payload).canonicalChars = .error fault) (seq' : Seq) :
    (eventData entity seq' name payload).canonicalChars = .error fault := by
  obtain ⟨back, data⟩ := canonicalPoints_eventData entity name payload seq
  obtain ⟨back', data'⟩ := canonicalPoints_eventData entity name payload seq'
  cases text : payload.canonicalPoints with
  | error cause =>
    rw [text] at data data'
    rw [canonicalChars, data] at fails
    rw [canonicalChars, data']
    exact fails
  | ok ps =>
    rw [text] at data data'
    cases half : payload.hasHalf with
    | false =>
      obtain ⟨cs, -, chars⟩ := canonicalChars_of_whole ((hasHalf_eventData ..).trans half) data
      cases fails.symm.trans chars
    | true =>
      -- The first halves stand in front of the number.
      have front : Text.hasHalf (dataFront entity ++ ps) = true := by
        rw [Text.hasHalf_append, hasHalf_canonicalPoints text, half, Bool.or_true]
      rw [canonicalChars_of_half ((hasHalf_eventData ..).trans half) data,
        Text.EncodingError.of_append front] at fails
      rw [canonicalChars_of_half ((hasHalf_eventData ..).trans half) data',
        Text.EncodingError.of_append front, fails]

theorem readsField_whole (i : Int) :
    ReadsField ("seq", (Seq.whole i).toValue) ("seq", (Seq.whole i).toValue) :=
  ⟨rfl, (Document.int i).written⟩

/-- The event data are read back as those with what the payload has become. -/
theorem readsFields_data {p w : Value} (payload : ReadsField ("payload", p) ("payload", w))
    {seq : Seq} (number : ReadsField ("seq", seq.toValue) ("seq", seq.toValue)) :
    List.Forall₂ ReadsField
      [("entity_id", .str entity), ("payload", p), ("seq", seq.toValue), ("type", .str name)]
      [("entity_id", .str entity), ("payload", w), ("seq", seq.toValue), ("type", .str name)] :=
  .cons (readsField_str ..) (.cons payload (.cons number (.cons (readsField_str ..) .nil)))

/-- A record behind any hash makes a line if its payload can be written. -/
theorem line_of_payload {p w : Value} (form : payload.canonicalize = .ok p)
    (reads : ReadsField ("payload", p) ("payload", w)) {seq : Seq}
    (number : ReadsField ("seq", seq.toValue) ("seq", seq.toValue))
    (whole : payload.hasHalf = false) (previous hash : String) :
    ∃ cs, (Chain.recordOf previous hash (eventData entity seq name payload)).canonicalChars =
        .ok cs ∧
      Line cs ((⟨entity, name, w⟩ : Stored).numberedDocument previous hash seq) ∧
      EndsItself (Text.chars cs)
        ((⟨entity, name, w⟩ : Stored).numberedDocument previous hash seq) := by
  have fields := readsFields_data entity name reads number
  have order := order_data (.str entity) p seq.toValue (.str name)
  obtain ⟨parts, text, members⟩ := write_record order fields
  have data := reads_object members
  rw [object_eq (ReadsField.order fields order)] at data
  have canonical : (eventData entity seq name payload).canonicalize =
      .ok ((⟨entity, name, p⟩ : Stored).numberedData seq) := by
    rw [canonicalize_eventData, form]
    rfl
  have event : ReadsField ("event", (⟨entity, name, p⟩ : Stored).numberedData seq)
      ("event", (⟨entity, name, w⟩ : Stored).numberedData seq) := ⟨rfl, _, text, data⟩
  exact line_of_data canonical event ((hasHalf_eventData ..).trans whole) previous hash

/-- Event data whose payload can be written have a hash behind any other. -/
theorem hash_of_payload {text : List Char} (written : payload.canonicalChars = .ok text) (seq : Seq)
    (previous : String) :
    ∃ hash, Chain.hashRecord previous (eventData entity seq name payload) = .ok hash := by
  obtain ⟨cs, chars⟩ := (eventData_written_iff entity name).2 ⟨text, written⟩
  rw [Chain.hashRecord, canonicalBytes, chars]
  exact ⟨_, rfl⟩

end FileLog

end EventLedger
