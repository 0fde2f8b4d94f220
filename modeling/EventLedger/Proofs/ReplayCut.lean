import Mathlib.Data.List.DropRight
import EventLedger.Proofs.FileReplay
import EventLedger.Proofs.OpenLines
import EventLedger.Proofs.StoredEvents

/-!
# Replaying a file up to a number

A file can be replayed up to a number, or cut behind the last line with such a number
(`FileLog.cutBehind`) and replayed as a whole. Both lead to the same, except for one record: the
reader decodes the next record of the entity before the replay looks at its number, so a next record
that cannot be decoded stops the replay (`Replay.replay_upTo_cut`). Nothing behind that record
matters, and no record of another entity.
-/

namespace EventLedger

namespace FileLog

theorem newline_not_mem_splitLines (content : List UInt8) :
    ∀ line ∈ splitLines content, newline ∉ line := by
  induction content with
  | nil => exact List.forall_mem_singleton.2 List.not_mem_nil
  | cons b content ih =>
    rw [splitLines]
    split
    next => exact List.forall_mem_cons.2 ⟨List.not_mem_nil, ih⟩
    next other =>
      obtain ⟨line, lines, cut⟩ := List.exists_cons_of_ne_nil (splitLines_ne_nil content)
      rw [cut, List.forall_mem_cons] at ih
      rw [cut]
      exact List.forall_mem_cons.2 ⟨List.not_mem_cons_of_ne_of_not_mem (Ne.symm other) ih.1, ih.2⟩

/-- The lines with their newlines are the content. -/
theorem flatten_terminated_splitLines (content : List UInt8) :
    (terminated (splitLines content)).flatten = content := by
  induction content with
  | nil => rfl
  | cons b content ih =>
    obtain ⟨line, lines, cut⟩ := List.exists_cons_of_ne_nil (splitLines_ne_nil content)
    rw [splitLines]
    split
    next same =>
      rw [same, cut, terminated, ← cut, List.flatten_cons, ih]
      · rfl
      · exact List.cons_ne_nil _ _
    next other =>
      rw [cut] at ih ⊢
      cases lines with
      | nil => exact congrArg (b :: ·) ih
      | cons => exact congrArg (b :: ·) ih

theorem splitLines_flatten {lines : List (List UInt8)} (whole : ∀ line ∈ lines, newline ∉ line) :
    splitLines (lines.map (· ++ [newline])).flatten = lines ++ [[]] := by
  induction lines with
  | nil => rfl
  | cons line lines ih =>
    rw [List.forall_mem_cons] at whole
    rw [List.map_cons, List.flatten_cons, List.append_assoc, List.singleton_append,
      splitLines_append whole.1, ih whole.2, List.cons_append]

/-- The first lines of a file are found in a file of them. -/
theorem contentLines_flatten {content : List UInt8} {front : List (List UInt8)}
    (first : front <+: terminated (splitLines content)) :
    contentLines front.flatten = front.filter fun line => !line.all Text.isBlankByte := by
  obtain ⟨lines, last, cut⟩ : ∃ lines last, splitLines content = lines ++ [last] :=
    ⟨_, _, (List.dropLast_concat_getLast (splitLines_ne_nil content)).symm⟩
  have whole : ∀ line ∈ lines, newline ∉ line := fun line mem =>
    newline_not_mem_splitLines content line (cut ▸ List.mem_append_left _ mem)
  have chunks : terminated (splitLines content) = lines.map (· ++ [newline]) ++ [last] := by
    rw [cut, terminated_append _ (List.cons_ne_nil _ _)]
    rfl
  rw [chunks, List.prefix_concat_iff] at first
  rcases first with all | first
  · rw [all, ← chunks, flatten_terminated_splitLines]
    rfl
  · obtain ⟨k, rfl⟩ : ∃ k, front = (lines.map (· ++ [newline])).take k :=
      ⟨_, List.prefix_iff_eq_take.1 first⟩
    have whole' : ∀ line ∈ lines.take k, newline ∉ line := fun line mem =>
      whole line (List.mem_of_mem_take mem)
    rw [← List.map_take, contentLines, splitLines_flatten whole', terminated_append_nil,
      List.filter_append]
    exact List.append_nil _

/-- The whole number that the record on a line has. -/
def numberOf? (line : List UInt8) : Option Int :=
  match parseLine line with
  | .ok document =>
    match (document.field? "event").bind (Value.field? "seq") with
    | some (.int i) => some i
    | _ => none
  | .error _ => none

/-- The line is a record with a number up to `s`. -/
def isUpTo (s : Int) (line : List UInt8) : Bool :=
  !line.all Text.isBlankByte && (numberOf? line).any (· ≤ s)

/-- The file, cut behind its last line with a number up to `s`. -/
def cutBehind (s : Int) (content : List UInt8) : List UInt8 :=
  ((terminated (splitLines content)).rdropWhile fun line => !isUpTo s line).flatten

/-- What the reader looks at in a record. -/
structure Parts where
  entity : Value
  seq : Int
  name : Value
  payload : Value

/-- An object with the parts of a record, whatever else is in it. -/
inductive HasParts : Value → Parts → Prop
  | intro {entries data : List (Value × Value)} {p : Parts}
    (event : Value.get? "event" entries = some (.map data))
    (entity : Value.get? "entity_id" data = some p.entity)
    (seq : Value.get? "seq" data = some (.int p.seq))
    (name : Value.get? "type" data = some p.name)
    (payload : Value.get? "payload" data = some p.payload) : HasParts (.map entries) p

/-- A line with a record. -/
def IsRecord (line : List UInt8) (p : Parts) : Prop :=
  ∃ document, parseLine line = .ok document ∧ HasParts document p

/-- The lines of the file are these records, under increasing numbers. -/
structure Lists (content : List UInt8) (records : List Parts) : Prop where
  lines : List.Forall₂ IsRecord (contentLines content) records
  increasing : records.Pairwise fun p q => p.seq < q.seq

theorem IsRecord.numberOf? {line : List UInt8} {p : Parts} (h : IsRecord line p) :
    numberOf? line = some p.seq := by
  obtain ⟨document, read, parts⟩ := h
  cases parts with
  | intro event _ seq =>
    rw [FileLog.numberOf?, read]
    simp only [Value.field?, event, Option.bind_some, seq]

theorem IsRecord.isUpTo {line : List UInt8} {p : Parts} (h : IsRecord line p)
    (solid : (!line.all Text.isBlankByte) = true) (s : Int) :
    isUpTo s line = decide (p.seq ≤ s) := by
  rw [FileLog.isUpTo, solid, h.numberOf?]
  rfl

/-- If the last line has a number up to `s`, so have all lines. -/
theorem seq_le_of_last {s : Int} {lines : List (List UInt8)} {records : List Parts}
    (h : List.Forall₂ IsRecord (lines.filter fun line => !line.all Text.isBlankByte) records)
    (increasing : records.Pairwise fun p q => p.seq < q.seq)
    (last : ∀ nonempty : lines ≠ [], ¬ (!isUpTo s (lines.getLast nonempty)) = true) :
    ∀ p ∈ records, p.seq ≤ s := by
  rcases List.eq_nil_or_concat' lines with rfl | ⟨front, line, rfl⟩
  · cases h
    exact List.forall_mem_nil _
  · have upTo : isUpTo s line = true := by
      have kept := last (List.concat_ne_nil line front)
      rwa [List.getLast_concat, Bool.not_eq_true', Bool.not_eq_false] at kept
    have solid := (Bool.and_eq_true_iff.1 upTo).1
    rw [List.filter_append, List.filter_singleton, solid, cond_true] at h
    obtain ⟨before, final, rfl, -, ends⟩ := exists_append_of_forall₂ h
    obtain - | ⟨record, ⟨⟩⟩ := ends
    rw [record.isUpTo solid, decide_eq_true_iff] at upTo
    intro p mem
    rcases List.mem_append.1 mem with earlier | same
    · have less := (List.pairwise_append.1 increasing).2.2 p earlier _ (List.mem_singleton_self _)
      omega
    · rw [List.mem_singleton.1 same]
      exact upTo

/-- Cutting a file keeps the records up to the number. -/
theorem Lists.cut {content : List UInt8} {records : List Parts} (h : Lists content records)
    (s : Int) :
    List.Forall₂ IsRecord (contentLines (cutBehind s content))
        (records.filter fun p => decide (p.seq ≤ s)) ∧
      ∃ later, records = (records.filter fun p => decide (p.seq ≤ s)) ++ later ∧
        ∀ p ∈ later, s < p.seq := by
  have parts := List.rdropWhile_append_rtakeWhile (p := fun line => !isUpTo s line)
    (l := terminated (splitLines content))
  have kept := contentLines_flatten
    (List.rdropWhile_prefix (fun line => !isUpTo s line) (l := terminated (splitLines content)))
  have lines := h.lines
  rw [contentLines, ← parts, List.filter_append, ← kept] at lines
  obtain ⟨front, later, rfl, before, behind⟩ := exists_append_of_forall₂ lines
  have within : ∀ p ∈ front, p.seq ≤ s := by
    rw [kept] at before
    exact seq_le_of_last before (List.pairwise_append.1 h.increasing).1
      (List.rdropWhile_last_not _ _)
  -- The lines that are cut off were dropped one by one, so each of them has a number above.
  have above : ∀ p ∈ later, s < p.seq := by
    intro p mem
    obtain ⟨line, found, record⟩ := exists_of_forall₂ behind.flip p mem
    obtain ⟨dropped, solid⟩ := List.mem_filter.1 found
    have beyond := List.mem_rtakeWhile_imp dropped
    rw [IsRecord.isUpTo record solid, Bool.not_eq_true', decide_eq_false_iff_not] at beyond
    omega
  have same : (front ++ later).filter (fun p => decide (p.seq ≤ s)) = front := by
    rw [List.filter_append, List.filter_eq_self.2 fun p mem => decide_eq_true (within p mem),
      List.filter_eq_nil_iff.2 fun p mem => by simpa using above p mem, List.append_nil]
  rw [same]
  exact ⟨before, later, rfl, above⟩

/-- The parts of events that are stored under numbers from `base` on. -/
def partsFrom (base : Nat) : List Stored → List Parts
  | [] => []
  | e :: events => ⟨.str e.entity, base, .str e.name, e.payload⟩ :: partsFrom (base + 1) events

theorem hasParts_of_listed {base : Nat} {events : List Stored} {documents : List Value}
    (h : Listed base events documents) :
    List.Forall₂ HasParts documents (partsFrom base events) := by
  induction h with
  | nil => exact .nil
  | cons _ _ _ ih => exact .cons (.intro rfl rfl rfl rfl rfl) ih

theorem le_of_mem_partsFrom {base : Nat} {events : List Stored} :
    ∀ p ∈ partsFrom base events, (base : Int) ≤ p.seq := by
  induction events generalizing base with
  | nil => exact List.forall_mem_nil _
  | cons e events ih =>
    refine List.forall_mem_cons.2 ⟨le_rfl, fun p mem => ?_⟩
    have later := ih p mem
    omega

theorem pairwise_partsFrom (base : Nat) (events : List Stored) :
    (partsFrom base events).Pairwise fun p q => p.seq < q.seq := by
  induction events generalizing base with
  | nil => exact .nil
  | cons e events ih =>
    refine .cons (fun p mem => ?_) (ih (base + 1))
    have later := le_of_mem_partsFrom p mem
    show (base : Int) < p.seq
    omega

/-- What appends leave is such a file. -/
theorem Carries.lists {content : List UInt8} {events : List Stored} (h : Carries content events) :
    Lists content (partsFrom 0 events) := by
  obtain ⟨lines, documents, rfl, forms, listed⟩ := h
  refine ⟨?_, pairwise_partsFrom 0 events⟩
  have whole := forall_mem_of_forall₂ forms fun _ _ line => line.newline_not_mem
  have solid := forall_mem_of_forall₂ forms fun _ _ line => line.solid
  have parts := hasParts_of_listed listed
  rw [contentLines_lineBytes whole solid, List.forall₂_map_left_iff]
  generalize partsFrom 0 events = records at parts
  clear listed whole solid
  induction forms generalizing records with
  | nil => cases parts; exact .nil
  | cons line _ ih =>
    obtain - | ⟨first, others⟩ := parts
    exact .cons ⟨_, line.parseLine, first⟩ (ih _ others)

/-! ## Reading the records of an entity -/

variable {E : Type} (codec : Codec E) (entity : String)

/-- The reader of an entity's records decodes this one. -/
def Parts.isOf (p : Parts) : Bool :=
  decide (0 ≤ p.seq) && p.entity.isStr entity

/-- What is read of the records of an entity, up to the first that cannot be decoded. -/
def readParts : List Parts → Reading E
  | [] => { records := [] }
  | p :: records =>
    if p.isOf entity then
      match codec.decodeStored p.name p.payload with
      | .error fault => { records := [], fault := some fault }
      | .ok event => (readParts records).cons ⟨entity, .whole p.seq, event⟩
    else readParts records

/-- The event of the first record of an entity above `s`, or why it cannot be decoded. -/
def nextAbove? (s : Int) (records : List Parts) : Option (Except Fault E) :=
  (records.find? fun p => p.isOf entity && decide (s < p.seq)).map fun p =>
    codec.decodeStored p.name p.payload

variable {codec entity}

theorem readRecord_parts {document : Value} {p : Parts} (h : HasParts document p) :
    readRecord codec entity 0 document =
      if p.isOf entity then
        (codec.decodeStored p.name p.payload).map fun event => some ⟨entity, .whole p.seq, event⟩
      else .ok none := by
  cases h with
  | @intro entries data p event owner seq name payload =>
    have require {key : String} {v : Value} (found : Value.get? key data = some v) :
        Chain.require key (.map data) = .ok v := by rw [Chain.require, found]
    have body : Chain.lookup "payload" (.map []) (.map data) = .ok p.payload := by
      rw [Chain.lookup, payload, Option.getD_some]
    have outer : Chain.require "event" (.map entries) = .ok (.map data) := by
      rw [Chain.require, event]
    have parts : readRecord codec entity 0 (.map entries) =
        if (Seq.whole p.seq).isBelow 0 then .ok none
        else if !p.entity.isStr entity then .ok none
        else (codec.decodeStored p.name p.payload).map fun event =>
          some ⟨entity, .whole p.seq, event⟩ := by
      rw [readRecord, outer]
      simp only [Except.bind, bind, require seq, require owner, require name, body, Seq.ofValue?]
      rfl
    rw [parts, Seq.isBelow_whole, Parts.isOf]
    by_cases below : p.seq < 0
    · simp [below]
    · cases own : p.entity.isStr entity <;> simp [below, not_lt.1 below]

theorem readFrom_parts {lines : List (List UInt8)} {records : List Parts}
    (h : List.Forall₂ IsRecord lines records) :
    readFrom codec entity 0 (lines.map parseLine) = readParts codec entity records := by
  induction h with
  | nil => rfl
  | cons first _ ih =>
    obtain ⟨document, read, parts⟩ := first
    have decoded : (parseLine _ >>= readRecord codec entity 0) = _ :=
      (congrArg (· >>= readRecord codec entity 0) read).trans (readRecord_parts parts)
    rw [List.map_cons, readFrom, decoded, readParts, ih]
    split_ifs
    · cases codec.decodeStored _ _ <;> rfl
    · rfl

/-- Records up to a number have none above it. -/
theorem nextAbove?_append {s : Int} {front : List Parts} (within : ∀ p ∈ front, p.seq ≤ s)
    (later : List Parts) :
    nextAbove? codec entity s (front ++ later) = nextAbove? codec entity s later := by
  have none : front.find? (fun p => p.isOf entity && decide (s < p.seq)) = none := by
    refine List.find?_eq_none.2 fun p mem => ?_
    rw [decide_eq_false (not_lt.2 (within p mem)), Bool.and_false]
    exact Bool.false_ne_true
  rw [nextAbove?, List.find?_append, none, Option.none_or, nextAbove?]

end FileLog

/-! ## Replaying -/

namespace Replay

open FileLog

variable {S C E R : Type} [HasKind S] [HasKind E] (codec : Codec E) (entity : String)
  (applier : Applier S E)

/-- Folds what is read of records onto what is recovered so far. -/
def resumeParts (upTo : Option Int) (recovered : Recovered S) (records : List Parts) :
    Except (Failure S E) (Recovered S) :=
  resume applier upTo (readParts codec entity records).fault recovered
    (readParts codec entity records).records

variable {codec entity}

theorem resumeParts_of_other {p : Parts} (other : ¬ p.isOf entity = true) (upTo : Option Int)
    (recovered : Recovered S) (records : List Parts) :
    resumeParts codec entity applier upTo recovered (p :: records) =
      resumeParts codec entity applier upTo recovered records := by
  rw [resumeParts, readParts, if_neg other, resumeParts]

theorem resumeParts_of_fault {p : Parts} (own : p.isOf entity = true) {fault : Fault}
    (fails : codec.decodeStored p.name p.payload = .error fault) (upTo : Option Int)
    (recovered : Recovered S) (records : List Parts) :
    resumeParts codec entity applier upTo recovered (p :: records) = .error (.fault fault) := by
  rw [resumeParts, readParts, if_pos own, fails]
  rfl

theorem resumeParts_of_event {p : Parts} (own : p.isOf entity = true) {event : E}
    (decodes : codec.decodeStored p.name p.payload = .ok event) (upTo : Option Int)
    (recovered : Recovered S) (records : List Parts) :
    resumeParts codec entity applier upTo recovered (p :: records) =
      if upTo.any (· < p.seq) then .ok recovered
      else applier.apply recovered.state event >>= fun state =>
        resumeParts codec entity applier upTo ⟨state, recovered.applied + 1, .whole p.seq⟩
          records := by
  have above : (Seq.whole p.seq).isAbove = fun s => decide (s < p.seq) :=
    funext fun s => Seq.isAbove_whole p.seq s
  rw [resumeParts, readParts, if_pos own, decodes]
  simp only [Reading.cons, resume, above]
  rfl

/-- A replay up to a number goes on, behind records up to that number, as if it had begun there. -/
theorem resumeParts_append {s : Int} {front : List Parts} (within : ∀ p ∈ front, p.seq ≤ s)
    (recovered : Recovered S) (later : List Parts) :
    resumeParts codec entity applier (some s) recovered (front ++ later) =
      resumeParts codec entity applier none recovered front >>= fun recovered =>
        resumeParts codec entity applier (some s) recovered later := by
  induction front generalizing recovered with
  | nil => rfl
  | cons p front ih =>
    rw [List.forall_mem_cons] at within
    rw [List.cons_append]
    by_cases own : p.isOf entity = true
    · cases decoded : codec.decodeStored p.name p.payload with
      | error fault =>
        rw [resumeParts_of_fault applier own decoded, resumeParts_of_fault applier own decoded]
        rfl
      | ok event =>
        rw [resumeParts_of_event applier own decoded, resumeParts_of_event applier own decoded]
        simp only [Option.any_some, not_lt.2 within.1, decide_false, Option.any_none,
          Bool.false_eq_true, if_false]
        cases applier.apply recovered.state event with
        | error failure => rfl
        | ok state => exact ih within.2 _
    · rw [resumeParts_of_other applier own, resumeParts_of_other applier own]
      exact ih within.2 recovered

/-- Above a number, a replay up to it takes nothing. But the next record is decoded by then. -/
theorem resumeParts_above {s : Int} {later : List Parts} (above : ∀ p ∈ later, s < p.seq)
    (recovered : Recovered S) :
    ((∀ fault, nextAbove? codec entity s later ≠ some (.error fault)) →
      resumeParts codec entity applier (some s) recovered later = .ok recovered) ∧
    ∀ fault, nextAbove? codec entity s later = some (.error fault) →
      resumeParts codec entity applier (some s) recovered later = .error (.fault fault) := by
  induction later with
  | nil => exact ⟨fun _ => rfl, nofun⟩
  | cons p later ih =>
    rw [List.forall_mem_cons] at above
    by_cases own : p.isOf entity = true
    · have next : nextAbove? codec entity s (p :: later) =
          some (codec.decodeStored p.name p.payload) := by
        rw [nextAbove?, List.find?_cons_of_pos (by rw [own, decide_eq_true above.1]; rfl)]
        rfl
      rw [next]
      cases decoded : codec.decodeStored p.name p.payload with
      | error fault =>
        rw [resumeParts_of_fault applier own decoded]
        refine ⟨fun sound => absurd rfl (sound fault), ?_⟩
        rintro _ ⟨⟩
        rfl
      | ok event =>
        rw [resumeParts_of_event applier own decoded, Option.any_some, decide_eq_true above.1,
          if_pos rfl]
        exact ⟨fun _ => rfl, nofun⟩
    · have next : nextAbove? codec entity s (p :: later) = nextAbove? codec entity s later := by
        rw [nextAbove?, List.find?_cons_of_neg (by simp [own]), nextAbove?]
      rw [next, resumeParts_of_other applier own]
      exact ih above.2

variable (behavior : Behavior S C E R)

theorem replay_of_lines (codec : Codec E) (entity path : String) {content : List UInt8}
    {records : List Parts} (h : List.Forall₂ IsRecord (contentLines content) records)
    (upTo : Option Int) :
    replay behavior ((⟨path, codec, .file content⟩ : FileLog E).read entity 0) upTo =
      resumeParts codec entity behavior.applier upTo { state := behavior.emptyState } records := by
  rw [replay, FileLog.read, rawRecords, readFrom_parts h, resumeParts]

/-- Replaying a file up to a number is replaying the file cut behind that number, if the next record
of the entity can be decoded or there is none. Otherwise it fails with what that record fails with,
unless the cut file fails before. Nothing else behind the number matters. -/
theorem replay_upTo_cut (path : String) (codec : Codec E) {content : List UInt8}
    {records : List Parts} (h : Lists content records) (entity : String) (s : Int) :
    let name := behavior.persistenceId entity
    let upTo := replay behavior ((⟨path, codec, .file content⟩ : FileLog E).read name 0) (some s)
    let cut := replay behavior
      ((⟨path, codec, .file (cutBehind s content)⟩ : FileLog E).read name 0) none
    (upTo = cut ↔ (∃ failure, cut = .error failure) ∨
        ∀ fault, nextAbove? codec name s records ≠ some (.error fault)) ∧
      ∀ fault, nextAbove? codec name s records = some (.error fault) →
        upTo = cut >>= fun _ => .error (.fault fault) := by
  intro name upTo cut
  obtain ⟨kept, later, split, above⟩ := h.cut s
  have within : ∀ p ∈ records.filter (fun p => decide (p.seq ≤ s)), p.seq ≤ s := fun p mem =>
    of_decide_eq_true (List.mem_filter.1 mem).2
  -- The cut file is the front of the records, and what is left of the replay is all behind it.
  have folded : upTo = cut >>= fun recovered =>
      resumeParts codec name behavior.applier (some s) recovered later := by
    have whole := replay_of_lines behavior codec name path h.lines (some s)
    rw [split, resumeParts_append behavior.applier within,
      ← replay_of_lines behavior codec name path kept] at whole
    exact whole
  have next : nextAbove? codec name s records = nextAbove? codec name s later := by
    rw [split, nextAbove?_append within]
  rw [next, folded]
  clear_value cut
  cases cut with
  | error failure => exact ⟨iff_of_true rfl (.inl ⟨failure, rfl⟩), fun _ _ => rfl⟩
  | ok recovered =>
    obtain ⟨sound, fails⟩ := resumeParts_above behavior.applier above recovered
    refine ⟨⟨fun same => .inr fun fault stops => ?_, ?_⟩, fails⟩
    · cases (fails fault stops).symm.trans same
    · rintro (⟨failure, ⟨⟩⟩ | none)
      exact sound none

end Replay

namespace Account

open FileLog Replay

/-- The log of events that were appended for an account, under any names and without amounts. -/
theorem exists_lists (entity : String) (names : List String) :
    ∃ content, appendContent entity [] (names.map fun name => (name, .map [])) =
        .ok (seqsFrom 0 names.length, content) ∧
      Lists content (partsFrom 0 (names.map fun name => ⟨entity, name, .map []⟩)) := by
  obtain ⟨content, last, appended, holds⟩ := appendContent_holds holds_empty entity
    (List.forall_mem_map.2 fun _ _ => document_empty :
      ∀ p ∈ names.map fun name => (name, Value.map []), Value.Document p.2)
  refine ⟨content, ?_, ?_⟩
  · rw [appended, List.length_map]
    rfl
  · rw [List.nil_append, List.map_map] at holds
    exact holds.carries.lists

/-- `replay_upTo_cut` for an account that was created and closed, and an event that nobody knows:
up to the creation, that event does not matter. -/
theorem replay_upTo_cut_created :
    ∃ content, appendContent "Account|acc" []
        [("AccountCreated", .map []), ("AccountClosed", .map []), ("AccountRenamed", .map [])] =
          .ok (seqsFrom 0 3, content) ∧
      ∃ records, Lists content records ∧
      replay (behavior .reject)
          ((⟨"log.jsonl", codec, .file content⟩ : FileLog Event).read "Account|acc" 0) (some 0) =
        .ok ⟨.opened .zero, 1, .whole 0⟩ := by
  obtain ⟨content, appended, lists⟩ :=
    exists_lists "Account|acc" ["AccountCreated", "AccountClosed", "AccountRenamed"]
  refine ⟨content, appended, _, lists, ?_⟩
  have same := ((replay_upTo_cut (behavior .reject) "log.jsonl" codec lists "acc" 0).1).2
    (.inr fun fault => ?_)
  · refine same.trans ((replay_of_lines _ _ _ _ (lists.cut 0).1 _).trans ?_)
    rfl
  · nofun

/-- The next event is decoded although its number is above: if nobody knows it, the replay fails. -/
theorem replay_upTo_undecoded :
    ∃ content, appendContent "Account|acc" []
        [("AccountCreated", .map []), ("AccountRenamed", .map [])] = .ok (seqsFrom 0 2, content) ∧
      (∃ records, Lists content records) ∧
      replay (behavior .reject)
          ((⟨"log.jsonl", codec, .file content⟩ : FileLog Event).read "Account|acc" 0) (some 0) =
        .error (.fault (.store (.unknownEvent "AccountRenamed"))) ∧
      replay (behavior .reject)
          ((⟨"log.jsonl", codec, .file (cutBehind 0 content)⟩ : FileLog Event).read "Account|acc" 0)
          none =
        .ok ⟨.opened .zero, 1, .whole 0⟩ := by
  obtain ⟨content, appended, lists⟩ :=
    exists_lists "Account|acc" ["AccountCreated", "AccountRenamed"]
  refine ⟨content, appended, ⟨_, lists⟩, ?_, ?_⟩
  · exact (replay_of_lines _ _ _ _ lists.lines _).trans rfl
  · exact (replay_of_lines _ _ _ _ (lists.cut 0).1 _).trans rfl

end Account

end EventLedger
