import EventLedger.Proofs.ExitStatus
import EventLedger.Proofs.TamperEvidence
import EventLedger.Text.Integer

/-!
# What verification says of a file

Verification goes along the lines of a file up to the first that does not continue the chain
(`Continues`). If that is an object with a wrong hash, the verdict is that the chain is broken
(`Tampered`). But a line that is no document, or no object, or has no object for its event, or an
event with a half of a character in it, ends verification with a fault of its own, which is no
verdict (`Unfit`). A command line that asks for the verdict is then not answered.

`CommandLine.verdict_iff` says of every file what comes of its verification and what the command line
shows; for a file that cannot be read that is nothing (`CommandLine.verdict_missing`). Only numerals
that are too long for a whole number are left out (`FileLog.ShortNumerals`).
-/

namespace EventLedger

namespace Chain

open Value

/-- A record that continues a chain: an object with the hash before it, an object for its event, and the
hash of both. -/
inductive Continues (previous : String) : Value → String → Prop
  | intro {entries data : List (Value × Value)} {hash : String}
    (event : get? "event" entries = some (.map data))
    (before : get? "prev_hash" entries = some (.str previous))
    (hashes : hashRecord previous (.map data) = .ok hash)
    (own : get? "event_hash" entries = some (.str hash)) :
    Continues previous (.map entries) hash

/-- The number of event data as a verdict names it. -/
def seqText (data : List (Value × Value)) : List Text.Point :=
  ((get? "seq" data).getD .null).points

/-- An object that breaks the chain, and the verdict on it. -/
inductive Tampered (previous : String) : Value → ChainFault → Prop
  | brokenLink {entries data : List (Value × Value)}
    (event : (get? "event" entries).getD (.map []) = .map data)
    (other : get? "prev_hash" entries ≠ some (.str previous)) :
    Tampered previous (.map entries) (.brokenLink (seqText data))
  | wrongHash {entries data : List (Value × Value)} {hash : String}
    (event : get? "event" entries = some (.map data))
    (before : get? "prev_hash" entries = some (.str previous))
    (hashes : hashRecord previous (.map data) = .ok hash)
    (other : get? "event_hash" entries ≠ some (.str hash)) :
    Tampered previous (.map entries) (.wrongHash (seqText data))

/-- A line that cannot be judged, and the fault that it causes. -/
inductive Unfit (previous : String) : Except Fault Value → Fault → Prop
  | unread (fault : Fault) : Unfit previous (.error fault) fault
  | noObject {document : Value} (other : ∀ entries, document ≠ .map entries) :
    Unfit previous (.ok document) .missingPart
  | noEventObject {entries : List (Value × Value)} {event : Value}
    (found : get? "event" entries = some event) (other : ∀ data, event ≠ .map data) :
    Unfit previous (.ok (.map entries)) .missingPart
  | noEvent {entries : List (Value × Value)} (none : get? "event" entries = none)
    (before : get? "prev_hash" entries = some (.str previous)) :
    Unfit previous (.ok (.map entries)) .missingEntry
  /-- The event has a half of a character in it, so that there is no hash of it. -/
  | halved {entries data : List (Value × Value)} {ps : List Text.Point}
    (event : get? "event" entries = some (.map data))
    (before : get? "prev_hash" entries = some (.str previous))
    (half : (Value.map data).hasHalf = true) (text : (Value.map data).canonicalPoints = .ok ps) :
    Unfit previous (.ok (.map entries)) (.encoding (.encoding (.of ps)))

theorem isStr_getD {entries : List (Value × Value)} {key s : String} :
    ((get? key entries).getD .null).isStr s = true ↔ get? key entries = some (.str s) :=
  ⟨get?_of_isStr, fun found => by rw [found]; exact beq_self_eq_true s⟩

theorem Continues.verifyRecord {previous hash : String} {document : Value}
    (continues : Continues previous document hash) : verifyRecord previous document = .ok hash := by
  cases continues with
  | intro event before hashes own => exact verifyRecord_of_parts before own event hashes

theorem Tampered.verifyRecord {previous : String} {document : Value} {cause : ChainFault}
    (tampered : Tampered previous document cause) :
    verifyRecord previous document = .error (.chain cause) := by
  cases tampered with
  | brokenLink event other =>
    have different := mt isStr_getD.1 other
    simp only [Chain.verifyRecord, lookup, event, bind, Except.bind, different]
    rfl
  | wrongHash event before hashes other =>
    have same := isStr_getD.2 before
    have different := mt isStr_getD.1 other
    simp only [Chain.verifyRecord, lookup, require, event, Option.getD_some, bind, Except.bind, same,
      hashes, different]
    rfl

theorem Unfit.verifyRecord {previous : String} {line : Except Fault Value} {fault : Fault}
    (unfit : Unfit previous line fault) : line >>= verifyRecord previous = .error fault := by
  cases unfit with
  | unread => rfl
  | @noObject document other =>
    cases document with
    | map entries => exact absurd rfl (other entries)
    | _ => rfl
  | @noEventObject entries event found other =>
    cases event with
    | map data => exact absurd rfl (other data)
    | _ => simp only [bind, Except.bind, Chain.verifyRecord, lookup, found, Option.getD_some]
  | noEvent none before =>
    have same := isStr_getD.2 before
    simp only [bind, Except.bind, Chain.verifyRecord, lookup, require, none, Option.getD_none, same]
    rfl
  | halved event before half text =>
    have same := isStr_getD.2 before
    have fails := canonicalChars_of_half half text
    simp only [bind, Except.bind, Chain.verifyRecord, lookup, require, event, Option.getD_some,
      same, hashRecord, canonicalBytes, fails]
    rfl

/-- Every line continues the chain, breaks it, or cannot be judged. -/
theorem continues_or_tampered_or_unfit (previous : String) {line : Except Fault Value}
    (json : ∀ document, line = .ok document → IsJson document) :
    (∃ document hash, line = .ok document ∧ Continues previous document hash) ∨
      (∃ document cause, line = .ok document ∧ Tampered previous document cause) ∨
      ∃ fault, Unfit previous line fault := by
  cases line with
  | error fault => exact .inr (.inr ⟨fault, .unread fault⟩)
  | ok document =>
    by_cases object : ∃ entries, document = .map entries
    · obtain ⟨entries, rfl⟩ := object
      by_cases before : get? "prev_hash" entries = some (.str previous)
      · cases found : get? "event" entries with
        | none => exact .inr (.inr ⟨_, .noEvent found before⟩)
        | some event =>
          by_cases data : ∃ data, event = .map data
          · obtain ⟨data, rfl⟩ := data
            obtain ⟨ps, text⟩ := ((json _ rfl).field found).exists_canonicalPoints
            cases half : (Value.map data).hasHalf with
            | true => exact .inr (.inr ⟨_, .halved found before half text⟩)
            | false =>
              obtain ⟨cs, -, chars⟩ := canonicalChars_of_whole half text
              have hashes := hashRecord_of_chars chars previous
              by_cases own : get? "event_hash" entries =
                  some (.str (Sha256.hexDigest (Text.bytesOf previous ++ Text.encode cs)))
              · exact .inl ⟨_, _, rfl, .intro found before hashes own⟩
              · exact .inr (.inl ⟨_, _, rfl, .wrongHash found before hashes own⟩)
          · exact .inr (.inr ⟨_, .noEventObject found (not_exists.1 data)⟩)
      · by_cases data : ∃ data, (get? "event" entries).getD (.map []) = .map data
        · obtain ⟨data, event⟩ := data
          exact .inr (.inl ⟨_, _, rfl, .brokenLink event before⟩)
        · cases found : get? "event" entries with
          | none => exact absurd ⟨[], by rw [found]; rfl⟩ data
          | some event =>
            rw [found] at data
            exact .inr (.inr ⟨_, .noEventObject found (not_exists.1 data)⟩)
    · exact .inr (.inr ⟨_, .noObject (not_exists.1 object)⟩)

/-! ## All lines -/

/-- Lines that continue a chain one behind the other, and the hash of the last one. -/
inductive Unbroken : String → List (Except Fault Value) → String → Prop
  | nil (previous : String) : Unbroken previous [] previous
  | cons {previous hash last : String} {document : Value} {lines : List (Except Fault Value)}
    (first : Continues previous document hash) (others : Unbroken hash lines last) :
    Unbroken previous (.ok document :: lines) last

/-- Lines that continue the chain are counted, and verification goes on behind them. -/
theorem Unbroken.verifyFrom {previous last : String} {front : List (Except Fault Value)}
    (unbroken : Unbroken previous front last) (rest : List (Except Fault Value)) :
    verifyFrom previous (front ++ rest) = (verifyFrom last rest).map (· + front.length) := by
  induction unbroken with
  | nil previous =>
    rw [List.nil_append]
    cases Chain.verifyFrom previous rest <;> rfl
  | @cons _ _ last _ _ first _ ih =>
    rw [List.cons_append, Chain.verifyFrom]
    simp only [bind, Except.bind, first.verifyRecord, ih]
    cases Chain.verifyFrom last rest <;> rfl

/-- What the verification of lines comes to. -/
inductive Judged (previous : String) (lines : List (Except Fault Value)) : Except Fault Nat → Prop
  | holds {last : String} (unbroken : Unbroken previous lines last) :
    Judged previous lines (.ok lines.length)
  | broken {front rest : List (Except Fault Value)} {last : String} {document : Value}
    {cause : ChainFault} (split : lines = front ++ .ok document :: rest)
    (unbroken : Unbroken previous front last) (tampered : Tampered last document cause) :
    Judged previous lines (.error (.chain cause))
  | unjudged {front rest : List (Except Fault Value)} {last : String} {line : Except Fault Value}
    {fault : Fault} (split : lines = front ++ line :: rest)
    (unbroken : Unbroken previous front last) (unfit : Unfit last line fault) :
    Judged previous lines (.error fault)

/-- A line that does not continue the chain ends verification. -/
theorem Unbroken.verifyFrom_error {previous last : String} {front rest : List (Except Fault Value)}
    (unbroken : Unbroken previous front last) {line : Except Fault Value} {fault : Fault}
    (fails : line >>= verifyRecord last = .error fault) :
    Chain.verifyFrom previous (front ++ line :: rest) = .error fault := by
  rw [unbroken.verifyFrom, Chain.verifyFrom]
  cases line with
  | error cause => cases fails; rfl
  | ok document =>
    change verifyRecord last document = .error fault at fails
    simp only [bind, Except.bind, fails]
    rfl

theorem Judged.verifyFrom_eq {previous : String} {lines : List (Except Fault Value)}
    {outcome : Except Fault Nat} (judged : Judged previous lines outcome) :
    verifyFrom previous lines = outcome := by
  cases judged with
  | holds unbroken =>
    have counted := unbroken.verifyFrom []
    rw [List.append_nil] at counted
    rw [counted, verifyFrom, Except.map, Nat.zero_add]
  | broken split unbroken tampered =>
    rw [split]
    exact unbroken.verifyFrom_error tampered.verifyRecord
  | unjudged split unbroken unfit =>
    rw [split]
    exact unbroken.verifyFrom_error unfit.verifyRecord

theorem Judged.cons {previous hash : String} {document : Value}
    (first : Continues previous document hash) {lines : List (Except Fault Value)}
    {outcome : Except Fault Nat} (judged : Judged hash lines outcome) :
    Judged previous (.ok document :: lines) (outcome.map (· + 1)) := by
  cases judged with
  | holds unbroken => exact .holds (.cons first unbroken)
  | broken split unbroken tampered =>
    exact .broken (congrArg _ split) (.cons first unbroken) tampered
  | unjudged split unbroken unfit =>
    exact .unjudged (congrArg _ split) (.cons first unbroken) unfit

theorem exists_judged (previous : String) {lines : List (Except Fault Value)}
    (json : ∀ document, .ok document ∈ lines → IsJson document) :
    ∃ outcome, Judged previous lines outcome := by
  induction lines generalizing previous with
  | nil => exact ⟨_, .holds (.nil previous)⟩
  | cons line lines ih =>
    rcases continues_or_tampered_or_unfit previous
        fun document read => json document (read ▸ List.mem_cons_self) with
      ⟨document, hash, rfl, continues⟩ | ⟨document, cause, rfl, tampered⟩ | ⟨fault, unfit⟩
    · obtain ⟨outcome, judged⟩ := ih hash fun v mem => json v (List.mem_cons_of_mem _ mem)
      exact ⟨_, judged.cons continues⟩
    · exact ⟨_, .broken (List.nil_append _).symm (.nil previous) tampered⟩
    · exact ⟨_, .unjudged (List.nil_append _).symm (.nil previous) unfit⟩

/-- Verification judges lines whose documents were read. -/
theorem judged_iff {previous : String} {lines : List (Except Fault Value)}
    (json : ∀ document, .ok document ∈ lines → IsJson document) {outcome : Except Fault Nat} :
    Judged previous lines outcome ↔ verifyFrom previous lines = outcome := by
  refine ⟨Judged.verifyFrom_eq, fun verified => ?_⟩
  obtain ⟨outcome', judged⟩ := exists_judged previous json
  rwa [judged.verifyFrom_eq.symm.trans verified] at judged

end Chain

namespace FileLog

open Chain

theorem error_of_parseLine {line : List UInt8} {fault : Fault} (fails : parseLine line = .error fault) :
    (∃ error, fault = .encoding error) ∨ ∃ error, fault = .syntaxError error := by
  rw [parseLine] at fails
  cases decoded : Text.decode line with
  | error error => rw [decoded] at fails; cases fails; exact .inl ⟨_, rfl⟩
  | ok ps =>
    rw [decoded] at fails
    change (Json.readPoints ps).mapError Fault.syntaxError = _ at fails
    cases read : Json.readPoints ps with
    | error error => rw [read] at fails; cases fails; exact .inr ⟨error, rfl⟩
    | ok v => rw [read] at fails; cases fails

/-- The fault of a line that cannot be judged is no refusal, and so no verdict. -/
theorem not_isRefusal_of_unfit {content : List UInt8} {previous : String}
    {line : Except Fault Value} {fault : Fault} (listed : line ∈ rawRecords (.file content))
    (unfit : Unfit previous line fault) : CommandLine.isRefusal fault = false := by
  cases unfit with
  | unread fault =>
    obtain ⟨bytes, -, fails⟩ := List.mem_map.1 listed
    rcases error_of_parseLine fails with ⟨error, rfl⟩ | ⟨error, rfl⟩ <;> rfl
  | noObject => rfl
  | noEventObject => rfl
  | noEvent => rfl
  | halved => rfl

/-- No line holds more digits in a row than a whole number may have as a text. That a longer numeral
is refused when it is read is not described here. -/
def ShortNumerals (content : List UInt8) : Prop :=
  ∀ line ∈ contentLines content, ∀ ps, Text.decode line = .ok ps →
    ∀ digits : List Char, (∀ d ∈ digits, d.isDigit = true) → Text.chars digits <:+: ps →
      digits.length ≤ Text.maxDigits

/-- The verification of a file judges its lines that are not blank. -/
theorem verify_judged {E : Type} {log : FileLog E} {content : List UInt8}
    (file : log.state = .file content) {outcome : Except Fault Nat} :
    log.verify = outcome ↔ Judged zeroHash (rawRecords (.file content)) outcome := by
  rw [verify, file]
  exact (judged_iff fun document mem => isJson_rawRecords mem).symm

end FileLog

/-! ## The command line -/

namespace CommandLine

open Chain FileLog

/-- A command line that asks for the verdict on the log at a path, as a document. -/
structure AsksVerdict (around : Surroundings) (words : List String) (path : String) : Prop where
  asks : ∃ invocation, Invocation.ofWords words = .ok invocation ∧ invocation.task = .verify ∧
    invocation.asJson = true
  located : logPath? around.environment words = some path
  opens : ∃ log, FileLog.openAt path Account.codec .missing = .ok log

/-- How the outcome of a verification is shown as a document: only a verdict is an answer. -/
inductive ShownVerdict (state : FileState) : Except Fault Nat → Report → Prop
  | valid {count : Nat} {text : String}
    (shows : Json.show? false (.record [("valid", .bool true), ("records", .int count)]) = .ok text) :
    ShownVerdict state (.ok count) ⟨0, [text], [], none, state⟩
  | invalid {cause : ChainFault} {text : String}
    (shows : Json.show? false
      (.record [("valid", .bool false), ("error", .ofPoints cause.wording)]) = .ok text) :
    ShownVerdict state (.error (.chain cause)) ⟨1, [text], [], none, state⟩
  | brokenOff {fault : Fault} (other : ∀ cause, fault ≠ .chain cause) :
    ShownVerdict state (.error fault) ⟨1, [], [], some (.fault fault), state⟩

theorem exists_valid_shown (count : Nat) :
    ∃ text, Json.show? false (.record [("valid", .bool true), ("records", .int count)]) =
      .ok text := by
  have written : ∃ ps, Json.write (.shown false)
      (.record [("valid", .bool true), ("records", .int count)]) = .ok ps := ⟨_, rfl⟩
  obtain ⟨ps, text⟩ := written
  obtain ⟨cs, shows⟩ := Json.exists_show text
  exact ⟨_, shows⟩

theorem exists_invalid_shown (message : List Text.Point) :
    ∃ text, Json.show? false (.record [("valid", .bool false), ("error", .ofPoints message)]) =
      .ok text := by
  have written : ∃ ps, Json.write (.shown false)
      (.record [("valid", .bool false), ("error", .ofPoints message)]) = .ok ps := by
    unfold Value.ofPoints
    split <;> exact ⟨_, rfl⟩
  obtain ⟨ps, text⟩ := written
  obtain ⟨cs, shows⟩ := Json.exists_show text
  exact ⟨_, shows⟩

theorem shownVerdict_showVerify (width : Nat) {content : List UInt8} {log : FileLog Account.Event}
    (file : log.state = .file content) :
    ShownVerdict (.file content) log.verify
      (.make (.file content) [] (showVerify width true log)) := by
  have judged := (verify_judged file).1 rfl
  rw [showVerify]
  generalize log.verify = outcome at judged ⊢
  cases judged with
  | holds unbroken =>
    obtain ⟨text, shows⟩ := exists_valid_shown (rawRecords (.file content)).length
    have report := @ShownVerdict.valid (.file content) _ _ shows
    simp only [showValid, if_true, document, shows]
    exact report
  | @broken _ _ _ _ cause split unbroken tampered =>
    obtain ⟨text, shows⟩ := exists_invalid_shown cause.wording
    have report := @ShownVerdict.invalid (.file content) _ _ shows
    have message : (Fault.chain cause).wording = cause.wording := rfl
    have refusal : isRefusal (.chain cause) = true := rfl
    simp only [refusal, if_true, showInvalid, document, message, shows]
    exact report
  | unjudged split unbroken unfit =>
    have other := not_isRefusal_of_unfit (split ▸ List.mem_append_right _ List.mem_cons_self) unfit
    simp only [other, Bool.false_eq_true, if_false]
    exact .brokenOff fun cause eq => by rw [eq] at other; cases other

/-- A command line that asks for a verdict is answered if there is one. -/
theorem shownVerdict_run {around : Surroundings} {words : List String} {path : String}
    (asks : AsksVerdict around words path) (content : List UInt8) :
    ShownVerdict (.file content) (⟨path, Account.codec, .file content⟩ : FileLog _).verify
      (run around words (.file content)) := by
  obtain ⟨⟨invocation, reads, task, asJson⟩, located, log, opens⟩ := asks
  rw [logPath?, reads] at located
  simp only [task] at located
  cases configured : settings around.environment invocation with
  | error fault => rw [configured] at located; cases located
  | ok config =>
    rw [configured] at located
    cases located
    have opened : FileLog.openAt config.logPath Account.codec (.file content) =
        .ok ⟨config.logPath, Account.codec, .file content⟩ := by
      rw [FileLog.openAt] at opens ⊢
      split at opens
      · cases opens
      · split at opens <;> cases opens
        simp only [*]
        rfl
    rw [run, reads]
    simp only [task, runOnLog, configured, opened, asJson]
    exact shownVerdict_showVerify around.width rfl

/-- What verification says of a file of any content in which no numeral is too long. It counts the
lines that are not blank if each of them continues the chain; it says that the chain is broken if
the first that does not is an object with a wrong hash; and it fails with another fault if that line
cannot be judged. A command line that asks for the verdict shows it, and breaks off if there is
none. -/
theorem verdict_iff {E : Type} (path : String) (codec : Codec E) {content : List UInt8}
    (_short : ShortNumerals content) :
    let lines := (contentLines content).map parseLine
    let log : FileLog E := ⟨path, codec, .file content⟩
    (∀ count, log.verify = .ok count ↔
      count = (contentLines content).length ∧ ∃ last, Unbroken zeroHash lines last) ∧
    (∀ cause, log.verify = .error (.chain cause) ↔
      ∃ front document rest last, lines = front ++ .ok document :: rest ∧
        Unbroken zeroHash front last ∧ Tampered last document cause) ∧
    (∀ fault, (∀ cause, fault ≠ .chain cause) → (log.verify = .error fault ↔
      ∃ front line rest last, lines = front ++ line :: rest ∧
        Unbroken zeroHash front last ∧ Unfit last line fault)) ∧
    ∀ around words, AsksVerdict around words path →
      ShownVerdict (.file content) log.verify (run around words (.file content)) := by
  intro lines log
  have judges : ∀ outcome, log.verify = outcome ↔ Judged zeroHash lines outcome :=
    fun _ => verify_judged rfl
  refine ⟨fun count => ?_, fun cause => ?_, fun fault other => ?_,
    fun around words asks => shownVerdict_run asks content⟩
  · rw [judges, ← List.length_map (f := parseLine)]
    refine ⟨fun judged => ?_, fun ⟨counted, last, unbroken⟩ => counted ▸ .holds unbroken⟩
    cases judged with
    | holds unbroken => exact ⟨rfl, _, unbroken⟩
  · rw [judges]
    refine ⟨fun judged => ?_, fun ⟨_, _, _, _, split, unbroken, tampered⟩ =>
      .broken split unbroken tampered⟩
    cases judged with
    | broken split unbroken tampered => exact ⟨_, _, _, _, split, unbroken, tampered⟩
    | unjudged split unbroken unfit =>
      cases not_isRefusal_of_unfit (split ▸ List.mem_append_right _ List.mem_cons_self) unfit
  · rw [judges]
    refine ⟨fun judged => ?_, fun ⟨_, _, _, _, split, unbroken, unfit⟩ =>
      .unjudged split unbroken unfit⟩
    cases judged with
    | broken => exact absurd rfl (other _)
    | unjudged split unbroken unfit => exact ⟨_, _, _, _, split, unbroken, unfit⟩

/-- A file whose only line is no document. -/
def unreadable : List UInt8 := Text.bytesOf "not json\n"

/-- What is wrong with that line. -/
def unreadableFault : Fault := .syntaxError ⟨.expectingValue, 1, 1, 0⟩

/-- Surroundings without settings. -/
def plain : Surroundings := { environment := {}, time := "12:00:00" }

/-- The command line for the verdict on the log. -/
def verdictWords : List String := ["log", "verify", "--json"]

theorem asksVerdict_plain : AsksVerdict plain verdictWords "/tmp/evsource/events.log" where
  asks := ⟨{ task := .verify, asJson := true }, by decide +kernel, rfl, rfl⟩
  located := by decide +kernel
  opens := ⟨_, rfl⟩

theorem contentLines_unreadable : contentLines unreadable = [unreadable] := by
  decide +kernel

theorem decode_unreadable : Text.decode unreadable = .ok (Text.chars "not json\n".toList) := by
  decide +kernel

theorem shortNumerals_unreadable : ShortNumerals unreadable := by
  rw [ShortNumerals, contentLines_unreadable, List.forall_mem_singleton, decode_unreadable]
  rintro ps ⟨⟩ digits - inside
  have few := inside.length_le
  rw [Text.length_chars] at few
  exact few.trans (by decide)

theorem lines_unreadable : rawRecords (.file unreadable) = [.error unreadableFault] := by
  have read : Json.readPoints (Text.chars "not json\n".toList) =
      .error ⟨.expectingValue, 1, 1, 0⟩ := rfl
  rw [rawRecords, contentLines_unreadable, List.map_singleton, parseLine, decode_unreadable]
  exact congrArg (fun r => [r.mapError Fault.syntaxError]) read

theorem verdict_iff_unreadable :
    ShortNumerals unreadable ∧ (∀ cause, unreadableFault ≠ .chain cause) ∧
      AsksVerdict plain verdictWords "/tmp/evsource/events.log" ∧
      (⟨"/tmp/evsource/events.log", Account.codec, .file unreadable⟩ : FileLog _).verify =
        .error unreadableFault ∧
      ShownVerdict (.file unreadable) (.error unreadableFault)
        (run plain verdictWords (.file unreadable)) := by
  have law := verdict_iff "/tmp/evsource/events.log" Account.codec shortNumerals_unreadable
  have other : ∀ cause, unreadableFault ≠ .chain cause := nofun
  have fails := (law.2.2.1 unreadableFault other).2
    ⟨[], _, [], _, lines_unreadable, .nil _, .unread _⟩
  exact ⟨shortNumerals_unreadable, other, asksVerdict_plain, fails,
    fails ▸ law.2.2.2 _ _ asksVerdict_plain⟩

/-- On a file whose only line is no document there is no verdict, and the command line shows nothing. -/
theorem verdict_missing :
    let log : FileLog Account.Event := ⟨"/tmp/evsource/events.log", Account.codec, .file unreadable⟩
    (¬ ∃ count, log.verify = .ok count) ∧ (¬ ∃ cause, log.verify = .error (.chain cause)) ∧
      run plain verdictWords (.file unreadable) =
        ⟨1, [], [], some (.fault unreadableFault), .file unreadable⟩ := by
  intro log
  have fails : log.verify = .error unreadableFault :=
    (verify_judged rfl).2
      (.unjudged (lines_unreadable.trans (List.nil_append _).symm) (.nil _) (.unread _))
  have shown := shownVerdict_run asksVerdict_plain unreadable
  refine ⟨fun ⟨_, counted⟩ => ?_, fun ⟨_, judged⟩ => ?_, ?_⟩
  · cases counted.symm.trans fails
  · cases judged.symm.trans fails
  · rw [fails] at shown
    generalize run plain verdictWords (.file unreadable) = report at shown ⊢
    cases shown
    rfl

end CommandLine

end EventLedger
