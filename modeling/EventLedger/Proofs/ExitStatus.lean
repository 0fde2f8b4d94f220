import EventLedger.Proofs.ConfirmedCommands
import EventLedger.Proofs.CustomCommands
import EventLedger.Proofs.Disks
import EventLedger.Proofs.FileDurability
import EventLedger.Proofs.ShownAnswers

/-!
# What the exit status says about the log

The exit status of a run tells whether the run has written to its log (`exit_tells_recorded`). It is
followed from the inside to the outside: a command to an account appends one line, the record of its
operation, exactly if it is confirmed (`Submitted`, `submit_answered`); a run over a log shows the
answer with the matching status (`Ran`, `runSubmit_ran`), or looks at the log and writes nothing
(`run_opens`); and on a disk the line is all that is written (`Left`, `runOn_left`,
`runOn_unchanged`). Not every run fails: an account can be created in an empty log (`exit_create`).
-/

namespace EventLedger

namespace FileLog

variable {E : Type} [HasFields E] {log log' : FileLog E} {entity : String} {events : List E}

/-- An append that is refused leaves a log alone that was opened. -/
theorem append_refused_opened (there : log.state ≠ .missing) {fault : Fault}
    (refused : log.append entity events = (.error fault, log')) : log' = log := by
  obtain ⟨path, codec, state⟩ := log
  rw [append] at refused
  split at refused
  · cases refused; rfl
  · cases encodes : events.mapM codec.encode with
    | error cause => rw [encodes] at refused; cases refused; rfl
    | ok encoded =>
      rw [encodes] at refused
      cases state with
      | missing => exact absurd rfl there
      | directory => cases refused; rfl
      | file content =>
        cases written : appendContent entity content encoded with
        | error cause => simp only [written] at refused; cases refused; rfl
        | ok result => simp only [written] at refused; cases refused

/-- Nothing is appended to a directory. -/
theorem state_of_append (there : log.state ≠ .missing) {r : Receipt E}
    (appended : log.append entity events = (.ok r, log')) :
    ∃ content, log.state = .file content := by
  obtain ⟨path, codec, state⟩ := log
  cases state with
  | missing => exact absurd rfl there
  | file content => exact ⟨content, rfl⟩
  | directory =>
    rw [append] at appended
    split at appended
    · cases appended
    · cases encodes : events.mapM codec.encode <;> rw [encodes] at appended <;> cases appended

end FileLog

namespace CommandLine

open Account FileLog

/-- A line with the record of an operation on an account. -/
def RecordFor (account : String) (op : Operation) (line : List Char) : Prop :=
  ∃ event name payload seq previous hash, Records op event ∧
    Account.codec.encode event = .ok (name, payload) ∧
    Line line ((⟨typeKey ++ "|" ++ account, name, payload⟩ : Stored).numberedDocument
      previous hash seq)

theorem RecordFor.newline_not_mem {account : String} {op : Operation} {line : List Char}
    (record : RecordFor account op line) : newline ∉ Text.encode line := by
  obtain ⟨_, _, _, _, _, _, -, -, line⟩ := record
  exact line.newline_not_mem

/-- An append of the event of an operation adds one line, with its record. -/
theorem append_record {account : String} {op : Operation} {event : Event}
    (records : Records op event) (finite : event.Same event) {path : String} {content : List UInt8}
    {r : Receipt Event} {log : FileLog Event}
    (appended : (⟨path, Account.codec, .file content⟩ : FileLog Event).append
      (typeKey ++ "|" ++ account) [event] = (.ok r, log)) :
    ∃ line, RecordFor account op line ∧
      log = ⟨path, Account.codec, .file (content ++ (Text.encode line ++ [newline]))⟩ := by
  obtain ⟨encoded, seq, hash, lines, encodes, chained, -, rfl⟩ := exists_of_append appended
  cases forall₂_of_mapM encodes with
  | @cons _ p _ _ encode none =>
    cases none
    have documents : ∀ q ∈ [p], Value.Document q.2 :=
      List.forall_mem_singleton.2 (decode_encode finite encode).1
    cases recordLines_of_chainLines documents chained with
    | @cons _ l _ _ record none =>
      cases none
      obtain ⟨previous, hash, line, -⟩ := record
      refine ⟨l.2, ⟨event, p.1, p.2, l.1, previous, hash, records, encode, line⟩, ?_⟩
      rw [lineBytes, List.map_singleton, List.flatMap_singleton]

/-- What a command to an account did to the log, by its answer. -/
inductive Submitted (account : String) (op : Operation) (before : FileState) :
    Except (Failure State Event) Answer → FileState → Prop
  | failed (failure : Failure State Event) : Submitted account op before (.error failure) before
  | unhandled (state : State) : Submitted account op before (.ok (.noReply, state)) before
  | rejected (reason : String) (state : State) :
    Submitted account op before (.ok (.replied (.rejected reason) [], state)) before
  | told (asks : op = .getBalance) (value : Decimal) (state : State) :
    Submitted account op before (.ok (.replied (.currentBalance value) [], state)) before
  | recorded {event : Event} {state : State} {description : Value} {content : List UInt8}
    {line : List Char} (moves : op ≠ .getBalance) (shown : state.describe = .ok description)
    (holds : before = .file content) (record : RecordFor account op line) :
    Submitted account op before (.ok (.replied .confirmed [event], state))
      (.file (content ++ (Text.encode line ++ [newline])))

theorem log_of_append {handle after : Handle State Account.Command Event} {events : List Event}
    {s s' : Session} {answer : Except Fault (Receipt Event)}
    (appended : host.append handle events s = (answer, after, s')) :
    s.log.append handle.persistenceId events = (answer, s'.log) ∧ after = handle := by
  rcases result : s.log.append handle.persistenceId events with ⟨answer', log⟩
  simp only [host, Host.ofLog, result, Prod.mk.injEq] at appended
  obtain ⟨rfl, rfl, rfl⟩ := appended
  exact ⟨rfl, rfl⟩

theorem append_of_log {handle : Handle State Account.Command Event} {events : List Event}
    {s : Session} {answer : Except Fault (Receipt Event)} {log : FileLog Event}
    (appended : s.log.append handle.persistenceId events = (answer, log)) :
    host.append handle events s = (answer, handle, { s with log := log }) := by
  simp only [host, Host.ofLog, appended]

theorem submit_submitted (closed : ClosedPolicy) (unhandled : UnhandledPolicy) (account : String)
    {handle : Handle State Account.Command Event}
    (named : handle.persistenceId = typeKey ++ "|" ++ account) (op : Operation) {s : Session}
    (there : s.log.state ≠ .missing) (known : s.log.codec = Account.codec) :
    let r := (engine closed unhandled).submit host handle (request op) s
    Submitted account op s.log.state (r.result.map fun outcome => (outcome, r.handle.state))
      r.world.log.state := by
  intro r
  have ending : Engine.Ending (engine closed unhandled) host handle (request op) s r :=
    (engine closed unhandled).submit_ending host (request op) s handle
  have plain := plain_dispatch closed handle.state (.operation op)
  generalize r = r at ending
  cases ending with
  | refused => exact .failed _
  | silent => exact .unhandled _
  | replied ready decided accepted =>
    change (dispatcher closed).dispatch handle.state (.operation op) = _ at decided
    rw [decided] at plain
    cases plain with
    | rejected reason => exact .rejected reason _
    | balance value =>
      refine .told ?_ value _
      cases op with
      | getBalance => rfl
      | _ => cases accepted
  | illegal => exact .failed _
  | unfolded => exact .failed _
  | unstored ready emits folded appended =>
    obtain ⟨refused, -⟩ := log_of_append appended
    show Submitted account op s.log.state (.error _) _
    rw [append_refused_opened there refused]
    exact .failed _
  | @stored _ _ state _ _ s' _ ready emits folded appended reported =>
    obtain ⟨event, records, rfl, rfl, decided⟩ := emits_recorded closed unhandled emits
    rw [decided] at plain
    cases plain with
    | confirmed finite =>
      obtain ⟨stored, rfl⟩ := log_of_append appended
      obtain ⟨content, holds⟩ := state_of_append there stored
      have applied := (fold_singleton ..).symm.trans folded
      obtain ⟨description, shown⟩ := exists_description finite applied
      have moves : op ≠ .getBalance := by rintro rfl; cases records
      obtain ⟨line, record, grown⟩ : ∃ line, RecordFor account op line ∧
          s'.log.state = .file (content ++ (Text.encode line ++ [newline])) := by
        obtain ⟨⟨path, codec, state⟩, notices⟩ := s
        cases holds
        cases known
        rw [Handle.sending, named] at stored
        obtain ⟨line, record, log⟩ := append_record records finite stored
        exact ⟨line, record, by rw [log]⟩
      cases reported with
      | wrong wrong => cases records.accepts.symm.trans wrong
      | replied =>
        show Submitted account op s.log.state (.ok (.replied .confirmed [event], state))
          s'.log.state
        rw [grown]
        exact .recorded moves shown holds record

theorem engineOf_eq {config : Config} {engine : Engine State Account.Command Event Reply}
    (made : engineOf config = .ok engine) :
    ∃ closed unhandled, engine = Account.engine closed unhandled := by
  obtain ⟨closed, -, made⟩ := exists_of_bind_ok made
  obtain ⟨unhandled, -, made⟩ := exists_of_bind_ok made
  cases made
  exact ⟨closed, unhandled, rfl⟩

/-- Recovering an account leaves the log alone. -/
theorem log_activate (engine : Engine State Account.Command Event Reply) (account : String)
    (s : Session) : (engine.activate host account s).2.log = s.log := by
  unfold Engine.activate
  dsimp only
  cases Replay.replay engine.behavior (host.read (engine.fresh account).persistenceId 0 s) none with
  | ok recovered => rfl
  | error failure => cases failure <;> rfl

/-- Whatever the settings and the log are, a command does to the log what its answer says. -/
theorem submit_answered (config : Config) (account : String) (op : Operation) {s : Session}
    (there : s.log.state ≠ .missing) (known : s.log.codec = Account.codec) :
    Submitted account op s.log.state (submit config account op s).1
      (submit config account op s).2.log.state := by
  rw [submit]
  cases made : engineOf config with
  | error fault => exact .failed _
  | ok engine =>
    obtain ⟨closed, unhandled, rfl⟩ := engineOf_eq made
    have kept := log_activate (Account.engine closed unhandled) account s
    rw [← kept] at there known ⊢
    dsimp only
    rcases activated : (Account.engine closed unhandled).activate host account s with
      ⟨handle | ⟨handle, failure⟩ | fault, s'⟩
    · obtain ⟨recovered, -, rfl, -⟩ := Engine.replay_of_activate activated
      rw [activated] at there known
      exact submit_submitted closed unhandled account rfl op there known
    · exact .failed _
    · exact .failed _

/-- An account is created in an empty log, whatever it is called. -/
theorem submit_create {config : Config} {closed : ClosedPolicy} {unhandled : UnhandledPolicy}
    (made : engineOf config = .ok (engine closed unhandled)) (account path : String) :
    (submit config account .create { log := ⟨path, Account.codec, .file []⟩ }).1 =
      .ok (.replied .confirmed [.created], .opened .zero) := by
  obtain ⟨content, last, appended, -⟩ := @append_holds _ _ path _ _ _ _ holds_empty
    (typeKey ++ "|" ++ account) [Event.created] (List.cons_ne_nil _ _) _
    (mapM_of_forall₂ (.cons encode_created .nil)) (List.forall_mem_singleton.2 document_empty)
  have replayed : Replay.replay (engine closed unhandled).behavior
      (host.read ((engine closed unhandled).behavior.persistenceId account) 0
        { log := ⟨path, Account.codec, .file []⟩ }) none = .ok ⟨.empty, 0, .beforeFirst⟩ := rfl
  rw [submit, made]
  dsimp only
  rw [Engine.activate_of_replay replayed]
  dsimp only
  rw [Engine.submit_of_stored _ _ _ _ ⟨rfl, rfl⟩ ⟨_, rfl⟩ rfl (append_of_log appended)
    (rfl : confirm (.opened .zero) = _) rfl]
  rfl

/-! ## Runs over a log -/

/-- The log was opened at most, which creates a file that is missing. -/
def Opens (before after : FileState) : Prop :=
  after = before ∨ after = opened before

theorem opened_ne_missing (state : FileState) : opened state ≠ .missing := by
  cases state <;> nofun

theorem bytes_opened (state : FileState) : (opened state).bytes = state.bytes := by
  cases state <;> rfl

theorem Opens.bytes {before after : FileState} (opens : Opens before after) :
    after.bytes = before.bytes := by
  rcases opens with rfl | rfl
  · rfl
  · exact bytes_opened before

theorem openAt_eq {path : String} {state : FileState} {log : FileLog Event}
    (opens : FileLog.openAt path Account.codec state = .ok log) :
    log = ⟨path, Account.codec, opened state⟩ := by
  rw [FileLog.openAt] at opens
  split at opens
  · cases opens
  · split at opens <;> cases opens
    rfl

/-- How a run with a command to an account ends: it fails, or tells the balance, and writes nothing,
or it appends the record of the operation. -/
inductive Ran (account : String) (op : Operation) (state : FileState) (r : Report) : Prop
  | unchanged (ends : r.exit ≠ 0 ∨ op = .getBalance) (opens : Opens state r.log) :
    Ran account op state r
  | recorded {content : List UInt8} {line : List Char} (moves : op ≠ .getBalance)
    (succeeds : r.exit = 0) (holds : opened state = .file content)
    (record : RecordFor account op line)
    (log : r.log = .file (content ++ (Text.encode line ++ [newline]))) : Ran account op state r

theorem ran_of_exit {account : String} {op : Operation} {state log : FileState}
    {lines : List String} {result : Except Stop Ending} (fails : exitOf result ≠ 0)
    (opens : Opens state log) : Ran account op state (.make log lines result) :=
  .unchanged (.inl (by rw [exit_make]; exact fails)) (by rw [log_make]; exact opens)

theorem runSubmit_ran (around : Surroundings) (invocation : Invocation) (account : String)
    (op : Operation) (state : FileState) :
    Ran account op state (runSubmit around invocation account op state) := by
  rw [runSubmit]
  dsimp only
  cases settings around.environment invocation with
  | error fault => exact ran_of_exit (exit_failure _ _ _ _) (.inl rfl)
  | ok config =>
    dsimp only
    cases opens : FileLog.openAt config.logPath Account.codec state with
    | error fault => exact ran_of_exit (exit_failure _ _ _ _) (.inl rfl)
    | ok log =>
      rw [openAt_eq opens]
      have answered := @submit_answered config account op
        { log := ⟨config.logPath, Account.codec, opened state⟩ } (opened_ne_missing state) rfl
      dsimp only at answered ⊢
      generalize submit config account op _ = result at answered ⊢
      obtain ⟨answer, s⟩ := result
      dsimp only at answered ⊢
      generalize s.log.state = after at answered ⊢
      cases answered with
      | failed failure => exact ran_of_exit (exit_failure _ _ _ _) (.inr rfl)
      | unhandled state => exact ran_of_exit (exit_unhandled _ _ _ _) (.inr rfl)
      | rejected reason state => exact ran_of_exit (exit_rejected _ _ _ _ _ _) (.inr rfl)
      | told asks => exact .unchanged (.inr asks) (.inr (log_make ..))
      | recorded moves shown holds record =>
        refine .recorded moves ?_ holds record (log_make ..)
        rw [exit_make]
        exact exit_confirmed _ _ _ _ shown

/-- A run that creates an account in an empty log succeeds. -/
theorem exit_create (around : Surroundings) {invocation : Invocation} {config : Config}
    (set : settings around.environment invocation = .ok config) {closed : ClosedPolicy}
    {unhandled : UnhandledPolicy} (made : engineOf config = .ok (engine closed unhandled))
    {state : FileState} {path : String}
    (opens : FileLog.openAt config.logPath Account.codec state =
      .ok ⟨path, Account.codec, .file []⟩) (account : String) :
    (runSubmit around invocation account .create state).exit = 0 := by
  obtain ⟨description, shown⟩ : ∃ description, State.describe (.opened .zero) = .ok description :=
    ⟨_, rfl⟩
  have confirmed := submit_create made account path
  rw [runSubmit, set]
  dsimp only
  rw [opens]
  dsimp only
  rw [exit_make, confirmed]
  exact exit_confirmed _ _ _ _ shown

theorem runOnLog_opens (around : Surroundings) (invocation : Invocation) (state : FileState)
    (look : Config → FileLog Event → Except Stop Ending) :
    Opens state (runOnLog around invocation state look).log := by
  rw [runOnLog]
  cases settings around.environment invocation with
  | error fault => exact .inl (log_make ..)
  | ok config =>
    dsimp only
    cases opens : FileLog.openAt config.logPath Account.codec state with
    | error fault => exact .inl (log_make ..)
    | ok log =>
      rw [openAt_eq opens]
      exact .inr (log_make ..)

/-- A run without a command to an account writes nothing. -/
theorem run_opens (around : Surroundings) {words : List String}
    (looks : ∀ account op,
      (Invocation.ofWords words).map Invocation.task ≠ .ok (.submit account op))
    (state : FileState) : Opens state (run around words state).log := by
  rw [run]
  cases reads : Invocation.ofWords words with
  | error error => exact .inl (log_make ..)
  | ok invocation =>
    rw [reads] at looks
    obtain ⟨task, logPath, asJson, logLevel, logFormat⟩ := invocation
    cases task with
    | submit account op => exact absurd rfl (looks account op)
    | replay account upTo => exact runOnLog_opens ..
    | tail lines => exact runOnLog_opens ..
    | verify => exact runOnLog_opens ..
    | version => exact .inl (log_make ..)
    | help => exact .inl (log_make ..)

/-! ## Runs on a disk -/

open Disk (locate)

/-- What a run with a command to an account leaves on a disk: no byte is changed, or the record of
the operation is appended to the log and nothing else is written. -/
inductive Left (account : String) (op : Operation) (log : Option String) (before : Disk)
    (exit : Nat) (after : Disk) : Prop
  | unchanged (ends : exit ≠ 0 ∨ op = .getBalance)
    (kept : ∀ location, after.bytesAt location = before.bytesAt location) :
    Left account op log before exit after
  | recorded {path : String} {line : List Char} (moves : op ≠ .getBalance) (succeeds : exit = 0)
    (configured : log = some path) (record : RecordFor account op line)
    (grown : after.bytesAt (locate path) =
      before.bytesAt (locate path) ++ (Text.encode line ++ [newline]))
    (others : ∀ location, location ≠ locate path →
      after.bytesAt location = before.bytesAt location) :
    Left account op log before exit after

theorem Ran.left {account : String} {op : Operation} {path : String} {before disk : Disk}
    (same : ∀ location, disk.bytesAt location = before.bytesAt location) {r : Report}
    (ran : Ran account op (disk.stateAt path) r) :
    Left account op (some path) before r.exit (disk.store path r.log) := by
  cases ran with
  | unchanged ends opens =>
    exact .unchanged ends fun location => (Disk.bytesAt_store opens.bytes location).trans (same _)
  | @recorded content line moves succeeds holds record log =>
    have free : disk.stateAt path ≠ .directory := by
      intro directory
      rw [directory] at holds
      cases holds
    have bytes : content = disk.bytesAt (locate path) := by
      show (FileState.file content).bytes = (disk.stateAt path).bytes
      rw [← holds, bytes_opened]
    refine .recorded moves succeeds rfl record ?_ fun location ne => ?_
    · rw [Disk.bytesAt, log, Disk.get_store free, ← same, ← bytes]
      rfl
    · rw [Disk.bytesAt, Disk.get_store_of_ne disk ne]
      exact same location

theorem runOn_left (around : Surroundings) {words : List String} {invocation : Invocation}
    (reads : Invocation.ofWords words = .ok invocation) {account : String} {op : Operation}
    (asks : invocation.task = .submit account op) (disk : Disk) :
    Left account op (logPath? around.environment words) disk (runOn around words disk).1.exit
      (runOn around words disk).2 := by
  have runs : ∀ state, run around words state =
      runSubmit around invocation account op state := by
    intro state
    simp only [run, reads, asks]
  have path : logPath? around.environment words =
      (settings around.environment invocation).toOption.map (·.logPath) := by
    simp only [logPath?, reads, asks]
  rw [runOn, path]
  cases set : settings around.environment invocation with
  | error fault =>
    refine .unchanged (.inl ?_) fun _ => rfl
    show (run around words .missing).exit ≠ 0
    rw [runs, runSubmit, set, exit_make]
    exact exit_failure _ _ _ _
  | ok config =>
    show Left _ _ (some config.logPath) _ _ _
    have same := disk.bytesAt_prepare config.logPath
    simp only [Except.toOption, Option.map_some]
    generalize disk.prepare config.logPath = prepared at same ⊢
    obtain ⟨disk', _ | fault⟩ := prepared
    · have ran := runSubmit_ran around invocation account op (disk'.stateAt config.logPath)
      rw [← runs] at ran
      exact ran.left same
    · exact .unchanged (.inl (Nat.succ_ne_zero 0)) same

/-- A run without a command to an account changes no byte. -/
theorem runOn_unchanged (around : Surroundings) {words : List String}
    (looks : ∀ account op,
      (Invocation.ofWords words).map Invocation.task ≠ .ok (.submit account op))
    (disk : Disk) (location : Location) :
    (runOn around words disk).2.bytesAt location = disk.bytesAt location := by
  rw [runOn]
  cases logPath? around.environment words with
  | none => rfl
  | some path =>
    have same := disk.bytesAt_prepare path location
    dsimp only
    generalize disk.prepare path = prepared at same ⊢
    obtain ⟨disk', _ | fault⟩ := prepared
    · have opens := run_opens around looks (disk'.stateAt path)
      exact (Disk.bytesAt_store opens.bytes location).trans same
    · exact same

theorem ne_append_newline (content line : List UInt8) :
    content ≠ content ++ (line ++ [newline]) := by
  intro same
  have length := congrArg List.length same
  simp only [List.length_append, List.length_singleton] at length
  omega

/-- The exit status of a run tells whether it has written anything. Whatever the settings, the
words and the disk are: a run that creates or closes an account, or moves an amount, ends with zero
exactly if the bytes of its log are afterwards the old ones with one line behind them, the record of
this operation on this account, and all other bytes are the old ones. If it ends otherwise, no byte
on the disk is changed; nor is one by a run that asks for the balance, that has no command to an
account, or whose words cannot be read. The latter fails. -/
theorem exit_tells_recorded (around : Surroundings) (words : List String) (disk : Disk) :
    let exit := (runOn around words disk).1.exit
    let after := (runOn around words disk).2
    let unchanged := ∀ location, after.bytesAt location = disk.bytesAt location
    match (Invocation.ofWords words).map Invocation.task with
    | .error _ => exit ≠ 0 ∧ unchanged
    | .ok (Task.submit _ .getBalance) => unchanged
    | .ok (Task.submit account op) =>
      (exit = 0 ↔ ∃ path line, logPath? around.environment words = some path ∧
        RecordFor account op line ∧ newline ∉ Text.encode line ∧
        after.bytesAt (locate path) =
          disk.bytesAt (locate path) ++ (Text.encode line ++ [newline]) ∧
        ∀ location, location ≠ locate path → after.bytesAt location = disk.bytesAt location) ∧
      (exit ≠ 0 → unchanged)
    | .ok _ => unchanged := by
  intro exit after unchanged
  cases reads : Invocation.ofWords words with
  | error error =>
    refine ⟨?_, runOn_unchanged around (by rw [reads]; nofun) disk⟩
    show (runOn around words disk).1.exit ≠ 0
    simp only [runOn, run, logPath?, reads]
    exact Nat.succ_ne_zero 1
  | ok invocation =>
    show match (Except.ok invocation.task : Except UsageError Task) with
      | .error _ => _
      | .ok (Task.submit _ .getBalance) => _
      | .ok (Task.submit account op) => _
      | .ok _ => _
    split
    next h => cases h
    next account h =>
      have left := runOn_left around reads (Except.ok.inj h) disk
      cases left with
      | unchanged _ kept => exact kept
      | recorded moves => exact absurd rfl moves
    next account op moves h =>
      have left := runOn_left around reads (Except.ok.inj h) disk
      cases left with
      | unchanged ends kept =>
        have fails : exit ≠ 0 := ends.resolve_right moves
        refine ⟨⟨fun succeeds => absurd succeeds fails, ?_⟩, fun _ => kept⟩
        rintro ⟨path, line, -, -, -, grown, -⟩
        exact absurd ((kept (locate path)).symm.trans grown) (ne_append_newline _ _)
      | @recorded path line _ succeeds configured record grown others =>
        refine ⟨⟨fun _ => ?_, fun _ => succeeds⟩, fun fails => absurd succeeds fails⟩
        exact ⟨path, line, configured, record, record.newline_not_mem, grown, others⟩
    next task _ looks h =>
      refine runOn_unchanged around (fun account op asks => looks account op ?_) disk
      rw [reads] at asks
      exact (Except.ok.inj h).symm.trans (Except.ok.inj asks)

/-- `exit_tells_recorded` for an account that is created on an empty disk. -/
theorem exit_tells_recorded_created :
    let around : Surroundings := { environment := {}, time := "12:00:00" }
    let words := ["account", "create", "acc"]
    let after := (runOn around words {}).2
    (runOn around words {}).1.exit = 0 ∧
      ∃ path line, logPath? around.environment words = some path ∧
        RecordFor "acc" .create line ∧ newline ∉ Text.encode line ∧
        after.bytesAt (locate path) =
          Disk.bytesAt {} (locate path) ++ (Text.encode line ++ [newline]) ∧
        ∀ location, location ≠ locate path →
          after.bytesAt location = Disk.bytesAt {} location := by
  intro around words after
  have reads : Invocation.ofWords words = .ok { task := .submit "acc" .create } := by
    decide +kernel
  have succeeds : (runOn around words {}).1.exit = 0 := by
    have path : logPath? around.environment words = some "/tmp/evsource/events.log" := by
      decide +kernel
    have prepared : (Disk.prepare {} "/tmp/evsource/events.log").2 = none := by decide +kernel
    have missing : (Disk.prepare {} "/tmp/evsource/events.log").1.stateAt
        "/tmp/evsource/events.log" = .missing := by
      decide +kernel
    rw [runOn, path]
    rcases prepare : Disk.prepare {} "/tmp/evsource/events.log" with ⟨disk, fault⟩
    rw [prepare] at prepared missing
    cases prepared
    simp only [prepare, missing, run, reads]
    exact exit_create around (rfl : settings {} { task := .submit "acc" .create } = .ok {})
      (rfl : engineOf {} = .ok (engine .unhandled .log)) rfl "acc"
  have tells := exit_tells_recorded around words {}
  rw [reads] at tells
  exact ⟨succeeds, tells.1.1 succeeds⟩

end CommandLine

end EventLedger
