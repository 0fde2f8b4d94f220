import EventLedger.Proofs.FileAtomicity

/-!
# Log and handle change together

A handle holds in memory what the log has of its entity: the state, how many events led to it, and the
number of the last one. A submission must change all of this or nothing. There are many ways out of
it, before, between and after the steps that do so.

`submit_together` is the law for every log whose appends store all of their events or none
(`Host.AllOrNothing`), such as the log in memory and the log in a file. A submission either leaves log
and handle as they were (`Untouched`), or the log gains the events on which the handler decided and the
handle follows (`Committed`). It is the latter exactly if these events fold and the append is
acknowledged (`Stores`), whatever becomes of the reply.
-/

namespace EventLedger

/-- A log whose appends store all of their events or none, and leave the handle alone. What the host
shows as its log may be of any kind; `gains before records after` says what it is for a log to have
records behind all that it had. -/
structure Host.AllOrNothing {W L S C E : Type} (host : Host W S C E) (log : W → L)
    (gains : L → List (Record E) → L → Prop) : Prop extends host.Keeps log where
  alone : ∀ {handle events w answer after w'},
    host.append handle events w = (answer, after, w') → after = handle
  stored : ∀ {handle events w receipt after w'},
    host.append handle events w = (.ok receipt, after, w') →
      receipt.records.map (fun r => (r.entity, r.event)) = events.map (handle.persistenceId, ·) ∧
        gains (log w) receipt.records (log w')

/-- A channel that leaves alone what is viewed of the world. One that spares the log does not call back
into the engine. -/
def Request.Spares {W L C R : Type} [CommandType C R] (request : Request W C R) (view : W → L) :
    Prop :=
  ∀ reply w, view (request.deliver reply w).2 = view w

section

variable {X S C E : Type} (note : String → Notice → X → X)

theorem MemoryLog.recordsFrom_events (entity : String) (base : Nat) (events : List E) :
    (recordsFrom entity base events).map (fun r => (r.entity, r.event)) =
      events.map (entity, ·) := by
  have names : (recordsFrom entity base events).map (fun r => (r.entity, r.event)) =
      (recordsFrom entity base events).map fun r => (entity, r.event) :=
    List.map_congr_left fun r mem => by rw [entity_of_mem_recordsFrom mem]
  have listed := congrArg (List.map (entity, ·)) (map_event_recordsFrom entity base events)
  rw [List.map_map] at listed
  exact names.trans listed

theorem MemoryWorld.host_allOrNothing (refusal : Option StoreFault) :
    (host note refusal : Host (MemoryWorld X E) S C E).AllOrNothing (·.log.records)
      fun before records after => after = before ++ records where
  note _ _ _ := rfl
  refused refused := congrArg MemoryLog.records ((host_keeps note refusal).refused refused)
  alone appended := by cases refusal <;> cases appended <;> rfl
  stored {handle events w receipt after w'} appended := by
    by_cases empty : events = []
    · subst empty; cases refusal <;> cases appended
    · rcases append_cases note refusal handle empty w with ⟨cause, -, eq⟩ | ⟨-, eq⟩ <;>
        cases appended.symm.trans eq
      exact ⟨MemoryLog.recordsFrom_events .., rfl⟩

/-- A line with a record as a codec stores it, behind some hash of the chain. -/
def FileLog.IsLineOf [HasFields E] (codec : Codec E) (record : Record E) (line : List Char) : Prop :=
  ∃ name payload previous hash, codec.encode record.event = .ok (name, payload) ∧
    (Chain.recordOf previous hash (eventData record.entity record.seq name payload)).canonicalChars =
      .ok line

/-- A file has a line for each record behind all that it had. -/
def FileLog.Gains [HasFields E] (before : Codec E × List UInt8) (records : List (Record E))
    (after : Codec E × List UInt8) : Prop :=
  after.1 = before.1 ∧ ∃ lines, List.Forall₂ (IsLineOf before.1) records lines ∧
    after.2 = before.2 ++ lineBytes lines

theorem FileLog.linesOf_chainLines [HasFields E] {codec : Codec E} {entity : String}
    {events : List E} {encoded : List (String × Value)}
    (encodes : List.Forall₂ (fun event p => codec.encode event = .ok p) events encoded)
    {last hash : Value} {offset : Nat} {lines : List (Seq × List Char)}
    (chained : chainLines entity last offset hash encoded = .ok lines) :
    List.Forall₂ (IsLineOf codec) (receipt entity (lines.map (·.1)) events).records
      (lines.map (·.2)) := by
  induction encodes generalizing last offset hash lines with
  | nil => cases chained; exact .nil
  | @cons event p events encoded encodes _ ih =>
    obtain ⟨name, payload⟩ := p
    rw [chainLines] at chained
    cases number : Seq.ofValue? last with
    | none => rw [number] at chained; cases chained
    | some s =>
      rw [number] at chained
      cases hash with
      | str previous =>
        obtain ⟨⟨hash, record⟩, linked, chained⟩ := exists_of_bind_ok chained
        obtain ⟨hash', -, made⟩ := exists_of_bind_ok linked
        obtain ⟨cs, text, chained⟩ := exists_of_bind_ok chained
        obtain ⟨others, written, chained⟩ := exists_of_bind_ok chained
        cases chained
        cases made
        exact .cons ⟨name, payload, previous, hash, encodes, text⟩ (ih written)
      | _ => cases chained

theorem FileLog.codec_append [HasFields E] (log : FileLog E) (entity : String) (events : List E) :
    (log.append entity events).2.codec = log.codec := by
  rw [append]
  split
  · rfl
  · cases events.mapM log.codec.encode with
    | error fault => rfl
    | ok encoded =>
      cases log.state with
      | missing => simp only; cases appendContent entity [] encoded <;> rfl
      | file content => simp only; cases appendContent entity content encoded <;> rfl
      | directory => rfl

theorem FileWorld.host_allOrNothing [HasFields E] :
    (host note : Host (FileWorld X E) S C E).AllOrNothing
      (fun w => (w.log.codec, w.log.state.bytes)) FileLog.Gains where
  note _ _ _ := rfl
  refused {handle events w fault after w'} refused := by
    have bytes := (host_keeps note).refused refused
    have codec := w.log.codec_append handle.persistenceId events
    have world := congrArg (fun p => p.2.2.log) refused
    exact Prod.ext_iff.2 ⟨world ▸ codec, bytes⟩
  alone appended := by cases appended; rfl
  stored {handle events w receipt after w'} appended := by
    rcases answered : w.log.append handle.persistenceId events with ⟨answer, log⟩
    simp only [host, Host.ofLog, answered] at appended
    cases appended
    have opened := FileLog.append_opened answered
    obtain ⟨encoded, seq, hash, lines, encodes, chained, rfl, rfl⟩ :=
      FileLog.exists_of_append opened
    exact ⟨(FileLog.lengthened_of_append opened).1, rfl, _,
      FileLog.linesOf_chainLines (forall₂_of_mapM encodes) chained, rfl⟩

end

namespace Engine

variable {W L S C E R : Type} [CommandType C R] {engine : Engine S C E R} {host : Host W S C E}
  {log : W → L} {gains : L → List (Record E) → L → Prop} {handle : Handle S C E}
  {request : Request W C R} {w : W}

/-- A view of the world that notices and a channel leave alone is the same when a reply was handed
over. -/
theorem view_handOver
    (note : ∀ persistenceId notice w, log (host.note persistenceId notice w) = log w)
    (spares : request.Spares log) (reply : R) :
    log (handOver host handle request reply w) = log w := by
  have delivered := spares reply w
  rw [handOver]
  rcases given : request.deliver reply w with ⟨_ | reason, w'⟩ <;> rw [given] at delivered
  · exact delivered
  · exact (note ..).trans delivered

/-- Whatever becomes of the reply, the handle and such a view stay as they are. -/
theorem Reported.kept [HasKind R]
    (note : ∀ persistenceId notice w, log (host.note persistenceId notice w) = log w)
    (spares : request.Spares log) {events : List E} {answer : Except (Failure S E) R}
    {r : Submission W S C E R}
    (reported : Reported host handle request events w answer r) :
    r.handle = handle ∧ log r.world = log w := by
  cases reported with
  | failed => exact ⟨rfl, rfl⟩
  | wrong => exact ⟨rfl, rfl⟩
  | replied => exact ⟨rfl, view_handOver note spares _⟩

section

variable [HasKind S]

/-- A handler decides on one list of events. -/
theorem Emits.eq {command : C} {events events' : List E} {replyWith replyWith' : ReplyFunction S E R}
    (emits : engine.Emits handle command events replyWith)
    (emits' : engine.Emits handle command events' replyWith') : events = events' := by
  obtain ⟨_, decided⟩ := emits
  obtain ⟨_, decided'⟩ := emits'
  cases decided.symm.trans decided'
  rfl

theorem Emits.nonempty {command : C} {events : List E} {replyWith : ReplyFunction S E R}
    (emits : engine.Emits handle command events replyWith) : events ≠ [] :=
  emits.choose

end

/-- Log and handle are as before a submission. -/
structure Untouched (log : W → L) (handle : Handle S C E) (w : W) (r : Submission W S C E R) :
    Prop where
  log : log r.world = log w
  state : r.handle.state = handle.state
  applied : r.handle.applied = handle.applied
  lastSeq : r.handle.lastSeq = handle.lastSeq

variable [HasKind S] [HasKind E]

/-- The events on which a handler decided are in the log, behind all others, and the handle has
followed them. -/
structure Committed (engine : Engine S C E R) (log : W → L) (gains : L → List (Record E) → L → Prop)
    (handle : Handle S C E) (command : C) (w : W) (events : List E) (r : Submission W S C E R) :
    Prop where
  emits : ∃ replyWith, engine.Emits handle command events replyWith
  log : ∃ records : List (Record E), gains (log w) records (log r.world) ∧
    records.map (fun r => (r.entity, r.event)) = events.map (handle.persistenceId, ·) ∧
    records.getLast?.map (·.seq) = some r.handle.lastSeq
  state : engine.behavior.applier.fold handle.state events = .ok r.handle.state
  applied : r.handle.applied = handle.applied + events.length

/-- The handler of a command decides on events that fold and that the log takes. -/
structure Stores (engine : Engine S C E R) (host : Host W S C E) (handle : Handle S C E)
    (command : C) (w : W) (events : List E) : Prop where
  emits : ∃ replyWith, engine.Emits handle command events replyWith
  folds : ∃ state, engine.behavior.applier.fold handle.state events = .ok state
  appends : ∃ receipt after w',
    host.append (handle.sending command) events w = (.ok receipt, after, w')

/-- A handle that has followed its events is not as before. -/
theorem Committed.not_untouched {events : List E} {r : Submission W S C E R}
    (committed : engine.Committed log gains handle request.command w events r) :
    ¬ Untouched log handle w r := fun untouched => by
  obtain ⟨_, emits⟩ := committed.emits
  have count := committed.applied
  rw [untouched.applied] at count
  exact emits.nonempty (List.length_eq_zero_iff.1 (by omega))

variable [HasKind R]

variable (atomic : host.AllOrNothing log gains) (spares : request.Spares log)
include atomic spares

/-- A handle that was committed has followed the log. -/
theorem committed_of_appended {events : List E} {replyWith : ReplyFunction S E R}
    (emits : engine.Emits handle request.command events replyWith) {state : S}
    (folded : engine.behavior.applier.fold handle.state events = .ok state)
    {receipt : Receipt E} {after : Handle S C E} {w' : W}
    (appended : host.append (handle.sending request.command) events w = (.ok receipt, after, w'))
    {r : Submission W S C E R}
    (reported : Reported host (after.commit state events receipt) request events
      (storedWorld host after events receipt w') (replyWith state) r) :
    engine.Committed log gains handle request.command w events r := by
  cases atomic.alone appended
  obtain ⟨listed, gained⟩ := atomic.stored appended
  obtain ⟨handle_eq, log_eq⟩ := reported.kept atomic.note spares
  rw [storedWorld, atomic.note] at log_eq
  obtain ⟨last, ends⟩ : ∃ last, receipt.records.getLast? = some last := by
    refine Option.ne_none_iff_exists'.1 fun none => emits.nonempty ?_
    rw [List.getLast?_eq_none_iff.1 none] at listed
    exact List.map_eq_nil_iff.1 listed.symm
  have lastSeq : receipt.lastSeq = last.seq := by rw [Receipt.lastSeq, ends]; rfl
  refine ⟨⟨_, emits⟩, ⟨receipt.records, by rw [log_eq]; exact gained, listed, ?_⟩, ?_, ?_⟩
  · rw [ends, handle_eq]
    exact congrArg some lastSeq.symm
  · rw [handle_eq]; exact folded
  · rw [handle_eq]; rfl

/-- Log and handle are as they were, or events were stored and the handle is committed. -/
theorem Ending.untouched_or_committed {r : Submission W S C E R}
    (ending : Ending engine host handle request w r) :
    Untouched log handle w r ∨ ∃ events, engine.Stores host handle request.command w events ∧
      engine.Committed log gains handle request.command w events r := by
  cases ending with
  | refused => exact .inl ⟨rfl, rfl, rfl, rfl⟩
  | silent => exact .inl ⟨atomic.note .., rfl, rfl, rfl⟩
  | replied => exact .inl ⟨view_handOver atomic.note spares _, rfl, rfl, rfl⟩
  | illegal => exact .inl ⟨atomic.note .., rfl, rfl, rfl⟩
  | unfolded => exact .inl ⟨rfl, rfl, rfl, rfl⟩
  | unstored _ _ _ appended =>
    cases atomic.alone appended
    exact .inl ⟨atomic.refused appended, rfl, rfl, rfl⟩
  | stored _ emits folded appended reported =>
    exact .inr ⟨_, ⟨⟨_, emits⟩, ⟨_, folded⟩, _, _, _, appended⟩,
      committed_of_appended atomic spares emits folded appended reported⟩

/-- Events that fold and that the log takes are stored, and the handle follows. -/
theorem Stores.committed (ready : handle.Ready) {events : List E}
    (stores : engine.Stores host handle request.command w events) :
    engine.Committed log gains handle request.command w events
      (engine.submit host handle request w) := by
  obtain ⟨⟨replyWith, emits⟩, ⟨state, folded⟩, receipt, after, w', appended⟩ := stores
  refine committed_of_appended atomic spares emits folded appended ?_
  rw [submit_of_appended engine host request w ready emits folded appended]
  cases replyWith state with
  | error failure => exact .failed failure
  | ok reply => exact answer_reported ..

/-- A submission to a handle that takes commands does one of two things: it leaves the log, the state
and the two numbers of the handle as they are, or the log gains the events on which the handler
decided, and the handle has the state they lead to, their count and the number of the last one. It is
the latter exactly if these events fold and the log takes them, whatever becomes of the reply. If any
of the events does not fit, none is stored. -/
theorem submit_together (ready : handle.Ready) :
    Xor (Untouched log handle w (engine.submit host handle request w))
        (∃ events, engine.Committed log gains handle request.command w events
          (engine.submit host handle request w)) ∧
      (∀ events,
        engine.Committed log gains handle request.command w events
            (engine.submit host handle request w) ↔
          engine.Stores host handle request.command w events) ∧
      ∀ before event after replyWith state failure,
        engine.Emits handle request.command (before ++ event :: after) replyWith →
        engine.behavior.applier.fold handle.state before = .ok state →
        engine.behavior.applier.apply state event = .error failure →
          Untouched log handle w (engine.submit host handle request w) := by
  have cases := (engine.submit_ending host request w handle).untouched_or_committed atomic spares
  have stored : ∀ events, engine.Committed log gains handle request.command w events
      (engine.submit host handle request w) →
        engine.Stores host handle request.command w events := fun events committed => by
    obtain untouched | ⟨events', stores, -⟩ := cases
    · exact absurd untouched committed.not_untouched
    · obtain ⟨_, emits⟩ := committed.emits
      obtain ⟨_, emits'⟩ := stores.emits
      exact emits.eq emits' ▸ stores
  refine ⟨?_, fun events => ⟨stored events, fun stores => stores.committed atomic spares ready⟩,
    fun before event after replyWith state failure emits folded fails => ?_⟩
  · obtain untouched | ⟨events, -, committed⟩ := cases
    · exact .inl ⟨untouched, fun ⟨_, committed⟩ => committed.not_untouched untouched⟩
    · exact .inr ⟨⟨events, committed⟩, committed.not_untouched⟩
  · refine cases.resolve_right fun ⟨events, stores, _⟩ => ?_
    obtain ⟨_, emits'⟩ := stores.emits
    obtain ⟨state', folded'⟩ := stores.folds
    rw [← emits.eq emits', Applier.fold_append, folded] at folded'
    change engine.behavior.applier.fold state (event :: after) = _ at folded'
    rw [Applier.fold_cons, fails] at folded'
    cases folded'

end Engine

/-! ## A reply that fails -/

namespace Account

/-- The confirmation that answers a question for the balance of a new account is refused, but by then
log and handle have changed together. -/
theorem submit_together_unanswered :
    (newHandle "acc").Ready ∧
      (MemoryWorld.host (fun _ _ x => x) none :
          Host (MemoryWorld Unit Event) State Command Event).AllOrNothing (·.log.records)
        (fun before records after => after = before ++ records) ∧
      (Request.via (fun _ w => (none, w)) (.operation .getBalance) :
          Request (MemoryWorld Unit Event) Command Reply).Spares (·.log.records) ∧
      questionToNew.result =
        .error (Engine.wrongReply (Command.operation .getBalance) Reply.confirmed) ∧
      Engine.Committed ⟨createdByQuestion, .log⟩ (·.log.records)
        (fun before records after => after = before ++ records) (newHandle "acc")
        (.operation .getBalance) ⟨{}, ()⟩ [.created] questionToNew := by
  have atomic := @MemoryWorld.host_allOrNothing Unit State Command Event (fun _ _ x => x) none
  have spares : (Request.via (fun _ w => (none, w)) (.operation .getBalance) :
      Request (MemoryWorld Unit Event) Command Reply).Spares (·.log.records) := fun _ _ => rfl
  refine ⟨⟨rfl, rfl⟩, atomic, spares, rfl, ?_⟩
  refine ((Engine.submit_together atomic spares ⟨rfl, rfl⟩).2.1 _).2 ?_
  exact ⟨⟨_, List.cons_ne_nil _ _, rfl⟩, ⟨_, rfl⟩, _, _, _, rfl⟩

end Account

end EventLedger
