import EventLedger.Proofs.ConfirmedCommands
import EventLedger.Proofs.Decisions

/-!
# Command handlers and event handlers agree

In every session of accounts the balances are finite, so what the command handlers decide on is
admitted by the event handlers, and every operation ends in one of a few ways (`Settled`). So handles
stay active, and an operation is answered with a reply of its declared type unless it is dropped
(`Dropped`) or overflows, which changes nothing (`handlers_agree`).
-/

namespace EventLedger.Account

open Session

variable {X : Type} (closed : ClosedPolicy) (unhandled : UnhandledPolicy)
  (note : String → Notice → X → X)

/-- What one operation does to its handle and the log. -/
inductive Settled (handle : Handle State Command Event) (op : Operation)
    (refusal : Option StoreFault) (log : MemoryLog Event) :
    Submission (MemoryWorld X Event) State Command Event Reply → Prop
  | dropped {r : Submission (MemoryWorld X Event) State Command Event Reply}
    (silent : Dropped closed op handle.state) (result : r.result = .ok .noReply)
    (same : r.handle = handle) (unchanged : r.world.log = log) : Settled handle op refusal log r
  | replied {r : Submission (MemoryWorld X Event) State Command Event Reply} {reply : Reply}
    (kept : ¬ Dropped closed op handle.state) (result : r.result = .ok (.replied reply []))
    (accepted : op.replyType.accepts reply = true) (same : r.handle = handle)
    (unchanged : r.world.log = log) : Settled handle op refusal log r
  | stored {r : Submission (MemoryWorld X Event) State Command Event Reply} {event : Event}
    {state : State} {receipt : Receipt Event} (kept : ¬ Dropped closed op handle.state)
    (records : Records op event) (finite : event.Same event)
    (folded : applier.fold handle.state [event] = .ok state)
    (result : r.result = .ok (.replied .confirmed [event]))
    (committed : r.handle = handle.commit state [event] receipt)
    (extended : r.world.log = log.extend handle.persistenceId [event]) :
    Settled handle op refusal log r
  /-- A movement is too large. -/
  | overflow {r : Submission (MemoryWorld X Event) State Command Event Reply} {amount : Decimal}
    (kept : ¬ Dropped closed op handle.state)
    (moves : op = .deposit amount ∨ op = .withdraw amount)
    (result : r.result = .error (.fault (.arithmetic .overflow))) (same : r.handle = handle)
    (unchanged : r.world.log = log) : Settled handle op refusal log r
  /-- The log refuses the event. -/
  | refused {r : Submission (MemoryWorld X Event) State Command Event Reply} {cause : StoreFault}
    (refuses : refusal = some cause) (same : r.handle = handle) (unchanged : r.world.log = log) :
    Settled handle op refusal log r

/-- What an operation emits has been agreed on. -/
theorem emits_agreed {handle : Handle State Command Event} (fits : handle.state.Fits)
    {op : Operation} {events : List Event} {replyWith : ReplyFunction State Event Reply}
    (emits : (engine closed unhandled).Emits handle (.operation op) events replyWith) :
    ¬ Dropped closed op handle.state ∧ ∃ event, events = [event] ∧ replyWith = confirm ∧
      Records op event ∧ event.Same event ∧
      Admitted op ((engine closed unhandled).behavior.applier.fold handle.state events) := by
  obtain ⟨event, -, rfl, rfl, decided⟩ := emits_recorded closed unhandled emits
  have agreed := dispatch_agreed closed fits op
  rw [decided] at agreed
  cases agreed with
  | confirmed kept records finite admitted =>
    exact ⟨kept, event, rfl, rfl, records, finite, admitted⟩

/-- An operation that ends before anything is stored has overflowed. -/
theorem settled_of_refusal {handle : Handle State Command Event} (ready : handle.Ready)
    {op : Operation} (agreed : Agreed closed handle.state op
      ((engine closed unhandled).decision handle (.operation op))) (refusal : Option StoreFault)
    {failure : Failure State Event}
    (why : (engine closed unhandled).Refusal handle (.operation op) failure)
    (w : MemoryWorld X Event) :
    Settled closed handle op refusal w.log ⟨.error failure, handle, w⟩ := by
  cases why with
  | notAccepting inactive => exact absurd ready.1 inactive
  | busy active flying => cases ready.2.symm.trans flying
  | handlerFailed _ failed =>
    rw [failed] at agreed
    cases agreed with
    | overflow kept withdraws => exact .overflow kept (.inr withdraws) rfl rfl rfl
  | noEffect _ other => rw [other] at agreed; cases agreed
  | unhandled _ bare => rw [bare] at agreed; cases agreed
  | wrongReply _ replies wrong =>
    rw [replies] at agreed
    cases agreed with
    | replied kept accepted => cases accepted.symm.trans wrong

/-- An operation without a reply is dropped. -/
theorem settled_of_silence {handle : Handle State Command Event} {op : Operation}
    (agreed : Agreed closed handle.state op
      ((engine closed unhandled).decision handle (.operation op))) (refusal : Option StoreFault)
    {notice : Notice} (why : (engine closed unhandled).Silence handle (.operation op) notice)
    {log : MemoryLog Event} {w : MemoryWorld X Event} (unchanged : w.log = log) :
    Settled closed handle op refusal log ⟨.ok .noReply, handle, w⟩ := by
  cases why with
  | dropped drops =>
    rw [drops] at agreed
    cases agreed with
    | dropped silent => exact .dropped silent rfl rfl unchanged
  | unanswered bare => rw [bare] at agreed; cases agreed
  | unhandled bare => rw [bare] at agreed; cases agreed

/-- An operation ends as its handlers agreed, unless the log refuses its event. -/
theorem submission_settled {handle : Handle State Command Event} (ready : handle.Ready)
    (fits : handle.state.Fits) (op : Operation) (channel : Channel X Reply)
    (refusal : Option StoreFault) (s : Session X State Command Event Reply) :
    Settled closed handle op refusal s.world.log
      (s.submission (engine closed unhandled) note handle (.via channel (.operation op))
        refusal) := by
  have ending := (engine closed unhandled).submit_ending (MemoryWorld.host note refusal)
    ((Request.via channel (.operation op)).outside Event) s.world handle
  have agreed : Agreed closed handle.state op ((engine closed unhandled).decision handle
      ((Request.via channel (Command.operation op)).outside Event).command) :=
    dispatch_agreed closed fits op
  rw [Session.submission]
  generalize (engine closed unhandled).submit _ handle _ s.world = r at ending ⊢
  cases ending with
  | refused why => exact settled_of_refusal closed unhandled ready agreed refusal why _
  | silent _ why => exact settled_of_silence closed unhandled agreed refusal why rfl
  | replied _ replies =>
    rw [replies] at agreed
    cases agreed with
    | replied kept accepted => exact .replied kept rfl accepted rfl (Request.log_handOver ..)
  | illegal _ emits folded =>
    obtain ⟨-, event, rfl, -, -, -, admitted⟩ := emits_agreed closed unhandled fits emits
    rw [folded] at admitted
    cases admitted
  | unfolded _ emits folded =>
    obtain ⟨kept, event, rfl, -, -, -, admitted⟩ := emits_agreed closed unhandled fits emits
    rw [folded] at admitted
    cases admitted with
    | overflow deposits => exact .overflow kept (.inl deposits) rfl rfl rfl
  | unstored _ emits folded appended =>
    rcases MemoryWorld.append_cases note refusal (handle.sending _) emits.1 s.world with
      ⟨cause, refuses, eq⟩ | ⟨-, eq⟩ <;> cases appended.symm.trans eq
    exact .refused refuses (Handle.settled_sending ready _) rfl
  | stored _ emits folded appended reported =>
    obtain ⟨kept, event, rfl, rfl, records, finite, -⟩ := emits_agreed closed unhandled fits emits
    rcases MemoryWorld.append_cases note refusal (handle.sending _) (List.cons_ne_nil _ _) s.world
      with ⟨cause, -, eq⟩ | ⟨-, eq⟩ <;> cases appended.symm.trans eq
    cases reported with
    | wrong wrong => cases records.accepts.symm.trans wrong
    | replied =>
      exact .stored kept records finite folded rfl rfl (Request.log_handOver ..)

/-! ## Runs -/

/-- The amounts of all events in the log are finite. -/
def FiniteLog (log : MemoryLog Event) : Prop :=
  ∀ record ∈ log.records, record.event.Same record.event

theorem FiniteLog.extend {log : MemoryLog Event} (finite : FiniteLog log) (entity : String)
    {event : Event} (same : event.Same event) : FiniteLog (log.extend entity [event]) := by
  intro record mem
  rcases List.mem_append.1 mem with old | new
  · exact finite record old
  · rw [List.mem_singleton.1 new]
    exact same

/-- What holds of a handle throughout a session: it takes operations, and its balance fits. -/
def Serves (handle : Handle State Command Event) : Prop :=
  handle.Ready ∧ handle.state.Fits

variable {closed} in
/-- An operation leaves its handle active, with a balance that fits. -/
theorem Settled.serves {handle : Handle State Command Event} {op : Operation}
    {refusal : Option StoreFault} {log : MemoryLog Event}
    {r : Submission (MemoryWorld X Event) State Command Event Reply}
    (settled : Settled closed handle op refusal log r) (serves : Serves handle)
    (finite : FiniteLog log) : Serves r.handle ∧ FiniteLog r.world.log := by
  cases settled with
  | dropped _ _ same unchanged => rw [same, unchanged]; exact ⟨serves, finite⟩
  | replied _ _ _ same unchanged => rw [same, unchanged]; exact ⟨serves, finite⟩
  | overflow _ _ _ same unchanged => rw [same, unchanged]; exact ⟨serves, finite⟩
  | refused _ same unchanged => rw [same, unchanged]; exact ⟨serves, finite⟩
  | stored _ _ same folded _ committed extended =>
    rw [committed, extended]
    refine ⟨⟨⟨serves.1.1, rfl⟩, fits_of_fold serves.2 (fun e mem => ?_) folded⟩,
      finite.extend _ same⟩
    rw [List.mem_singleton.1 mem]
    exact same

/-- A handle that is replayed takes operations, and its balance fits. -/
theorem serves_of_replay {log : MemoryLog Event} (numbered : log.Numbered)
    (finite : FiniteLog log) {entity : String} {recovered : Recovered State}
    (replayed : Replay.replay (behavior closed)
      (log.read ((behavior closed).persistenceId entity) 0) none = .ok recovered) :
    Serves ((engine closed unhandled).recovered entity recovered) := by
  have folded := Replay.folded_of_replay replayed
  rw [MemoryLog.read_of_numbered numbered] at folded
  refine ⟨⟨rfl, rfl⟩, fits_of_fold .empty (List.forall_mem_map.2 fun record mem => ?_) folded⟩
  exact finite record (List.mem_of_mem_filter mem)

/-- What holds throughout a session of accounts. -/
structure Steady (s : Session X State Command Event Reply) : Prop where
  sound : s.Sound (engine closed unhandled)
  serves : ∀ handle ∈ s.handles, Serves handle
  finite : FiniteLog s.world.log

variable {closed unhandled}

theorem Steady.step {s : Session X State Command Event Reply}
    (steady : Steady closed unhandled s) (next : AccountStep X) :
    Steady closed unhandled (s.step (engine closed unhandled) note next.step) := by
  have sound := steady.sound.step note next.step
  cases next with
  | activate entity =>
    obtain ⟨log, -, same | ⟨recovered, replayed, more⟩⟩ :=
      s.activate_cases (engine closed unhandled) note entity
    · refine ⟨sound, ?_, ?_⟩ <;> rw [AccountStep.step, Session.step]
      · rw [same]; exact steady.serves
      · rw [log]; exact steady.finite
    · refine ⟨sound, ?_, ?_⟩ <;> rw [AccountStep.step, Session.step]
      · rw [more]
        refine List.forall_mem_append.2 ⟨steady.serves, List.forall_mem_singleton.2 ?_⟩
        exact serves_of_replay closed unhandled steady.sound.numbered steady.finite replayed
      · rw [log]; exact steady.finite
  | submit index op channel refusal =>
    rw [AccountStep.step, Session.step] at sound ⊢
    cases found : s.handles[index]? with
    | none => rw [submit_of_no_handle _ note found]; exact steady
    | some handle =>
      have before := steady.serves handle (List.mem_of_getElem? found)
      have settled :=
        submission_settled closed unhandled note before.1 before.2 op channel refusal s
      obtain ⟨after, finite⟩ := settled.serves before steady.finite
      rw [submit_of_handle _ note found] at sound ⊢
      refine ⟨sound, fun other mem => ?_, finite⟩
      rcases List.mem_or_eq_of_mem_set mem with old | rfl
      · exact steady.serves other old
      · exact after

theorem Steady.run {s : Session X State Command Event Reply}
    (steady : Steady closed unhandled s) (steps : List (AccountStep X)) :
    Steady closed unhandled
      (s.run (engine closed unhandled) note (steps.map AccountStep.step)) := by
  induction steps generalizing s with
  | nil => exact steady
  | cons next steps ih => exact ih (steady.step note next)

variable (closed unhandled)

/-- In every session of accounts that begins with an empty log, under any policies and with any
amounts: every handle is active and stays so, and an operation whose event the log does not refuse
is dropped in silence exactly if it is one of the `Dropped`. Any other is answered with a reply of
the type that it declares, unless it moves an amount and the balance overflows; then it fails with
that, and handle and log stay as they were. -/
theorem handlers_agree (outside : X) (steps : List (AccountStep X)) :
    let s := (start {} outside).run (engine closed unhandled) note (steps.map AccountStep.step)
    ∀ handle ∈ s.handles, handle.mode = .active ∧ ∀ op channel,
      let r := s.submission (engine closed unhandled) note handle (.via channel (.operation op))
        none
      r.handle.mode = .active ∧
      (Dropped closed op handle.state → r.result = .ok .noReply) ∧
      (¬ Dropped closed op handle.state →
        (∃ reply events, r.result = .ok (.replied reply events) ∧
          CommandType.accepts (Command.operation op) reply = true) ∨
        ∃ amount, (op = .deposit amount ∨ op = .withdraw amount) ∧
          r.result = .error (.fault (.arithmetic .overflow)) ∧ r.handle = handle ∧
          r.world.log = s.world.log) := by
  intro s handle mem
  have begins : Steady closed unhandled (start {} outside : Session X _ _ _ _) :=
    ⟨⟨MemoryLog.numbered_empty, by simp [start]⟩, by simp [start], nofun⟩
  have steady : Steady closed unhandled s := begins.run note steps
  have serves := steady.serves handle mem
  refine ⟨serves.1.1, fun op channel => ?_⟩
  have settled := submission_settled closed unhandled note serves.1 serves.2 op channel none s
  refine ⟨(settled.serves serves steady.finite).1.1.1, ?_⟩
  cases settled with
  | dropped silent result => exact ⟨fun _ => result, fun kept => absurd silent kept⟩
  | replied kept result accepted =>
    exact ⟨fun silent => absurd silent kept, fun _ => .inl ⟨_, _, result, accepted⟩⟩
  | stored kept records _ _ result =>
    exact ⟨fun silent => absurd silent kept, fun _ => .inl ⟨_, _, result, records.accepts⟩⟩
  | overflow kept moves result same unchanged =>
    exact ⟨fun silent => absurd silent kept, fun _ => .inr ⟨_, moves, result, same, unchanged⟩⟩
  | refused refuses => cases refuses

/-- `handlers_agree` for an account that was created, which is asked for its balance. -/
theorem handlers_agree_created :
    let channel : Channel Unit Reply := fun _ x => (none, x)
    let s := (start {} ()).run (engine .reject .log) (fun _ _ x => x)
      ([.activate "a", .submit 0 .create channel none].map AccountStep.step)
    ∃ handle ∈ s.handles, handle.state = .opened .zero ∧ handle.mode = .active ∧
      ∃ reply events,
        (s.submission (engine .reject .log) (fun _ _ x => x) handle
          (.via channel (.operation .getBalance)) none).result = .ok (.replied reply events) ∧
        CommandType.accepts (Command.operation .getBalance) reply = true := by
  intro channel s
  refine ⟨_, List.mem_cons_self, rfl, ?_⟩
  obtain ⟨active, answered⟩ := handlers_agree .reject .log (fun _ _ x => x) ()
    [.activate "a", .submit 0 .create channel none] _ List.mem_cons_self
  refine ⟨active, ?_⟩
  rcases (answered .getBalance channel).2.2 id with replied | ⟨amount, moves | moves, -⟩
  · exact replied
  · cases moves
  · cases moves

end EventLedger.Account
