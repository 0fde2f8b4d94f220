import EventLedger.Proofs.ConfirmedCommands
import EventLedger.Proofs.CustomCommands
import EventLedger.Proofs.ReplyProtocol

/-!
# Policies never change history

What a submission leaves in handle and log depends on the events that the handler of its command
decides on (`submission_left`), and on nothing else: not on what is answered, to whom, or whether a
command without a handler fails. The handlers of accounts decide on the same events under both
policies for closed accounts. So sessions under any policies run with the same log and the same
handles (`Matches.run`).

The policies for commands without a handler are told apart by two things only: a notice, and the
failure that takes the place of silence. The world without its notices, as the callers see it
(`MemoryWorld.seen`), is the same under both (`InStep.run`).
-/

namespace EventLedger

variable {X S C E R : Type} [HasKind S] [HasKind E]

namespace Session

/-- The handle that the activation of an entity returns, if it does. -/
def activated (engine : Engine S C E R) (entity : String) (log : MemoryLog E) :
    List (Handle S C E) :=
  match Replay.replay engine.behavior (log.read (engine.behavior.persistenceId entity) 0) none with
  | .ok recovered => [engine.recovered entity recovered]
  | .error _ => []

theorem handles_activate (engine : Engine S C E R) (note : String → Notice → X → X)
    (entity : String) (s : Session X S C E R) :
    (s.activate engine note entity).handles =
      s.handles ++ activated engine entity s.world.log := by
  unfold activate Engine.activate activated
  generalize replayed : Replay.replay engine.behavior
    (s.world.log.read (engine.behavior.persistenceId entity) 0) none = r
  change Replay.replay engine.behavior ((MemoryWorld.host (S := S) (C := C) note none).read
    (engine.fresh entity).persistenceId 0 s.world) none = r at replayed
  dsimp only
  rw [replayed]
  rcases r with failure | recovered
  · cases failure <;> exact (List.append_nil _).symm
  · rfl

/-- The events that a handler decided on. -/
def decidedEvents : Except (Failure S E) (Decision S E R) → List E
  | .ok (.effect (.persistAndReply events _ _)) => events
  | _ => []

/-- Handle and log after events were folded, by what the fold gave. -/
def leftByFold (handle : Handle S C E) (log : MemoryLog E) (refusal : Option StoreFault)
    (events : List E) : Except (Failure S E) S → Handle S C E × MemoryLog E
  | .error (.illegalFold state event) => (handle.stop (.illegalFold state event), log)
  | .error (.fault _) => (handle, log)
  | .ok state =>
    match refusal with
    | some _ => (handle, log)
    | none =>
      (handle.commit state events
          ⟨MemoryLog.recordsFrom handle.persistenceId log.records.length events⟩,
        log.extend handle.persistenceId events)

/-- Handle and log after a submission whose handler decided on events. -/
def leftBy (applier : Applier S E) (handle : Handle S C E) (log : MemoryLog E)
    (refusal : Option StoreFault) (events : List E) : Handle S C E × MemoryLog E :=
  if events.isEmpty then (handle, log)
  else leftByFold handle log refusal events (applier.fold handle.state events)

variable [CommandType C R] (engine : Engine S C E R) (note : String → Notice → X → X)

theorem leftBy_of_emits {handle : Handle S C E} {command : C} {events : List E}
    {replyWith : ReplyFunction S E R} (emits : engine.Emits handle command events replyWith)
    (log : MemoryLog E) (refusal : Option StoreFault) :
    leftBy engine.behavior.applier handle log refusal
        (decidedEvents (engine.decision handle command)) =
      leftByFold handle log refusal events (engine.behavior.applier.fold handle.state events) := by
  obtain ⟨nonempty, decided⟩ := emits
  rw [decided, decidedEvents, leftBy, if_neg (by simpa using nonempty)]

variable [HasKind R]

/-- A submission to a handle that is not ready fails and does nothing. -/
theorem submission_of_not_ready {handle : Handle S C E} (idle : ¬ handle.Ready)
    (request : Request X C R) (refusal : Option StoreFault) (s : Session X S C E R) :
    ∃ failure, s.submission engine note handle request refusal =
      ⟨.error failure, handle, s.world⟩ := by
  have ending := engine.submit_ending (MemoryWorld.host note refusal) (request.outside E) s.world
    handle
  rw [submission]
  generalize engine.submit _ handle _ s.world = r at ending ⊢
  cases ending with
  | refused => exact ⟨_, rfl⟩
  | silent ready => exact absurd ready idle
  | replied ready => exact absurd ready idle
  | illegal ready => exact absurd ready idle
  | unfolded ready => exact absurd ready idle
  | unstored ready => exact absurd ready idle
  | stored ready => exact absurd ready idle

/-- What a submission leaves depends on the events that the handler decides on. -/
theorem submission_left {handle : Handle S C E} (ready : handle.Ready) (request : Request X C R)
    (refusal : Option StoreFault) (s : Session X S C E R) :
    let r := s.submission engine note handle request refusal
    (r.handle, r.world.log) = leftBy engine.behavior.applier handle s.world.log refusal
      (decidedEvents (engine.decision handle request.command)) := by
  intro r
  have ending : Engine.Ending engine (MemoryWorld.host note refusal) handle (request.outside E)
    s.world r := engine.submit_ending _ (request.outside E) s.world handle
  generalize r = r at ending
  have command : (request.outside E).command = request.command := rfl
  rw [← command]
  cases ending with
  | refused why =>
    cases why with
    | notAccepting inactive => exact absurd ready.1 inactive
    | busy _ flying => cases flying.symm.trans ready.2
    | handlerFailed _ decided => rw [decided]; rfl
    | noEffect _ decided => rw [decided]; rfl
    | unhandled _ decided => rw [decided]; rfl
    | wrongReply _ decided => rw [decided]; rfl
  | silent _ why =>
    cases why with
    | dropped decided => rw [decided]; rfl
    | unanswered decided => rw [decided]; rfl
    | unhandled decided => rw [decided]; rfl
  | replied _ decided => rw [decided, Request.log_handOver]; rfl
  | illegal _ emits folded => rw [leftBy_of_emits engine emits, folded]; rfl
  | unfolded _ emits folded => rw [leftBy_of_emits engine emits, folded]; rfl
  | unstored _ emits folded appended =>
    rw [leftBy_of_emits engine emits, folded]
    rcases MemoryWorld.append_cases note refusal (handle.sending request.command) emits.1
      s.world with ⟨cause, rfl, eq⟩ | ⟨-, eq⟩ <;> cases appended.symm.trans eq
    rw [Handle.settled_sending ready]; rfl
  | @stored events replyWith state _ _ _ _ _ emits folded appended reported =>
    rw [leftBy_of_emits engine emits, folded]
    rcases MemoryWorld.append_cases note refusal (handle.sending request.command) emits.1
      s.world with ⟨cause, -, eq⟩ | ⟨rfl, eq⟩ <;> cases appended.symm.trans eq
    generalize replyWith state = answer at reported
    cases reported with
    | failed => rfl
    | wrong => rfl
    | replied => rw [Request.log_handOver]; rfl

/-- Engines that name and fold alike, and whose handlers decide on the same events. -/
structure SameEvents (engine engine' : Engine S C E R) : Prop where
  typeKey : engine'.behavior.typeKey = engine.behavior.typeKey
  emptyState : engine'.behavior.emptyState = engine.behavior.emptyState
  applier : engine'.behavior.applier = engine.behavior.applier
  decided : ∀ (handle : Handle S C E) command,
    decidedEvents (engine'.decision handle command) =
      decidedEvents (engine.decision handle command)

/-- Sessions with the same log and the same handles. -/
structure Matches (s s' : Session X S C E R) : Prop where
  log : s'.world.log = s.world.log
  handles : s'.handles = s.handles

variable {engine} {engine' : Engine S C E R}

omit [HasKind R] in
theorem SameEvents.activated (same : SameEvents engine engine') (entity : String)
    (log : MemoryLog E) :
    Session.activated engine' entity log = Session.activated engine entity log := by
  obtain ⟨⟨typeKey, emptyState, _, applier⟩, _⟩ := engine
  obtain ⟨⟨typeKey', emptyState', _, applier'⟩, _⟩ := engine'
  cases same.typeKey
  cases same.emptyState
  cases same.applier
  rfl

theorem Matches.submission (same : SameEvents engine engine') {s s' : Session X S C E R}
    (matched : Matches s s') (handle : Handle S C E) (request : Request X C R)
    (refusal : Option StoreFault) :
    let r := s.submission engine note handle request refusal
    let r' := s'.submission engine' note handle request refusal
    (r'.handle, r'.world.log) = (r.handle, r.world.log) := by
  dsimp only
  by_cases ready : handle.Ready
  · rw [submission_left engine note ready, submission_left engine' note ready, same.applier,
      same.decided, matched.log]
  · obtain ⟨_, unchanged⟩ := submission_of_not_ready engine note ready request refusal s
    obtain ⟨_, unchanged'⟩ := submission_of_not_ready engine' note ready request refusal s'
    rw [unchanged, unchanged', matched.log]

theorem Matches.step (same : SameEvents engine engine') {s s' : Session X S C E R}
    (matched : Matches s s') (next : Step X C R) :
    Matches (s.step engine note next) (s'.step engine' note next) := by
  cases next with
  | activate entity =>
    refine ⟨?_, ?_⟩ <;> rw [Session.step, Session.step]
    · rw [(s.activate_cases engine note entity).1, (s'.activate_cases engine' note entity).1]
      exact matched.log
    · rw [handles_activate, handles_activate, same.activated, matched.log, matched.handles]
  | submit index request refusal =>
    simp only [Session.step]
    cases found : s.handles[index]? with
    | none =>
      have found' : s'.handles[index]? = none := by rw [matched.handles, found]
      rw [submit_of_no_handle engine note found, submit_of_no_handle engine' note found']
      exact matched
    | some handle =>
      have found' : s'.handles[index]? = some handle := by rw [matched.handles, found]
      obtain ⟨after, log⟩ := Prod.mk.inj (matched.submission note same handle request refusal)
      rw [submit_of_handle engine note found, submit_of_handle engine' note found']
      exact ⟨log, by rw [matched.handles, after]⟩

theorem Matches.run (same : SameEvents engine engine') {s s' : Session X S C E R}
    (matched : Matches s s') (steps : List (Step X C R)) :
    Matches (s.run engine note steps) (s'.run engine' note steps) := by
  induction steps generalizing s s' with
  | nil => exact matched
  | cons next steps ih => exact ih (matched.step note same next)

end Session

/-! ## Callers and notices -/

/-- What lies outside of the log, with the callers apart from what takes the notices. -/
structure Surroundings (N Y : Type) where
  notices : N
  /-- What the channels act on. -/
  callers : Y

variable {N Y : Type}

/-- Notices do not reach the callers. -/
def Surroundings.note (note : String → Notice → N → N) (persistenceId : String) (notice : Notice)
    (x : Surroundings N Y) : Surroundings N Y :=
  { x with notices := note persistenceId notice x.notices }

/-- The world without its notices. -/
def MemoryWorld.seen (w : MemoryWorld (Surroundings N Y) E) : MemoryWorld Y E :=
  ⟨w.log, w.outside.callers⟩

variable [CommandType C R]

/-- The request of a caller. -/
def Request.ofCaller (N : Type) (request : Request Y C R) : Request (Surroundings N Y) C R where
  command := request.command
  channel := request.channel.map fun channel reply x =>
    let (lost, callers) := channel reply x.callers
    (lost, { x with callers := callers })
  answerable enforced := by simpa using request.answerable enforced

/-- What happens in a session with callers. -/
def Step.ofCaller (N : Type) : Step Y C R → Step (Surroundings N Y) C R
  | .activate entity => .activate entity
  | .submit index request refusal => .submit index (request.ofCaller N) refusal

/-- A host without notices. -/
def MemoryWorld.quietHost (Y S C E : Type) (refusal : Option StoreFault) :
    Host (MemoryWorld Y E) S C E :=
  MemoryWorld.host (fun _ _ y => y) refusal

omit [HasKind S] [HasKind E] in
theorem MemoryWorld.seen_respects (note : String → Notice → N → N) (refusal : Option StoreFault) :
    (MemoryWorld.host (Surroundings.note note) refusal :
        Host (MemoryWorld (Surroundings N Y) E) S C E).Respects MemoryWorld.seen
      (MemoryWorld.quietHost Y S C E refusal) where
  append handle events w := by cases refusal <;> rfl
  note _ _ _ := rfl

omit [HasKind E] in
theorem Request.seen_respects (request : Request Y C R) :
    ((request.ofCaller N).outside E).Respects MemoryWorld.seen (request.outside E) where
  command := rfl
  deliver reply w := by obtain ⟨command, _ | channel, answerable⟩ := request <;> rfl

/-! ## The policies for commands without a handler -/

/-- The engine with a behavior, under a policy. -/
abbrev Behavior.under (behavior : Behavior S C E R) (policy : UnhandledPolicy) :
    Engine S C E R :=
  ⟨behavior, policy⟩

/-- A command that must be answered finds no handler. -/
def Behavior.Missing (behavior : Behavior S C E R) (handle : Handle S C E) (command : C) : Prop :=
  handle.Ready ∧ behavior.dispatcher.dispatch handle.state command = .ok (.effect .unhandled) ∧
    CommandType.enforced command = true

namespace Engine

variable {W : Type} [HasKind R] (behavior : Behavior S C E R) (host : Host W S C E)
  {handle : Handle S C E}

/-- If there is a handler, the policy does not matter. -/
theorem submit_of_not_missing (request : Request W C R)
    (found : ¬ behavior.Missing handle request.command) (policy policy' : UnhandledPolicy) (w : W) :
    (behavior.under policy').submit host handle request w =
      (behavior.under policy).submit host handle request w := by
  unfold submit
  by_cases active : handle.mode = .active
  · rw [if_neg (not_not_intro active), if_neg (not_not_intro active)]
    cases flying : handle.inFlight with
    | some earlier => rfl
    | none =>
      dsimp only
      cases decided : behavior.dispatcher.dispatch handle.state request.command with
      | error failure => rfl
      | ok decision =>
        cases decision with
        | other kind literal => rfl
        | effect effect =>
          cases effect with
          | persistAndReply events nonempty replyWith => rfl
          | replyOnly reply => rfl
          | unhandledNoReply => rfl
          | unhandled =>
            have free : ¬ CommandType.enforced request.command = true :=
              fun enforced => found ⟨⟨active, flying⟩, decided, enforced⟩
            simp only [execute, leaveUnhandled, if_neg free]
  · rw [if_pos active, if_pos active]

/-- Without a handler the command is either reported or fails. -/
theorem submit_of_missing (request : Request W C R)
    (missing : behavior.Missing handle request.command) (policy : UnhandledPolicy) (w : W) :
    (behavior.under policy).submit host handle request w =
      match policy with
      | .raise =>
        ⟨.error (.fault (.unhandledCommand (kind request.command) (kind handle.state))), handle, w⟩
      | .log => ⟨.ok .noReply, handle, host.note handle.persistenceId
          (.unanswered (kind request.command) (kind handle.state)) w⟩ := by
  obtain ⟨⟨active, idle⟩, decided, enforced⟩ := missing
  cases policy <;>
    simp only [submit, if_neg (not_not_intro active), idle, decided, execute, leaveUnhandled,
      enforced, if_true]

end Engine

namespace Session

omit [CommandType C R] in
theorem seen_activate (engine : Engine S C E R) (note : String → Notice → N → N) (entity : String)
    (s : Session (Surroundings N Y) S C E R) :
    (s.activate engine (Surroundings.note note) entity).world.seen = s.world.seen := by
  unfold activate Engine.activate
  dsimp only
  cases Replay.replay engine.behavior
      ((MemoryWorld.host (Surroundings.note note) none).read (engine.fresh entity).persistenceId 0
        s.world) none with
  | ok recovered => rfl
  | error failure => cases failure <;> rfl

variable [HasKind R]

/-- What the callers see of a submission does not depend on the notices. -/
theorem submission_seen (engine : Engine S C E R) (note : String → Notice → N → N)
    (handle : Handle S C E) (request : Request Y C R) (refusal : Option StoreFault)
    (s : Session (Surroundings N Y) S C E R) :
    (s.submission engine (Surroundings.note note) handle (request.ofCaller N) refusal).map
        MemoryWorld.seen =
      engine.submit (MemoryWorld.quietHost Y S C E refusal) handle (request.outside E)
        s.world.seen :=
  (engine.submit_map (MemoryWorld.seen_respects note refusal) request.seen_respects handle
    s.world).symm

variable (behavior : Behavior S C E R) (note : String → Notice → N → N)

/-- One submission under both policies. -/
structure Versus (handle : Handle S C E) (command : C)
    (r r' : Submission (MemoryWorld (Surroundings N Y) E) S C E R) : Prop where
  seen : r'.world.seen = r.world.seen
  missing : behavior.Missing handle command → r.result = .ok .noReply ∧
    r'.result = .error (.fault (.unhandledCommand (kind command) (kind handle.state)))
  found : ¬ behavior.Missing handle command → r'.result = r.result

theorem submission_versus {s s' : Session (Surroundings N Y) S C E R}
    (seen : s'.world.seen = s.world.seen) (handle : Handle S C E) (request : Request Y C R)
    (refusal : Option StoreFault) :
    Versus behavior handle request.command
      (s.submission (behavior.under .log) (Surroundings.note note) handle (request.ofCaller N)
        refusal)
      (s'.submission (behavior.under .raise) (Surroundings.note note) handle (request.ofCaller N)
        refusal) := by
  have logs := s.submission_seen (behavior.under .log) note handle request refusal
  have raises := s'.submission_seen (behavior.under .raise) note handle request refusal
  rw [seen] at raises
  generalize s.submission _ _ handle _ refusal = r at logs ⊢
  generalize s'.submission _ _ handle _ refusal = r' at raises ⊢
  by_cases missing : behavior.Missing handle request.command
  · rw [Engine.submit_of_missing behavior _ (request.outside E) missing] at logs raises
    obtain ⟨logged, -, seen⟩ := Submission.mk.inj logs
    obtain ⟨raised, -, seen'⟩ := Submission.mk.inj raises
    exact ⟨seen'.trans seen.symm, fun _ => ⟨logged, raised⟩, fun found => absurd missing found⟩
  · rw [Engine.submit_of_not_missing behavior _ (request.outside E) missing .log, ← logs] at raises
    obtain ⟨result, -, seen⟩ := Submission.mk.inj raises
    exact ⟨seen, fun bare => absurd bare missing, fun _ => result⟩

/-- Sessions with the same handles, in worlds that the callers see alike. -/
structure InStep (s s' : Session (Surroundings N Y) S C E R) : Prop where
  seen : s'.world.seen = s.world.seen
  handles : s'.handles = s.handles

/-- A step under both policies. -/
theorem InStep.step {s s' : Session (Surroundings N Y) S C E R} (even : InStep s s')
    (next : Step Y C R) :
    InStep (s.step (behavior.under .log) (Surroundings.note note) (next.ofCaller N))
      (s'.step (behavior.under .raise) (Surroundings.note note) (next.ofCaller N)) := by
  have same : SameEvents (behavior.under .log) (behavior.under .raise) :=
    ⟨rfl, rfl, rfl, fun _ _ => rfl⟩
  have matched : Matches s s' :=
    ⟨congrArg (fun w : MemoryWorld Y E => w.log) even.seen, even.handles⟩
  refine ⟨?_, (matched.step _ same _).handles⟩
  cases next with
  | activate entity =>
    exact (seen_activate ..).trans (even.seen.trans (seen_activate ..).symm)
  | submit index request refusal =>
    rw [Step.ofCaller, Session.step, Session.step]
    cases found : s.handles[index]? with
    | none =>
      have found' : s'.handles[index]? = none := by rw [even.handles, found]
      rw [submit_of_no_handle _ _ found, submit_of_no_handle _ _ found']
      exact even.seen
    | some handle =>
      have found' : s'.handles[index]? = some handle := by rw [even.handles, found]
      rw [submit_of_handle _ _ found, submit_of_handle _ _ found']
      exact (submission_versus behavior note even.seen handle request refusal).seen

theorem InStep.run {s s' : Session (Surroundings N Y) S C E R} (even : InStep s s')
    (steps : List (Step Y C R)) :
    InStep (s.run (behavior.under .log) (Surroundings.note note) (steps.map (Step.ofCaller N)))
      (s'.run (behavior.under .raise) (Surroundings.note note) (steps.map (Step.ofCaller N))) := by
  induction steps generalizing s s' with
  | nil => exact even
  | cons next steps ih => exact ih (even.step behavior note next)

end Session

namespace Account

open Session

/-! ## Accounts -/

theorem decidedEvents_rejectClosed (state : State) (command : Command) :
    decidedEvents (rejectClosed state command) = [] := by
  unfold rejectClosed
  split <;> rfl

/-- A closed account decides on no events, under either policy. -/
theorem decidedEvents_dispatch (closed closed' : ClosedPolicy) (state : State)
    (command : Command) :
    decidedEvents ((dispatcher closed').dispatch state command) =
      decidedEvents ((dispatcher closed).dispatch state command) := by
  have quiet : ∀ policy,
      decidedEvents ((dispatcher policy).dispatch State.closed command) = [] := by
    intro policy
    rw [dispatch_command]
    cases policy with
    | unhandled => rfl
    | reject => exact decidedEvents_rejectClosed _ _
  cases state with
  | closed => rw [quiet, quiet]
  | empty => rw [dispatch_command, dispatch_command]
  | opened balance => rw [dispatch_command, dispatch_command]

theorem sameEvents (closed closed' : ClosedPolicy) (unhandled unhandled' : UnhandledPolicy) :
    SameEvents (engine closed unhandled) (engine closed' unhandled') :=
  ⟨rfl, rfl, rfl, fun handle command => decidedEvents_dispatch closed closed' handle.state command⟩

/-- No command of any kind fails for want of a handler, if that is only reported. -/
theorem result_ne_unhandledCommand {X : Type} (closed : ClosedPolicy)
    (note : String → Notice → X → X) (handle : Handle State Command Event)
    (request : Request X Command Reply) (refusal : Option StoreFault)
    (s : Session X State Command Event Reply) (command state : Kind) :
    (s.submission (engine closed .log) note handle request refusal).result ≠
      .error (.fault (.unhandledCommand command state)) := by
  have ending := (engine closed .log).submit_ending (MemoryWorld.host note refusal)
    (request.outside Event) s.world handle
  have plain := plain_dispatch closed handle.state request.command
  rw [submission]
  generalize (engine closed .log).submit _ handle _ s.world = r at ending ⊢
  intro fails
  cases ending with
  | refused why =>
    cases fails
    cases why with
    | handlerFailed _ decided =>
      change (dispatcher closed).dispatch handle.state request.command = _ at decided
      rw [decided] at plain
      cases plain with
      | failed ofNumbers => exact ofNumbers
    | unhandled _ _ _ policy => cases policy
  | silent => cases fails
  | replied => cases fails
  | illegal => cases fails
  | unfolded _ _ folded => cases fails; exact fault_of_fold folded
  | unstored _ emits _ appended =>
    rcases MemoryWorld.append_cases note refusal (handle.sending request.command) emits.1 s.world
      with ⟨cause, -, eq⟩ | ⟨-, eq⟩ <;> cases appended.symm.trans eq
    cases fails
  | stored _ emits _ _ reported =>
    obtain ⟨nonempty, decided⟩ := emits
    change (dispatcher closed).dispatch handle.state request.command = _ at decided
    rw [decided] at plain
    cases plain
    cases reported with
    | wrong => cases fails
    | replied => cases fails

/-- In every session of accounts, with commands of any kind, whatever appends are refused and
channels fail: log and handles are the same under all policies. Under the policies `log` and `raise`
for commands without a handler, the callers see the same world, and a submission ends with the same
result; only where a command that must be answered has no handler, one ends without a reply and the
other fails, and it fails for this nowhere else. -/
theorem policies_keep_history {N Y : Type} (note : String → Notice → N → N)
    (log : MemoryLog Event) (x : Surroundings N Y) (steps : List (Step Y Command Reply)) :
    let run closed unhandled : Session (Surroundings N Y) State Command Event Reply :=
      (start log x).run (engine closed unhandled) (Surroundings.note note)
        (steps.map (Step.ofCaller N))
    (∀ closed unhandled closed' unhandled',
      (run closed' unhandled').world.log = (run closed unhandled).world.log ∧
      (run closed' unhandled').handles = (run closed unhandled).handles) ∧
    ∀ closed,
      let s := run closed .log
      let s' := run closed .raise
      s'.world.outside.callers = s.world.outside.callers ∧
      ∀ handle ∈ s.handles, ∀ (request : Request Y Command Reply) refusal,
        let r := s.submission (engine closed .log) (Surroundings.note note) handle
          (request.ofCaller N) refusal
        let r' := s'.submission (engine closed .raise) (Surroundings.note note) handle
          (request.ofCaller N) refusal
        let unanswered := r.result = .ok .noReply ∧
          (dispatcher closed).dispatch handle.state request.command = .ok (.effect .unhandled) ∧
          CommandType.enforced request.command = true
        r'.world.outside.callers = r.world.outside.callers ∧
        (¬ unanswered → r'.result = r.result) ∧
        (unanswered → r'.result = .error (.fault
          (.unhandledCommand (kind request.command) (kind handle.state)))) ∧
        ((∃ command state, r'.result = .error (.fault (.unhandledCommand command state))) →
          unanswered) := by
  intro run
  refine ⟨fun closed unhandled closed' unhandled' => ?_, fun closed => ?_⟩
  · have matched : Matches (run closed unhandled) (run closed' unhandled') :=
      Matches.run _ (sameEvents closed closed' unhandled unhandled') ⟨rfl, rfl⟩ _
    exact ⟨matched.log, matched.handles⟩
  · intro s s'
    have even : InStep s s' := InStep.run (behavior closed) note ⟨rfl, rfl⟩ steps
    refine ⟨congrArg MemoryWorld.outside even.seen, fun handle _ request refusal => ?_⟩
    intro r r' unanswered
    have versus : Versus (behavior closed) handle request.command r r' :=
      submission_versus (behavior closed) note even.seen handle request refusal
    have never := result_ne_unhandledCommand closed (Surroundings.note note) handle
      (request.ofCaller N) refusal s
    have missing : unanswered ↔ (behavior closed).Missing handle request.command := by
      refine ⟨fun ⟨silent, decided, enforced⟩ => ⟨?_, decided, enforced⟩, fun missing =>
        ⟨(versus.missing missing).1, missing.2⟩⟩
      by_contra idle
      obtain ⟨_, fails⟩ := submission_of_not_ready (engine closed .log) (Surroundings.note note)
        idle (request.ofCaller N) refusal s
      cases (congrArg Submission.result fails).symm.trans silent
    refine ⟨congrArg MemoryWorld.outside versus.seen, fun answered => ?_, fun bare => ?_, ?_⟩
    · exact versus.found (mt missing.2 answered)
    · exact (versus.missing (missing.1 bare)).2
    · rintro ⟨command, state, fails⟩
      by_contra answered
      rw [versus.found (mt missing.2 answered)] at fails
      exact never _ _ fails

/-- `policies_keep_history` for an application's own command that must be answered, to a new
account, where it finds no handler. -/
theorem policies_keep_history_unhandled :
    let channel : Channel Unit Reply := fun _ y => (none, y)
    let note : String → Notice → Unit → Unit := fun _ _ n => n
    let steps : List (Step Unit Command Reply) :=
      [.activate "a", .submit 0 (.via channel (.operation .create)) none]
    let audit : Request Unit Command Reply := .via channel (.custom { kind := "Audit" })
    let s unhandled : Session (Surroundings Unit Unit) State Command Event Reply :=
      (start {} ⟨(), ()⟩).run (engine .unhandled unhandled) (Surroundings.note note)
        (steps.map (Step.ofCaller Unit))
    ∃ handle ∈ (s .log).handles, (s .raise).handles = (s .log).handles ∧
      ((s .log).submission (engine .unhandled .log) (Surroundings.note note) handle
        (audit.ofCaller Unit) none).result = .ok .noReply ∧
      ((s .raise).submission (engine .unhandled .raise) (Surroundings.note note) handle
        (audit.ofCaller Unit) none).result =
          .error (.fault (.unhandledCommand "Audit" State.openedKind)) := by
  intro channel note steps audit s
  obtain ⟨kept, tells⟩ := policies_keep_history note {} ⟨(), ()⟩ steps
  let handle : Handle State Command Event :=
    { entity := "a", persistenceId := "Account|a", state := .opened .zero, mode := .active,
      applied := 1, lastSeq := .whole 0 }
  have held : handle ∈ (s .log).handles := List.mem_singleton_self handle
  have decided : (dispatcher .unhandled).dispatch handle.state audit.command =
      .ok (.effect .unhandled) := by
    rw [dispatch_command]
    exact if_neg (by decide)
  have silent : ((s .log).submission (engine .unhandled .log) (Surroundings.note note) handle
      (audit.ofCaller Unit) none).result = .ok .noReply := rfl
  obtain ⟨-, -, fails, -⟩ := (tells .unhandled).2 handle held audit none
  exact ⟨handle, held, (kept .unhandled .log .unhandled .raise).2, silent,
    fails ⟨silent, decided, rfl⟩⟩

end Account

end EventLedger
