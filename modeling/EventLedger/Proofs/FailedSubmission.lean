import EventLedger.Proofs.FileSession

/-!
# Submissions that fail

A submission that fails leaves the log as it was, with one exception. The reply is computed from the
state that the events lead to, and checked, only when the events are stored; if that fails, or the
reply is not of the declared type, the submission fails although its events are in the log
(`Unanswered`). A caller that gives the command again may have them stored twice.

`submit_failed` says that there is no other exception, for every log whose refused appends change
nothing (`Host.Keeps`); the log in memory and the log in a file are such logs.
-/

namespace EventLedger

/-- Notices leave alone what the host shows as its log, and so does every append that is refused. -/
structure Host.Keeps {W L S C E : Type} (host : Host W S C E) (log : W → L) : Prop where
  note : ∀ persistenceId notice w, log (host.note persistenceId notice w) = log w
  refused : ∀ {handle events w fault after w'},
    host.append handle events w = (.error fault, after, w') → log w' = log w

section

variable {X S C E : Type} (note : String → Notice → X → X)

theorem MemoryWorld.host_keeps (refusal : Option StoreFault) :
    (host note refusal : Host _ S C E).Keeps log where
  note _ _ _ := rfl
  refused {handle events w fault after w'} refused := by
    cases refusal with
    | some cause => cases refused; rfl
    | none =>
      by_cases empty : events = []
      · subst empty; cases refused; rfl
      · simp only [host, Host.ofLog, MemoryLog.append_eq empty] at refused
        cases refused

/-- The bytes behind a path; only a file has any. -/
def FileState.bytes : FileState → List UInt8
  | .file content => content
  | .missing | .directory => []

variable [HasFields E]

/-- An append that is refused may create the file, but writes nothing. -/
theorem FileLog.append_refused {log log' : FileLog E} {entity : String} {events : List E}
    {fault : Fault} (refused : log.append entity events = (.error fault, log')) :
    log'.state.bytes = log.state.bytes := by
  by_cases empty : events = []
  · subst empty; cases refused; rfl
  simp only [append, List.isEmpty_iff, empty, if_false] at refused
  cases encodes : events.mapM log.codec.encode with
  | error cause => rw [encodes] at refused; cases refused; rfl
  | ok encoded =>
    simp only [encodes] at refused
    cases state : log.state with
    | directory => rw [state] at refused; cases refused; rw [state]
    | missing =>
      rw [state] at refused
      cases written : appendContent entity [] encoded with
      | error cause => simp only [written] at refused; cases refused; rfl
      | ok p => simp only [written] at refused; cases refused
    | file content =>
      rw [state] at refused
      cases written : appendContent entity content encoded with
      | error cause => simp only [written] at refused; cases refused; rfl
      | ok p => simp only [written] at refused; cases refused

theorem FileWorld.host_keeps :
    (host note : Host (FileWorld X E) S C E).Keeps fun w => w.log.state.bytes where
  note _ _ _ := rfl
  refused {handle events w fault after w'} refused := by
    rcases appended : w.log.append handle.persistenceId events with ⟨answer, log⟩
    simp only [host, Host.ofLog, appended] at refused
    cases refused
    exact FileLog.append_refused appended

end

namespace Engine

variable {W L S C E R : Type} [HasKind S] [HasKind E] [HasKind R] [CommandType C R]

/-- The submissions whose events are stored, but whose reply fails. -/
inductive Unanswered (engine : Engine S C E R) (host : Host W S C E) (handle : Handle S C E)
    (command : C) (w : W) : Submission W S C E R → Prop
  | failed {events : List E} {replyWith : ReplyFunction S E R} {state : S} {receipt : Receipt E}
    {after : Handle S C E} {w' : W} {failure : Failure S E}
    (ready : handle.Ready) (emits : engine.Emits handle command events replyWith)
    (folded : engine.behavior.applier.fold handle.state events = .ok state)
    (appended : host.append (handle.sending command) events w = (.ok receipt, after, w'))
    (fails : replyWith state = .error failure) :
    Unanswered engine host handle command w
      ⟨.error failure, after.commit state events receipt, storedWorld host after events receipt w'⟩
  | wrong {events : List E} {replyWith : ReplyFunction S E R} {state : S} {receipt : Receipt E}
    {after : Handle S C E} {w' : W} {reply : R}
    (ready : handle.Ready) (emits : engine.Emits handle command events replyWith)
    (folded : engine.behavior.applier.fold handle.state events = .ok state)
    (appended : host.append (handle.sending command) events w = (.ok receipt, after, w'))
    (replies : replyWith state = .ok reply)
    (wrong : CommandType.accepts command reply = false) :
    Unanswered engine host handle command w
      ⟨.error (wrongReply command reply), after.commit state events receipt,
        storedWorld host after events receipt w'⟩

variable (engine : Engine S C E R) (host : Host W S C E) (handle : Handle S C E)
  (request : Request W C R) (w : W)

/-- When the reply fails, so does the submission. -/
theorem Unanswered.submit_eq {r : Submission W S C E R}
    (unanswered : engine.Unanswered host handle request.command w r) :
    engine.submit host handle request w = r := by
  cases unanswered with
  | failed ready emits folded appended fails =>
    rw [submit_of_appended engine host request w ready emits folded appended, fails]
  | wrong ready emits folded appended replies wrong =>
    rw [submit_of_appended engine host request w ready emits folded appended, replies]
    exact answer_of_not_accepts host _ request _ wrong _

theorem Ending.keeps_or_unanswered {log : W → L} (keeps : host.Keeps log)
    {r : Submission W S C E R} (ending : Ending engine host handle request w r)
    {failure : Failure S E} (failed : r.result = .error failure) :
    log r.world = log w ∨ engine.Unanswered host handle request.command w r := by
  cases ending with
  | refused => exact .inl rfl
  | silent => cases failed
  | replied => cases failed
  | illegal => exact .inl (keeps.note ..)
  | unfolded => exact .inl rfl
  | unstored ready emits folded appended => exact .inl (keeps.refused appended)
  | @stored events replyWith state receipt after w' _ ready emits folded appended reported =>
    generalize answer : replyWith state = reply at reported
    cases reported with
    | failed failure => exact .inr (.failed ready emits folded appended answer)
    | wrong wrong => exact .inr (.wrong ready emits folded appended answer wrong)
    | replied => cases failed

/-- A submission that fails, for whatever reason, leaves the log as it was, unless its events are
stored and then the reply fails; and whenever that happens, the submission fails with the events in
the log. -/
theorem submit_failed {log : W → L} (keeps : host.Keeps log) :
    (∀ failure, (engine.submit host handle request w).result = .error failure →
      log (engine.submit host handle request w).world = log w ∨
        engine.Unanswered host handle request.command w (engine.submit host handle request w)) ∧
    ∀ r, engine.Unanswered host handle request.command w r →
      engine.submit host handle request w = r :=
  ⟨fun _ failed => (engine.submit_ending host request w handle).keeps_or_unanswered engine host
    handle request w keeps failed, fun _ unanswered => unanswered.submit_eq⟩

end Engine

/-! ## An event without an answer -/

namespace Account

/-- Accounts that a question for the balance creates; the confirmation is no reply to it. -/
def createdByQuestion : Behavior State Command Event Reply :=
  { behavior .unhandled with
    dispatcher := (dispatcher .unhandled).onCommand State.emptyKind Operation.getBalanceKind create }

/-- A handle of a new account. -/
def newHandle (entity : String) : Handle State Command Event :=
  { entity := entity, persistenceId := typeKey ++ "|" ++ entity, state := .empty, mode := .active }

/-- The end of a question for the balance of a new account, over an empty log. -/
def questionToNew : Submission (MemoryWorld Unit Event) State Command Event Reply :=
  Engine.submit ⟨createdByQuestion, .log⟩ (MemoryWorld.host (fun _ _ x => x) none) (newHandle "acc")
    (.via (fun _ w => (none, w)) (.operation .getBalance)) ⟨{}, ()⟩

/-- The submission fails because a confirmation is no reply to the question, but the log now has the
event. -/
theorem submit_failed_stored :
    (newHandle "acc").Ready ∧
      questionToNew.result =
        .error (Engine.wrongReply (Command.operation .getBalance) Reply.confirmed) ∧
      questionToNew.world.log.records = [⟨"Account|acc", .whole 0, .created⟩] :=
  ⟨⟨rfl, rfl⟩, rfl, rfl⟩

theorem submit_failed_unanswered :
    (MemoryWorld.host (fun _ _ x => x) none : Host (MemoryWorld Unit Event) State Command Event).Keeps
        MemoryWorld.log ∧
      questionToNew.result =
        .error (Engine.wrongReply (Command.operation .getBalance) Reply.confirmed) ∧
      Engine.Unanswered ⟨createdByQuestion, .log⟩ (MemoryWorld.host (fun _ _ x => x) none)
        (newHandle "acc") (.operation .getBalance) ⟨{}, ()⟩ questionToNew := by
  have keeps := @MemoryWorld.host_keeps Unit State Command Event (fun _ _ x => x) none
  refine ⟨keeps, rfl, ?_⟩
  have law := Engine.submit_failed ⟨createdByQuestion, .log⟩ _ (newHandle "acc")
    (.via (fun _ w => (none, w)) (.operation .getBalance)) ⟨{}, ()⟩ keeps
  refine (law.1 _ rfl).resolve_left fun same => ?_
  cases congrArg (fun log => log.records.length) same

end Account

end EventLedger
