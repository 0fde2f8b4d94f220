import EventLedger.Proofs.ConfirmedCommands
import EventLedger.Proofs.Decisions
import EventLedger.Proofs.FileReplay

/-!
# Sessions over a log in a file

A `FileSession` is one handle of an account at work on a log in a file. Throughout, the file holds
the stored forms of the events that were persisted, and the handle has what these fold to
(`FileSession.Sound`). Only finite amounts are ever persisted (`dispatch_finite`).
-/

namespace EventLedger

/-- A log in a file, and all that lies outside of it. -/
structure FileWorld (X E : Type) where
  log : FileLog E
  outside : X

namespace FileWorld

variable {X S C E R : Type} [HasFields E]

/-- The world as an engine knows it. -/
def host (note : String → Notice → X → X) : Host (FileWorld X E) S C E :=
  .ofLog (fun entity start w => w.log.read entity start)
    (fun entity events w =>
      let (answer, log) := w.log.append entity events
      (answer, { w with log := log }))
    (fun entity notice w => { w with outside := note entity notice w.outside })

theorem append_sending (note : String → Notice → X → X) (handle : Handle S C E) (command : C)
    (events : List E) (w : FileWorld X E) :
    (host note).append (handle.sending command) events w =
      ((w.log.append handle.persistenceId events).1, handle.sending command,
        { w with log := (w.log.append handle.persistenceId events).2 }) := rfl

/-- A channel that does not know the log. -/
def inside (channel : Channel X R) : Channel (FileWorld X E) R := fun reply w =>
  let (lost, x) := channel reply w.outside
  (lost, { w with outside := x })

theorem log_handOver [HasKind R] [CommandType C R] (note : String → Notice → X → X)
    (handle : Handle S C E) (channel : Channel X R) (command : C) (reply : R)
    (w : FileWorld X E) :
    (Engine.handOver (host note) handle (.via (inside channel) command) reply w).log = w.log := by
  have delivered : (Request.via (inside channel) command).deliver reply w =
      ((channel reply w.outside).1, { w with outside := (channel reply w.outside).2 }) := rfl
  rw [Engine.handOver, delivered]
  rcases channel reply w.outside with ⟨_ | reason, x⟩ <;> rfl

end FileWorld

namespace Account

variable {X : Type}

/-- One handle of an account at work on a log in a file. -/
structure FileSession (X : Type) where
  world : FileWorld X Event
  handle : Handle State Command Event
  /-- The events that were persisted for its commands, in order. -/
  persisted : List Event := []

/-- The events that were persisted for a command that was answered. -/
def persistedBy : Except (Failure State Event) (Outcome Event Reply) → List Event
  | .ok (.replied _ events) => events
  | _ => []

namespace FileSession

variable (closed : ClosedPolicy) (unhandled : UnhandledPolicy) (note : String → Notice → X → X)

/-- Submits an operation to the handle. -/
def submit (s : FileSession X) (op : Operation) (channel : Channel X Reply) : FileSession X :=
  let r := (engine closed unhandled).submit (FileWorld.host note) s.handle
    (.via (FileWorld.inside channel) (.operation op)) s.world
  { world := r.world, handle := r.handle, persisted := s.persisted ++ persistedBy r.result }

/-- Submits operations, one after the other. -/
def run (s : FileSession X) (commands : List (Operation × Channel X Reply)) : FileSession X :=
  commands.foldl (fun s command => s.submit closed unhandled note command.1 command.2) s

end FileSession

theorem fold_deposited {state : State} {events : List Event} {balance sum : Balance} {a : Amount}
    (folded : applier.fold state events = .ok (.opened balance))
    (adds : balance.value.add a.value = .ok sum.value) :
    applier.fold state (events ++ [.deposited a]) = .ok (.opened sum) := by
  have deposited : balance.deposit a.value = .ok sum := by
    rw [Balance.deposit, adds]
    exact Balance.make_value sum
  have applied : applier.apply (.opened balance) (.deposited a) =
      leadingTo (balance.deposit a.value) := rfl
  rw [Applier.fold_append, folded]
  show applier.fold (.opened balance) [.deposited a] = _
  rw [Applier.fold_cons, applied, deposited]
  rfl

theorem rounded_deposited {a a' : Amount} (rounds : a.value.round = .ok a'.value) :
    Event.rounded (.deposited a) = .ok (.deposited a') := by
  rw [Event.rounded, rounds]
  show Event.deposited <$> Amount.make "deposited" a'.value = _
  rw [Amount.make_value]
  rfl

/-! ## What holds throughout a session -/

namespace FileSession

/-- The log is a file that holds the stored forms of events of one entity. -/
def Stores (log : FileLog Event) (path persistenceId : String) (events : List Event) : Prop :=
  ∃ content encoded last, log = ⟨path, codec, .file content⟩ ∧
    events.mapM codec.encode = .ok encoded ∧
    FileLog.Holds content (encoded.map fun p => ⟨persistenceId, p.1, p.2⟩) last

/-- What holds throughout a session: the file holds the stored forms of the persisted events, whose
amounts are finite, and the handle has what they fold to. -/
structure Sound (closed : ClosedPolicy) (path entity : String) (s : FileSession X) : Prop where
  own : s.handle.entity = entity
  named : s.handle.persistenceId = (behavior closed).persistenceId entity
  stores : Stores s.world.log path s.handle.persistenceId s.persisted
  finite : ∀ e ∈ s.persisted, e.Same e
  folded : applier.fold .empty s.persisted = .ok s.handle.state
  applied : s.handle.applied = s.persisted.length
  lastSeq : s.handle.lastSeq = .whole (s.persisted.length - 1)

variable {closed : ClosedPolicy} {path entity : String} {s : FileSession X}

/-- Persisting nothing keeps a session sound. -/
theorem Sound.keep (sound : s.Sound closed path entity) {world : FileWorld X Event}
    (log : world.log = s.world.log) {handle : Handle State Command Event}
    (same : handle.entity = s.handle.entity ∧ handle.persistenceId = s.handle.persistenceId ∧
      handle.state = s.handle.state ∧ handle.applied = s.handle.applied ∧
      handle.lastSeq = s.handle.lastSeq) :
    (⟨world, handle, s.persisted ++ []⟩ : FileSession X).Sound closed path entity := by
  obtain ⟨own, named, state, applied, lastSeq⟩ := same
  rw [List.append_nil]
  exact ⟨own.trans sound.own, named.trans sound.named, log ▸ named ▸ sound.stores, sound.finite,
    state ▸ sound.folded, applied.trans sound.applied, lastSeq.trans sound.lastSeq⟩

/-- What an append of an event can do: it has no stored form and nothing changes, or its stored form
is put behind the others. -/
inductive Appended (log : FileLog Event) (path persistenceId : String) (events : List Event)
    (event : Event) : Except Fault (Receipt Event) × FileLog Event → Prop
  | refused {fault : Fault} (unencoded : codec.encode event = .error fault) :
    Appended log path persistenceId events event (.error fault, log)
  | stored {log' : FileLog Event} (stores : Stores log' path persistenceId (events ++ [event])) :
    Appended log path persistenceId events event
      (.ok ⟨MemoryLog.recordsFrom persistenceId events.length [event]⟩, log')

theorem Stores.append {log : FileLog Event} {persistenceId : String} {events : List Event}
    (h : Stores log path persistenceId events) {event : Event} (finite : event.Same event) :
    Appended log path persistenceId events event (log.append persistenceId [event]) := by
  obtain ⟨content, encoded, last, rfl, encodes, holds⟩ := h
  cases encode : codec.encode event with
  | error fault =>
    have unencoded : [event].mapM codec.encode = .error fault := by
      rw [List.mapM_cons, encode]
      rfl
    have refused := @FileLog.append_unencoded _ _ ⟨path, codec, .file content⟩ persistenceId _
      (List.cons_ne_nil _ _) _ unencoded
    rw [refused]
    exact .refused encode
  | ok p =>
    have forms := forall₂_of_mapM encodes
    have encodes' : [event].mapM codec.encode = .ok [p] := mapM_of_forall₂ (.cons encode .nil)
    have documents : ∀ q ∈ [p], Value.Document q.2 := by
      intro q mem
      rw [List.mem_singleton.1 mem]
      exact (decode_encode finite encode).1
    obtain ⟨content', last', appended, holds'⟩ :=
      FileLog.append_holds holds _ (List.cons_ne_nil _ _) encodes' documents
    rw [List.length_map, ← forms.length_eq] at appended
    rw [appended]
    rw [← List.map_append] at holds'
    exact .stored ⟨content', encoded ++ [p], last', rfl,
      mapM_of_forall₂ (List.rel_append forms (.cons encode .nil)), holds'⟩

/-- Persisting an event keeps a session sound. -/
theorem Sound.persist (sound : s.Sound closed path entity) {event : Event} {state : State}
    (finite : event.Same event) (folded : applier.fold s.handle.state [event] = .ok state)
    {world : FileWorld X Event}
    (stores : Stores world.log path s.handle.persistenceId (s.persisted ++ [event])) :
    (⟨world, s.handle.commit state [event]
        ⟨MemoryLog.recordsFrom s.handle.persistenceId s.persisted.length [event]⟩,
      s.persisted ++ [event]⟩ : FileSession X).Sound closed path entity := by
  refine ⟨sound.own, sound.named, stores, ?_, ?_, ?_, ?_⟩
  · intro e mem
    rcases List.mem_append.1 mem with mem | mem
    · exact sound.finite e mem
    · rw [List.mem_singleton.1 mem]; exact finite
  · rw [Applier.fold_append, sound.folded]
    exact folded
  · rw [List.length_append]
    exact congrArg (· + 1) sound.applied
  · rw [List.length_append]
    show Seq.whole (s.persisted.length + (0 : Nat)) = _
    congr 1
    simp

theorem Sound.fits (sound : s.Sound closed path entity) : s.handle.state.Fits :=
  fits_of_fold .empty sound.finite sound.folded

variable (unhandled : UnhandledPolicy) (note : String → Notice → X → X)

theorem Sound.submit (sound : s.Sound closed path entity) (op : Operation)
    (channel : Channel X Reply) :
    (s.submit closed unhandled note op channel).Sound closed path entity := by
  have ending := (engine closed unhandled).submit_ending (FileWorld.host note)
    (.via (FileWorld.inside channel) (.operation op)) s.world s.handle
  rw [FileSession.submit]
  generalize (engine closed unhandled).submit _ s.handle _ s.world = r at ending ⊢
  cases ending with
  | refused => exact sound.keep rfl ⟨rfl, rfl, rfl, rfl, rfl⟩
  | silent => refine sound.keep ?_ ⟨rfl, rfl, rfl, rfl, rfl⟩; rfl
  | replied => exact sound.keep (FileWorld.log_handOver ..) ⟨rfl, rfl, rfl, rfl, rfl⟩
  | illegal => refine sound.keep ?_ ⟨rfl, rfl, rfl, rfl, rfl⟩; rfl
  | unfolded => exact sound.keep rfl ⟨rfl, rfl, rfl, rfl, rfl⟩
  | unstored ready emits folded appended =>
    obtain ⟨event, records, rfl, rfl, decided⟩ := emits_recorded closed unhandled emits
    have stores := sound.stores.append (dispatch_finite sound.fits decided)
    rw [FileWorld.append_sending] at appended
    generalize s.world.log.append s.handle.persistenceId [event] = r at stores appended
    cases stores <;> cases appended
    rw [Handle.settled_sending ready]
    refine sound.keep ?_ ⟨rfl, rfl, rfl, rfl, rfl⟩
    rfl
  | stored ready emits folded appended reported =>
    obtain ⟨event, records, rfl, rfl, decided⟩ := emits_recorded closed unhandled emits
    have finite := dispatch_finite sound.fits decided
    have stores := sound.stores.append finite
    rw [FileWorld.append_sending] at appended
    generalize s.world.log.append s.handle.persistenceId [event] = r at stores appended
    cases stores <;> cases appended
    next stores =>
    cases reported with
    | wrong wrong =>
      change CommandType.accepts (Command.operation op) _ = _ at wrong
      rw [records.accepts] at wrong
      cases wrong
    | replied =>
      refine sound.persist finite folded ?_
      rw [FileWorld.log_handOver]
      exact stores

theorem Sound.run (sound : s.Sound closed path entity)
    (commands : List (Operation × Channel X Reply)) :
    (s.run closed unhandled note commands).Sound closed path entity := by
  induction commands generalizing s with
  | nil => exact sound
  | cons command commands ih => exact ih (sound.submit unhandled note command.1 command.2)

/-- A confirmed operation whose event has a stored form is persisted. -/
theorem Sound.submit_confirmed (sound : s.Sound closed path entity) (ready : s.handle.Ready)
    {op : Operation} {event : Event} {state : State} {p : String × Value}
    (decided : (dispatcher closed).dispatch s.handle.state (.operation op) = confirming event)
    (folded : applier.fold s.handle.state [event] = .ok state)
    (encodes : codec.encode event = .ok p) (channel : Channel X Reply) :
    ∃ receipt w, s.submit closed unhandled note op channel =
      ⟨w, s.handle.commit state [event] receipt, s.persisted ++ [event]⟩ := by
  have stores := sound.stores.append (dispatch_finite sound.fits decided)
  have decides := dispatch_decides closed s.handle.state op
  rw [decided] at decides
  obtain ⟨event', records, same, -⟩ := decides.recorded
  cases same
  have appended := @FileWorld.append_sending X State Command Event _ note s.handle (.operation op)
    [event] s.world
  generalize s.world.log.append s.handle.persistenceId [event] = r at stores appended
  cases stores with
  | refused unencoded => cases encodes.symm.trans unencoded
  | stored stores =>
    have submitted := Engine.submit_of_stored (engine closed unhandled) (FileWorld.host note)
      (.via (FileWorld.inside channel) (.operation op)) s.world ready ⟨_, decided⟩ folded appended
      (rfl : confirm state = _) records.accepts
    exact ⟨_, _, by rw [FileSession.submit, submitted]; rfl⟩

/-- A sound session whose handle is ready, with the events and the state that it has reached. -/
structure Reached (closed : ClosedPolicy) (path entity : String) (s : FileSession X)
    (events : List Event) (state : State) : Prop where
  sound : s.Sound closed path entity
  ready : s.handle.Ready
  persisted : s.persisted = events
  state : s.handle.state = state

/-- The first operation of an account persists its creation. -/
theorem Reached.create (h : s.Reached closed path entity [] .empty) (channel : Channel X Reply) :
    (s.submit closed unhandled note .create channel).Reached closed path entity
      [.created] (.opened .zero) := by
  have sound := h.sound.submit unhandled note .create channel
  have decided : (dispatcher closed).dispatch s.handle.state (.operation .create) =
      confirming .created := by
    rw [dispatch_operation, h.state]
    rfl
  have folded : applier.fold s.handle.state [.created] = .ok (.opened .zero) := by
    rw [h.state]
    rfl
  obtain ⟨receipt, w, submitted⟩ :=
    h.sound.submit_confirmed unhandled note h.ready decided folded encode_created channel
  rw [submitted] at sound ⊢
  exact ⟨sound, ⟨h.ready.1, rfl⟩, congrArg (· ++ _) h.persisted, rfl⟩

/-- A deposit that can be added and stored is persisted as it was given. -/
theorem Reached.deposit {events : List Event} {balance sum : Balance}
    (h : s.Reached closed path entity events (.opened balance)) {a : Amount}
    (finite : a.value.isFinite = true) {d : Decimal} (rounds : a.value.round = .ok d)
    (adds : balance.value.add a.value = .ok sum.value) (channel : Channel X Reply) :
    (s.submit closed unhandled note (.deposit a.value) channel).Reached closed path entity
      (events ++ [.deposited a]) (.opened sum) := by
  have sound := h.sound.submit unhandled note (.deposit a.value) channel
  have decided : (dispatcher closed).dispatch s.handle.state (.operation (.deposit a.value)) =
      confirming (.deposited a) := by
    rw [dispatch_operation, h.state]
    exact depositInto_amount balance finite
  have folded : applier.fold s.handle.state [.deposited a] = .ok (.opened sum) := by
    rw [h.state]
    exact fold_deposited (Applier.fold_nil ..) adds
  obtain ⟨p, encodes⟩ := encode_deposited finite rounds
  obtain ⟨receipt, w, submitted⟩ :=
    h.sound.submit_confirmed unhandled note h.ready decided folded encodes channel
  rw [submitted] at sound ⊢
  exact ⟨sound, ⟨h.ready.1, rfl⟩, congrArg (· ++ _) h.persisted, rfl⟩

/-! ## The begin of a session -/

theorem stores_empty (path persistenceId : String) :
    Stores ⟨path, codec, .file []⟩ path persistenceId [] :=
  ⟨[], [], _, rfl, rfl, FileLog.holds_empty⟩

/-- Replaying stored events folds what is decoded of them; if there are no rounded events, it
fails. -/
theorem Stores.replay (closed : ClosedPolicy) {log : FileLog Event} {persistenceId : String}
    {events : List Event} (h : Stores log path persistenceId events)
    (finite : ∀ e ∈ events, e.Same e) :
    (∃ decoded roundeds, events.mapM Event.rounded = .ok roundeds ∧
        List.Forall₂ Event.Same decoded roundeds ∧ decoded.length = events.length ∧
        Replay.replay (behavior closed) (log.read persistenceId 0) none =
          (applier.fold .empty decoded).map fun state =>
            ⟨state, events.length, .whole (events.length - 1)⟩) ∨
      (∃ failure, Replay.replay (behavior closed) (log.read persistenceId 0) none =
          .error failure) ∧ ∃ fault, events.mapM Event.rounded = .error fault := by
  obtain ⟨content, encoded, last, rfl, encodes, holds⟩ := h
  have forms := forall₂_of_mapM encodes
  rcases decode_encoded ((List.forall₂_and_left ..).2 ⟨finite, forms⟩) with
    ⟨decoded, roundeds, decodes, rounds, same⟩ | ⟨⟨p, mem, fault, fails⟩, unrounded⟩
  · have length := forms.length_eq.trans decodes.length_eq
    refine .inl ⟨decoded, roundeds, rounds, same, length.symm, ?_⟩
    rw [length]
    refine Replay.replay_holds (behavior closed) holds ?_
    exact List.forall₂_map_left_iff.2 (decodes.imp fun _ _ decoded => ⟨rfl, decoded⟩)
  · refine .inr ⟨?_, unrounded⟩
    refine Replay.replay_undecoded (behavior closed) holds (fun s mem => ?_)
      (List.mem_map_of_mem mem) fails
    obtain ⟨p, -, rfl⟩ := List.mem_map.1 mem
    rfl

/-- An account with an empty file can be activated, and a session that begins so is sound. -/
theorem exists_start (closed : ClosedPolicy) (unhandled : UnhandledPolicy)
    (note : String → Notice → X → X) (path entity : String) (outside : X) :
    ∃ handle w, (engine closed unhandled).activate (FileWorld.host note) entity
        ⟨⟨path, codec, .file []⟩, outside⟩ = (.active handle, w) ∧
      (⟨w, handle, []⟩ : FileSession X).Reached closed path entity [] .empty := by
  have stores := stores_empty path ((behavior closed).persistenceId entity)
  rcases stores.replay closed (by simp) with
    ⟨decoded, roundeds, rounds, same, -, replay⟩ | ⟨-, fault, fails⟩
  · cases rounds
    cases same
    have active := @Engine.activate_of_replay _ _ _ _ _ _ _ (engine closed unhandled)
      (FileWorld.host note) entity ⟨⟨path, codec, .file []⟩, outside⟩ _ replay
    exact ⟨_, _, active, ⟨rfl, rfl, stores, by simp, rfl, rfl, rfl⟩, ⟨rfl, rfl⟩, rfl, rfl⟩
  · cases fails

end FileSession

end Account

end EventLedger
