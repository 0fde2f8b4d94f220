import EventLedger.Proofs.JointChange
import EventLedger.Proofs.ReplyProtocol

/-!
# Logs that call back

While a log takes an append it may call back into the engine: it may activate entities and submit
commands, also to the handle that waits for it, and each of these submissions may lead to an append
again. A run is a list of `Action`s, which are trees for that reason: a submission comes with all that
the log does before it takes the append. What the log does may depend on anything, and it may change
its part of the world at any point, so a law of runs is stated for all lists of actions.

`act` performs an action in a `Scene` and tells of the submissions (`Call`). It is `submit` over a host
whose append performs the actions first, with the handle in its place (`Backing.host`). A channel that
gives commands itself is called when the submission has done everything else, so what it does counts
as later actions.

If a handle that waits is left alone, a submission ends in one of the ways of `Ended`. What it comes to
depends on the scene that the log leaves behind, not on how that came about: `Scene.submit_congr`.
-/

namespace EventLedger

variable {W S C E R : Type}

/-- A log that knows nothing of handles, and a place for notices. -/
structure Backing (W E : Type) where
  read : String → Int → W → Reading E
  append : String → List E → W → Except Fault (Receipt E) × W
  note : String → Notice → W → W

/-- A world, and the handles that were returned by activations in it. -/
structure Scene (W S C E : Type) where
  world : W
  handles : List (Handle S C E) := []

/-- A submission as it was seen from outside. -/
structure Call (W S C E R : Type) where
  index : Nat
  command : C
  handle : Handle S C E
  before : Scene W S C E
  result : Except (Failure S E) (Outcome E R)
  after : Scene W S C E

/-- What may happen. Whatever a log does while it takes an append is among the actions `during` it:
calling back into the engine, and changing its part of the world. -/
inductive Action (W C R : Type) [CommandType C R] where
  | elsewhere (change : W → W)
  | activate (entity : String)
  /-- A submission to the handle with a number. -/
  | submit (index : Nat) (request : Request W C R) (during : List (Action W C R))

namespace Scene

/-- The scene with another world. -/
def withWorld (s : Scene W S C E) (w : W) : Scene W S C E :=
  { s with world := w }

/-- The scene with another handle in a place. -/
def put (s : Scene W S C E) (index : Nat) (handle : Handle S C E) : Scene W S C E :=
  { s with handles := s.handles.set index handle }

variable {s : Scene W S C E} {index : Nat} {handle : Handle S C E}

theorem put_self (found : s.handles[index]? = some handle) (after : Handle S C E) :
    (s.put index after).handles[index]? = some after :=
  List.getElem?_set_self (List.getElem?_eq_some_iff.1 found).1

theorem put_of_ne {i : Nat} (ne : i ≠ index) (after : Handle S C E) :
    (s.put index after).handles[i]? = s.handles[i]? :=
  List.getElem?_set_ne ne.symm

theorem put_found (found : s.handles[index]? = some handle) : s.put index handle = s := by
  obtain ⟨lt, rfl⟩ := List.getElem?_eq_some_iff.1 found
  rw [put, List.set_getElem_self]

end Scene

/-- A scene, and the submissions that led to it. -/
abbrev Story (W S C E R : Type) := Scene W S C E × List (Call W S C E R)

/-- The request of a submission in a scene, whose channel knows the world only. -/
def Request.staged [CommandType C R] (S E : Type) (request : Request W C R) :
    Request (Story W S C E R) C R where
  command := request.command
  channel := request.channel.map fun channel reply v =>
    let (lost, w) := channel reply v.1.world
    (lost, v.1.withWorld w, v.2)
  answerable enforced := by simpa using request.answerable enforced

/-- The host of a submission to the handle with a number. The log first acts, with the handle in its
place, and takes the append then. -/
def Backing.host (backing : Backing W E) (index : Nat)
    (during : Scene W S C E → Story W S C E R) : Host (Story W S C E R) S C E where
  read entity start v := backing.read entity start v.1.world
  append handle events v :=
    let (s, calls) := during (v.1.put index handle)
    let (answer, w) := backing.append handle.persistenceId events s.world
    (answer, s.handles[index]?.getD handle, s.withWorld w, v.2 ++ calls)
  note persistenceId notice v := (v.1.withWorld (backing.note persistenceId notice v.1.world), v.2)

/-- What notices and channels leave alone. -/
def told (v : Story W S C E R) : List (Handle S C E) × List (Call W S C E R) :=
  (v.1.handles, v.2)

theorem told_eq {v : Story W S C E R} {s : Scene W S C E} {calls : List (Call W S C E R)}
    (same : told v = told (s, calls)) : v = (s.withWorld v.1.world, calls) := by
  obtain ⟨⟨w, handles⟩, calls'⟩ := v
  change (handles, calls') = (s.handles, calls) at same
  cases same
  rfl

theorem Request.spares_staged [CommandType C R] (request : Request W C R) :
    (request.staged S E).Spares (told : Story W S C E R → _) := by
  intro reply v
  obtain ⟨command, _ | channel, answerable⟩ := request <;> rfl

/-- An append while the log leaves the handle alone. -/
theorem append_of_stays (backing : Backing W E) {s : Scene W S C E} {index : Nat}
    {handle : Handle S C E} (during : Scene W S C E → Story W S C E R) {command : C}
    (stays : (during (s.put index (handle.sending command))).1.handles[index]? =
      some (handle.sending command)) {events : List E} {answer : Except Fault (Receipt E)}
    {after : Handle S C E} {v : Story W S C E R}
    (appended : (backing.host index during).append (handle.sending command) events (s, []) =
      (answer, after, v)) :
    after = handle.sending command ∧
      told v = told (during (s.put index (handle.sending command))) := by
  simp only [Backing.host, stays, Option.getD_some] at appended
  cases appended
  exact ⟨rfl, rfl⟩

variable [HasKind S] [HasKind E] [CommandType C R]

/-- Activates an entity. -/
def Scene.activate (engine : Engine S C E R) (backing : Backing W E) (s : Scene W S C E)
    (entity : String) : Scene W S C E :=
  match engine.activate (.ofLog backing.read backing.append backing.note) entity s.world with
  | (.active handle, w) => { world := w, handles := s.handles ++ [handle] }
  | (_, w) => s.withWorld w

variable [HasKind R]

/-- The submission of a command to a handle of the scene. -/
def Scene.submission (engine : Engine S C E R) (backing : Backing W E) (index : Nat)
    (handle : Handle S C E) (request : Request W C R)
    (during : Scene W S C E → Story W S C E R) (s : Scene W S C E) :
    Submission (Story W S C E R) S C E R :=
  engine.submit (backing.host index during) handle (request.staged S E) (s, [])

/-- Submits a command to the handle with a number, if there is one. -/
def Scene.submit (engine : Engine S C E R) (backing : Backing W E) (index : Nat)
    (request : Request W C R) (during : Scene W S C E → Story W S C E R) (s : Scene W S C E) :
    Story W S C E R :=
  match s.handles[index]? with
  | none => (s, [])
  | some handle =>
    let r := s.submission engine backing index handle request during
    let after := r.world.1.put index r.handle
    (after, r.world.2 ++ [⟨index, request.command, handle, s, r.result, after⟩])

theorem Scene.submit_of_handle {engine : Engine S C E R} {backing : Backing W E}
    {s : Scene W S C E} {index : Nat} {handle : Handle S C E}
    (found : s.handles[index]? = some handle) (request : Request W C R)
    (during : Scene W S C E → Story W S C E R) :
    s.submit engine backing index request during =
      let r := s.submission engine backing index handle request during
      let after := r.world.1.put index r.handle
      (after, r.world.2 ++ [⟨index, request.command, handle, s, r.result, after⟩]) := by
  simp only [submit, found]

theorem Scene.submit_of_no_handle {engine : Engine S C E R} {backing : Backing W E}
    {s : Scene W S C E} {index : Nat} (none : s.handles[index]? = none) (request : Request W C R)
    (during : Scene W S C E → Story W S C E R) :
    s.submit engine backing index request during = (s, []) := by
  simp only [submit, none]

mutual

/-- Does what happens, and tells of the submissions. -/
def act (engine : Engine S C E R) (backing : Backing W E) :
    Action W C R → Scene W S C E → Story W S C E R
  | .elsewhere change, s => (s.withWorld (change s.world), [])
  | .activate entity, s => (s.activate engine backing entity, [])
  | .submit index request during, s =>
    s.submit engine backing index request (fun s => actAll engine backing during s)

/-- Does one thing after the other. -/
def actAll (engine : Engine S C E R) (backing : Backing W E) :
    List (Action W C R) → Scene W S C E → Story W S C E R
  | [], s => (s, [])
  | action :: actions, s =>
    let (s, calls) := act engine backing action s
    let (s, more) := actAll engine backing actions s
    (s, calls ++ more)

end

theorem actAll_append (engine : Engine S C E R) (backing : Backing W E)
    (front back : List (Action W C R)) (s : Scene W S C E) :
    (actAll engine backing (front ++ back) s).1 =
      (actAll engine backing back (actAll engine backing front s).1).1 := by
  induction front generalizing s with
  | nil => rw [List.nil_append, actAll]
  | cons action front ih => rw [List.cons_append, actAll, actAll]; exact ih _

/-! ## The ends of a submission -/

/-- How a submission to a handle of a scene may end: without an append, or after the log has acted and
taken an append or refused it. -/
inductive Ended (engine : Engine S C E R) (backing : Backing W E) (s : Scene W S C E)
    (handle : Handle S C E) (command : C) (during : Story W S C E R) :
    Submission (Story W S C E R) S C E R → Prop
  | refused {failure : Failure S E} (why : engine.Refusal handle command failure) :
    Ended engine backing s handle command during ⟨.error failure, handle, (s, [])⟩
  | kept (ready : handle.Ready) (result : Except (Failure S E) (Outcome E R)) (w : W) :
    Ended engine backing s handle command during ⟨result, handle, (s.withWorld w, [])⟩
  | stopped (ready : handle.Ready) {events : List E} {replyWith : ReplyFunction S E R} {state : S}
    {event : E} (emits : engine.Emits handle command events replyWith)
    (folded : engine.behavior.applier.fold handle.state events =
      .error (.illegalFold state event)) :
    Ended engine backing s handle command during
      ⟨.error (.illegalFold state event), handle.stop (.illegalFold state event),
        (s.withWorld (backing.note handle.persistenceId
          (.stopped (Failure.illegalFold state event : Failure S E).message) s.world), [])⟩
  | appended (ready : handle.Ready) (result : Except (Failure S E) (Outcome E R)) (w : W)
    {after : Handle S C E}
    (committed : after = handle ∨ ∃ state events receipt, after = handle.commit state events receipt) :
    Ended engine backing s handle command during
      ⟨result, after, (during.1.withWorld w, during.2)⟩

section

variable (engine : Engine S C E R) (backing : Backing W E) {s : Scene W S C E} {index : Nat}
  {handle : Handle S C E} (request : Request W C R) (during : Scene W S C E → Story W S C E R)

theorem Scene.submission_ended
    (stays : handle.Ready →
      (during (s.put index (handle.sending request.command))).1.handles[index]? =
        some (handle.sending request.command)) :
    Ended engine backing s handle request.command
      (during (s.put index (handle.sending request.command)))
      (s.submission engine backing index handle request during) := by
  have note : ∀ persistenceId notice (v : Story W S C E R),
      told ((backing.host index during).note persistenceId notice v) = told v := fun _ _ _ => rfl
  have ending := engine.submit_ending (backing.host index during) (request.staged S E) (s, []) handle
  rw [submission]
  generalize engine.submit _ handle _ _ = r at ending ⊢
  cases ending with
  | refused why => exact .refused why
  | silent ready => exact .kept ready _ _
  | replied ready =>
    rw [told_eq (Engine.view_handOver note request.spares_staged _)]
    exact .kept ready _ _
  | illegal ready emits folded => exact .stopped ready emits folded
  | unfolded ready => exact .kept ready _ s.world
  | unstored ready _ _ appended =>
    obtain ⟨rfl, same⟩ := append_of_stays backing during (stays ready) appended
    rw [told_eq same]
    exact .appended ready _ _ (.inl (Handle.settled_sending ready _))
  | @stored events replyWith state receipt after v r ready emits folded appended reported =>
    obtain ⟨rfl, same⟩ := append_of_stays backing during (stays ready) appended
    obtain ⟨result, after, v'⟩ := r
    obtain ⟨after_eq, told'⟩ := reported.kept note request.spares_staged
    rw [show v' = _ from told_eq (told'.trans same)]
    exact .appended ready _ _ (.inr ⟨state, events, receipt, after_eq⟩)

variable {request during} {engine backing}

/-- A handle that takes no command is not looked at any further. -/
theorem Ended.of_not_ready {story : Story W S C E R} {command : C} (unready : ¬ handle.Ready)
    {r : Submission (Story W S C E R) S C E R}
    (ended : Ended engine backing s handle command story r) :
    (handle.mode ≠ .active ∧
        r = ⟨.error (.fault (.notAccepting handle.persistenceId handle.mode.name)), handle,
          (s, [])⟩) ∨
      ∃ earlier, handle.mode = .active ∧ handle.inFlight = some earlier ∧
        r = ⟨.error (.fault (.busy handle.persistenceId (kind earlier))), handle, (s, [])⟩ := by
  cases ended with
  | refused why =>
    cases why with
    | notAccepting inactive => exact .inl ⟨inactive, rfl⟩
    | busy active flying => exact .inr ⟨_, active, flying, rfl⟩
    | handlerFailed ready => exact absurd ready unready
    | noEffect ready => exact absurd ready unready
    | unhandled ready => exact absurd ready unready
    | wrongReply ready => exact absurd ready unready
  | kept ready => exact absurd ready unready
  | stopped ready => exact absurd ready unready
  | appended ready => exact absurd ready unready

/-- A submission that stops its handle has done nothing else. -/
theorem Ended.of_stopped {story : Story W S C E R} {command : C} (active : handle.mode = .active)
    {r : Submission (Story W S C E R) S C E R}
    (ended : Ended engine backing s handle command story r) (stopped : r.handle.mode = .stopped) :
    ∃ events replyWith state event, engine.Emits handle command events replyWith ∧
      engine.behavior.applier.fold handle.state events = .error (.illegalFold state event) ∧
      r = ⟨.error (.illegalFold state event), handle.stop (.illegalFold state event),
        (s.withWorld (backing.note handle.persistenceId
          (.stopped (Failure.illegalFold state event : Failure S E).message) s.world), [])⟩ := by
  have running : ∀ {after : Handle S C E}, after = handle ∨
      (∃ state events receipt, after = handle.commit state events receipt) →
        after.mode = .active := by
    rintro after (rfl | ⟨state, events, receipt, rfl⟩) <;> exact active
  cases ended with
  | refused => cases active.symm.trans stopped
  | kept => cases active.symm.trans stopped
  | stopped ready emits folded => exact ⟨_, _, _, _, emits, folded, rfl⟩
  | appended ready result w committed => cases (running committed).symm.trans stopped


end

/-! ## What the log leaves behind -/

/-- A submission asks its host for one append at most, and for none if the handle takes no command. -/
theorem Engine.submit_congr (engine : Engine S C E R) {host host' : Host W S C E}
    {handle : Handle S C E} {request : Request W C R} {w : W} (note : host'.note = host.note)
    (append : handle.Ready → ∀ events,
      host'.append (handle.sending request.command) events w =
        host.append (handle.sending request.command) events w) :
    engine.submit host' handle request w = engine.submit host handle request w := by
  unfold submit
  split
  · rfl
  · rename_i active
    rw [not_not] at active
    cases flying : handle.inFlight with
    | some earlier => rfl
    | none =>
      have append := append ⟨active, flying⟩
      simp only [Handle.sending] at append
      rcases engine.behavior.dispatcher.dispatch handle.state request.command with
        failure | effect | ⟨kind, literal⟩
      · rfl
      · cases effect <;> simp only [execute, persistAndReply, leaveUnhandled, answer, note, append]
      · rfl

/-- The scene alone. -/
def untold (v : Story W S C E R) : Story W S C E R :=
  (v.1, [])

section

variable {engine : Engine S C E R} {backing : Backing W E} {s : Scene W S C E} {index : Nat}
  {handle : Handle S C E} {request : Request W C R}
  {during during' : Scene W S C E → Story W S C E R}

theorem Scene.submission_untold (request : Request W C R)
    (during : Scene W S C E → Story W S C E R) :
    s.submission engine backing index handle request (fun s => untold (during s)) =
      (s.submission engine backing index handle request during).map untold := by
  have host : (backing.host index during).Respects untold
      (backing.host index fun s => untold (during s)) := ⟨fun _ _ _ => rfl, fun _ _ _ => rfl⟩
  have channel : (request.staged S E).Respects (untold : Story W S C E R → _)
      (request.staged S E) := by
    refine ⟨rfl, fun reply v => ?_⟩
    obtain ⟨command, _ | channel, answerable⟩ := request <;> rfl
  exact engine.submit_map host channel handle (s, [])

/-- What a submission comes to depends on the scene that the log leaves behind, not on how that came
about. -/
theorem Scene.submit_congr
    (same : ∀ handle, s.handles[index]? = some handle → handle.Ready →
      (during' (s.put index (handle.sending request.command))).1 =
        (during (s.put index (handle.sending request.command))).1) :
    let story := s.submit engine backing index request during
    let story' := s.submit engine backing index request during'
    story'.1 = story.1 ∧ story'.2.getLast? = story.2.getLast? := by
  cases found : s.handles[index]? with
  | none => rw [submit_of_no_handle found, submit_of_no_handle found]; exact ⟨rfl, rfl⟩
  | some handle =>
    have command : (request.staged S E : Request (Story W S C E R) C R).command = request.command :=
      rfl
    have alike : (s.submission engine backing index handle request during').map untold =
        (s.submission engine backing index handle request during).map untold := by
      rw [← submission_untold, ← submission_untold]
      refine engine.submit_congr rfl fun ready events => ?_
      simp only [Backing.host, untold, command, same handle found ready]
    injection alike with result left scene
    rw [submit_of_handle found, submit_of_handle found]
    simp only [result, left, (Prod.mk.inj scene).1, List.getLast?_concat, and_self]

end

end EventLedger
