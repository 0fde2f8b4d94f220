import EventLedger.Proofs.Scenes

/-!
# The life of a handle

A handle that an activation returned takes commands until an event meets it that does not fit, also if
the log calls back into the engine meanwhile. Whatever happens leaves handles alone that wait for an
append or are stopped (`Handle.Becomes`), and only a submission whose events do not fit stops one. This
is a relation between two scenes that holds of nothing, passes from one action to the next, and goes
around a submission (`Course`), so it holds of every run: `actAll_course`. A submission to a handle that
waits is refused. As it changes nothing, the one for which the handle waits cannot tell (`act_nested`).

`handle_lifecycle` puts this together.
-/

namespace EventLedger

variable {W S C E R : Type}

namespace Handle

/-- A handle with no append on its way: it is active and has no failure, or an event that did not fit
has stopped it. -/
structure AtRest (handle : Handle S C E) : Prop where
  idle : handle.inFlight = none
  mode : (handle.mode = .active ∧ handle.failure = none) ∨
    (handle.mode = .stopped ∧ ∃ state event, handle.failure = some (.illegalFold state event))

/-- A handle with an append on its way. -/
structure Appending (handle : Handle S C E) : Prop where
  active : handle.mode = .active
  unharmed : handle.failure = none
  flying : ∃ command, handle.inFlight = some command

/-- What may become of a handle: nothing while its append is on its way, and nothing once it is
stopped. -/
structure Becomes (handle after : Handle S C E) : Prop where
  appending : handle.Appending → after = handle
  stopped : handle.mode = .stopped → after = handle
  atRest : handle.AtRest → after.AtRest

variable {handle middle after : Handle S C E}

theorem Becomes.refl (handle : Handle S C E) : handle.Becomes handle :=
  ⟨fun _ => rfl, fun _ => rfl, id⟩

theorem Becomes.trans (first : handle.Becomes middle) (second : middle.Becomes after) :
    handle.Becomes after where
  appending appending := by
    cases first.appending appending
    exact second.appending appending
  stopped stopped := by
    cases first.stopped stopped
    exact second.stopped stopped
  atRest atRest := second.atRest (first.atRest atRest)

theorem Ready.not_appending (ready : handle.Ready) : ¬ handle.Appending := fun appending => by
  obtain ⟨command, flying⟩ := appending.flying
  cases ready.2.symm.trans flying

theorem Ready.not_stopped (ready : handle.Ready) : handle.mode ≠ .stopped := fun stopped => by
  cases ready.1.symm.trans stopped

theorem Ready.unharmed (ready : handle.Ready) (atRest : handle.AtRest) : handle.failure = none := by
  obtain ⟨-, unharmed⟩ | ⟨stopped, -⟩ := atRest.mode
  · exact unharmed
  · exact absurd stopped ready.not_stopped

theorem Ready.sending (ready : handle.Ready) (atRest : handle.AtRest) (command : C) :
    (handle.sending command).Appending :=
  ⟨ready.1, ready.unharmed atRest, command, rfl⟩

/-- A handle that takes a command may change, as long as it is left at rest. -/
theorem Ready.becomes (ready : handle.Ready) (rests : handle.AtRest → after.AtRest) :
    handle.Becomes after :=
  ⟨fun appending => absurd appending ready.not_appending,
    fun stopped => absurd stopped ready.not_stopped, rests⟩

theorem AtRest.commit (atRest : handle.AtRest) (state : S) (events : List E) (receipt : Receipt E) :
    (handle.commit state events receipt).AtRest :=
  ⟨rfl, atRest.mode⟩

theorem AtRest.stop (atRest : handle.AtRest) (state : S) (event : E) :
    (handle.stop (.illegalFold state event)).AtRest :=
  ⟨atRest.idle, .inr ⟨rfl, state, event, rfl⟩⟩

end Handle

namespace Scene

/-- A scene whose handles are at rest or have an append on its way. -/
def Orderly (s : Scene W S C E) : Prop :=
  ∀ handle ∈ s.handles, handle.AtRest ∨ handle.Appending

variable {s : Scene W S C E} {index : Nat} {handle : Handle S C E}

theorem Orderly.put (orderly : s.Orderly) (fits : handle.AtRest ∨ handle.Appending) (index : Nat) :
    (s.put index handle).Orderly := fun other mem => by
  rcases List.mem_or_eq_of_mem_set mem with mem | rfl
  · exact orderly other mem
  · exact fits

/-- A handle that takes a command has its append on the way, in a scene as orderly as before. -/
theorem Orderly.sending (orderly : s.Orderly) (found : s.handles[index]? = some handle)
    (ready : handle.Ready) (command : C) :
    (handle.sending command).Appending ∧ (s.put index (handle.sending command)).Orderly := by
  have atRest := (orderly handle (List.mem_of_getElem? found)).resolve_right ready.not_appending
  have appending := ready.sending atRest command
  exact ⟨appending, orderly.put (.inr appending) index⟩

end Scene

variable [HasKind S] [HasKind E] [CommandType C R]

/-- The submission has stopped the handle with a number, which is then as given: its failure is what
was raised. -/
structure Call.Stops (call : Call W S C E R) (index : Nat) (handle : Handle S C E) : Prop where
  own : call.index = index
  active : call.handle.mode = .active
  after : call.after.handles[index]? = some handle
  raised : ∃ failure, handle.failure = some failure ∧ call.result = .error failure

/-- The laws of a submission. -/
structure Call.Lawful (engine : Engine S C E R) (backing : Backing W E) (call : Call W S C E R) :
    Prop where
  orderly : call.before.Orderly
  found : call.before.handles[call.index]? = some call.handle
  /-- A handle that is stopped takes no command. -/
  stopped : call.handle.mode = .stopped →
    call.result = .error (.fault (.notAccepting call.handle.persistenceId Mode.stopped.name)) ∧
      call.after = call.before
  /-- Neither does one with an append on its way. -/
  busy : ∀ command, call.handle.mode = .active → call.handle.inFlight = some command →
    call.result = .error (.fault (.busy call.handle.persistenceId (kind command))) ∧
      call.after = call.before
  /-- Only an event that does not fit stops a handle; nothing else is changed then but the notices. -/
  stops : ∀ handle, call.handle.mode = .active → call.after.handles[call.index]? = some handle →
    handle.mode = .stopped → ∃ events replyWith state event,
      engine.Emits call.handle call.command events replyWith ∧
        engine.behavior.applier.fold call.handle.state events = .error (.illegalFold state event) ∧
        call.result = .error (.illegalFold state event) ∧
        handle = call.handle.stop (.illegalFold state event) ∧
        call.after = (call.before.put call.index handle).withWorld
          (backing.note call.handle.persistenceId
            (.stopped (Failure.illegalFold state event : Failure S E).message) call.before.world)

/-- What a part of a run with its submissions makes of a scene. -/
structure Course (engine : Engine S C E R) (backing : Backing W E) (s : Scene W S C E)
    (calls : List (Call W S C E R)) (s' : Scene W S C E) : Prop where
  becomes : ∀ {i : Nat} {handle : Handle S C E}, s.handles[i]? = some handle →
    ∃ after, s'.handles[i]? = some after ∧ handle.Becomes after
  fresh : ∀ {i : Nat} {handle : Handle S C E}, s.handles[i]? = none →
    s'.handles[i]? = some handle → handle.AtRest
  stopped : ∀ {i : Nat} {handle : Handle S C E}, s'.handles[i]? = some handle →
    handle.mode = .stopped → s.handles[i]? = some handle ∨ ∃ call ∈ calls, call.Stops i handle
  lawful : ∀ call ∈ calls, call.Lawful engine backing

namespace Course

variable {engine : Engine S C E R} {backing : Backing W E} {s s' s'' : Scene W S C E}
  {calls more : List (Call W S C E R)}

theorem of_handles (same : s'.handles = s.handles) : Course engine backing s [] s' where
  becomes {i handle} found := ⟨handle, by rw [same, found], .refl handle⟩
  fresh none found := by rw [same, none] at found; cases found
  stopped found _ := .inl (by rw [← same, found])
  lawful _ mem := (List.not_mem_nil mem).elim

theorem trans (first : Course engine backing s calls s') (second : Course engine backing s' more s'') :
    Course engine backing s (calls ++ more) s'' where
  becomes found := by
    obtain ⟨middle, found, before⟩ := first.becomes found
    obtain ⟨after, found, behind⟩ := second.becomes found
    exact ⟨after, found, before.trans behind⟩
  fresh {i handle} none found := by
    cases among : s'.handles[i]? with
    | none => exact second.fresh among found
    | some middle =>
      obtain ⟨after, found', becomes⟩ := second.becomes among
      cases found.symm.trans found'
      exact becomes.atRest (first.fresh none among)
  stopped found stopped := by
    rcases second.stopped found stopped with found | ⟨call, mem, stops⟩
    · rcases first.stopped found stopped with found | ⟨call, mem, stops⟩
      · exact .inl found
      · exact .inr ⟨call, List.mem_append_left _ mem, stops⟩
    · exact .inr ⟨call, List.mem_append_right _ mem, stops⟩
  lawful call mem := (List.mem_append.1 mem).elim (first.lawful call) (second.lawful call)

theorem orderly (course : Course engine backing s calls s') (orderly : s.Orderly) : s'.Orderly := by
  intro handle mem
  obtain ⟨i, found⟩ := List.mem_iff_getElem?.1 mem
  cases before : s.handles[i]? with
  | none => exact .inl (course.fresh before found)
  | some earlier =>
    obtain ⟨after, found', becomes⟩ := course.becomes before
    cases found.symm.trans found'
    rcases orderly earlier (List.mem_of_getElem? before) with atRest | appending
    · exact .inl (becomes.atRest atRest)
    · cases becomes.appending appending
      exact .inr appending

/-- An activation adds a handle that is active and at rest, or none. -/
theorem activate (entity : String) :
    Course engine backing s [] (s.activate engine backing entity) := by
  unfold Scene.activate
  rcases activated : engine.activate (.ofLog backing.read backing.append backing.note) entity s.world
    with ⟨handle | ⟨handle, failure⟩ | fault, w⟩
  · obtain ⟨recovered, -, rfl, -⟩ := Engine.replay_of_activate activated
    refine ⟨fun {i handle} found => ⟨handle, ?_, .refl handle⟩, fun none found => ?_,
      fun found stopped => ?_, fun _ mem => (List.not_mem_nil mem).elim⟩
    · rw [List.getElem?_append_left (List.getElem?_eq_some_iff.1 found).1, found]
    · rcases of_getElem?_concat found with among | ⟨-, rfl⟩
      · cases none.symm.trans among
      · exact ⟨rfl, .inl ⟨rfl, rfl⟩⟩
    · rcases of_getElem?_concat found with among | ⟨-, rfl⟩
      · exact .inl among
      · cases stopped
  · exact .of_handles rfl
  · exact .of_handles rfl

/-- A submission around what the log did in the meantime, with some handle in the place of the one
that was given. -/
theorem around {index : Nat} {handle middle after : Handle S C E}
    (found : s.handles[index]? = some handle)
    (course : Course engine backing (s.put index middle) calls s') {w : W}
    (becomes : handle.Becomes after) {call : Call W S C E R} (lawful : call.Lawful engine backing)
    (stopped : after.mode = .stopped → after = handle ∨ call.Stops index after) :
    Course engine backing s (calls ++ [call]) ((s'.withWorld w).put index after) := by
  obtain ⟨other, among, -⟩ := course.becomes (Scene.put_self found middle)
  have own : ((s'.withWorld w).put index after).handles[index]? = some after :=
    Scene.put_self (s := s'.withWorld w) among after
  have others : ∀ i, i ≠ index →
      ((s'.withWorld w).put index after).handles[i]? = s'.handles[i]? := fun i ne =>
    Scene.put_of_ne ne after
  refine ⟨fun {i earlier} before => ?_, fun {i later} none behind => ?_,
    fun {i later} behind stops => ?_, fun c mem => ?_⟩
  · by_cases same : i = index
    · subst same
      cases before.symm.trans found
      exact ⟨after, own, becomes⟩
    · rw [← Scene.put_of_ne same middle] at before
      obtain ⟨later, behind, becomes⟩ := course.becomes before
      exact ⟨later, (others i same).trans behind, becomes⟩
  · have ne : i ≠ index := fun same => by subst same; cases none.symm.trans found
    rw [← Scene.put_of_ne ne middle] at none
    exact course.fresh none ((others i ne).symm.trans behind)
  · by_cases same : i = index
    · subst same
      cases behind.symm.trans own
      rcases stopped stops with rfl | stops
      · exact .inl found
      · exact .inr ⟨call, List.mem_append_right _ (List.mem_singleton_self call), stops⟩
    · rcases course.stopped ((others i same).symm.trans behind) stops with before | ⟨c, mem, stops⟩
      · exact .inl ((Scene.put_of_ne same middle).symm.trans before)
      · exact .inr ⟨c, List.mem_append_left _ mem, stops⟩
  · rcases List.mem_append.1 mem with mem | mem
    · exact course.lawful c mem
    · cases List.mem_singleton.1 mem
      exact lawful

end Course

variable [HasKind R]

section

variable {engine : Engine S C E R} {backing : Backing W E} {s : Scene W S C E} {index : Nat}
  {handle : Handle S C E} {request : Request W C R} {during : Scene W S C E → Story W S C E R}

/-- A submission in an orderly scene obeys the laws. -/
theorem Ended.lawful {story : Story W S C E R} {command : C} (orderly : s.Orderly)
    (found : s.handles[index]? = some handle) {r : Submission (Story W S C E R) S C E R}
    (ended : Ended engine backing s handle command story r) :
    Call.Lawful engine backing
      ⟨index, command, handle, s, r.result, r.world.1.put index r.handle⟩ := by
  refine ⟨orderly, found, fun stopped => ?_, fun earlier active flying => ?_,
    fun after active behind stopped => ?_⟩
  · change handle.mode = .stopped at stopped
    obtain ⟨-, rfl⟩ | ⟨_, active, -⟩ :=
      ended.of_not_ready fun ready => ready.not_stopped stopped
    · exact ⟨by rw [← stopped], Scene.put_found found⟩
    · cases active.symm.trans stopped
  · change handle.mode = .active at active
    change handle.inFlight = some earlier at flying
    obtain ⟨inactive, -⟩ | ⟨earlier', -, flying', rfl⟩ :=
      ended.of_not_ready fun ready => by cases ready.2.symm.trans flying
    · exact absurd active inactive
    · cases flying.symm.trans flying'
      exact ⟨rfl, Scene.put_found found⟩
  · change handle.mode = .active at active
    change (r.world.1.put index r.handle).handles[index]? = some after at behind
    obtain rfl : after = r.handle := by
      rw [Scene.put, List.getElem?_set_self', Option.map_eq_map, Option.map_eq_some_iff] at behind
      obtain ⟨_, -, rfl⟩ := behind
      rfl
    obtain ⟨events, replyWith, state, event, emits, folded, rfl⟩ := ended.of_stopped active stopped
    exact ⟨events, replyWith, state, event, emits, folded, rfl, rfl, rfl⟩

/-- A submission keeps what the actions of the log during it keep. -/
theorem Scene.submit_course (orderly : s.Orderly)
    (course : ∀ s : Scene W S C E, s.Orderly → Course engine backing s (during s).2 (during s).1) :
    Course engine backing s (s.submit engine backing index request during).2
      (s.submit engine backing index request during).1 := by
  cases found : s.handles[index]? with
  | none => rw [Scene.submit_of_no_handle found]; exact .of_handles rfl
  | some handle =>
    have sends (ready : handle.Ready) := course _ (orderly.sending found ready request.command).2
    have stays (ready : handle.Ready) :
        (during (s.put index (handle.sending request.command))).1.handles[index]? =
          some (handle.sending request.command) := by
      obtain ⟨after, behind, becomes⟩ := (sends ready).becomes (Scene.put_self found _)
      rw [behind, becomes.appending (orderly.sending found ready request.command).1]
    have ended := Scene.submission_ended engine backing request during stays
    have lawful := ended.lawful orderly found
    have nothing : Course engine backing (s.put index handle) [] s := by
      rw [Scene.put_found found]
      exact .of_handles rfl
    rw [Scene.submit_of_handle found]
    generalize s.submission engine backing index handle request during = r at ended lawful ⊢
    cases ended with
    | refused why =>
      exact nothing.around found (w := s.world) (.refl handle) lawful fun _ => .inl rfl
    | kept ready result w => exact nothing.around found (.refl handle) lawful fun _ => .inl rfl
    | stopped ready emits folded =>
      exact nothing.around found (ready.becomes fun atRest => atRest.stop ..) lawful fun _ =>
        .inr ⟨rfl, ready.1, Scene.put_self (s := s.withWorld _) found _, _, rfl, rfl⟩
    | appended ready result w committed =>
      refine (sends ready).around found (ready.becomes fun atRest => ?_) lawful fun stopped => ?_
      · rcases committed with rfl | ⟨state, events, receipt, rfl⟩
        · exact atRest
        · exact atRest.commit ..
      · rcases committed with rfl | ⟨state, events, receipt, rfl⟩ <;> cases ready.1.symm.trans stopped

end

mutual

/-- Whatever happens in an orderly scene keeps the laws. -/
theorem act_course (engine : Engine S C E R) (backing : Backing W E) :
    ∀ (action : Action W C R) (s : Scene W S C E), s.Orderly →
      Course engine backing s (act engine backing action s).2 (act engine backing action s).1
  | .elsewhere _, _, _ => by rw [act]; exact .of_handles rfl
  | .activate entity, _, _ => by rw [act]; exact .activate entity
  | .submit _ _ during, _, orderly => by
    rw [act]
    exact Scene.submit_course orderly fun s orderly => actAll_course engine backing during s orderly

theorem actAll_course (engine : Engine S C E R) (backing : Backing W E) :
    ∀ (actions : List (Action W C R)) (s : Scene W S C E), s.Orderly →
      Course engine backing s (actAll engine backing actions s).2
        (actAll engine backing actions s).1
  | [], _, _ => by rw [actAll]; exact .of_handles rfl
  | action :: actions, s, orderly => by
    have first := act_course engine backing action s orderly
    have others := actAll_course engine backing actions _ (first.orderly orderly)
    rw [actAll]
    exact first.trans others

end

variable {engine : Engine S C E R} {backing : Backing W E} {s : Scene W S C E} {index : Nat}

/-- A submission to a handle with an append on its way is refused, and nothing is changed. -/
theorem Scene.submit_appending {handle : Handle S C E} (found : s.handles[index]? = some handle)
    (appending : handle.Appending) {earlier : C} (flying : handle.inFlight = some earlier)
    (request : Request W C R) (during : Scene W S C E → Story W S C E R) :
    s.submit engine backing index request during =
      (s, [⟨index, request.command, handle, s,
        .error (.fault (.busy handle.persistenceId (kind earlier))), s⟩]) := by
  have unready : ¬ handle.Ready := fun ready => ready.not_appending appending
  have ended : Ended engine backing s handle request.command _
      (s.submission engine backing index handle request during) :=
    submission_ended engine backing request during fun ready => absurd ready unready
  obtain ⟨inactive, -⟩ | ⟨earlier', -, flying', r⟩ := ended.of_not_ready unready
  · exact absurd appending.active inactive
  · cases flying.symm.trans flying'
    rw [submit_of_handle found, r]
    simp only [put_found found, List.nil_append]

/-- Whatever the log does while a handle waits for it, the handle waits. -/
theorem actAll_sending (orderly : s.Orderly) {handle : Handle S C E}
    (found : s.handles[index]? = some handle) (ready : handle.Ready) (command : C)
    (actions : List (Action W C R)) :
    (actAll engine backing actions (s.put index (handle.sending command))).1.handles[index]? =
      some (handle.sending command) := by
  obtain ⟨appending, orderly⟩ := orderly.sending found ready command
  obtain ⟨after, behind, becomes⟩ :=
    (actAll_course engine backing actions _ orderly).becomes (Scene.put_self found _)
  rw [behind, becomes.appending appending]

/-- A log that submits a command to the handle for which it takes an append is refused. -/
theorem act_amid (orderly : s.Orderly) {handle : Handle S C E}
    (found : s.handles[index]? = some handle) (ready : handle.Ready) (command : C)
    (front : List (Action W C R)) (other : Request W C R) (inner : List (Action W C R)) :
    let amid := (actAll engine backing front (s.put index (handle.sending command))).1
    act engine backing (.submit index other inner) amid =
      (amid, [⟨index, other.command, handle.sending command, amid,
        .error (.fault (.busy handle.persistenceId (kind command))), amid⟩]) := by
  intro amid
  rw [act, Scene.submit_appending (actAll_sending orderly found ready command front)
    (orderly.sending found ready command).1 rfl]
  rfl

/-- A submission completes as if the log had not submitted another command to its handle while it took
the append. -/
theorem act_nested (orderly : s.Orderly) (request : Request W C R) (front back : List (Action W C R))
    (other : Request W C R) (inner : List (Action W C R)) :
    let nested := act engine backing
      (.submit index request (front ++ .submit index other inner :: back)) s
    let plain := act engine backing (.submit index request (front ++ back)) s
    nested.1 = plain.1 ∧ nested.2.getLast? = plain.2.getLast? := by
  rw [act, act]
  refine Scene.submit_congr fun handle found ready => ?_
  rw [actAll_append, actAll_append, actAll, act_amid orderly found ready]

/-! ## Activations that fail -/

/-- A handle that is not active takes no command. -/
theorem Engine.submit_of_not_active (engine : Engine S C E R) (host : Host W S C E)
    {handle : Handle S C E} (inactive : handle.mode ≠ .active) (request : Request W C R) (w : W) :
    engine.submit host handle request w =
      ⟨.error (.fault (.notAccepting handle.persistenceId handle.mode.name)), handle, w⟩ :=
  if_pos inactive

omit [CommandType C R] [HasKind R] in
/-- An entity whose events do not fit is stopped before it was active. -/
theorem Engine.stopped_of_activate {host : Host W S C E} {entity : String} {w w' : W}
    {handle : Handle S C E} {failure : Failure S E}
    (stopped : engine.activate host entity w = (.stopped handle failure, w')) :
    Replay.replay engine.behavior (host.read (engine.behavior.persistenceId entity) 0 w) none =
        .error failure ∧
      (∃ state event, failure = .illegalFold state event) ∧
      handle = (engine.fresh entity).stop failure := by
  unfold activate at stopped
  dsimp only [fresh] at stopped
  cases replayed : Replay.replay engine.behavior
      (host.read (engine.behavior.persistenceId entity) 0 w) none with
  | ok recovered => rw [replayed] at stopped; cases stopped
  | error failure =>
    rw [replayed] at stopped
    cases failure with
    | fault fault => cases stopped
    | illegalFold state event =>
      cases stopped
      exact ⟨rfl, ⟨state, event, rfl⟩, rfl⟩

/-! ## The law -/

/-- After every run, the handles that activations returned are at rest: active without a failure, or
stopped for an event that did not fit. A stopped one was stopped by one of the submissions, with the
failure that was raised there, and no run that follows changes it. Every submission is lawful: it is
refused and changes nothing if the handle is stopped or waits for an append, and it stops a handle only
for events that do not fold, with nothing else changed and no reply. A submission to a handle that
waits, made by the log that it waits for, is such a one, and the submission for which the handle waits
completes as if it had not been made. If an activation raises the failure of an event that does not
fit, the handle that comes with it is stopped for that, in the state before any event, and takes no
command. -/
theorem handle_lifecycle (engine : Engine S C E R) (backing : Backing W E)
    (actions : List (Action W C R)) (w : W) :
    let run := actAll engine backing actions { world := w }
    (∀ handle ∈ run.1.handles, handle.AtRest) ∧
      (∀ (i : Nat) (handle : Handle S C E), run.1.handles[i]? = some handle →
        handle.mode = .stopped →
          (∃ call ∈ run.2, call.Stops i handle) ∧
            ∀ more, (actAll engine backing more run.1).1.handles[i]? = some handle) ∧
      (∀ call ∈ run.2, call.Lawful engine backing) ∧
      (∀ (s : Scene W S C E) (index : Nat) (handle : Handle S C E) (request other : Request W C R)
        (front back inner : List (Action W C R)),
        s.Orderly → s.handles[index]? = some handle → handle.Ready →
          let amid := (actAll engine backing front
            (s.put index (handle.sending request.command))).1
          let nested := act engine backing
            (.submit index request (front ++ .submit index other inner :: back)) s
          let plain := act engine backing (.submit index request (front ++ back)) s
          act engine backing (.submit index other inner) amid =
              (amid, [⟨index, other.command, handle.sending request.command, amid,
                .error (.fault (.busy handle.persistenceId (kind request.command))), amid⟩]) ∧
            nested.1 = plain.1 ∧ nested.2.getLast? = plain.2.getLast?) ∧
      ∀ (host : Host W S C E) (entity : String) (w w' : W) (handle : Handle S C E)
        (failure : Failure S E),
        engine.activate host entity w = (.stopped handle failure, w') →
          (∃ state event, failure = .illegalFold state event) ∧
            handle.AtRest ∧ handle.mode = .stopped ∧ handle.failure = some failure ∧
            handle.state = engine.behavior.emptyState ∧
            ∀ (request : Request W C R) (w : W), engine.submit host handle request w =
              ⟨.error (.fault (.notAccepting handle.persistenceId Mode.stopped.name)), handle, w⟩ := by
  intro run
  have begun : (⟨w, []⟩ : Scene W S C E).Orderly := fun _ mem => (List.not_mem_nil mem).elim
  have course := actAll_course engine backing actions _ begun
  refine ⟨fun handle mem => ?_, fun i handle found stopped => ⟨?_, fun more => ?_⟩, course.lawful,
    fun s index handle request other front back inner orderly found ready => ⟨?_, ?_⟩,
    fun host entity w w' handle failure activated => ?_⟩
  · obtain ⟨i, found⟩ := List.mem_iff_getElem?.1 mem
    exact course.fresh List.getElem?_nil found
  · refine (course.stopped found stopped).resolve_left fun among => ?_
    cases List.getElem?_nil.symm.trans among
  · obtain ⟨after, behind, becomes⟩ :=
      (actAll_course engine backing more run.1 (course.orderly begun)).becomes found
    rw [behind, becomes.stopped stopped]
  · exact act_amid orderly found ready request.command front other inner
  · exact act_nested orderly request front back other inner
  · obtain ⟨-, ⟨state, event, rfl⟩, rfl⟩ := Engine.stopped_of_activate activated
    exact ⟨⟨state, event, rfl⟩, ⟨rfl, .inr ⟨rfl, state, event, rfl⟩⟩, rfl, rfl, rfl,
      engine.submit_of_not_active host (fun active => Mode.noConfusion active)⟩

/-! ## An account that is created twice -/

/-- A log in memory that nothing else knows of. -/
def Backing.memory {E : Type} : Backing (MemoryLog E) E where
  read entity start log := log.read entity start
  append entity events log := log.append entity events
  note _ _ log := log

namespace Account

/-- Runs accounts that a question for the balance creates again. -/
def createdAgain : Engine State Command Event Reply where
  behavior :=
    { behavior .unhandled with
      dispatcher :=
        (dispatcher .unhandled).onCommand State.openedKind Operation.getBalanceKind create }

/-- A request whose reply nobody waits for. -/
def unheard (op : Operation) : Request (MemoryLog Event) Command Reply :=
  .via (fun _ log => (none, log)) (.operation op)

/-- An account is created, while its log asks for it to be closed, and then created again. -/
def createdTwice : Story (MemoryLog Event) State Command Event Reply :=
  actAll createdAgain Backing.memory
    [.activate "acc", .submit 0 (unheard .create) [.submit 0 (unheard .close) []],
      .submit 0 (unheard .getBalance) []] { world := {} }

/-- The handle that was stopped for the second creation. -/
def stoppedHandle : Handle State Command Event where
  entity := "acc"
  persistenceId := "Account|acc"
  state := .opened .zero
  mode := .stopped
  applied := 1
  lastSeq := .whole 0
  failure := some (.illegalFold (.opened .zero) .created)

/-- What the log asks for is refused, and the account is created all the same; the second creation stops
the handle, for good. An account whose log has both creations is stopped before it was active. -/
theorem handle_lifecycle_created_twice :
    createdTwice.2.map Call.result =
        [.error (.fault (.busy "Account|acc" "CreateAccount")), .ok (.replied .confirmed [.created]),
          .error (.illegalFold (.opened .zero) .created)] ∧
      createdTwice.1.handles = [stoppedHandle] ∧
      (∃ call ∈ createdTwice.2, call.Stops 0 stoppedHandle) ∧
      (actAll createdAgain Backing.memory [.submit 0 (unheard .create) []]
          createdTwice.1).1.handles[0]? = some stoppedHandle ∧
      (act createdAgain Backing.memory
          (.submit 0 (unheard .create) [.submit 0 (unheard .close) []])
          { world := {}, handles := [newHandle "acc"] }).1 =
        (act createdAgain Backing.memory (.submit 0 (unheard .create) [])
          { world := {}, handles := [newHandle "acc"] }).1 ∧
      ((createdAgain.fresh "acc").stop (.illegalFold (.opened .zero) .created)).AtRest := by
  have law := handle_lifecycle createdAgain Backing.memory
    [.activate "acc", .submit 0 (unheard .create) [.submit 0 (unheard .close) []],
      .submit 0 (unheard .getBalance) []] { }
  obtain ⟨-, stopped, -, nested, activated⟩ := law
  obtain ⟨stops, stays⟩ := stopped 0 stoppedHandle rfl rfl
  refine ⟨rfl, rfl, stops, stays _, ?_, ?_⟩
  · refine (nested _ 0 (newHandle "acc") (unheard .create) (unheard .close) [] [] [] ?_ rfl
      ⟨rfl, rfl⟩).2.1
    exact fun handle mem => .inl (List.mem_singleton.1 mem ▸ ⟨rfl, .inl ⟨rfl, rfl⟩⟩)
  · exact (activated (.ofLog Backing.memory.read Backing.memory.append
      Backing.memory.note) "acc" ⟨MemoryLog.recordsFrom "Account|acc" 0 [.created, .created]⟩
      _ _ _ rfl).2.1

end Account

end EventLedger
