import EventLedger.Proofs.Agreement
import EventLedger.Proofs.Isolation

/-!
# Accounts can be emptied and closed

Accounts share a log, in memory or in a file, and take turns on it with any amounts. An event is
only ever stored with a finite amount (`HoldsFinite`), also if the file rounds it. So whatever is
replayed or carried out leads to a balance that fits into 28 digits, and a handle is stopped only
before it has any state (`Sane`); no turn changes that (`Healthy.run`).

Such a balance is read back from the text that shows it. The difference to itself is zero without
any rounding, so the balance covers the amount that was read, and what is left can be closed:
`emptied_and_closed`.
-/

namespace EventLedger.Account

variable {X : Type}

/-- Where accounts are kept. -/
inductive Storage where
  | memory
  | file

/-- The kind of the log in which accounts are kept. -/
def Storage.kind : Storage → LogKind Event
  | .memory => .memory
  | .file => .file codec

/-- The events of a strand have finite amounts. -/
def FiniteStrand (strand : Strand Event) : Prop :=
  ∀ event, .ok event ∈ strand → event.Same event

/-- Whatever a log has for an entity has finite amounts. -/
def HoldsFinite (storage : Storage) (log : EventLog Event) : Prop :=
  ∀ name, ∃ strand, Has name storage.kind log strand ∧ FiniteStrand strand

theorem holdsFinite_new (storage : Storage) (path : String) :
    HoldsFinite storage (storage.kind.new path) := fun name =>
  ⟨[], has_new name storage.kind path, fun _ mem => (List.not_mem_nil mem).elim⟩

variable {storage : Storage} {event : Event}

/-- A finite amount is added to a strand as a finite amount. -/
theorem finite_results (finite : event.Same event) {entity : String} {more : Strand Event}
    (results : storage.kind.results entity [event] = .ok more) : FiniteStrand more := by
  cases storage with
  | memory =>
    cases results
    intro e mem
    cases List.mem_singleton.1 mem
    exact finite
  | file =>
    cases encodes : codec.encode event with
    | error fault =>
      have fails : (LogKind.file codec).results entity [event] = .error fault := by
        rw [LogKind.results, FileLog.storedForms, List.mapM_cons, encodes]
        rfl
      cases results.symm.trans fails
    | ok p =>
      obtain ⟨document, alike⟩ := decode_encode finite encodes
      cases (LogKind.results_of_encode entity encodes document).symm.trans results
      intro e mem
      rw [← List.mem_singleton.1 mem] at alike
      generalize event.rounded = rounded at alike
      cases alike with
      | event same => exact same.trans same.symm

/-- An amount that fits can be added. -/
theorem results_of_fits (storage : Storage) (finite : event.Same event) (fits : event.Fits)
    (entity : String) : ∃ more, storage.kind.results entity [event] = .ok more := by
  cases storage with
  | memory => exact ⟨_, rfl⟩
  | file =>
    obtain ⟨name, payload, -, encodes, document, -⟩ := encode_of_fits finite fits
    exact ⟨_, LogKind.results_of_encode entity encodes document⟩

theorem HoldsFinite.append {log : EventLog Event} (holds : HoldsFinite storage log)
    (finite : event.Same event) (entity : String) :
    HoldsFinite storage (log.append entity [event]).2 := by
  intro name
  obtain ⟨strand, has, old⟩ := holds name
  have appended := has.append entity (List.cons_ne_nil event [])
  generalize log.append entity [event] = answer at appended ⊢
  cases appended with
  | failed => exact ⟨strand, has, old⟩
  | stored results has' =>
    refine ⟨_, has', fun e mem => ?_⟩
    rcases List.mem_append.1 mem with mem | mem
    · exact old e mem
    · split at mem
      · exact finite_results finite results e mem
      · cases mem

theorem HoldsFinite.answer {log : EventLog Event} (holds : HoldsFinite storage log)
    (finite : event.Same event) (refusal : Option StoreFault) (entity : String) :
    HoldsFinite storage (LogWorld.answer refusal entity [event] log).2 := by
  cases refusal with
  | some cause => exact holds
  | none => exact holds.append finite entity

/-- What is replayed of finite amounts fits. -/
theorem fits_of_replay (closed : ClosedPolicy) {log : EventLog Event}
    (holds : HoldsFinite storage log) {name : String} {recovered : Recovered State}
    (replayed : Replay.replay (behavior closed) (log.read name 0) none = .ok recovered) :
    recovered.state.Fits := by
  obtain ⟨strand, has, finite⟩ := holds name
  have folded := Replay.folded_of_replay replayed
  have events : (log.read name 0).records.map Record.event = strand.told.1 :=
    congrArg Prod.fst has.read
  rw [events] at folded
  exact fits_of_fold .empty (fun e mem => finite e (Strand.mem_of_told mem)) folded

/-- A handle that takes operations with a balance that fits, or that was stopped before it had any
state. -/
inductive Sane (handle : Handle State Command Event) : Prop
  | serves (serves : Serves handle)
  | stopped (inactive : handle.mode ≠ .active) (empty : handle.state = .empty)

theorem Sane.serves_of_opened {handle : Handle State Command Event} (sane : Sane handle)
    {b : Balance} (opened : handle.state = .opened b) : Serves handle := by
  cases sane with
  | serves serves => exact serves
  | stopped _ empty => cases opened.symm.trans empty

section

variable (closed : ClosedPolicy) (unhandled : UnhandledPolicy) (note : String → Notice → X → X)
  (refusal : Option StoreFault) {handle : Handle State Command Event} {w : LogWorld X Event}
  (channel : Channel X Reply)

/-- The end of an operation on an account. -/
def operate (handle : Handle State Command Event) (op : Operation) (w : LogWorld X Event) :
    Submission (LogWorld X Event) State Command Event Reply :=
  (engine closed unhandled).submit (LogWorld.host note refusal) handle
    ((Request.via channel (Command.operation op)).besideLog Event) w

/-- An operation stores finite amounts only, and what they lead to fits. -/
theorem operate_serves (serves : Serves handle) (holds : HoldsFinite storage w.log)
    (op : Operation) :
    let r := operate closed unhandled note refusal channel handle op w
    Serves r.handle ∧ HoldsFinite storage r.world.log := by
  obtain ⟨ready, fits⟩ := serves
  have ending := (engine closed unhandled).submit_ending (LogWorld.host note refusal)
    ((Request.via channel (Command.operation op)).besideLog Event) w handle
  rw [operate]
  generalize (engine closed unhandled).submit _ handle _ w = r at ending ⊢
  cases ending with
  | refused => exact ⟨⟨ready, fits⟩, holds⟩
  | silent => exact ⟨⟨ready, fits⟩, holds⟩
  | replied => exact ⟨⟨ready, fits⟩, by rw [LogWorld.log_handOver]; exact holds⟩
  | illegal _ emits folded =>
    obtain ⟨-, event, rfl, -, -, -, admitted⟩ := emits_agreed closed unhandled fits emits
    rw [folded] at admitted
    cases admitted
  | unfolded => exact ⟨⟨ready, fits⟩, holds⟩
  | unstored _ emits folded appended =>
    obtain ⟨-, event, rfl, -, -, finite, -⟩ := emits_agreed closed unhandled fits emits
    simp only [LogWorld.append_host, Prod.mk.injEq] at appended
    obtain ⟨-, rfl, rfl⟩ := appended
    rw [Handle.settled_sending ready]
    exact ⟨⟨ready, fits⟩, holds.answer finite refusal _⟩
  | stored _ emits folded appended reported =>
    obtain ⟨-, event, rfl, rfl, records, finite, -⟩ := emits_agreed closed unhandled fits emits
    simp only [LogWorld.append_host, Prod.mk.injEq] at appended
    obtain ⟨-, rfl, rfl⟩ := appended
    have kept := holds.answer finite refusal (handle.sending (.operation op)).persistenceId
    cases reported with
    | wrong wrong => cases records.accepts.symm.trans wrong
    | replied =>
      refine ⟨⟨⟨ready.1, rfl⟩, fits_of_fold fits (fun e mem => ?_) folded⟩, ?_⟩
      · rw [List.mem_singleton.1 mem]
        exact finite
      · rw [LogWorld.log_handOver]
        exact kept

/-- An operation whose event is folded and stored is confirmed with it. -/
theorem operate_confirmed (ready : handle.Ready) (holds : HoldsFinite storage w.log)
    {op : Operation} {event : Event} {state : State} {more : Strand Event}
    (decided : (dispatcher closed).dispatch handle.state (.operation op) = confirming event)
    (folded : applier.fold handle.state [event] = .ok state)
    (results : storage.kind.results handle.persistenceId [event] = .ok more)
    (records : Records op event) :
    ∃ receipt w', operate closed unhandled note none channel handle op w =
      ⟨.ok (.replied .confirmed [event]), handle.commit state [event] receipt, w'⟩ := by
  obtain ⟨strand, has, -⟩ := holds handle.persistenceId
  have appended := has.append handle.persistenceId (List.cons_ne_nil event [])
  generalize answered : w.log.append handle.persistenceId [event] = answer at appended
  cases appended with
  | failed fails => cases fails.symm.trans results
  | @stored _ receipt log' =>
    have stored : (LogWorld.host note none).append (handle.sending (.operation op)) [event] w =
        (.ok receipt, handle.sending (.operation op), { w with log := log' }) := by
      rw [LogWorld.append_host]
      show ((w.log.append handle.persistenceId [event]).1, _,
        { w with log := (w.log.append handle.persistenceId [event]).2 }) = _
      rw [answered]
    have submitted := (engine closed unhandled).submit_of_stored (LogWorld.host note none)
      ((Request.via channel (Command.operation op)).besideLog Event) w ready ⟨_, decided⟩ folded
      stored (rfl : confirm state = _) records.accepts
    exact ⟨_, _, submitted⟩

end

/-! ## Turns -/

/-- What an account is asked to do. -/
inductive AccountTurn (X : Type) where
  | activate (entity : String)
  /-- An operation for the live handle of an account, and the cause for which its append is refused,
  if it is. -/
  | submit (entity : String) (op : Operation) (channel : Channel X Reply)
    (refusal : Option StoreFault)

/-- A turn of an account as a turn of an entity. -/
def AccountTurn.turn : AccountTurn X → Turn X Command Reply
  | .activate entity => .activate entity
  | .submit entity op channel refusal => .submit entity (.via channel (.operation op)) refusal

/-- Accounts at work on one log. -/
abbrev Accounts (X : Type) := SharedSession X State Command Event Reply

/-- What holds throughout: the amounts on the log are finite, and the handles are sane. -/
structure Healthy (storage : Storage) (s : Accounts X) : Prop where
  holds : HoldsFinite storage s.world.log
  sane : ∀ entity, ∀ handle ∈ s.live entity, Sane handle

section

variable (closed : ClosedPolicy) (unhandled : UnhandledPolicy) (note : String → Notice → X → X)

theorem take_sane (turn : AccountTurn X) {live : Option (Handle State Command Event)}
    {w : LogWorld X Event} (holds : HoldsFinite storage w.log)
    (sane : ∀ handle ∈ live, Sane handle) :
    let taken := turn.turn.take (engine closed unhandled) note live w
    HoldsFinite storage taken.world.log ∧ ∀ handle ∈ taken.live, Sane handle := by
  cases turn with
  | activate entity =>
    rw [AccountTurn.turn, Turn.take, Engine.activate]
    dsimp only
    cases replayed : Replay.replay (engine closed unhandled).behavior _ none with
    | ok recovered =>
      refine ⟨holds, ?_⟩
      rintro handle ⟨⟩
      exact .serves ⟨⟨rfl, rfl⟩, fits_of_replay closed holds replayed⟩
    | error failure =>
      cases failure with
      | illegalFold =>
        -- The file has rounded amounts, so what was folded once may not be folded again.
        refine ⟨holds, ?_⟩
        rintro handle ⟨⟩
        exact .stopped (fun active => Mode.noConfusion active) rfl
      | fault => exact ⟨holds, sane⟩
  | submit entity op channel refusal =>
    cases live with
    | none => exact ⟨holds, sane⟩
    | some handle =>
      rcases sane handle rfl with serves | ⟨inactive, empty⟩
      · obtain ⟨serves, holds⟩ :=
          operate_serves closed unhandled note refusal channel serves holds op
        refine ⟨holds, ?_⟩
        rintro after ⟨⟩
        exact .serves serves
      · rw [AccountTurn.turn, Turn.take]
        dsimp only
        rw [Engine.submit, if_pos inactive]
        refine ⟨holds, ?_⟩
        rintro after ⟨⟩
        exact .stopped inactive empty

variable {closed unhandled}

theorem Healthy.step {s : Accounts X} (healthy : Healthy storage s) (turn : AccountTurn X) :
    Healthy storage (s.step (engine closed unhandled) note turn.turn) := by
  obtain ⟨holds, sane⟩ :=
    take_sane closed unhandled note turn healthy.holds (healthy.sane turn.turn.entity)
  refine ⟨holds, fun entity => ?_⟩
  rw [SharedSession.step]
  dsimp only
  by_cases own : entity = turn.turn.entity
  · subst own
    rw [Function.update_self]
    exact sane
  · rw [Function.update_of_ne own]
    exact healthy.sane entity

theorem Healthy.run {s : Accounts X} (healthy : Healthy storage s) (turns : List (AccountTurn X)) :
    Healthy storage (s.run (engine closed unhandled) note (turns.map AccountTurn.turn)) := by
  induction turns generalizing s with
  | nil => exact healthy
  | cons turn turns ih => exact ih (healthy.step note turn)

/-- A turn in which an operation is confirmed. -/
theorem Healthy.confirmed {s : Accounts X} (healthy : Healthy storage s) {entity : String}
    {handle : Handle State Command Event} (live : s.live entity = some handle)
    (ready : handle.Ready) {op : Operation} {event : Event} {state : State}
    (decided : (dispatcher closed).dispatch handle.state (.operation op) = confirming event)
    (folded : applier.apply handle.state event = .ok state) (finite : event.Same event)
    (fits : event.Fits) (records : Records op event) (channel : Channel X Reply) :
    ∃ after : Handle State Command Event, after.state = state ∧
      let s' := s.step (engine closed unhandled) note
        (AccountTurn.submit entity op channel none).turn
      s'.live entity = some after ∧ s'.history =
        s.history ++ [⟨entity, .submitted (.ok (.replied .confirmed [event])), some after⟩] := by
  rw [← fold_singleton] at folded
  obtain ⟨more, results⟩ := results_of_fits storage finite fits handle.persistenceId
  obtain ⟨receipt, w, confirmed⟩ := operate_confirmed closed unhandled note channel ready
    healthy.holds decided folded results records
  have taken : (AccountTurn.submit entity op channel none).turn.take (engine closed unhandled) note
      (s.live entity) s.world =
      ⟨.submitted (.ok (.replied .confirmed [event])),
        some (handle.commit state [event] receipt), w⟩ := by
    rw [operate] at confirmed
    rw [live, AccountTurn.turn, Turn.take, confirmed]
  have own : (AccountTurn.submit entity op channel none).turn.entity = entity := rfl
  refine ⟨handle.commit state [event] receipt, rfl, ?_⟩
  rw [SharedSession.step, own, taken]
  exact ⟨Function.update_self .., rfl⟩

end

/-! ## Emptying -/

/-- The balance that a sane handle holds is read back from its text. -/
theorem Sane.exists_amount {handle : Handle State Command Event} (sane : Sane handle) {b : Balance}
    (opened : handle.state = .opened b) (positive : Decimal.less .zero b.value = .ok true) :
    ∃ (text : String) (a : Amount), b.value.canonical = .ok text ∧
      Decimal.parse text = .ok a.value ∧ a.value.isFinite = true ∧ b.value.isFinite = true ∧
      a.value.value = b.value.value := by
  have fits := (sane.serves_of_opened opened).2
  rw [opened] at fits
  cases fits with
  | opened finite fits =>
    rw [Decimal.less_of_isFinite rfl finite, Decimal.value_zero] at positive
    have above : 0 < b.value.value := of_decide_eq_true (Except.ok.inj positive)
    obtain ⟨text, d, canonical, parsed, moves, same⟩ :=
      Decimal.parse_canonical_of_fits finite fits
    rcases Amount.make_cases "withdrawn" moves with ⟨neg, -⟩ | ⟨-, a, -, rfl⟩
    · exact absurd (same ▸ above) (not_lt.2 neg)
    · exact ⟨text, a, canonical, parsed, moves, finite, same⟩

/-- A balance covers itself, and nothing is left. -/
theorem Balance.withdraw_all {b : Balance} {a : Amount} (finite : b.value.isFinite = true)
    (moves : a.value.isFinite = true) (same : a.value.value = b.value.value) :
    b.canWithdraw a.value = .ok true ∧ ∃ b', b.withdraw a.value = .ok b' ∧
      b'.value.isFinite = true ∧ b'.value.value = 0 := by
  -- The exact difference is zero, which fits, so neither decimal's digits or exponent matter.
  have rounds := Decimal.sub_rounds finite moves
  rw [same, sub_self] at rounds
  obtain ⟨d, difference, -⟩ := rounds.of_fits Decimal.fits_zero
  have bounded : b.value.sub a.value ≠ .error .overflow := by
    simp only [difference, ne_eq, reduceCtorEq, not_false_eq_true]
  obtain ⟨decided, left⟩ := covered_of_rounds rounds bounded
  rw [Decimal.fits_zero.rounded_eq] at decided left
  exact ⟨decided, left le_rfl⟩

section

variable {closed : ClosedPolicy} {unhandled : UnhandledPolicy} (note : String → Notice → X → X)
  {s : Accounts X} {entity : String} {handle : Handle State Command Event} {b : Balance}

/-- A turn in which all that an account holds is withdrawn. -/
theorem Healthy.withdraw_all (healthy : Healthy storage s) (live : s.live entity = some handle)
    (opened : handle.state = .opened b) {a : Amount} (moves : a.value.isFinite = true)
    (same : a.value.value = b.value.value) (channel : Channel X Reply) :
    ∃ (after : Handle State Command Event) (b' : Balance),
      after.state = .opened b' ∧ b'.value.isFinite = true ∧ b'.value.value = 0 ∧
      let s' := s.step (engine closed unhandled) note
        (AccountTurn.submit entity (.withdraw a.value) channel none).turn
      s'.live entity = some after ∧ s'.history = s.history ++
        [⟨entity, .submitted (.ok (.replied .confirmed [.withdrawn a])), some after⟩] := by
  obtain ⟨ready, fits⟩ := (healthy.sane entity handle live).serves_of_opened opened
  rw [opened] at fits
  cases fits with
  | opened finite fits =>
    obtain ⟨covered, b', left, finite', zero⟩ := Balance.withdraw_all finite moves same
    have decided : (dispatcher closed).dispatch handle.state (.operation (.withdraw a.value)) =
        confirming (.withdrawn a) := by
      rw [dispatch_operation, opened]
      exact withdrawFrom_amount moves covered
    have fits' : (Event.withdrawn a).Fits := by
      show Decimal.Fits a.value.value
      rw [same]
      exact fits
    obtain ⟨after, state, taken⟩ := healthy.confirmed note live ready decided
      (opened ▸ apply_withdrawn covered left) (.withdrawn moves moves rfl) fits' (.withdrawn a)
      channel
    exact ⟨after, b', state, finite', zero, taken⟩

/-- A turn in which an account that holds nothing is closed. -/
theorem Healthy.close_emptied (healthy : Healthy storage s) (live : s.live entity = some handle)
    (opened : handle.state = .opened b) (finite : b.value.isFinite = true)
    (zero : b.value.value = 0) (channel : Channel X Reply) :
    ∃ after : Handle State Command Event, after.state = .closed ∧
      let s' := s.step (engine closed unhandled) note
        (AccountTurn.submit entity .close channel none).turn
      s'.live entity = some after ∧ s'.history =
        s.history ++ [⟨entity, .submitted (.ok (.replied .confirmed [.closed])), some after⟩] := by
  obtain ⟨ready, -⟩ := (healthy.sane entity handle live).serves_of_opened opened
  obtain ⟨closes, folded⟩ := Account.close_emptied finite zero
  have decided : (dispatcher closed).dispatch handle.state (.operation .close) =
      confirming .closed := by
    rw [dispatch_operation, opened]
    exact closes
  exact healthy.confirmed note live ready decided (opened ▸ folded) .closed trivial .closed channel

end

/-- Whatever turns accounts have taken on a log that was empty, with any amounts, policies, channels
and refused appends: the balance of an account that holds money is shown by a text that is read as
an amount equal to it. If the account is asked to withdraw this amount and then to close, it
confirms both, has a balance of zero in between, and is closed. -/
theorem emptied_and_closed (closed : ClosedPolicy) (unhandled : UnhandledPolicy)
    (note : String → Notice → X → X) (storage : Storage) (path : String) (outside : X)
    (turns : List (AccountTurn X)) (entity : String) {handle : Handle State Command Event}
    {b : Balance} :
    let s : Accounts X := (SharedSession.start storage.kind path outside).run
      (engine closed unhandled) note (turns.map AccountTurn.turn)
    s.live entity = some handle → handle.state = .opened b →
      Decimal.less .zero b.value = .ok true →
      ∃ text amount, b.value.canonical = .ok text ∧ Decimal.parse text = .ok amount ∧
        amount.equals b.value = .ok true ∧
        ∀ channel channel' : Channel X Reply,
          ∃ (a : Amount) (emptied ended : Handle State Command Event) (b' : Balance),
            a.value = amount ∧ emptied.state = .opened b' ∧ b'.value.equals .zero = .ok true ∧
            ended.state = .closed ∧
            (s.run (engine closed unhandled) note
              ([.submit entity (.withdraw amount) channel none,
                .submit entity .close channel' none].map AccountTurn.turn)).history =
              s.history ++
                [⟨entity, .submitted (.ok (.replied .confirmed [.withdrawn a])), some emptied⟩,
                  ⟨entity, .submitted (.ok (.replied .confirmed [.closed])), some ended⟩] := by
  intro s live opened positive
  have begun : Healthy storage (SharedSession.start storage.kind path outside : Accounts X) :=
    ⟨holdsFinite_new storage path, fun _ _ none => by cases none⟩
  have healthy : Healthy storage s := begun.run note turns
  obtain ⟨text, a, canonical, parsed, moves, finite, same⟩ :=
    (healthy.sane entity handle live).exists_amount opened positive
  refine ⟨text, a.value, canonical, parsed, ?_, fun channel channel' => ?_⟩
  · rw [Decimal.equals_of_isFinite moves finite, decide_eq_true same]
  obtain ⟨emptied, b', opened', finite', zero, live', history⟩ :=
    healthy.withdraw_all note live opened moves same channel
  obtain ⟨ended, state, -, history'⟩ :=
    (healthy.step note (.submit entity (.withdraw a.value) channel none)).close_emptied note live'
      opened' finite' zero channel'
  refine ⟨a, emptied, ended, b', rfl, opened', ?_, state, ?_⟩
  · rw [Decimal.equals_of_isFinite finite' rfl, Decimal.value_zero, decide_eq_true zero]
  · refine history'.trans ?_
    rw [history, List.append_assoc]
    rfl

/-- An account is created, and an amount of thirty digits is paid in. -/
def paidTurns (channel : Channel Unit Reply) : List (AccountTurn Unit) :=
  [.activate "acc", .submit "acc" .create channel none,
    .submit "acc" (.deposit (.finite false 123456789012345678901234567891 (-29))) channel none]

/-- `emptied_and_closed` for an account whose balance was rounded to 28 digits. -/
theorem emptied_and_closed_rounded :
    let channel : Channel Unit Reply := fun _ x => (none, x)
    let b : Balance := ⟨.finite false 1234567890123456789012345679 (-27), by decide +kernel⟩
    let s : Accounts Unit := (SharedSession.start Storage.memory.kind "" ()).run
      (engine .reject .log) (fun _ _ x => x) ((paidTurns channel).map AccountTurn.turn)
    (∃ handle, s.live "acc" = some handle ∧ handle.state = .opened b) ∧
      Decimal.less .zero b.value = .ok true ∧
      ∃ (amount : Decimal) (a : Amount) (emptied ended : Handle State Command Event),
        amount.equals b.value = .ok true ∧ ended.state = .closed ∧
        (s.run (engine .reject .log) (fun _ _ x => x)
          ([.submit "acc" (.withdraw amount) channel none,
            .submit "acc" .close channel none].map AccountTurn.turn)).history =
          s.history ++
            [⟨"acc", .submitted (.ok (.replied .confirmed [.withdrawn a])), some emptied⟩,
              ⟨"acc", .submitted (.ok (.replied .confirmed [.closed])), some ended⟩] := by
  intro channel b s
  have shown : (s.live "acc").map Handle.state = some (.opened b) := by decide +kernel
  obtain ⟨handle, live, opened⟩ := Option.map_eq_some_iff.1 shown
  have positive : Decimal.less .zero b.value = .ok true := by decide +kernel
  obtain ⟨-, amount, -, -, same, leads⟩ := emptied_and_closed .reject .log (fun _ _ x => x)
    .memory "" () (paidTurns channel) "acc" live opened positive
  obtain ⟨a, emptied, ended, -, -, -, -, closed, history⟩ := leads channel channel
  exact ⟨⟨handle, live, opened⟩, positive, amount, a, emptied, ended, same, closed, history⟩

end EventLedger.Account
