import EventLedger.Proofs.FileSession

/-!
# Recovery from a file

A fresh activation from the file of a session may not give what the handle holds: the handle has
folded the amounts as they were given, but the file has them rounded to 28 digits. It gives the same
exactly if the persisted events, rounded, fold to an equal state, and so always if no amount needs
rounding (`recovery_from_file`).
-/

namespace EventLedger.Account.FileSession

open FileLog (openAt_ok)

variable {X : Type}

section

variable (closed : ClosedPolicy) (unhandled : UnhandledPolicy) (note : String → Notice → X → X)

/-- A fresh activation from the file gives an equal state, the same count of events, the same last
sequence number and the same hash as the handle has. -/
def Recovers (s : FileSession X) : Prop :=
  ∃ log recovered w hash,
    FileLog.openAt s.world.log.path codec s.world.log.state = .ok log ∧
      (engine closed unhandled).activate (FileWorld.host note) s.handle.entity
        ⟨log, s.world.outside⟩ = (.active recovered, w) ∧
      recovered.state.equals s.handle.state = .ok true ∧
      recovered.applied = s.handle.applied ∧ recovered.lastSeq = s.handle.lastSeq ∧
      recovered.state.hash = .ok hash ∧ s.handle.state.hash = .ok hash

/-- The persisted events, with their amounts rounded to 28 digits, fold to an equal state. -/
def RoundsAlike (s : FileSession X) : Prop :=
  ∃ events state, s.persisted.mapM Event.rounded = .ok events ∧
    applier.fold .empty events = .ok state ∧ state.equals s.handle.state = .ok true

end

variable {closed : ClosedPolicy} {path entity : String} {s : FileSession X}
  (unhandled : UnhandledPolicy) (note : String → Notice → X → X)

/-- A recovery is a replay of the log that gives what the handle has. -/
theorem Sound.recovers_iff_replay (sound : s.Sound closed path entity)
    (opens : ∀ content, FileLog.openAt path codec (.file content) =
      .ok (⟨path, codec, .file content⟩ : FileLog Event)) :
    s.Recovers closed unhandled note ↔ ∃ state hash,
      Replay.replay (behavior closed) (s.world.log.read s.handle.persistenceId 0) none =
          .ok ⟨state, s.handle.applied, s.handle.lastSeq⟩ ∧
        state.equals s.handle.state = .ok true ∧
        state.hash = .ok hash ∧ s.handle.state.hash = .ok hash := by
  obtain ⟨content, -, -, file, -⟩ := id sound.stores
  have opened : FileLog.openAt s.world.log.path codec s.world.log.state = .ok s.world.log := by
    rw [file]
    exact opens content
  have named : s.handle.persistenceId = (behavior closed).persistenceId s.handle.entity := by
    rw [sound.named, sound.own]
  rw [named]
  constructor
  · rintro ⟨log, handle, w, hash, openable, active, equal, applied, lastSeq, hashes⟩
    cases openable.symm.trans opened
    obtain ⟨⟨state, applied', lastSeq'⟩, replayed, rfl, -⟩ := Engine.replay_of_activate active
    cases applied
    cases lastSeq
    exact ⟨state, hash, replayed, equal, hashes⟩
  · rintro ⟨state, hash, replayed, equal, hashes⟩
    have active := @Engine.activate_of_replay _ _ _ _ _ _ _ (engine closed unhandled)
      (FileWorld.host note) s.handle.entity ⟨s.world.log, s.world.outside⟩ _ replayed
    exact ⟨_, _, _, hash, opened, active, equal, rfl, rfl, hashes⟩

/-- A recovery gives what the handle has exactly if the rounded events do. -/
theorem Sound.recovers_iff (sound : s.Sound closed path entity)
    (opens : ∀ content, FileLog.openAt path codec (.file content) =
      .ok (⟨path, codec, .file content⟩ : FileLog Event)) :
    s.Recovers closed unhandled note ↔ s.RoundsAlike := by
  have live := sound.fits
  rw [sound.recovers_iff_replay unhandled note opens]
  rcases sound.stores.replay closed sound.finite with
    ⟨decoded, roundeds, rounds, same, length, replay⟩ | ⟨⟨failure, fails⟩, fault, unrounded⟩
  · rw [replay, sound.applied, sound.lastSeq]
    constructor
    · rintro ⟨state, hash, folded, equal, -⟩
      cases fold : applier.fold .empty decoded with
      | error failure => rw [fold] at folded; cases folded
      | ok state' =>
        rw [fold] at folded
        cases folded
        obtain ⟨state', fold', alike⟩ := fold_same .empty same fold
        have equals := State.same_of_equals alike.left live.same equal
        exact ⟨roundeds, state', rounds, fold', (alike.symm.trans equals).equals⟩
    · rintro ⟨events, state', rounds', fold', equal⟩
      cases rounds.symm.trans rounds'
      have back := same.flip.imp fun _ _ same => same.symm
      obtain ⟨state, fold, alike⟩ := fold_same .empty back fold'
      have equals := alike.symm.trans (State.same_of_equals alike.left live.same equal)
      obtain ⟨hash, hashed⟩ := live.hash
      refine ⟨state, hash, ?_, equals.equals, equals.hash.trans hashed, hashed⟩
      rw [fold]
      rfl
  · constructor
    · rintro ⟨state, hash, replayed, -⟩
      cases fails.symm.trans replayed
    · rintro ⟨events, state, rounds, -⟩
      cases unrounded.symm.trans rounds

/-- Rounding does not matter if no amount needs it. -/
theorem Sound.roundsAlike_of_fits (sound : s.Sound closed path entity)
    (fits : ∀ e ∈ s.persisted, e.Fits) : s.RoundsAlike := by
  obtain ⟨roundeds, rounds, same⟩ := mapM_rounded_of_fits sound.finite fits
  obtain ⟨state, folded, alike⟩ := fold_same .empty same sound.folded
  exact ⟨roundeds, state, rounds, folded, alike.symm.equals⟩

/-- A fresh activation from the file gives what the handle holds, after any operations with any
amounts, exactly if the persisted events fold to an equal state when their amounts are rounded to
28 digits; so it does if no amount needs rounding. -/
theorem recovery_from_file (closed : ClosedPolicy) (unhandled : UnhandledPolicy)
    (note : String → Notice → X → X) {path : String} {initial : FileState}
    (empty : initial = .missing ∨ initial = .file []) {log : FileLog Event}
    (opened : FileLog.openAt path codec initial = .ok log) (entity : String) (outside : X) :
    ∃ handle w, (engine closed unhandled).activate (FileWorld.host note) entity ⟨log, outside⟩ =
        (.active handle, w) ∧
      ∀ commands : List (Operation × Channel X Reply),
        let s := (⟨w, handle, []⟩ : FileSession X).run closed unhandled note commands
        (s.Recovers closed unhandled note ↔ s.RoundsAlike) ∧
          ((∀ e ∈ s.persisted, e.Fits) → s.Recovers closed unhandled note) := by
  obtain ⟨rfl, opens⟩ := openAt_ok opened
  have file : FileLog.opened initial = .file [] := by rcases empty with rfl | rfl <;> rfl
  rw [file]
  obtain ⟨handle, w, active, start⟩ := exists_start closed unhandled note path entity outside
  refine ⟨handle, w, active, fun commands => ?_⟩
  have sound := start.sound.run unhandled note commands
  have recovers := sound.recovers_iff unhandled note opens
  exact ⟨recovers, fun fits => recovers.2 (sound.roundsAlike_of_fits fits)⟩

theorem recovery_from_file_new :
    (FileState.missing = .missing ∨ FileState.missing = .file []) ∧
      FileLog.openAt "log.jsonl" codec .missing = .ok ⟨"log.jsonl", codec, .file []⟩ ∧
      ∃ handle w, (engine .unhandled .log).activate (FileWorld.host fun _ _ x => x) "acc"
          ⟨⟨"log.jsonl", codec, .file []⟩, ()⟩ = (.active handle, w) ∧
        ∀ commands : List (Operation × Channel Unit Reply),
          let s := (⟨w, handle, []⟩ : FileSession Unit).run .unhandled .log (fun _ _ x => x)
            commands
          (s.Recovers .unhandled .log (fun _ _ x => x) ↔ s.RoundsAlike) ∧
            ((∀ e ∈ s.persisted, e.Fits) → s.Recovers .unhandled .log (fun _ _ x => x)) := by
  have opened : FileLog.openAt "log.jsonl" codec .missing =
      .ok ⟨"log.jsonl", codec, .file []⟩ := rfl
  exact ⟨.inl rfl, opened, recovery_from_file .unhandled .log _ (.inl rfl) opened "acc" ()⟩

/-! ## A session that is not recovered -/

/-- The amount 10 ^ 27. -/
def large : Amount :=
  ⟨.finite false 1 27, rfl⟩

/-- An amount of 29 digits, just over one half. -/
def overHalf : Amount :=
  ⟨.finite false 50000000000000000000000000001 (-29), rfl⟩

/-- One half, which is what `overHalf` is rounded to. -/
def half : Amount :=
  ⟨.finite false 5000000000000000000000000000 (-28), rfl⟩

/-- The balance 10 ^ 27. -/
def even : Balance :=
  ⟨.finite false 1000000000000000000000000000 0, rfl⟩

/-- The balance 10 ^ 27 + 1. -/
def odd : Balance :=
  ⟨.finite false 1000000000000000000000000001 0, rfl⟩

theorem round_large : large.value.round = .ok large.value := by decide +kernel

theorem round_overHalf : overHalf.value.round = .ok half.value := by decide +kernel

theorem zero_add_large : Balance.zero.value.add large.value = .ok even.value := by decide +kernel

theorem even_add_overHalf : even.value.add overHalf.value = .ok odd.value := by decide +kernel

theorem even_add_half : even.value.add half.value = .ok even.value := by decide +kernel

theorem even_ne_odd : even.value.equals odd.value ≠ .ok true := by decide +kernel

/-- After a creation and deposits of 10 ^ 27 and of just over one half, the handle holds
10 ^ 27 + 1. The file has one half, for which the tie goes to the even 10 ^ 27. -/
theorem recovery_from_file_loses_unit :
    ∃ log : FileLog Event, FileLog.openAt "log.jsonl" codec .missing = .ok log ∧
      ∃ handle w, (engine .unhandled .log).activate (FileWorld.host fun _ _ x => x) "acc"
          ⟨log, ()⟩ = (.active handle, w) ∧
        let s := (⟨w, handle, []⟩ : FileSession Unit).run .unhandled .log (fun _ _ x => x)
          [(.create, fun _ x => (none, x)), (.deposit large.value, fun _ x => (none, x)),
            (.deposit overHalf.value, fun _ x => (none, x))]
        ¬ s.Recovers .unhandled .log (fun _ _ x => x) := by
  obtain ⟨handle, w, active, start⟩ :=
    exists_start .unhandled .log (fun _ _ x => x) "log.jsonl" "acc" ()
  have opened : FileLog.openAt "log.jsonl" codec .missing =
      .ok ⟨"log.jsonl", codec, .file []⟩ := rfl
  have created := start.create .log (fun _ _ x => x) fun _ x => (none, x)
  have first := created.deposit .log (fun _ _ x => x) rfl round_large zero_add_large
    fun _ x => (none, x)
  have second := first.deposit .log (fun _ _ x => x) rfl round_overHalf even_add_overHalf
    fun _ x => (none, x)
  have rounds : [Event.created, .deposited large, .deposited overHalf].mapM Event.rounded =
      .ok [.created, .deposited large, .deposited half] :=
    mapM_of_forall₂ (.cons rfl (.cons (rounded_deposited round_large)
      (.cons (rounded_deposited round_overHalf) .nil)))
  have empty : applier.fold .empty [.created] = .ok (.opened .zero) := rfl
  have folds := fold_deposited (fold_deposited empty zero_add_large) even_add_half
  refine ⟨_, opened, handle, w, active, fun recovers => ?_⟩
  obtain ⟨events, state, rounds', folds', equal⟩ :=
    (second.sound.recovers_iff .log _ (openAt_ok opened).2).1 recovers
  rw [second.persisted] at rounds'
  cases rounds.symm.trans rounds'
  cases folds.symm.trans folds'
  rw [second.state] at equal
  exact even_ne_odd equal

end EventLedger.Account.FileSession
