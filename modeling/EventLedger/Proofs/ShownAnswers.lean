import EventLedger.CommandLine.Run
import EventLedger.Proofs.StoredEvents

/-!
# What a run ends with

The exit status of a run is zero only if its answer is shown as a success (`exit_failure`,
`exit_unhandled`, `exit_rejected`). Showing a confirmation cannot fail (`exit_confirmed`): a state
behind an event with a finite amount has a description (`exists_description`), since a sum or
difference with a finite decimal has a canonical text (`Decimal.exists_canonical`), and a
description can be written.
-/

namespace EventLedger

/-- A record whose fields can be written can be shown. -/
theorem Value.exists_show_record {fields : List (String × Value)}
    (written : ∀ f ∈ fields, ∃ cs, Json.write (.shown true) f.2 = .ok cs) :
    ∃ cs, Json.write (.shown true) (.record fields) = .ok cs := by
  have entry : ∀ e ∈ Json.writeEntries (.shown true) (fields.map named),
      ∃ name cs, e = (.str name, .ok cs) := by
    rw [writeEntries_named, List.map_map]
    refine List.forall_mem_map.2 fun f mem => ?_
    obtain ⟨cs, text⟩ := written f mem
    exact ⟨f.1, cs, by rw [Function.comp, named, text]⟩
  have texts : (Json.writeEntries (.shown true) (fields.map named)).all (·.1.isText) = true := by
    refine List.all_eq_true.2 fun e mem => ?_
    obtain ⟨name, cs, rfl⟩ := entry e mem
    rfl
  have members : ∀ e ∈ (Json.writeEntries (.shown true) (fields.map named)).mergeSort
      fun a b => textOrder a.1 b.1,
      ∃ part, (do Json.writeMember (.shown true) e.1 (← e.2)) = .ok part := by
    intro e mem
    obtain ⟨name, cs, rfl⟩ := entry e (List.mem_mergeSort.1 mem)
    exact ⟨_, rfl⟩
  obtain ⟨parts, all⟩ := exists_forall₂ members
  refine ⟨.char '\x7b' :: Json.join ", " parts ++ [.char '\x7d'], ?_⟩
  have inOrder : (Json.Style.shown true).sorted = true := rfl
  rw [record_eq, Json.write, if_pos inOrder, sortByKey, if_pos texts]
  show ((List.mapM _ _ : Except Fault (List (List Text.Point))) >>= _) = _
  rw [mapM_of_forall₂ all]
  rfl

/-- A sum with a finite decimal, or a difference, has a canonical text unless the other one is a
NaN. -/
theorem Decimal.exists_canonical {a b d : Decimal} (number : a.less .zero = .ok false)
    (finite : b.isFinite = true) (result : a.add b = .ok d ∨ a.sub b = .ok d) :
    ∃ t, d.canonical = .ok t := by
  have shown : ∀ q, Rounds q (.ok d) → ∃ t, d.canonical = .ok t := fun q rounds =>
    canonical_of_fits rounds.fits.1 rounds.fits.2
  cases a with
  | finite n c e =>
    rcases result with sum | difference
    · exact shown _ (sum ▸ add_rounds rfl finite)
    · exact shown _ (difference ▸ sub_rounds rfl finite)
  | infinite n =>
    cases b with
    | finite m c e => rcases result with h | h <;> cases h <;> cases n <;> exact ⟨_, rfl⟩
    | infinite m => cases finite
    | nan => cases finite
  | nan signaling => cases signaling <;> cases number

namespace Account

theorem Balance.value_of_make {value : Decimal} {balance : Balance}
    (made : Balance.make value = .ok balance) : balance.value = value := by
  unfold Balance.make at made
  split at made
  · cases made; rfl
  · cases made
  · cases made

/-- The balance behind a movement has a canonical text. -/
theorem exists_canonical_of_moved {b next : Balance} {amount : Decimal}
    (finite : amount.isFinite = true)
    (moved : b.deposit amount = .ok next ∨ b.withdraw amount = .ok next) :
    ∃ t, next.value.canonical = .ok t := by
  have shown : ∀ r : Except Decimal.Signal Decimal, liftSignal r >>= Balance.make = .ok next →
      r = .ok next.value := by
    intro r h
    cases r with
    | error signal => cases h
    | ok d => rw [Balance.value_of_make h]
  exact Decimal.exists_canonical b.nonneg finite (moved.imp (shown _) (shown _))

theorem exists_description_of_leadingTo {result : Except Fault Balance}
    (shown : ∀ balance, result = .ok balance → ∃ t, balance.value.canonical = .ok t)
    {state : State} (leads : leadingTo result = .ok state) :
    ∃ description, state.describe = .ok description := by
  cases result with
  | error fault => cases leads
  | ok balance =>
    cases leads
    obtain ⟨t, text⟩ := shown balance rfl
    rw [State.describe, text]
    exact ⟨_, rfl⟩

/-- The state behind an event with a finite amount can be shown. -/
theorem exists_description {event : Event} (finite : event.Same event) {before state : State}
    (applied : applier.apply before event = .ok state) :
    ∃ description, state.describe = .ok description := by
  cases before with
  | empty =>
    cases finite with
    | created => cases applied; exact ⟨_, rfl⟩
    | deposited => cases applied
    | withdrawn => cases applied
    | closed => cases applied
  | closed => cases finite <;> cases applied
  | opened b =>
    cases finite with
    | created => cases applied
    | @deposited a _ moves =>
      change leadingTo (b.deposit a.value) = _ at applied
      exact exists_description_of_leadingTo
        (fun next h => exists_canonical_of_moved moves (.inl h)) applied
    | @withdrawn a _ moves =>
      change onOpenedEvent (.opened b) (.withdrawn a) = _ at applied
      rw [onOpenedEvent] at applied
      split at applied
      · cases applied
      · cases applied
      · exact exists_description_of_leadingTo
          (fun next h => exists_canonical_of_moved moves (.inr h)) applied
    | closed =>
      change onOpenedEvent (.opened b) .closed = _ at applied
      rw [onOpenedEvent] at applied
      split at applied
      · cases applied
      · cases applied
      · cases applied; exact ⟨_, rfl⟩

end Account

namespace CommandLine

open Account

/-! ## Showing the answer -/

/-- The exit status of a run that ends or breaks off. -/
def exitOf : Except Stop Ending → Nat
  | .ok ending => ending.exit
  | .error stop => stop.exit

theorem exit_make (log : FileState) (lines : List String) (result : Except Stop Ending) :
    (Report.make log lines result).exit = exitOf result := by
  cases result <;> rfl

theorem log_make (log : FileState) (lines : List String) (result : Except Stop Ending) :
    (Report.make log lines result).log = log := by
  cases result <;> rfl

theorem exit_stop_ne_zero (stop : Stop) : stop.exit ≠ 0 := by
  cases stop <;> exact Nat.succ_ne_zero _

/-- What is printed before the end may break a run off, but a status that is not zero stays so. -/
theorem exitOf_bind_ne_zero {α : Type} (result : Except Stop α) {next : α → Except Stop Ending}
    (fails : ∀ a, exitOf (next a) ≠ 0) : exitOf (result >>= next) ≠ 0 := by
  cases result with
  | error stop => exact exit_stop_ne_zero stop
  | ok a => exact fails a

section

variable (width : Nat) (asJson : Bool) (account : String)

theorem exit_showError (message : List Text.Point) :
    exitOf (showError width asJson message) ≠ 0 := by
  rw [showError]
  cases asJson with
  | true => exact exitOf_bind_ne_zero _ fun _ => Nat.succ_ne_zero 1
  | false => exact exitOf_bind_ne_zero _ fun _ => Nat.succ_ne_zero 1

theorem exit_failure (failure : Failure State Event) :
    exitOf (showAnswer width asJson account (.error failure)) ≠ 0 :=
  exitOf_bind_ne_zero _ fun message => exit_showError width asJson message

theorem exit_unhandled (state : State) :
    exitOf (showAnswer width asJson account (.ok (.noReply, state))) ≠ 0 := by
  rw [showAnswer, showUnhandled]
  cases asJson with
  | true => exact exitOf_bind_ne_zero _ fun _ => Nat.succ_ne_zero 0
  | false => exact exitOf_bind_ne_zero _ fun _ => Nat.succ_ne_zero 0

theorem exit_rejected (reason : String) (events : List Event) (state : State) :
    exitOf (showAnswer width asJson account (.ok (.replied (.rejected reason) events, state))) ≠
      0 := by
  rw [showAnswer, showReply]
  cases asJson with
  | true =>
    refine exitOf_bind_ne_zero _ fun fields => exitOf_bind_ne_zero _ fun description => ?_
    exact exitOf_bind_ne_zero _ fun out => Nat.succ_ne_zero 0
  | false =>
    exact exitOf_bind_ne_zero _ fun markup => exitOf_bind_ne_zero _ fun out => Nat.succ_ne_zero 0

theorem exists_show_description {state : State} {description : Value}
    (shown : state.describe = .ok description) :
    ∃ cs, Json.write (.shown true) description = .ok cs := by
  have texts : ∀ fields : List (String × String), ∃ cs,
      Json.write (.shown true) (.record (fields.map fun f => (f.1, .str f.2))) = .ok cs :=
    fun fields => Value.exists_show_record (List.forall_mem_map.2 fun _ _ => ⟨_, rfl⟩)
  cases state with
  | empty => cases shown; exact texts [("status", "empty")]
  | closed => cases shown; exact texts [("status", "closed")]
  | opened balance =>
    obtain ⟨t, -, described⟩ := exists_of_bind_ok shown
    cases described
    exact texts [("status", "opened"), ("balance", t)]

/-- A confirmation can be shown if the state can. -/
theorem exit_confirmed (events : List Event) {state : State} {description : Value}
    (shown : state.describe = .ok description) :
    exitOf (showAnswer width asJson account (.ok (.replied .confirmed events, state))) = 0 := by
  rw [showAnswer, showReply]
  cases asJson with
  | false =>
    have plain : Terminal.Markup.plain? "[green]✓ Confirmed[/green]".toList =
        .ok "✓ Confirmed".toList := by
      decide +kernel
    show exitOf (printed width "[green]✓ Confirmed[/green]" >>= _) = 0
    rw [printed, Terminal.printed, plain]
    rfl
  | true =>
    obtain ⟨part, written⟩ := exists_show_description shown
    obtain ⟨ps, text⟩ : ∃ ps, Json.write (.shown true)
        (.record [("reply", .str (kind Reply.confirmed)), ("account", .str account),
          ("state", description)]) = .ok ps := by
      exact Value.exists_show_record (List.forall_mem_cons.2 ⟨⟨_, rfl⟩,
        List.forall_mem_cons.2 ⟨⟨_, rfl⟩, List.forall_mem_singleton.2 ⟨part, written⟩⟩⟩)
    obtain ⟨cs, shows⟩ := Json.exists_show text
    have documented : document true (.record ([("reply", .str (kind Reply.confirmed))] ++
        [("account", .str account), ("state", description)])) = .ok [String.ofList cs] := by
      show orStop (Json.show? true (.record [_, _, _])) >>= _ = _
      rw [shows]
      rfl
    show exitOf (orStop state.describe >>= _) = 0
    rw [shown]
    show exitOf (document true _ >>= _) = 0
    rw [documented]
    rfl

end

end CommandLine

end EventLedger
