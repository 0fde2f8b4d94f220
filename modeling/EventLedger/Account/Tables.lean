import EventLedger.Account.Model
import EventLedger.Behavior

/-!
# The rules of accounts

The command handlers decide by the state: an empty account takes only its creation, an opened one
takes everything else, and a closed one takes nothing or, under the policy `reject`, rejects
everything but the question for its balance, which is zero. The event handlers move the balance; an
event that the state does not allow is an illegal fold.

`behavior` puts both tables together.
-/

namespace EventLedger.Account

/-- How closed accounts treat commands. -/
inductive ClosedPolicy where
  /-- Every command is dropped without a reply. -/
  | unhandled
  /-- Every command is answered, most with a rejection. -/
  | reject
deriving DecidableEq

/-- The policy with a name. -/
def ClosedPolicy.ofName (name : String) : Except Fault ClosedPolicy :=
  match name with
  | "unhandled" => .ok .unhandled
  | "reject" => .ok .reject
  | _ => .error (.invalid (.unknownClosedPolicy name))

/-- A command handler of accounts. -/
abbrev Handler := CommandHandler State Command Event Reply

/-- What a command handler of accounts returns. -/
abbrev Decided := Except (Failure State Event) (Decision State Event Reply)

/-- Decides to reply without an event. -/
def replying (reply : Reply) : Decided :=
  .ok (.effect (.replyOnly reply))

/-- Decides to reject a command. -/
def rejecting (reason : String) : Decided :=
  replying (.rejected reason)

/-- The reply to a command that was carried out. -/
def confirm : ReplyFunction State Event Reply := fun _ => .ok .confirmed

/-- Decides that one event happens, and confirms it. -/
def confirming (event : Event) : Decided :=
  .ok (.effect (.persistAndReply [event] (List.cons_ne_nil event []) confirm))

/-- Decides by the outcome of a computation that may have a fault. -/
def deciding {α : Type} (result : Except Fault α) (next : α → Decided) : Decided :=
  match result with
  | .ok a => next a
  | .error fault => .error (.fault fault)

/-- Whether an amount can be moved: it is a finite number above zero. -/
def isValidAmount (amount : Decimal) : Except Fault Bool :=
  if amount.isFinite then liftSignal (Decimal.less .zero amount) else .ok false

def amountNotPositive : String := "amount must be positive"
def insufficientFunds : String := "insufficient funds"
def balanceNotZero : String := "balance must be zero"
def alreadyCreated : String := "account is already created"
def accountClosed : String := "account is closed"
def alreadyClosed : String := "account is already closed"

/-- Creates an account. -/
def create : Handler := fun _ _ => confirming .created

/-- Deposits an amount. -/
def depositInto (_balance : Balance) (amount : Decimal) : Decided :=
  deciding (isValidAmount amount) fun valid =>
    if valid then deciding (Event.deposit amount) confirming else rejecting amountNotPositive

/-- Withdraws an amount that the balance covers. -/
def withdrawFrom (balance : Balance) (amount : Decimal) : Decided :=
  deciding (isValidAmount amount) fun valid =>
    if valid then
      deciding (balance.canWithdraw amount) fun covered =>
        if covered then deciding (Event.withdraw amount) confirming
        else rejecting insufficientFunds
    else rejecting amountNotPositive

/-- Closes an account that holds nothing. -/
def closeEmptied (balance : Balance) : Decided :=
  deciding balance.isZero fun zero =>
    if zero then confirming .closed else rejecting balanceNotZero

/-- The handler of the operations on an opened account. -/
def onOpened : Handler := fun state command =>
  match state, command.base? with
  | .opened balance, some (.deposit amount) => depositInto balance amount
  | .opened balance, some (.withdraw amount) => withdrawFrom balance amount
  | .opened balance, some .getBalance => replying (.currentBalance balance.value)
  | .opened balance, some .close => closeEmptied balance
  | .opened _, some .create => rejecting alreadyCreated
  | _, _ => .ok (.effect .unhandled)

/-- Drops a command. -/
def drop : Handler := fun _ _ => .ok (.effect .unhandledNoReply)

/-- Answers a command to a closed account. -/
def rejectClosed : Handler := fun _ command =>
  match command.base? with
  | some .getBalance => replying (.currentBalance .zero)
  | some .close => rejecting alreadyClosed
  | some .create => rejecting alreadyCreated
  | _ => rejecting accountClosed

/-- The command handlers. -/
def dispatcher (policy : ClosedPolicy) : Dispatcher State Command Event Reply :=
  let empty : Dispatcher State Command Event Reply := {}
  let created := (empty.onCommand State.emptyKind Operation.createKind create).onAnyCommand
    State.emptyKind drop
  let opened := [Operation.depositKind, Operation.withdrawKind, Operation.getBalanceKind,
    Operation.closeKind, Operation.createKind].foldl
      (fun d command => d.onCommand State.openedKind command onOpened) created
  opened.onAnyCommand State.closedKind
    (match policy with
      | .unhandled => drop
      | .reject => rejectClosed)

/-- The state that a computation leads to. -/
def leadingTo (result : Except Fault Balance) : Except (Failure State Event) State :=
  match result with
  | .ok balance => .ok (.opened balance)
  | .error fault => .error (.fault fault)

/-- Folds a creation into an empty account. -/
def onCreated : EventHandler State Event := fun _ _ => .ok (.opened .zero)

/-- Folds a movement or a closing into an opened account. A withdrawal must be covered, and a closed
account must hold nothing. -/
def onOpenedEvent : EventHandler State Event := fun state event =>
  match state, event with
  | .opened balance, .deposited amount => leadingTo (balance.deposit amount.value)
  | .opened balance, .withdrawn amount =>
    match balance.canWithdraw amount.value with
    | .error fault => .error (.fault fault)
    | .ok false => .error (.illegalFold state event)
    | .ok true => leadingTo (balance.withdraw amount.value)
  | .opened balance, .closed =>
    match balance.isZero with
    | .error fault => .error (.fault fault)
    | .ok false => .error (.illegalFold state event)
    | .ok true => .ok .closed
  | _, _ => .error (.illegalFold state event)

/-- The event handlers. -/
def applier : Applier State Event :=
  let empty : Applier State Event := {}
  (((empty.register State.emptyKind Event.createdKind onCreated).register
    State.openedKind Event.depositedKind onOpenedEvent).register
    State.openedKind Event.withdrawnKind onOpenedEvent).register
    State.openedKind Event.closedKind onOpenedEvent

/-- The definition of accounts. -/
def behavior (policy : ClosedPolicy) : Behavior State Command Event Reply where
  typeKey := typeKey
  emptyState := .empty
  dispatcher := dispatcher policy
  applier := applier

end EventLedger.Account
