import EventLedger.Account.Model

/-!
# Stored forms of account events

Each event is stored under the name of its kind, with its amount if it has one.
-/

namespace EventLedger.Account

/-- The classes of events without fields. -/
def plainClass (kind : Kind) (event : Event) : EventClass Event where
  kind := kind
  fields := []
  build _ := .ok event

/-- The classes of events with an amount. -/
def amountClass (kind : Kind) (make : Decimal → Except Fault Event) : EventClass Event where
  kind := kind
  fields := [⟨"amount", true⟩]
  build
    | [("amount", .decimal amount)] => make amount
    | _ => .error .mistyped

/-- The classes of the account's events. -/
def eventClasses : List (EventClass Event) :=
  [plainClass Event.createdKind .created, amountClass Event.depositedKind Event.deposit,
    amountClass Event.withdrawnKind Event.withdraw, plainClass Event.closedKind .closed]

/-- The codec of the account's events. -/
def codec : Codec Event :=
  eventClasses.foldl (fun codec c => codec.add c.kind c none) {}

end EventLedger.Account
