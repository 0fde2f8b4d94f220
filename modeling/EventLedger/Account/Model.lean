import EventLedger.Account.Money
import EventLedger.Log.Codec
import EventLedger.Replay
import EventLedger.Request

/-!
# Accounts

What happens to an account: its states, its events, the commands that are given to it and the
replies to them. An application may define events and commands of its own next to these; the
account's tables know them only by their kinds, and a command of its own may be a special case of
one of the account's.
-/

namespace EventLedger.Account

/-- The name of accounts in the log. -/
def typeKey : String := "Account"

/-- What happened to an account. -/
inductive Event where
  | created
  | deposited (amount : Amount)
  | withdrawn (amount : Amount)
  | closed
  /-- An application's own event. -/
  | other (kind : Kind) (fields : List (String × Value))

namespace Event

def createdKind : Kind := "AccountCreated"
def depositedKind : Kind := "Deposited"
def withdrawnKind : Kind := "Withdrawn"
def closedKind : Kind := "AccountClosed"

/-- The fields of an event. -/
def fields : Event → List (String × Value)
  | .created | .closed => []
  | .deposited amount | .withdrawn amount => [("amount", .decimal amount.value)]
  | .other _ fields => fields

instance : HasFields Event where
  kind
    | .created => createdKind
    | .deposited _ => depositedKind
    | .withdrawn _ => withdrawnKind
    | .closed => closedKind
    | .other kind _ => kind
  fields := fields

/-- The event of a deposit. -/
def deposit (value : Decimal) : Except Fault Event :=
  .deposited <$> Amount.make "deposited" value

/-- The event of a withdrawal. -/
def withdraw (value : Decimal) : Except Fault Event :=
  .withdrawn <$> Amount.make "withdrawn" value

end Event

/-- A kind with fields as a literal. -/
def fieldsLiteral (kind : Kind) (fields : List (String × Value)) : String :=
  Value.bracket (kind ++ "(") ")" (fields.map fun f => f.1 ++ "=" ++ f.2.literal)

/-- The literal of an event. -/
def Event.literal (e : Event) : String :=
  fieldsLiteral (kind e) e.fields

/-- What an account is. -/
inductive State where
  | empty
  | opened (balance : Balance)
  | closed
deriving DecidableEq

namespace State

def emptyKind : Kind := "EmptyAccount"
def openedKind : Kind := "OpenedAccount"
def closedKind : Kind := "ClosedAccount"

instance : HasKind State where
  kind
    | .empty => emptyKind
    | .opened _ => openedKind
    | .closed => closedKind

/-- The document that describes a state. -/
def describe : State → Except Fault Value
  | .empty => .ok (.record [("status", .str "empty")])
  | .opened balance => do
    let balance ← liftSignal balance.value.canonical
    return .record [("status", .str "opened"), ("balance", .str balance)]
  | .closed => .ok (.record [("status", .str "closed")])

/-- The hash of a state. -/
def hash (s : State) : Except Fault String :=
  stateHash s.describe

end State

/-- The answer to a command. -/
inductive Reply where
  | confirmed
  | rejected (reason : String)
  | currentBalance (balance : Decimal)
  /-- The result of an operation that says nothing. -/
  | bareResult
  /-- No answer in the place of one. -/
  | none
  | text (s : String)
deriving DecidableEq

instance : HasKind Reply where
  kind
    | .confirmed => "Confirmed"
    | .rejected _ => "Rejected"
    | .currentBalance _ => "CurrentBalance"
    | .bareResult => "OperationResult"
    | .none => "NoneType"
    | .text _ => "str"

namespace Reply

/-- Whether a reply is a rejection. -/
def isRejection : Reply → Bool
  | .rejected _ => true
  | _ => false

/-- Whether a reply is a balance. -/
def isCurrentBalance : Reply → Bool
  | .currentBalance _ => true
  | _ => false

/-- Whether a reply says how an operation went. -/
def isOperationResult : Reply → Bool
  | .confirmed | .rejected _ | .bareResult => true
  | _ => false

end Reply

/-- The type of replies that a command declares. -/
inductive ReplyType where
  | operationResult
  | confirmed
  | rejected
  | currentBalance
  | anything
  | oneOf (types : List ReplyType)

namespace ReplyType

mutual

/-- Whether a reply is of the type. -/
def accepts (reply : Reply) : ReplyType → Bool
  | .operationResult => reply.isOperationResult
  | .confirmed => reply == .confirmed
  | .rejected => reply.isRejection
  | .currentBalance => reply.isCurrentBalance
  | .anything => true
  | .oneOf types => acceptsSome reply types

/-- Whether a reply is of one of the types. -/
def acceptsSome (reply : Reply) : List ReplyType → Bool
  | [] => false
  | t :: ts => accepts reply t || acceptsSome reply ts

end

/-- The name of a type of the account's model. -/
def modelName (name : String) : String :=
  "<class 'evsource.account.model." ++ name ++ "'>"

mutual

/-- The name of the type in messages. -/
def name : ReplyType → String
  | .operationResult => modelName "OperationResult"
  | .confirmed => modelName "Confirmed"
  | .rejected => modelName "Rejected"
  | .currentBalance => modelName "CurrentBalance"
  | .anything => "<class 'object'>"
  | .oneOf types =>
    match names types with
    | [n] => "(" ++ n ++ ",)"
    | ns => Value.bracket "(" ")" ns

/-- The names of several types. -/
def names : List ReplyType → List String
  | [] => []
  | t :: ts => name t :: names ts

end

end ReplyType

/-! ## Commands -/

/-- What an account can be told to do. -/
inductive Operation where
  | create
  | deposit (amount : Decimal)
  | withdraw (amount : Decimal)
  | getBalance
  | close
deriving DecidableEq

namespace Operation

def createKind : Kind := "CreateAccount"
def depositKind : Kind := "Deposit"
def withdrawKind : Kind := "Withdraw"
def getBalanceKind : Kind := "GetBalance"
def closeKind : Kind := "CloseAccount"

instance : HasKind Operation where
  kind
    | .create => createKind
    | .deposit _ => depositKind
    | .withdraw _ => withdrawKind
    | .getBalance => getBalanceKind
    | .close => closeKind

/-- The type of replies to an operation. -/
def replyType : Operation → ReplyType
  | .getBalance => .currentBalance
  | _ => .operationResult

/-- The amount that an operation moves. -/
def amount? : Operation → Option Decimal
  | .deposit amount | .withdraw amount => some amount
  | _ => none

end Operation

/-- An application's own command. -/
structure CustomCommand where
  kind : Kind
  /-- The operation that the command is a special case of. -/
  base : Option Operation := none
  amount : Option Decimal := none
  /-- Whether the command must be answered. -/
  enforced : Bool := true
  replyType : ReplyType := .anything

/-- A command to an account. -/
inductive Command where
  | operation (op : Operation)
  | custom (command : CustomCommand)

namespace Command

/-- The operation that the command is, exactly or as a special case. -/
def base? : Command → Option Operation
  | .operation op => some op
  | .custom c => c.base

/-- The amount in a command. -/
def amount? : Command → Option Decimal
  | .operation op => op.amount?
  | .custom c => c.amount

/-- The type of replies to a command. -/
def replyType : Command → ReplyType
  | .operation op => op.replyType
  | .custom c => c.replyType

instance : CommandType Command Reply where
  kind
    | .operation op => kind op
    | .custom c => c.kind
  enforced
    | .operation _ => true
    | .custom c => c.enforced
  accepts c reply := c.replyType.accepts reply
  expected c := c.replyType.name

/-- The literal of a command. -/
def literal (c : Command) : String :=
  fieldsLiteral (kind c) (c.amount?.toList.map fun a => ("amount", .decimal a))

/-- Whether two commands of one kind are equal: their amounts are equal numbers. -/
def equalAmounts (c d : Command) : Except Fault Bool :=
  match c.amount?, d.amount? with
  | some a, some b => liftSignal (a.equals b)
  | a, b => .ok (a.isNone && b.isNone)

end Command

end EventLedger.Account
