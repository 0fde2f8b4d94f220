import EventLedger.Json.SyntaxError
import EventLedger.Kind
import EventLedger.Text.Encoding
import EventLedger.Value.Text

/-!
# Faults

A `Fault` is the cause for which an operation stops. The faults of the engine and of the log say
what was refused; the others say what was wrong with the data that an operation met. `Fault.message`
is the wording; what it quotes from a stored text may hold halves of characters, which
`Fault.wording` keeps.

An event that does not fit the state is no fault but a `Failure` that carries both.
-/

namespace EventLedger

/-- Why a value cannot be built. -/
inductive Invalid where
  /-- An amount of money moved that is not positive, with the word for the movement. -/
  | amountNotPositive (movement : String) (amount : Decimal)
  | negativeBalance
  | noChannel (command : Kind)
  | unknownClosedPolicy (policy : String)
  | unknownUnhandledPolicy (policy : String)
  /-- A setting outside of its choices. -/
  | setting (key : String) (choices : List String) (value : String)
  /-- Parts of a decimal: not three of them. -/
  | partCount
  | signPart
  | digitsPart
  | exponentPart
  | exponentWord
  /-- A path with a character that is zero. -/
  | zeroInPath
  /-- A handler's own complaint. -/
  | other (message : String)
deriving DecidableEq

/-- What is wrong with an effect. -/
inductive InvalidEffect where
  | noEvents
  | noReplyFunction
  /-- A persist that was begun without events. -/
  | nothingToPersist
  /-- The result of a handler that is no effect, as a literal. -/
  | unsupported (literal : String)
  | wrongReply (command : Kind) (expected : String) (got : Kind)
deriving DecidableEq

/-- Why a log refuses an operation. -/
inductive StoreFault where
  | nothingToAppend
  | unregisteredEvent (event : Kind)
  /-- A stored name that no event is registered under, as a text. -/
  | unknownEvent (name : List Text.Point)
  /-- The path names a directory. -/
  | isDirectory (path : String)
  /-- A failure of the storage itself. -/
  | device (message : String)
deriving DecidableEq

/-- Where a hash chain is broken, with the text of the record's sequence number. -/
inductive ChainFault where
  | brokenLink (seq : List Text.Point)
  | wrongHash (seq : List Text.Point)
deriving DecidableEq

/-- The cause for which an operation stops. -/
inductive Fault where
  | arithmetic (signal : Decimal.Signal)
  /-- A value of a kind that the operation does not take. -/
  | mistyped
  /-- An entry that has to be there is missing. -/
  | missingEntry
  /-- A value does not have the part that is asked for. -/
  | missingPart
  /-- A whole number beyond machine range. -/
  | beyondRange
  /-- Something other than a kind of event was registered. -/
  | notAnEvent (name : Kind)
  | invalid (cause : Invalid)
  | syntaxError (error : Json.SyntaxError)
  | encoding (error : Text.CodingError)
  /-- The number of replies in a box that should hold one. -/
  | replyCount (count : Nat)
  | unhandledCommand (command state : Kind)
  | invalidEffect (cause : InvalidEffect)
  | notAccepting (entity mode : String)
  | busy (entity : String) (command : Kind)
  | store (cause : StoreFault)
  | chain (cause : ChainFault)
  | noFile
  | isDirectory
  /-- A file stands where a directory is to be made. -/
  | fileExists
  /-- A path leads through a file. -/
  | notADirectory
  | nameTooLong
deriving DecidableEq

/-- The wording of a value that cannot be built. -/
def Invalid.message : Invalid → String
  | .amountNotPositive movement amount =>
    movement ++ " amount must be positive: " ++ amount.text
  | .negativeBalance => "Account balance can't be negative"
  | .noChannel command => command ++ " requires a reply_to channel"
  | .unknownClosedPolicy policy => "unsupported closed policy: " ++ policy
  | .unknownUnhandledPolicy policy => "unsupported unhandled policy: " ++ policy
  | .setting key choices value =>
    key ++ " must be one of " ++ String.intercalate ", " choices ++ ": got " ++ Text.quoted value
  | .partCount => "argument must be a sequence of length 3"
  | .signPart => "sign must be an integer with the value 0 or 1"
  | .digitsPart => "coefficient must be a tuple of digits"
  | .exponentPart => "exponent must be an integer"
  | .exponentWord => "string argument in the third position must be 'F', 'n' or 'N'"
  | .zeroInPath => "embedded null byte"
  | .other message => message

/-- The wording of a malformed effect. -/
def InvalidEffect.message : InvalidEffect → String
  | .noEvents => "PersistAndReply requires at least one event"
  | .noReplyFunction => "PersistAndReply requires a callable reply_fn"
  | .nothingToPersist => "persist() requires at least one event"
  | .unsupported literal => "unsupported effect: " ++ literal
  | .wrongReply command expected got =>
    command ++ " expects a " ++ expected ++ " reply, got " ++ got

/-- The wording of a refusal of the log. -/
def StoreFault.wording : StoreFault → List Text.Point
  | .nothingToAppend => "append requires at least one event"
  | .unregisteredEvent event => "unregistered event type: " ++ event
  | .unknownEvent name => Text.chars "unknown event type in log: ".toList ++ name
  | .isDirectory path => "[Errno 21] Is a directory: " ++ Text.quoted path
  | .device message => message

/-- The wording of a broken chain. -/
def ChainFault.wording : ChainFault → List Text.Point
  | .brokenLink seq => Text.chars "broken chain link at seq ".toList ++ seq
  | .wrongHash seq => Text.chars "event hash mismatch at seq ".toList ++ seq

/-- The wording of a fault, as it is shown. -/
def Fault.message : Fault → String
  | .arithmetic .invalidOperation => "the decimal operation is not defined"
  | .arithmetic .overflow => "the decimal is too large"
  | .mistyped => "a value is of the wrong kind"
  | .missingEntry => "an entry is missing"
  | .missingPart => "a value has no such part"
  | .beyondRange => "a whole number is too large"
  | .noFile => "there is no such file"
  | .isDirectory => "the path is that of a directory"
  | .fileExists => "there is a file in the place of a directory"
  | .notADirectory => "the path leads through a file"
  | .nameTooLong => "a name on the path is too long"
  | .notAnEvent name => name ++ " must be a dataclass"
  | .invalid cause => cause.message
  | .syntaxError error => error.message
  | .encoding error => error.message
  | .replyCount count => "expected exactly one reply, got " ++ Text.natText count
  | .unhandledCommand command state =>
    "no handler for reply-enforced command [" ++ command ++ "] in state [" ++ state ++ "]"
  | .invalidEffect cause => cause.message
  | .notAccepting entity mode => "entity " ++ entity ++ " is " ++ mode ++ ", not accepting commands"
  | .busy entity command => "entity " ++ entity ++ " is still persisting " ++ command
  | .store cause => Text.shown cause.wording
  | .chain cause => Text.shown cause.wording

/-- The wording of a fault. -/
def Fault.wording : Fault → List Text.Point
  | .store cause => cause.wording
  | .chain cause => cause.wording
  | fault => fault.message

/-- The failure of a handler: an event that does not fit a state, or a fault. -/
inductive Failure (S E : Type) where
  | illegalFold (state : S) (event : E)
  | fault (cause : Fault)
deriving DecidableEq

/-- The wording of a failure. -/
def Failure.message {S E : Type} [HasKind S] [HasKind E] : Failure S E → String
  | .illegalFold state event =>
    "unexpected event [" ++ kind event ++ "] in state [" ++ kind state ++ "]"
  | .fault cause => cause.message

/-- Arithmetic whose signals are faults. -/
def liftSignal {α : Type} (result : Except Decimal.Signal α) : Except Fault α :=
  result.mapError .arithmetic

end EventLedger
