import EventLedger.Fault

/-!
# Requests and replies

A command says by its type whether every handled command must be answered (`enforced`) and which
replies it accepts. A `Request` is a command with the channel that its reply goes to; one that is
enforced has a channel.

A `ReplyBox` is a channel that keeps what it is given. Once it is cancelled it keeps replies apart,
as discarded.
-/

namespace EventLedger

/-- What an engine has to know of commands and of the replies to them. -/
class CommandType (C : Type) (R : outParam Type) extends HasKind C where
  /-- Whether the command must be answered. -/
  enforced : C → Bool
  /-- Whether a reply is of the type that the command declares. -/
  accepts : C → R → Bool
  /-- The name of the declared type of replies. -/
  expected : C → String

/-- A way to hand over a reply: it may change the world, and may fail for a reason. It comes
back in either case: an exit or an interrupt of the whole program, which passes through every
delivery, is not among the channels. -/
abbrev Channel (W R : Type) := R → W → Option String × W

/-- A command together with the channel for its reply. -/
structure Request (W C R : Type) [CommandType C R] where
  command : C
  channel : Option (Channel W R)
  /-- A command that must be answered has a channel. -/
  answerable : CommandType.enforced command = true → channel.isSome = true

namespace Request

variable {W C R : Type} [CommandType C R]

/-- A command with a channel, or without one if the command does not need it. -/
def make (command : C) (channel : Option (Channel W R)) : Except Fault (Request W C R) :=
  if h : CommandType.enforced command = true → channel.isSome = true then .ok ⟨command, channel, h⟩
  else .error (.invalid (.noChannel (kind command)))

/-- Hands a reply to the channel; without a channel it is dropped. -/
def deliver (request : Request W C R) (reply : R) (world : W) : Option String × W :=
  match request.channel with
  | some channel => channel reply world
  | none => (none, world)

end Request

/-- A channel that keeps the replies it is given. -/
structure ReplyBox (R : Type) where
  replies : List R := []
  /-- The replies given after the caller had left. -/
  discarded : List R := []
  cancelled : Bool := false

namespace ReplyBox

variable {R : Type}

/-- Takes a reply. -/
def deliver (box : ReplyBox R) (reply : R) : ReplyBox R :=
  if box.cancelled then { box with discarded := box.discarded ++ [reply] }
  else { box with replies := box.replies ++ [reply] }

/-- The caller leaves. -/
def cancel (box : ReplyBox R) : ReplyBox R :=
  { box with cancelled := true }

/-- The single reply that was taken. -/
def reply (box : ReplyBox R) : Except Fault R :=
  match box.replies with
  | [reply] => .ok reply
  | replies => .error (.replyCount replies.length)

end ReplyBox

end EventLedger
