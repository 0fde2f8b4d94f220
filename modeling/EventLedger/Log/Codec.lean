import EventLedger.Canonical
import EventLedger.Decimal.OfValue

/-!
# Stored forms of events

A `Codec` knows events by the names they are stored under. An event is stored as its name and a
payload: its fields in canonical form. `decode` reads an event from a payload, field by field, by
the class that is registered under the name.
-/

namespace EventLedger

/-- Events with named fields. -/
class HasFields (E : Type) extends HasKind E where
  fields : E → List (String × Value)

/-- A field of a class of events. -/
structure Field where
  name : String
  /-- Whether the field holds a decimal, which is stored as a text. -/
  isDecimal : Bool := false
deriving DecidableEq

/-- A class of events: its kind, its fields, and the event with given fields. -/
structure EventClass (E : Type) where
  kind : Kind
  fields : List Field
  build : List (String × Value) → Except Fault E

/-- Reads an event from a payload. -/
abbrev Decoder (E : Type) := Value → Except Fault E

/-- Whether a text occurs in another. -/
def occursIn (needle : List Text.Point) : List Text.Point → Bool
  | [] => needle.isEmpty
  | p :: ps => needle.isPrefixOf (p :: ps) || occursIn needle ps

/-- The entry of a payload under a field's name, if there is one. A payload that can be searched but
has no named entries may only lack the field. -/
def payloadEntry? (name : String) : Value → Except Fault (Option Value)
  | .map entries => .ok (Value.get? name entries)
  | .list items | .tuple items =>
    if items.any (·.isStr name) then .error .mistyped else .ok none
  | .str s => if occursIn name s then .error .mistyped else .ok none
  | .broken b => if occursIn name b.points then .error .mistyped else .ok none
  | _ => .error .mistyped

/-- The fields that a payload has. -/
def readFields (payload : Value) : List Field → Except Fault (List (String × Value))
  | [] => .ok []
  | field :: fields => do
    match ← payloadEntry? field.name payload with
    | none => readFields payload fields
    | some v =>
      let v ← if field.isDecimal then Value.decimal <$> Decimal.ofValue v else .ok v
      return (field.name, v) :: (← readFields payload fields)

/-- The decoder that reads the fields of a class. -/
def EventClass.decoder {E : Type} (c : EventClass E) : Decoder E := fun payload => do
  c.build (← readFields payload c.fields)

/-- The names of events and the decoders of names. -/
structure Codec (E : Type) where
  decoders : Registry String (Decoder E) := []
  names : Registry Kind String := []

/-- What one may try to register under a name. -/
inductive Registrable (E : Type) where
  | event (eventClass : EventClass E)
  /-- A kind that is no class of events. -/
  | other (kind : Kind)

namespace Codec

variable {E : Type}

/-- Registers a class of events under a name, with a decoder of its own if one is given. -/
def add (codec : Codec E) (name : String) (c : EventClass E) (decoder : Option (Decoder E)) :
    Codec E where
  decoders := Registry.set name (decoder.getD c.decoder) codec.decoders
  names := Registry.set c.kind name codec.names

/-- Registers a class of events under a name; nothing else can be registered. -/
def register (codec : Codec E) (name : String) (entry : Registrable E)
    (decoder : Option (Decoder E)) : Except Fault (Codec E) :=
  match entry with
  | .event c => .ok (codec.add name c decoder)
  | .other kind => .error (.notAnEvent kind)

/-- The name and the payload of an event. -/
def encode [HasFields E] (codec : Codec E) (event : E) : Except Fault (String × Value) :=
  match Registry.get? (kind event) codec.names with
  | none => .error (.store (.unregisteredEvent (kind event)))
  | some name => do return (name, ← (Value.record (HasFields.fields event)).canonicalize)

/-- The event with a name and a payload. -/
def decode (codec : Codec E) (name : String) (payload : Value) : Except Fault E :=
  match Registry.get? name codec.decoders with
  | none => .error (.store (.unknownEvent name))
  | some decoder => decoder (if payload.isVoid then .map [] else payload)

/-- The event with a name as it is stored, which may be any value. -/
def decodeStored (codec : Codec E) (name payload : Value) : Except Fault E :=
  match name with
  | .str name => codec.decode name payload
  | name =>
    if name.isKey then .error (.store (.unknownEvent name.points)) else .error .mistyped

end Codec

end EventLedger
