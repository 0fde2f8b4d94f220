import EventLedger.Fault

/-!
# Decimals from stored values

A stored amount is a text. A number is taken as exactly the number that it is, and a list of sign,
digits and exponent as the decimal with these parts.
-/

namespace EventLedger.Decimal

/-- Whole numbers that fit into a machine word. -/
def fitsMachine (i : Int) : Bool :=
  -9223372036854775808 ≤ i && i ≤ 9223372036854775807

/-- The whole number that a value is; truth values count as zero and one. -/
def wholeOf? : Value → Option Int
  | .int i => some i
  | .bool b => some (if b then 1 else 0)
  | _ => none

/-- The third part of a decimal: its exponent, or a word for what is no number. -/
inductive Tail where
  | exponent (e : Int)
  | infinite
  | nan (signaling : Bool)

/-- Reads the sign. -/
def signOf (v : Value) : Except Fault Bool :=
  match wholeOf? v with
  | none => .error (.invalid .signPart)
  | some i =>
    if !fitsMachine i then .error .beyondRange
    else if i = 0 then .ok false
    else if i = 1 then .ok true
    else .error (.invalid .signPart)

/-- Reads the third part. -/
def tailOf (v : Value) : Except Fault Tail :=
  match v with
  | .str "F" => .ok .infinite
  | .str "n" => .ok (.nan false)
  | .str "N" => .ok (.nan true)
  | .str _ | .broken _ => .error (.invalid .exponentWord)
  | v =>
    match wholeOf? v with
    | none => .error (.invalid .exponentPart)
    | some i => if fitsMachine i then .ok (.exponent i) else .error .beyondRange

/-- Reads one digit. -/
def digitOf (v : Value) : Except Fault Nat :=
  match wholeOf? v with
  | none => .error (.invalid .digitsPart)
  | some i =>
    if !fitsMachine i then .error .beyondRange
    else if 0 ≤ i ∧ i ≤ 9 then .ok i.toNat
    else .error (.invalid .digitsPart)

/-- Reads the digits. -/
def digitsOf (v : Value) : Except Fault (List Nat) :=
  match v with
  | .list items | .tuple items => items.mapM digitOf
  | _ => .error (.invalid .digitsPart)

/-- The decimal with the given parts. -/
def ofTriple (sign digits tail : Value) : Except Fault Decimal := do
  let negative ← signOf sign
  let tail ← tailOf tail
  let coefficient := Text.ofDigits (← digitsOf digits)
  match tail with
  | .infinite => return .infinite negative
  | .nan signaling => return .nan signaling negative coefficient
  | .exponent e =>
    match ofParts? negative coefficient e with
    | some d => return d
    | none => throw (.arithmetic .invalidOperation)

/-- The decimal that a stored value denotes. -/
def ofValue : Value → Except Fault Decimal
  | .str s => liftSignal (parse s)
  | .broken _ => .error (.arithmetic .invalidOperation)
  | .int i => .ok (.ofInt i)
  | .bool b => .ok (.ofInt (if b then 1 else 0))
  | .double d => .ok d.toDecimal
  | .decimal d => .ok d
  | .list [sign, digits, tail] | .tuple [sign, digits, tail] => ofTriple sign digits tail
  | .list _ | .tuple _ => .error (.invalid .partCount)
  | _ => .error .mistyped

end EventLedger.Decimal
