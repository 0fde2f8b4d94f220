import EventLedger.Decimal.Text
import EventLedger.Json.Writer

/-!
# Canonical documents

Values that mean the same have one text, and so one hash: maps are written in the order of their
keys, tuples as lists, and decimals as the canonical text of their number. A value with a half of a
character in it has no canonical text, because that text has no bytes.
-/

namespace EventLedger

namespace Value

mutual

/-- The value in canonical form. -/
def canonicalize : Value → Except Fault Value
  | .map entries => do
    let entries ← sortByKey (canonicalEntries entries)
    return .map (← entries.mapM fun e => do return (e.1, ← e.2))
  | .list items | .tuple items => do return .list (← canonicalItems items)
  | .decimal d => do return .str (← liftSignal d.canonical)
  | v => .ok v

/-- The items of a sequence in canonical form. -/
def canonicalItems : List Value → Except Fault (List Value)
  | [] => .ok []
  | v :: vs => do return (← canonicalize v) :: (← canonicalItems vs)

/-- The entries of a map, each value in canonical form or as the fault that stops it. -/
def canonicalEntries : List (Value × Value) → List (Value × Except Fault Value)
  | [] => []
  | (k, v) :: entries => (k, canonicalize v) :: canonicalEntries entries

end

/-- The code points of the canonical document. -/
def canonicalPoints (v : Value) : Except Fault (List Text.Point) := do
  Json.write .compact (← v.canonicalize)

/-- The characters of the canonical text. -/
def canonicalChars (v : Value) : Except Fault (List Char) := do
  Json.wholeText (← v.canonicalPoints)

/-- The canonical text of a value. -/
def canonicalText (v : Value) : Except Fault String :=
  return String.ofList (← v.canonicalChars)

/-- The bytes of the canonical text. -/
def canonicalBytes (v : Value) : Except Fault (List UInt8) :=
  return Text.encode (← v.canonicalChars)

end Value

end EventLedger
