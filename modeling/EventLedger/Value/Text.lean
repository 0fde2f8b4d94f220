import EventLedger.Text.Quoted
import EventLedger.Value.Basic

/-!
# Documents in messages

`literal` writes a value so that its type shows: texts are quoted, sequences and maps have their
brackets, absent and truth values their words. `points` is the same except that a text stands for
itself; `text` shows it, with escapes for halves of characters.
-/

namespace EventLedger.Value

open Text

/-- The literal of a byte in a quoted sequence of bytes. -/
def byteChars (quote : Char) (b : UInt8) : List Char :=
  let c := Char.ofNat b.toNat
  if c == quote || c == '\\' then ['\\', c]
  else if c == '\n' then ['\\', 'n']
  else if c == '\t' then ['\\', 't']
  else if c == '\r' then ['\\', 'r']
  else if 0x20 ≤ b && b < 0x7F then [c]
  else '\\' :: 'x' :: hexChars 2 b.toNat

/-- The literal of a sequence of bytes. -/
def bytesLiteral (bs : List UInt8) : String :=
  let quote := quoteMark (bs.map fun b => Char.ofNat b.toNat)
  String.ofList ('b' :: quote :: bs.flatMap (byteChars quote) ++ [quote])

/-- Items between brackets. -/
def bracket (opening closing : String) (items : List String) : String :=
  opening ++ String.intercalate ", " items ++ closing

mutual

/-- The literal of a value. -/
def literal : Value → String
  | .null => "None"
  | .bool b => if b then "True" else "False"
  | .int i => intText i
  | .double d => String.ofList (d.chars .message)
  | .decimal d => "Decimal('" ++ d.text ++ "')"
  | .str s => quoted s
  | .broken b => quotedPoints b.points
  | .bytes bs => bytesLiteral bs
  | .list items => bracket "[" "]" (literals items)
  | .tuple items =>
    match literals items with
    | [item] => "(" ++ item ++ ",)"
    | items => bracket "(" ")" items
  | .map entries => bracket "\x7b" "\x7d" (entryLiterals entries)

/-- The literals of the items of a sequence. -/
def literals : List Value → List String
  | [] => []
  | v :: vs => literal v :: literals vs

/-- The literals of the entries of a map. -/
def entryLiterals : List (Value × Value) → List String
  | [] => []
  | (k, v) :: entries => (literal k ++ ": " ++ literal v) :: entryLiterals entries

end

/-- The code points of the text of a value. -/
def points : Value → List Point
  | .str s => s
  | .broken b => b.points
  | .decimal d => d.text
  | v => literal v

/-- The text of a value, as it is shown. -/
def text : Value → String
  | .str s => s
  | v => shown v.points

end EventLedger.Value
