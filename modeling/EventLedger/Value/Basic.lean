import EventLedger.Double.Text
import EventLedger.Text.Point

/-!
# Documents

A `Value` is what the log stores, what a state is hashed as, and what a stored line holds when it is
read: absent, truth values, whole numbers, doubles, decimals, texts, bytes, sequences and maps. A
text with a half of a character in it is a value of its own (`broken`). A map keeps its entries in
the order of insertion; its keys may be any value that can be a key.
-/

namespace EventLedger

/-- A document. -/
inductive Value where
  | null
  | bool (b : Bool)
  | int (i : Int)
  | double (d : Double)
  | decimal (d : Decimal)
  | str (s : String)
  | broken (b : Text.Broken)
  | bytes (bs : List UInt8)
  | list (items : List Value)
  | tuple (items : List Value)
  | map (entries : List (Value × Value))
deriving Inhabited

namespace Value

/-- The text of the given code points. -/
def ofPoints (ps : List Text.Point) : Value :=
  match h : Text.chars? ps with
  | some cs => .str (String.ofList cs)
  | none => .broken ⟨ps, h⟩

@[simp] theorem ofPoints_chars (cs : List Char) :
    ofPoints (Text.chars cs) = .str (String.ofList cs) := by
  unfold ofPoints
  split
  next found => rw [Text.chars?_chars] at found; rw [Option.some.inj found]
  next none => rw [Text.chars?_chars] at none; cases none

@[simp] theorem ofPoints_coe (s : String) : ofPoints s = .str s := by
  rw [ofPoints_chars, String.ofList_toList]

/-- A map whose keys are texts. -/
def record (fields : List (String × Value)) : Value :=
  .map (fields.map fun f => (.str f.1, f.2))

/-- The value is the text `s`. -/
def isStr (s : String) : Value → Bool
  | .str t => s == t
  | _ => false

/-- The entry of a map under a text key. -/
def get? (key : String) : List (Value × Value) → Option Value
  | [] => none
  | (k, v) :: entries => if k.isStr key then some v else get? key entries

/-- The value under `key`, if this is a map with such an entry. -/
def field? (key : String) : Value → Option Value
  | .map entries => get? key entries
  | _ => none

/-- Whether a value counts as absent when a default is at hand: nothing, zero and everything empty.
-/
def isVoid : Value → Bool
  | .null => true
  | .bool b => !b
  | .int i => i == 0
  | .double (.finite _ significand _) => significand == 0
  | .double _ => false
  | .decimal (.finite _ coefficient _) => coefficient == 0
  | .decimal _ => false
  | .str s => s.isEmpty
  | .broken _ => false
  | .bytes bs => bs.isEmpty
  | .list items => items.isEmpty
  | .tuple items => items.isEmpty
  | .map entries => entries.isEmpty

end Value

end EventLedger
