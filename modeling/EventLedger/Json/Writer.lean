import EventLedger.Value.Key

/-!
# Writing documents

`write` turns a value into the text of a document. A `Style` says how parts are separated, whether
characters outside of ASCII are escaped and whether the members of objects are put in order. Whole
numbers of any size are written. A number, truth value or absent value as a name is written as a
text; decimals, bytes and all other names have no written form. A half of a character is written as
it is unless it is escaped, so that a text may result that has no bytes.
-/

namespace EventLedger.Json

open Text

/-- How documents are written. -/
structure Style where
  comma : String
  colon : String
  /-- Write characters outside of ASCII as escapes. -/
  asciiOnly : Bool
  /-- Put the members of objects in the order of their names. -/
  sorted : Bool

/-- The one form of a stored document: in order, and without blanks. -/
def Style.compact : Style := ⟨",", ":", false, true⟩

/-- The form of a document that is shown. -/
def Style.shown (sorted : Bool) : Style := ⟨", ", ": ", true, sorted⟩

/-- The escape of a code unit. -/
def unitEscape (u : Nat) : List Char :=
  '\\' :: 'u' :: hexChars 4 u

/-- One character inside quotes. -/
def writeChar (asciiOnly : Bool) (c : Char) : List Char :=
  if c == '"' then ['\\', '"']
  else if c == '\\' then ['\\', '\\']
  else if c == '\n' then ['\\', 'n']
  else if c == '\r' then ['\\', 'r']
  else if c == '\t' then ['\\', 't']
  else if c == '\x0c' then ['\\', 'f']
  else if c == '\x08' then ['\\', 'b']
  else if c.toNat < 0x20 then unitEscape c.toNat
  else if !asciiOnly || c.toNat < 0x7F then [c]
  else if c.toNat < 0x10000 then unitEscape c.toNat
  else
    let n := c.toNat - 0x10000
    unitEscape (0xD800 + n / 0x400) ++ unitEscape (0xDC00 + n % 0x400)

/-- One code point inside quotes. -/
def writePoint (asciiOnly : Bool) : Point → List Point
  | .char c => chars (writeChar asciiOnly c)
  | .half h => if asciiOnly then chars (unitEscape h.toNat) else [.half h]

/-- A text in quotes. -/
def writeString (asciiOnly : Bool) (ps : List Point) : List Point :=
  .char '"' :: ps.flatMap (writePoint asciiOnly) ++ [.char '"']

/-- Texts with a separator between them. -/
def join (separator : String) (parts : List (List Point)) : List Point :=
  (parts.intersperse (chars separator.toList)).flatten

/-- The text of a key as a name. -/
def namePoints? : Value → Option (List Point)
  | .str s => some s
  | .broken b => some b.points
  | .null => some "null"
  | .bool b => some (if b then "true" else "false")
  | .int i => some (chars (intChars i))
  | .double d => some (chars (d.chars .document))
  | _ => none

/-- One member of an object. -/
def writeMember (style : Style) (key : Value) (body : List Point) : Except Fault (List Point) :=
  match namePoints? key with
  | some name => .ok (writeString style.asciiOnly name ++ style.colon ++ body)
  | none => .error .mistyped

mutual

/-- The code points of a document. -/
def write (style : Style) : Value → Except Fault (List Point)
  | .null => .ok "null"
  | .bool b => .ok (if b then "true" else "false")
  | .int i => .ok (chars (intChars i))
  | .double d => .ok (chars (d.chars .document))
  | .str s => .ok (writeString style.asciiOnly s)
  | .broken b => .ok (writeString style.asciiOnly b.points)
  | .list items | .tuple items => do
    return .char '[' :: join style.comma (← writeItems style items) ++ [.char ']']
  | .map entries => do
    let entries ← if style.sorted then Value.sortByKey (writeEntries style entries)
      else .ok (writeEntries style entries)
    let members ← entries.mapM fun e => do writeMember style e.1 (← e.2)
    return .char '\x7b' :: join style.comma members ++ [.char '\x7d']
  | .decimal _ | .bytes _ => .error .mistyped

/-- The code points of the items of a list. -/
def writeItems (style : Style) : List Value → Except Fault (List (List Point))
  | [] => .ok []
  | v :: vs => do return (← write style v) :: (← writeItems style vs)

/-- The entries of a map, each value as its code points or as the fault that stops it. -/
def writeEntries (style : Style) : List (Value × Value) → List (Value × Except Fault (List Point))
  | [] => []
  | (k, v) :: entries => (k, write style v) :: writeEntries style entries

end

/-- The characters of a text that has to have bytes. -/
def wholeText (ps : List Point) : Except Fault (List Char) :=
  (encodable ps).mapError fun error => .encoding (.encoding error)

/-- The text of a document as it is shown. -/
def show? (sorted : Bool) (v : Value) : Except Fault String := do
  return String.ofList (← wholeText (← write (.shown sorted) v))

end EventLedger.Json
