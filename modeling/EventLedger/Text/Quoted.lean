import EventLedger.Text.Point
import EventLedger.Text.Printable

/-!
# Quoted text

A literal for a text, used where a message has to show a text exactly. The quotes are single unless
the text has a single quote and no double one; backslash and the chosen quote are escaped, line ends
and tabs have short escapes, and a character without a shape of its own, or a half of one, is
written by its code point.
-/

namespace EventLedger.Text

/-- The quote around a literal of the text. -/
def quoteMark (cs : List Char) : Char :=
  if cs.contains '\'' && !cs.contains '"' then '"' else '\''

/-- One character inside a literal with the given quote. -/
def quoteChar (quote c : Char) : List Char :=
  if c == quote || c == '\\' then ['\\', c]
  else if c == '\n' then ['\\', 'n']
  else if c == '\t' then ['\\', 't']
  else if c == '\r' then ['\\', 'r']
  else if isPrintable c then [c]
  else if c.toNat < 0x100 then '\\' :: 'x' :: hexChars 2 c.toNat
  else if c.toNat < 0x10000 then '\\' :: 'u' :: hexChars 4 c.toNat
  else '\\' :: 'U' :: hexChars 8 c.toNat

/-- One code point inside a literal with the given quote. -/
def quotePoint (quote : Char) : Point → List Char
  | .char c => quoteChar quote c
  | .half h => h.escape

/-- A literal for a text of code points, with its quotes. -/
def quotedPoints (ps : List Point) : String :=
  let quote := quoteMark (ps.filterMap Point.char?)
  String.ofList (quote :: ps.flatMap (quotePoint quote) ++ [quote])

/-- A literal for the text, with its quotes. -/
def quoted (s : String) : String :=
  quotedPoints s

end EventLedger.Text
