import EventLedger.Text.Point

/-!
# Where a document breaks off

A text that is no document is reported by what was expected and by the place: line, column and
offset of the first character that does not fit.
-/

namespace EventLedger.Json

/-- What is wrong with a text that is no document. -/
inductive Cause where
  | byteOrderMark
  | expectingValue
  | expectingName
  | expectingColon
  | expectingComma
  | extraData
  | unterminatedString
  | controlCharacter
  | unknownEscape
  | badCodePoint
deriving DecidableEq

/-- The words for a cause. -/
def Cause.words : Cause → String
  | .byteOrderMark => "Unexpected UTF-8 BOM (decode using utf-8-sig)"
  | .expectingValue => "Expecting value"
  | .expectingName => "Expecting property name enclosed in double quotes"
  | .expectingColon => "Expecting ':' delimiter"
  | .expectingComma => "Expecting ',' delimiter"
  | .extraData => "Extra data"
  | .unterminatedString => "Unterminated string starting at"
  | .controlCharacter => "Invalid control character at"
  | .unknownEscape => "Invalid \\escape"
  | .badCodePoint => "Invalid \\uXXXX escape"

/-- A cause and its place. -/
structure SyntaxError where
  cause : Cause
  /-- The line, counted from one. -/
  line : Nat
  /-- The column, counted from one. -/
  column : Nat
  /-- The number of characters before the place. -/
  offset : Nat
deriving DecidableEq

/-- The place after the given code points. -/
def SyntaxError.after (cause : Cause) (before : List Text.Point) : SyntaxError where
  cause := cause
  line := before.count (.char '\n') + 1
  column := (before.reverse.takeWhile (· != .char '\n')).length + 1
  offset := before.length

/-- The message for a text that is no document. -/
def SyntaxError.message (e : SyntaxError) : String :=
  e.cause.words ++ ": line " ++ Text.natText e.line ++ " column " ++ Text.natText e.column ++
    " (char " ++ Text.natText e.offset ++ ")"

end EventLedger.Json
