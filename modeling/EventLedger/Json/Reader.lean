import EventLedger.Value.Key

/-!
# Reading documents

`read` turns a text into a `Value`. Numbers with a fraction or an exponent are doubles, all others
whole numbers of any size; `NaN`, `Infinity` and `-Infinity` are numbers too. A name that occurs
twice in an object keeps its first place and its last value. A text may hold halves of characters:
an escape of a half without its partner, or the half itself.

Every reader takes the code points that are left and returns what it read with the code points after
it. A failure is a `Stop`: its cause and how many code points were left at its place.
-/

namespace EventLedger.Json

open Text (Point)

/-- A failure to read: the cause and the number of code points left at its place. -/
structure Stop where
  cause : Cause
  left : Nat

/-- Stops in front of the given code points. -/
def stopAt {α : Type} (cause : Cause) (ps : List Point) : Except Stop α :=
  .error ⟨cause, ps.length⟩

/-- The blanks between the parts of a document. -/
def isSpace (p : Point) : Bool :=
  p == .char ' ' || p == .char '\t' || p == .char '\n' || p == .char '\r'

/-- The code points after the blanks in front. -/
def skipSpace (ps : List Point) : List Point :=
  ps.dropWhile isSpace

/-- The value of a digit in base sixteen. -/
def hexDigit? (p : Point) : Option Nat :=
  p.char?.bind Text.hexDigit?

/-- The number written by four digits in base sixteen. -/
def codeUnit? (a b c d : Point) : Option Nat := do
  let a ← hexDigit? a
  let b ← hexDigit? b
  let c ← hexDigit? c
  let d ← hexDigit? d
  return ((a * 16 + b) * 16 + c) * 16 + d

/-- The character of a short escape. -/
def escaped? : Point → Option Char
  | .char '"' => some '"'
  | .char '\\' => some '\\'
  | .char '/' => some '/'
  | .char 'b' => some '\x08'
  | .char 'f' => some '\x0c'
  | .char 'n' => some '\n'
  | .char 'r' => some '\r'
  | .char 't' => some '\t'
  | _ => none

/-- Whether a code unit is the first half of a pair. -/
def isHighSurrogate (u : Nat) : Bool :=
  0xD800 ≤ u && u ≤ 0xDBFF

/-- Whether a code unit is the second half of a pair. -/
def isLowSurrogate (u : Nat) : Bool :=
  0xDC00 ≤ u && u ≤ 0xDFFF

/-- The character of a pair of code units. -/
def pairChar (u v : Nat) : Char :=
  Char.ofNat (0x10000 + (u - 0xD800) * 0x400 + (v - 0xDC00))

/-- Puts a code point in front of what was read. -/
def consPoint (p : Point) (result : Except Stop (List Point × List Point)) :
    Except Stop (List Point × List Point) :=
  result.map fun r => (p :: r.1, r.2)

/-- Reads the rest of a text after its opening quote, in front of which `opening` code points were
left. -/
def readString (opening : Nat) : List Point → Except Stop (List Point × List Point)
  | [] => .error ⟨.unterminatedString, opening⟩
  | .char '"' :: rest => .ok ([], rest)
  | [.char '\\'] => .error ⟨.unterminatedString, opening⟩
  | .char '\\' :: .char 'u' :: a :: b :: c :: d :: e :: rest =>
    match codeUnit? a b c d with
    | none => .error ⟨.badCodePoint, rest.length + 6⟩
    | some u =>
      if isHighSurrogate u && e == .char '\\' then
        match rest with
        | .char 'u' :: a' :: b' :: c' :: d' :: e' :: rest' =>
          match codeUnit? a' b' c' d' with
          | none => .error ⟨.badCodePoint, rest'.length + 6⟩
          | some v =>
            if isLowSurrogate v then
              consPoint (.char (pairChar u v)) (readString opening (e' :: rest'))
            else
              consPoint (.ofNat u)
                (readString opening (e :: .char 'u' :: a' :: b' :: c' :: d' :: e' :: rest'))
        | rest => consPoint (.ofNat u) (readString opening (e :: rest))
      else consPoint (.ofNat u) (readString opening (e :: rest))
  | .char '\\' :: .char 'u' :: rest => .error ⟨.badCodePoint, rest.length + 1⟩
  | .char '\\' :: p :: rest =>
    match escaped? p with
    | some c => consPoint (.char c) (readString opening rest)
    | none => .error ⟨.unknownEscape, rest.length + 2⟩
  | p :: rest =>
    if p.toNat < 0x20 then .error ⟨.controlCharacter, rest.length + 1⟩
    else consPoint p (readString opening rest)

/-- The digits in front, and what follows them. -/
def splitDigits : List Point → List Char × List Point
  | .char c :: ps =>
    if c.isDigit then
      let (ds, rest) := splitDigits ps
      (c :: ds, rest)
    else ([], .char c :: ps)
  | ps => ([], ps)

/-- A point and digits in front, if both are there, and what follows. -/
def splitFraction (ps : List Point) : List Char × List Point :=
  match ps with
  | .char '.' :: rest =>
    match splitDigits rest with
    | ([], _) => ([], ps)
    | (ds, rest) => (ds, rest)
  | _ => ([], ps)

/-- The sign in front of an exponent, and what follows it. -/
def splitSign : List Point → Bool × List Point
  | .char '-' :: rest => (true, rest)
  | .char '+' :: rest => (false, rest)
  | rest => (false, rest)

/-- An exponent in front, if it has a digit, and what follows. -/
def splitExponent (ps : List Point) : Option Int × List Point :=
  match ps with
  | [] => (none, ps)
  | p :: rest =>
    if p == .char 'e' || p == .char 'E' then
      let (negative, rest) := splitSign rest
      match splitDigits rest with
      | ([], _) => (none, ps)
      | (ds, rest) => (some (Decimal.signed negative (Text.ofChars ds)), rest)
    else (none, ps)

/-- Reads the part of a number after its sign. -/
def readUnsigned (negative : Bool) (ps : List Point) : Option (Value × List Point) :=
  let (whole, rest) := match ps with
    | .char '0' :: rest => (['0'], rest)
    | ps => splitDigits ps
  if whole.isEmpty then none
  else
    let (places, rest) := splitFraction rest
    let (exponent, rest) := splitExponent rest
    if places.isEmpty && exponent.isNone then
      some (.int (Decimal.signed negative (Text.ofChars whole)), rest)
    else
      some (.double (Double.ofDecimal negative (Text.ofChars (whole ++ places))
        (exponent.getD 0 - places.length)), rest)

/-- Reads a number or one of the three words for numbers that are not finite. -/
def readNumber (ps : List Point) : Option (Value × List Point) :=
  match ps with
  | .char 'N' :: .char 'a' :: .char 'N' :: rest => some (.double .nan, rest)
  | .char 'I' :: .char 'n' :: .char 'f' :: .char 'i' :: .char 'n' :: .char 'i' :: .char 't' ::
      .char 'y' :: rest =>
    some (.double (.infinite false), rest)
  | .char '-' :: .char 'I' :: .char 'n' :: .char 'f' :: .char 'i' :: .char 'n' :: .char 'i' ::
      .char 't' :: .char 'y' :: rest =>
    some (.double (.infinite true), rest)
  | .char '-' :: rest => readUnsigned true rest
  | ps => readUnsigned false ps

/-! ## Values -/

/-- An object with the given members: each name has its first place and its last value. -/
def object (members : List (Value × Value)) : Value :=
  .map (members.foldl (fun entries m => Value.insert m.1 m.2 entries) [])

mutual

/-- Reads a value at the first code point. `fuel` bounds the number of nested calls. -/
def readValue : (fuel : Nat) → List Point → Except Stop (Value × List Point)
  | 0, ps => stopAt .expectingValue ps
  | fuel + 1, ps =>
    match ps with
    | .char '"' :: rest => (readString ps.length rest).map fun r => (.ofPoints r.1, r.2)
    | .char '\x7b' :: rest =>
      match skipSpace rest with
      | .char '\x7d' :: rest => .ok (.map [], rest)
      | rest => (readMembers fuel rest).map fun r => (object r.1, r.2)
    | .char '[' :: rest =>
      match skipSpace rest with
      | .char ']' :: rest => .ok (.list [], rest)
      | rest => (readItems fuel rest).map fun r => (.list r.1, r.2)
    | .char 'n' :: .char 'u' :: .char 'l' :: .char 'l' :: rest => .ok (.null, rest)
    | .char 't' :: .char 'r' :: .char 'u' :: .char 'e' :: rest => .ok (.bool true, rest)
    | .char 'f' :: .char 'a' :: .char 'l' :: .char 's' :: .char 'e' :: rest =>
      .ok (.bool false, rest)
    | ps =>
      match readNumber ps with
      | some r => .ok r
      | none => stopAt .expectingValue ps

/-- Reads the items of a list up to its end. -/
def readItems : (fuel : Nat) → List Point → Except Stop (List Value × List Point)
  | 0, ps => stopAt .expectingValue ps
  | fuel + 1, ps => do
    let (item, rest) ← readValue fuel ps
    match skipSpace rest with
    | .char ']' :: rest => return ([item], rest)
    | .char ',' :: rest =>
      let (items, rest) ← readItems fuel (skipSpace rest)
      return (item :: items, rest)
    | rest => stopAt .expectingComma rest

/-- Reads the members of an object up to its end. -/
def readMembers : (fuel : Nat) → List Point → Except Stop (List (Value × Value) × List Point)
  | 0, ps => stopAt .expectingName ps
  | fuel + 1, ps =>
    match ps with
    | .char '"' :: rest => do
      let (name, rest) ← readString ps.length rest
      match skipSpace rest with
      | .char ':' :: rest =>
        let (v, rest) ← readValue fuel (skipSpace rest)
        match skipSpace rest with
        | .char '\x7d' :: rest => return ([(.ofPoints name, v)], rest)
        | .char ',' :: rest =>
          let (members, rest) ← readMembers fuel (skipSpace rest)
          return ((.ofPoints name, v) :: members, rest)
        | rest => stopAt .expectingComma rest
      | rest => stopAt .expectingColon rest
    | ps => stopAt .expectingName ps

end

/-- Reads one value and the blanks around it, and nothing else. -/
def readAll (ps : List Point) : Except Stop Value := do
  let (v, rest) ← readValue (2 * ps.length + 2) (skipSpace ps)
  match skipSpace rest with
  | [] => return v
  | rest => stopAt .extraData rest

/-- The document that the code points are. -/
def readPoints (ps : List Point) : Except SyntaxError Value :=
  match readAll ps with
  | .ok v => .ok v
  | .error stop => .error (.after stop.cause (ps.take (ps.length - stop.left)))

/-- The document that a text is. A text has no byte order mark. -/
def read (s : String) : Except SyntaxError Value :=
  match s.toList with
  | '\uFEFF' :: _ => .error (.after .byteOrderMark [])
  | cs => readPoints (Text.chars cs)

end EventLedger.Json
