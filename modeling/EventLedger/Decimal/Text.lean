import EventLedger.Decimal.Rounding
import EventLedger.Text.Blank
import EventLedger.Text.DecimalDigit

/-!
# Texts of decimals

A decimal has three texts. `text` shows sign, coefficient and exponent, so it can be read back to
the same decimal. `plain` never has an exponent. `canonical` is the plain text of the normal form
and is the same for equal numbers.

`parse?` reads a decimal exactly, without rounding: blanks around it and underscores anywhere are
skipped, and the digits may be of any script.
-/

namespace EventLedger.Decimal

open Text

/-- A minus sign for negative numbers. -/
def signChars (negative : Bool) : List Char :=
  if negative then ['-'] else []

/-- Digits with a point before the last `places` of them, and with zeros in front where the number
is below one. -/
def insertPoint (ds : List Char) (places : Nat) : List Char :=
  if places = 0 then ds
  else
    let padded := List.replicate (places + 1 - ds.length) '0' ++ ds
    let whole := padded.length - places
    padded.take whole ++ '.' :: padded.drop whole

/-- One digit, a point, the other digits and the exponent of the first digit. -/
def scientificChars (ds : List Char) (top : Int) : List Char :=
  let mantissa := match ds with
    | [] => []
    | [d] => [d]
    | d :: rest => d :: '.' :: rest
  mantissa ++ 'E' :: (if top < 0 then '-' else '+') :: natChars top.natAbs

/-- The text of an infinity. -/
def infiniteChars (negative : Bool) : List Char :=
  signChars negative ++ "Infinity".toList

/-- The text of a NaN, with its payload unless that is zero. -/
def nanChars (signaling negative : Bool) (payload : Nat) : List Char :=
  signChars negative ++ (if signaling then "sNaN" else "NaN").toList ++
    (if payload = 0 then [] else natChars payload)

/-- The text that shows how the decimal was written. It has an exponent when the decimal's own
exponent is positive or when the number is below a millionth. -/
def chars : Decimal → List Char
  | .infinite negative => infiniteChars negative
  | .nan signaling negative payload => nanChars signaling negative payload
  | .finite negative coefficient exponent =>
    signChars negative ++
      if exponent ≤ 0 ∧ -6 ≤ adjusted coefficient exponent then
        insertPoint (natChars coefficient) exponent.natAbs
      else scientificChars (natChars coefficient) (adjusted coefficient exponent)

/-- The text without an exponent. -/
def plainChars : Decimal → List Char
  | .infinite negative => infiniteChars negative
  | .nan signaling negative payload => nanChars signaling negative payload
  | .finite negative coefficient exponent =>
    signChars negative ++
      if exponent ≤ 0 then insertPoint (natChars coefficient) exponent.natAbs
      else natChars coefficient ++ List.replicate exponent.toNat '0'

/-- The text that shows how the decimal was written. -/
def text (a : Decimal) : String :=
  String.ofList a.chars

/-- The one text of a number: no exponent, no zeros at its end, and `0` for zero. -/
def canonical (a : Decimal) : Except Signal String := do
  if ← a.equals zero then
    return "0"
  return String.ofList (← a.normalize).plainChars

/-- The least exponent of a last digit that can be read. -/
def minReadUnit : Int := -1999999999999999997

/-- The greatest exponent of a leading digit that can be read. -/
def maxReadExponent : Int := 999999999999999999

/-- The decimal with these parts, if it is within reading range. -/
def ofParts? (negative : Bool) (coefficient : Nat) (exponent : Int) : Option Decimal :=
  if minReadUnit ≤ exponent ∧ adjusted coefficient exponent ≤ maxReadExponent then
    some (.finite negative coefficient exponent)
  else none

/-- A text whose digits, of whatever script, are in ASCII. -/
def asciiDigits (cs : List Char) : List Char :=
  cs.map fun c => ((digitValue? c).map digitChar).getD c

/-- A text in ASCII digits: the blanks around it and all underscores removed. -/
def plainInput (cs : List Char) : List Char :=
  asciiDigits ((strip cs).filter (· != '_'))

/-- A sign in front of a text, and the rest of the text. -/
def splitSign : List Char → Bool × List Char
  | '-' :: cs => (true, cs)
  | '+' :: cs => (false, cs)
  | cs => (false, cs)

/-- The exponent that follows the digits: nothing, or `E` and a signed number. -/
def readExponent? : List Char → Option Int
  | [] => some 0
  | c :: cs =>
    if c = 'e' ∨ c = 'E' then
      let (negative, ds) := splitSign cs
      if ds.isEmpty || !ds.all Char.isDigit then none
      else some (signed negative (ofChars ds))
    else none

/-- Digits with at most one point among them, then an exponent: the coefficient that the digits
make and the exponent of the last one. -/
def readParts? (cs : List Char) : Option (Nat × Int) :=
  let whole := cs.takeWhile Char.isDigit
  let rest := cs.dropWhile Char.isDigit
  let (places, rest) := match rest with
    | '.' :: rest => (rest.takeWhile Char.isDigit, rest.dropWhile Char.isDigit)
    | rest => ([], rest)
  if whole.isEmpty && places.isEmpty then none
  else (readExponent? rest).map fun e => (ofChars (whole ++ places), e - places.length)

/-- The finite decimal that a text without a sign denotes. -/
def readNumber? (negative : Bool) (cs : List Char) : Option Decimal :=
  (readParts? cs).bind fun p => ofParts? negative p.1 p.2

/-- The payload of a NaN: digits or nothing. -/
def readPayload? (signaling negative : Bool) (cs : List Char) : Option Decimal :=
  if cs.all Char.isDigit then some (.nan signaling negative (ofChars cs)) else none

/-- Reads a decimal in ASCII without blanks. -/
def readPlain? (cs : List Char) : Option Decimal :=
  let (negative, body) := splitSign cs
  match body.map Char.toLower with
  | ['i', 'n', 'f'] => some (.infinite negative)
  | ['i', 'n', 'f', 'i', 'n', 'i', 't', 'y'] => some (.infinite negative)
  | 'n' :: 'a' :: 'n' :: payload => readPayload? false negative payload
  | 's' :: 'n' :: 'a' :: 'n' :: payload => readPayload? true negative payload
  | _ => readNumber? negative body

/-- Reads a decimal exactly as it is written. -/
def parse? (s : String) : Option Decimal :=
  readPlain? (plainInput s.toList)

/-- Reads a decimal; a text that is none has no meaningful result. -/
def parse (s : String) : Except Signal Decimal :=
  match parse? s with
  | some d => .ok d
  | none => .error .invalidOperation

end EventLedger.Decimal
