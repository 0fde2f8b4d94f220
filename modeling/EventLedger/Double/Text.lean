import EventLedger.Decimal.Text
import EventLedger.Double.Shortest

/-!
# Texts of doubles

A double is written with the fewest digits that read back: with a point from 0.0001 up to 10 ^ 16,
and with an exponent of at least two digits outside of that. Documents and messages spell the values
that are no numbers differently, so a `Spelling` says how. `parse?` reads any text of a number.
-/

namespace EventLedger.Double

open Text

/-- The words for the values that are no finite numbers. -/
structure Spelling where
  nan : String
  infinity : String

/-- The words in documents. -/
def Spelling.document : Spelling := ⟨"NaN", "Infinity"⟩

/-- The words in messages. -/
def Spelling.message : Spelling := ⟨"nan", "inf"⟩

/-- Digits with a point before the last `places` of them. A whole number gets `.0`. -/
def pointChars (coefficient : Nat) (exponent : Int) : List Char :=
  if exponent < 0 then Decimal.insertPoint (natChars coefficient) exponent.natAbs
  else natChars coefficient ++ List.replicate exponent.toNat '0' ++ ['.', '0']

/-- One digit, the others after a point, and the exponent of the first one. -/
def exponentChars (coefficient : Nat) (top : Int) : List Char :=
  let mantissa := match natChars coefficient with
    | [] => []
    | [d] => [d]
    | d :: rest => d :: '.' :: rest
  let digits := natChars top.natAbs
  mantissa ++ 'e' :: (if top < 0 then '-' else '+') :: List.replicate (2 - digits.length) '0' ++
    digits

/-- The text of a double. -/
def chars (spelling : Spelling) : Double → List Char
  | .nan => spelling.nan.toList
  | .infinite negative => Decimal.signChars negative ++ spelling.infinity.toList
  | .finite negative significand exponent =>
    Decimal.signChars negative ++
      if significand = 0 then ['0', '.', '0']
      else
        let (c, e) := shortest significand exponent
        let top := Decimal.adjusted c e
        if -4 ≤ top ∧ top < 16 then pointChars c e else exponentChars c top

/-- A text without its underscores, if each of them stands between two digits. `behindDigit` says
whether a digit stands right before. -/
def ungrouped? (behindDigit : Bool) : List Char → Option (List Char)
  | [] => some []
  | '_' :: c :: cs => if behindDigit && c.isDigit then ungrouped? false (c :: cs) else none
  | c :: cs => if c == '_' then none else (ungrouped? c.isDigit cs).map (c :: ·)

/-- The double that a text in ASCII digits without underscores denotes. -/
def readPlain? (cs : List Char) : Option Double :=
  let (negative, body) := Decimal.splitSign cs
  match body.map Char.toLower with
  | ['i', 'n', 'f'] => some (.infinite negative)
  | ['i', 'n', 'f', 'i', 'n', 'i', 't', 'y'] => some (.infinite negative)
  | ['n', 'a', 'n'] => some .nan
  | _ => (Decimal.readParts? body).map fun p => ofDecimal negative p.1 p.2

/-- The double that a text denotes, `none` if the text is no number. White space around it is
skipped, single underscores may stand between its digits, and the digits may be of any script. -/
def parse? (s : String) : Option Double :=
  (ungrouped? false (Decimal.asciiDigits (trim s.toList))).bind readPlain?

end EventLedger.Double
