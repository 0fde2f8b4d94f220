import EventLedger.Text.Blank
import EventLedger.Text.DecimalDigit
import EventLedger.Text.Numeral

/-!
# Whole numbers as people type them

`integer?` reads a whole number: white space around it is skipped, a sign may stand before it,
single underscores may stand between its digits, and the digits may be of any script.
-/

namespace EventLedger.Text

/-- The digits of a numeral with single underscores between digits. `behindDigit` says whether a
digit stands right before. -/
def groupedDigits? (behindDigit : Bool) : List Char → Option (List Nat)
  | [] => if behindDigit then some [] else none
  | c :: cs =>
    if c == '_' then if behindDigit then groupedDigits? false cs else none
    else
      match digitValue? c with
      | some d => (groupedDigits? true cs).map (d :: ·)
      | none => none

/-- How many digits a numeral may have. -/
def maxDigits : Nat := 4300

/-- The number that a numeral without a sign denotes. -/
def natural? (cs : List Char) : Option Nat :=
  ((groupedDigits? false cs).filter (·.length ≤ maxDigits)).map ofDigits

/-- The whole number that a text denotes. -/
def integer? (text : String) : Option Int :=
  match trim text.toList with
  | '-' :: cs => (natural? cs).map fun n => -(n : Int)
  | '+' :: cs => (natural? cs).map Int.ofNat
  | cs => (natural? cs).map Int.ofNat

end EventLedger.Text
