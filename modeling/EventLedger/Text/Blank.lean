/-!
# Blank characters

Texts that people type (amounts, policy names) may have blanks around them. `isBlank` is Unicode's
class of white space together with the four separators U+001C to U+001F, and `strip` removes such
characters from both ends. Around numerals the separators are not allowed: `trim` removes the class
`isSpace` only. Files are framed by bytes, so blank lines use the smaller class `isBlankByte`.
-/

namespace EventLedger.Text

/-- Whether a character counts as white space in typed text. -/
def isBlank (c : Char) : Bool :=
  let n := c.toNat
  (0x09 ≤ n && n ≤ 0x0D) || (0x1C ≤ n && n ≤ 0x20) || n == 0x85 || n == 0xA0 || n == 0x1680 ||
    (0x2000 ≤ n && n ≤ 0x200A) || n == 0x2028 || n == 0x2029 || n == 0x202F || n == 0x205F ||
    n == 0x3000

/-- Whether a character counts as white space around a numeral. -/
def isSpace (c : Char) : Bool :=
  isBlank c && !(0x1C ≤ c.toNat && c.toNat ≤ 0x1F)

/-- A text without the blanks at its ends. -/
def strip (cs : List Char) : List Char :=
  ((cs.dropWhile isBlank).reverse.dropWhile isBlank).reverse

/-- The parts of a text between blanks, behind a part that is begun, its last character first. -/
def fieldsFrom (begun : List Char) : List Char → List (List Char)
  | [] => if begun.isEmpty then [] else [begun.reverse]
  | c :: cs =>
    if isBlank c then
      if begun.isEmpty then fieldsFrom [] cs else begun.reverse :: fieldsFrom [] cs
    else fieldsFrom (c :: begun) cs

/-- The parts of a text between blanks. -/
def fields (cs : List Char) : List (List Char) :=
  fieldsFrom [] cs

/-- A text without the white space at its ends. -/
def trim (cs : List Char) : List Char :=
  ((cs.dropWhile isSpace).reverse.dropWhile isSpace).reverse

@[simp] theorem strip_nil : strip [] = [] := rfl

/-- A text whose ends are no blanks is left as it is. -/
theorem strip_eq_self {cs : List Char} (first : ∀ c ∈ cs.head?, isBlank c = false)
    (last : ∀ c ∈ cs.getLast?, isBlank c = false) : strip cs = cs := by
  have drop : ∀ ds : List Char, (∀ c ∈ ds.head?, isBlank c = false) →
      ds.dropWhile isBlank = ds := by
    intro ds h
    cases ds with
    | nil => rfl
    | cons d ds => simp [h d rfl]
  rw [strip, drop cs first, drop cs.reverse (by simpa using last), List.reverse_reverse]

/-- Whether a byte is ASCII white space. -/
def isBlankByte (b : UInt8) : Bool :=
  b == 0x20 || (0x09 ≤ b && b ≤ 0x0D)

end EventLedger.Text
