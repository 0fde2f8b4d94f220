/-!
# Numerals

Writing whole numbers in base ten and sixteen, and reading digits by place value. `ofDigits_digits`
says that reading takes back what `digits` wrote, and `length_digits` ties the length of a numeral
to `digitCount`.
-/

namespace EventLedger.Text

/-- The digits of a number in base ten, most significant first; zero has the one digit 0. -/
def digits (n : Nat) : List Nat :=
  if n < 10 then [n] else digits (n / 10) ++ [n % 10]
termination_by n

/-- How many digits a number has in base ten. -/
def digitCount (n : Nat) : Nat :=
  if n < 10 then 1 else digitCount (n / 10) + 1
termination_by n

/-- The number that a list of digits denotes, most significant first. -/
def ofDigits (ds : List Nat) : Nat :=
  ds.foldl (fun n d => 10 * n + d) 0

theorem ofDigits_append_singleton (ds : List Nat) (d : Nat) :
    ofDigits (ds ++ [d]) = 10 * ofDigits ds + d := by
  simp [ofDigits]

theorem ofDigits_digits (n : Nat) : ofDigits (digits n) = n := by
  induction n using digits.induct with
  | case1 n h => rw [digits, if_pos h]; simp [ofDigits]
  | case2 n h ih =>
    rw [digits, if_neg h, ofDigits_append_singleton, ih]
    omega

theorem length_digits (n : Nat) : (digits n).length = digitCount n := by
  induction n using digits.induct with
  | case1 n h => rw [digits, if_pos h, digitCount, if_pos h]; rfl
  | case2 n h ih => rw [digits, if_neg h, digitCount, if_neg h]; simp [ih]

theorem digits_lt {n d : Nat} (h : d ∈ digits n) : d < 10 := by
  induction n using digits.induct with
  | case1 n lt => rw [digits, if_pos lt] at h; simp_all
  | case2 n lt ih =>
    rw [digits, if_neg lt, List.mem_append, List.mem_singleton] at h
    rcases h with h | rfl
    · exact ih h
    · omega

/-- The character of a digit below ten. -/
def digitChar (d : Nat) : Char :=
  Char.ofNat (48 + d)

/-- A whole number in base ten. -/
def natChars (n : Nat) : List Char :=
  (digits n).map digitChar

/-- A signed whole number in base ten; only negative numbers have a sign. -/
def intChars : Int → List Char
  | .ofNat n => natChars n
  | .negSucc n => '-' :: natChars (n + 1)

/-- The text of a whole number. -/
def natText (n : Nat) : String :=
  String.ofList (natChars n)

/-- The text of a signed whole number. -/
def intText (i : Int) : String :=
  String.ofList (intChars i)

/-- The value of an ASCII digit. -/
def asciiDigit? (c : Char) : Option Nat :=
  if '0' ≤ c ∧ c ≤ '9' then some (c.toNat - 48) else none

/-- The number written by ASCII digits; any other character counts as a zero. -/
def ofChars (cs : List Char) : Nat :=
  ofDigits (cs.map fun c => (asciiDigit? c).getD 0)

/-- The lower-case character of a digit below sixteen. -/
def hexChar (d : Nat) : Char :=
  if d < 10 then Char.ofNat (48 + d) else Char.ofNat (87 + d)

/-- The last `width` digits of a number in base sixteen. -/
def hexChars : (width : Nat) → Nat → List Char
  | 0, _ => []
  | width + 1, n => hexChars width (n / 16) ++ [hexChar (n % 16)]

@[simp] theorem length_hexChars (width n : Nat) : (hexChars width n).length = width := by
  induction width generalizing n with
  | zero => rfl
  | succ width ih => simp [hexChars, ih]

/-- The value of a digit in base sixteen, of either case. -/
def hexDigit? (c : Char) : Option Nat :=
  if '0' ≤ c ∧ c ≤ '9' then some (c.toNat - 48)
  else if 'a' ≤ c ∧ c ≤ 'f' then some (c.toNat - 87)
  else if 'A' ≤ c ∧ c ≤ 'F' then some (c.toNat - 55)
  else none

end EventLedger.Text
