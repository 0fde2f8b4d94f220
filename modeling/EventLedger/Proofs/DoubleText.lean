import EventLedger.Proofs.DecimalText
import EventLedger.Proofs.JsonReading

/-!
# Doubles in documents

A double is written like no other value: it begins like a number, has a mark that no whole number
has (`chars_marked`), and is told apart from what may follow a value (`chars_no_end`).
-/

namespace EventLedger

open Text Json

/-- Whether a number in a document may begin with a character. -/
def beginsNumber (c : Char) : Bool :=
  c.isDigit || c == '-' || c == 'N' || c == 'I'

theorem beginsNumber_digit {c : Char} (digit : c.isDigit = true) : beginsNumber c = true := by
  simp [beginsNumber, digit]

namespace Double

/-- A character of a number with a fraction or an exponent. -/
def IsNumeric (c : Char) : Prop :=
  c.isDigit = true ∨ c = '-' ∨ c = '+' ∨ c = '.' ∨ c = 'e'

/-- Characters that only a finite double is written with: they begin with a digit, and there is a
point or an exponent. -/
structure Fractional (cs : List Char) : Prop where
  begins : ∃ c cs', cs = c :: cs' ∧ c.isDigit = true
  numeric : ∀ c ∈ cs, IsNumeric c
  marked : ∃ c ∈ cs, c = '.' ∨ c = 'e'

theorem fractional_zero : Fractional ['0', '.', '0'] where
  begins := ⟨'0', _, rfl, rfl⟩
  numeric := by
    intro c mem
    simp only [List.mem_cons, List.not_mem_nil, or_false] at mem
    rcases mem with rfl | rfl | rfl
    · exact .inl rfl
    · exact .inr (.inr (.inr (.inl rfl)))
    · exact .inl rfl
  marked := ⟨'.', by simp, .inl rfl⟩

/-- Digits, a point and digits. -/
theorem fractional_point {whole places : List Char} (ne : whole ≠ [])
    (digits : ∀ c ∈ whole ++ places, c.isDigit = true) : Fractional (whole ++ '.' :: places) := by
  refine ⟨?_, fun c mem => ?_, '.', by simp, .inl rfl⟩
  · obtain ⟨d, whole, rfl⟩ := List.exists_cons_of_ne_nil ne
    exact ⟨d, _, rfl, digits d (by simp)⟩
  · rw [List.mem_append, List.mem_cons] at mem
    rcases mem with mem | rfl | mem
    · exact .inl (digits c (List.mem_append_left _ mem))
    · exact .inr (.inr (.inr (.inl rfl)))
    · exact .inl (digits c (List.mem_append_right _ mem))

theorem fractional_pointChars (coefficient : Nat) (exponent : Int) :
    Fractional (pointChars coefficient exponent) := by
  have digits : ∀ c ∈ natChars coefficient, c.isDigit = true :=
    fun c mem => isDigit_of_mem_natChars mem
  have zeros : ∀ k, ∀ c ∈ List.replicate k '0', c.isDigit = true :=
    fun k c mem => Decimal.isDigit_of_mem_zeros mem
  unfold pointChars
  split
  next below =>
    rcases Decimal.insertPoint_cases _ exponent.natAbs (natChars_ne_nil coefficient) with
      ⟨zero, -⟩ | ⟨k, whole, places, point, ne, -, all, -⟩
    · omega
    · rw [point]
      refine fractional_point ne fun c mem => ?_
      rw [all, List.mem_append] at mem
      exact mem.elim (zeros k c) (digits c)
  next =>
    refine fractional_point (by simp [natChars_ne_nil]) fun c mem => ?_
    rw [List.append_assoc, List.mem_append, List.mem_append, List.mem_singleton] at mem
    rcases mem with mem | mem | rfl
    · exact digits c mem
    · exact zeros _ c mem
    · rfl

theorem fractional_exponentChars (coefficient : Nat) (top : Int) :
    Fractional (exponentChars coefficient top) := by
  have digits : ∀ c ∈ natChars coefficient, c.isDigit = true :=
    fun c mem => isDigit_of_mem_natChars mem
  obtain ⟨d, ds, number⟩ := List.exists_cons_of_ne_nil (natChars_ne_nil coefficient)
  rw [number] at digits
  have mantissa : ∃ front, exponentChars coefficient top = d :: front ++ 'e' ::
      (if top < 0 then '-' else '+') :: List.replicate (2 - (natChars top.natAbs).length) '0' ++
        natChars top.natAbs ∧ ∀ c ∈ front, IsNumeric c := by
    unfold exponentChars
    rw [number]
    cases ds with
    | nil => exact ⟨[], rfl, nofun⟩
    | cons d' ds =>
      refine ⟨'.' :: d' :: ds, rfl, fun c mem => ?_⟩
      rcases List.mem_cons.1 mem with rfl | mem
      · exact .inr (.inr (.inr (.inl rfl)))
      · exact .inl (digits c (List.mem_cons_of_mem _ mem))
  obtain ⟨front, eq, numeric⟩ := mantissa
  rw [eq]
  refine ⟨⟨d, _, rfl, digits d List.mem_cons_self⟩, fun c mem => ?_, 'e', by simp, .inr rfl⟩
  simp only [List.cons_append, List.append_assoc, List.mem_cons, List.mem_append] at mem
  rcases mem with rfl | mem | rfl | rfl | mem | mem
  · exact .inl (digits _ List.mem_cons_self)
  · exact numeric c mem
  · exact .inr (.inr (.inr (.inr rfl)))
  · split
    · exact .inr (.inl rfl)
    · exact .inr (.inr (.inl rfl))
  · exact .inl (Decimal.isDigit_of_mem_zeros mem)
  · exact .inl (isDigit_of_mem_natChars mem)

theorem chars_finite (spelling : Spelling) (negative : Bool) (significand : Nat)
    (exponent : Int) : ∃ cs, Fractional cs ∧
      (finite negative significand exponent).chars spelling =
        Decimal.signChars negative ++ cs := by
  refine ⟨_, ?_, rfl⟩
  split
  · exact fractional_zero
  · dsimp only
    split
    · exact fractional_pointChars ..
    · exact fractional_exponentChars ..

/-- The written forms of a double in a document. -/
theorem chars_document_cases (d : Double) :
    d.chars .document = "NaN".toList ∨ ∃ negative,
      d.chars .document = Decimal.signChars negative ++ "Infinity".toList ∨
      ∃ cs, Fractional cs ∧ d.chars .document = Decimal.signChars negative ++ cs := by
  cases d with
  | nan => exact .inl rfl
  | infinite negative => exact .inr ⟨negative, .inl rfl⟩
  | finite negative significand exponent =>
    exact .inr ⟨negative, .inr (chars_finite .document negative significand exponent)⟩

theorem chars_begins (d : Double) :
    ∃ c cs, d.chars .document = c :: cs ∧ beginsNumber c = true := by
  rcases chars_document_cases d with nan | ⟨_ | _, infinite | ⟨cs, fractional, text⟩⟩
  · exact ⟨_, _, nan, rfl⟩
  · exact ⟨_, _, infinite, rfl⟩
  · obtain ⟨c, cs, rfl, digit⟩ := fractional.begins
    exact ⟨_, _, text, beginsNumber_digit digit⟩
  · exact ⟨_, _, infinite, rfl⟩
  · exact ⟨_, _, text, rfl⟩

/-- A double is not written like a whole number. -/
theorem chars_marked (d : Double) :
    ∃ c ∈ d.chars .document, c.isDigit = false ∧ c ≠ '-' := by
  rcases chars_document_cases d with nan | ⟨negative, infinite | ⟨cs, fractional, text⟩⟩
  · exact ⟨'N', by simp [nan], rfl, by decide⟩
  · exact ⟨'I', by simp [infinite], rfl, by decide⟩
  · obtain ⟨c, mem, mark⟩ := fractional.marked
    refine ⟨c, text ▸ List.mem_append_right _ mem, ?_⟩
    rcases mark with rfl | rfl <;> exact ⟨rfl, by decide⟩

theorem IsNumeric.not_isEnd {c : Char} (h : IsNumeric c) : ¬ IsEnd (.char c) := by
  rintro (⟨⟨⟩⟩ | ⟨⟨⟩⟩ | ⟨⟨⟩⟩ | ⟨⟨⟩⟩) <;>
    rcases h with digit | other | other | other | other <;> contradiction

theorem not_isEnd_signChars (negative : Bool) :
    ∀ c ∈ Decimal.signChars negative, ¬ IsEnd (.char c) := by
  cases negative with
  | false => nofun
  | true => exact List.forall_mem_singleton.2 (IsNumeric.not_isEnd (.inr (.inl rfl)))

theorem chars_no_end (d : Double) : ∀ c ∈ d.chars .document, ¬ IsEnd (.char c) := by
  rcases chars_document_cases d with nan | ⟨negative, infinite | ⟨cs, fractional, text⟩⟩
  · rw [nan]
    simp [IsEnd]
  · rw [infinite]
    exact List.forall_mem_append.2 ⟨not_isEnd_signChars negative, by simp [IsEnd]⟩
  · rw [text]
    exact List.forall_mem_append.2
      ⟨not_isEnd_signChars negative, fun c mem => (fractional.numeric c mem).not_isEnd⟩

end Double

end EventLedger
