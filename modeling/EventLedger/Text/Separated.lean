/-!
# Parts between marks

`separated` cuts a text at every mark. `intersperse_separated` says that the parts with the marks
between them are the text.
-/

namespace EventLedger.Text

/-- The parts of a text between the marks, of which there is always one more than marks. -/
def separated (mark : Char) : List Char → List (List Char)
  | [] => [[]]
  | c :: cs =>
    if c == mark then [] :: separated mark cs
    else
      match separated mark cs with
      | [] => [[c]]
      | part :: parts => (c :: part) :: parts

theorem separated_ne_nil (mark : Char) (cs : List Char) : separated mark cs ≠ [] := by
  cases cs with
  | nil => simp [separated]
  | cons c cs =>
    rw [separated]
    split
    · simp
    · split <;> simp

/-- Nothing is lost but the marks. -/
theorem intersperse_separated (mark : Char) (cs : List Char) :
    ((separated mark cs).intersperse [mark]).flatten = cs := by
  induction cs with
  | nil => rfl
  | cons c cs ih =>
    rw [separated]
    obtain ⟨part, parts, h⟩ := List.exists_cons_of_ne_nil (separated_ne_nil mark cs)
    rw [h] at ih
    split
    · rename_i hc
      rw [h, List.intersperse_cons_cons, List.flatten_cons, List.flatten_cons, ih, beq_iff_eq.1 hc]
      rfl
    · rw [h]
      cases parts with
      | nil => simpa using ih
      | cons next parts =>
        rw [List.intersperse_cons_cons, List.flatten_cons] at ih ⊢
        rw [List.cons_append, ih]

end EventLedger.Text
