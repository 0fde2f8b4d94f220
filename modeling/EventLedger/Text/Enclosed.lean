/-!
# Enclosed text

`upTo?` reads the text in front of a closing mark. Some characters may be barred from that text.
-/

namespace EventLedger.Text

/-- The text up to the mark `close`, and what follows the mark, unless a barred character stands
before it. -/
def upTo? (close : Char) (barred : Char → Bool) : List Char → Option (List Char × List Char)
  | [] => none
  | c :: cs =>
    if c == close then some ([], cs)
    else if barred c then none
    else (upTo? close barred cs).map fun p => (c :: p.1, p.2)

/-- Nothing but the mark is lost. -/
theorem upTo?_eq_some {close : Char} {barred : Char → Bool} {cs inside rest : List Char}
    (h : upTo? close barred cs = some (inside, rest)) : cs = inside ++ close :: rest := by
  induction cs generalizing inside with
  | nil => simp [upTo?] at h
  | cons c cs ih =>
    simp only [upTo?] at h
    split at h
    · rename_i hc
      cases h
      simp [beq_iff_eq.1 hc]
    · split at h
      · simp at h
      · obtain ⟨p, hp, he⟩ := Option.map_eq_some_iff.1 h
        cases he
        rw [ih hp, List.cons_append]

theorem length_upTo? {close : Char} {barred : Char → Bool} {cs inside rest : List Char}
    (h : upTo? close barred cs = some (inside, rest)) : rest.length < cs.length := by
  rw [upTo?_eq_some h, List.length_append, List.length_cons]
  omega

end EventLedger.Text
