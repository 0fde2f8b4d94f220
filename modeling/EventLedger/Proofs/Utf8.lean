import Mathlib.Tactic.SplitIfs
import EventLedger.Text.Encoding

/-!
# Reading UTF-8

A text that is written as UTF-8 is read back (`Utf8.decode_encode`), also when its encoding has to be
found from its first bytes (`decode_encode`). A byte below 128 stands for the character with its
number and for nothing else (`mem_encode_of_lt`).
-/

namespace EventLedger.Text

namespace Utf8

theorem continuation_cons {value low high needed seen : Nat} {b : UInt8} {rest : List UInt8}
    (h : low ≤ b.toNat ∧ b.toNat ≤ high) :
    continuation value low high (needed + 1) seen (b :: rest) =
      continuation (value * 64 + b.toNat % 64) 0x80 0xBF needed (seen + 1) rest := by
  rw [continuation, if_pos h]

theorem toNat_ofNat {n : Nat} (h : n < 256) : (UInt8.ofNat n).toNat = n := by
  rw [UInt8.toNat_ofNat', Nat.mod_eq_of_lt h]

theorem toNat_cases (c : Char) : c.toNat < 0xD800 ∨ 0xDFFF < c.toNat ∧ c.toNat < 0x110000 :=
  c.valid

theorem step_one {a : UInt8} {n : Nat} (ha : a.toNat = n) (rest : List UInt8) (high : n < 0x80) :
    step a rest = .char (Char.ofNat n) rest := by
  rw [step, ha, if_pos high]

theorem step_two {a b : UInt8} {n : Nat} (ha : a.toNat = n / 64 + 0xC0)
    (hb : b.toNat = n % 64 + 0x80) (rest : List UInt8) (low : 0x80 ≤ n) (high : n < 0x800) :
    step a (b :: rest) = .char (Char.ofNat n) rest := by
  rw [step, ha, if_neg (by omega), if_neg (by omega), if_pos (by omega),
    continuation_cons (by omega), continuation, hb]
  congr
  omega

theorem step_three {a b c : UInt8} {n : Nat} (ha : a.toNat = n / 4096 + 0xE0)
    (hb : b.toNat = n / 64 % 64 + 0x80) (hc : c.toNat = n % 64 + 0x80) (rest : List UInt8)
    (low : 0x800 ≤ n) (high : n < 0x10000) (whole : n < 0xD800 ∨ 0xDFFF < n) :
    step a (b :: c :: rest) = .char (Char.ofNat n) rest := by
  rw [step, ha]
  split_ifs <;> first
    | omega
    | (rw [continuation_cons (by omega), continuation_cons (by omega), continuation, hb, hc]
       congr
       omega)

theorem step_four {a b c d : UInt8} {n : Nat} (ha : a.toNat = n / 262144 + 0xF0)
    (hb : b.toNat = n / 4096 % 64 + 0x80) (hc : c.toNat = n / 64 % 64 + 0x80)
    (hd : d.toNat = n % 64 + 0x80) (rest : List UInt8) (low : 0x10000 ≤ n)
    (high : n < 0x110000) : step a (b :: c :: d :: rest) = .char (Char.ofNat n) rest := by
  rw [step, ha]
  split_ifs <;> first
    | omega
    | (rw [continuation_cons (by omega), continuation_cons (by omega),
         continuation_cons (by omega), continuation, hb, hc, hd]
       congr
       omega)

/-- A written character is read back. -/
theorem step_encodeChar (c : Char) (rest : List UInt8) :
    ∃ b bs, String.utf8EncodeChar c = b :: bs ∧ step b (bs ++ rest) = .char c rest := by
  have range := toNat_cases c
  have value : c.val.toNat = c.toNat := rfl
  have char := Char.ofNat_toNat c
  unfold String.utf8EncodeChar
  rw [value]
  generalize c.toNat = n at range char
  obtain rfl := char
  dsimp only
  split_ifs with one two three <;> refine ⟨_, _, rfl, ?_⟩
  · exact step_one (toNat_ofNat (by omega)) rest (by omega)
  · exact step_two (by rw [toNat_ofNat] <;> omega) (toNat_ofNat (by omega)) rest (by omega)
      (by omega)
  · exact step_three (by rw [toNat_ofNat] <;> omega) (toNat_ofNat (by omega))
      (toNat_ofNat (by omega)) rest (by omega) (by omega) (by omega)
  · exact step_four (by rw [toNat_ofNat] <;> omega) (toNat_ofNat (by omega))
      (toNat_ofNat (by omega)) (toNat_ofNat (by omega)) rest (by omega) (by omega)

/-- A written text is read back. -/
theorem decode_encode (stop : Nat) (cs : List Char) :
    decode stop (encode cs) = .ok (chars cs) := by
  induction cs with
  | nil =>
    rw [encode_nil, decode]
    rfl
  | cons c cs ih =>
    obtain ⟨b, bs, bytes, char⟩ := step_encodeChar c (encode cs)
    rw [encode_cons, bytes, List.cons_append, decode]
    split
    next eq =>
      cases char.symm.trans eq
      rw [ih]
      rfl
    next eq => cases char.symm.trans eq

end Utf8

/-- A character whose number is below 128 is one byte. -/
theorem encodeChar_of_lt {c : Char} (h : c.toNat < 128) :
    String.utf8EncodeChar c = [UInt8.ofNat c.toNat] :=
  if_pos (Nat.le_of_lt_succ h)

/-- A byte below 128 in a text is the character with its number. -/
theorem mem_encode_of_lt {b : UInt8} {cs : List Char} (h : b.toNat < 128) (mem : b ∈ encode cs) :
    ∃ c ∈ cs, c.toNat = b.toNat := by
  obtain ⟨c, mem', bytes⟩ := List.mem_flatMap.1 mem
  refine ⟨c, mem', ?_⟩
  have range := Utf8.toNat_cases c
  have value : c.val.toNat = c.toNat := rfl
  unfold String.utf8EncodeChar at bytes
  rw [value] at bytes
  dsimp only at bytes
  split_ifs at bytes <;> simp only [List.mem_cons, List.not_mem_nil, or_false] at bytes
  · rw [bytes, Utf8.toNat_ofNat (by omega)]
  · rcases bytes with rfl | rfl <;> rw [Utf8.toNat_ofNat (by omega)] at h <;> omega
  · rcases bytes with rfl | rfl | rfl <;> rw [Utf8.toNat_ofNat (by omega)] at h <;> omega
  · rcases bytes with rfl | rfl | rfl | rfl <;> rw [Utf8.toNat_ofNat (by omega)] at h <;> omega

theorem detectUnmarked_of_ne {a b : UInt8} (ha : a ≠ 0) (hb : b ≠ 0) (bs : List UInt8) :
    detectUnmarked (a :: b :: bs) = .utf8 := by
  rcases bs with _ | ⟨c, _ | ⟨d, bs⟩⟩
  · rw [detectUnmarked, if_neg ha, if_neg hb]
  · rfl
  · rw [detectUnmarked, if_neg ha, if_neg hb]

/-- Two bytes below 128 in front, neither of them zero, are taken for UTF-8. -/
theorem detect_of_lt {a b : UInt8} (ha : 0 < a.toNat ∧ a.toNat < 128)
    (hb : 0 < b.toNat) (bs : List UInt8) :
    detect (a :: b :: bs) = (.utf8, 0, a :: b :: bs) := by
  have ne : ∀ c : UInt8, c.toNat = 0 ∨ 128 ≤ c.toNat → (c == a) = false := by
    intro c other
    rw [beq_eq_false_iff_ne]
    rintro rfl
    omega
  have unmarked : marks.find? (fun mark => mark.2.2.isPrefixOf (a :: b :: bs)) = none := by
    simp [marks, List.isPrefixOf, ne]
  rw [detect, unmarked]
  have zero : (0 : UInt8).toNat = 0 := rfl
  rw [detectUnmarked_of_ne (by rintro rfl; omega) (by rintro rfl; omega)]

/-- A text that begins with two characters below 128, neither of them zero, is read back. -/
theorem decode_encode {c d : Char} (hc : 0 < c.toNat ∧ c.toNat < 128)
    (hd : 0 < d.toNat ∧ d.toNat < 128) (cs : List Char) :
    decode (encode (c :: d :: cs)) = .ok (chars (c :: d :: cs)) := by
  have bytes : encode (c :: d :: cs) = UInt8.ofNat c.toNat :: UInt8.ofNat d.toNat :: encode cs := by
    rw [encode_cons, encode_cons, encodeChar_of_lt hc.2, encodeChar_of_lt hd.2]
    rfl
  have found : detect (encode (c :: d :: cs)) = (.utf8, 0, encode (c :: d :: cs)) := by
    rw [bytes]
    exact detect_of_lt (by rw [Utf8.toNat_ofNat] <;> omega) (by rw [Utf8.toNat_ofNat] <;> omega) _
  rw [decode, found]
  exact Utf8.decode_encode _ _

end EventLedger.Text
