import EventLedger.Log.File
import EventLedger.Proofs.JsonReading
import EventLedger.Proofs.Utf8

/-!
# Lines of a file

A written form of a record is a line (`Line`): it has no newline and no control character, and is
not blank. A file of such lines holds the documents that they are written forms of, and nothing else
(`rawRecords_lineBytes`).
-/

namespace EventLedger.FileLog

open Json

/-- The characters are a written form of the value, and begin like that of a record. -/
structure Line (cs : List Char) (v : Value) : Prop where
  opens : ∃ body, cs = '\x7b' :: '"' :: body
  reads : Reads (Text.chars cs) v

theorem splitLines_append {line : List UInt8} (whole : newline ∉ line) (rest : List UInt8) :
    splitLines (line ++ newline :: rest) = line :: splitLines rest := by
  induction line with
  | nil => rw [List.nil_append, splitLines, if_pos rfl]
  | cons b line ih =>
    rw [List.mem_cons, not_or] at whole
    rw [List.cons_append, splitLines, if_neg (Ne.symm whole.1), ih whole.2]

theorem splitLines_lineBytes {lines : List (List Char)}
    (whole : ∀ cs ∈ lines, newline ∉ Text.encode cs) :
    splitLines (lineBytes lines) = lines.map Text.encode ++ [[]] := by
  induction lines with
  | nil => rfl
  | cons cs lines ih =>
    rw [List.forall_mem_cons] at whole
    have front : lineBytes (cs :: lines) = Text.encode cs ++ newline :: lineBytes lines :=
      List.append_assoc ..
    rw [front, splitLines_append whole.1, ih whole.2]
    rfl

theorem terminated_append_nil (lines : List (List UInt8)) :
    terminated (lines ++ [[]]) = lines.map (· ++ [newline]) ++ [[]] := by
  induction lines with
  | nil => rfl
  | cons line lines ih =>
    rw [List.cons_append, terminated, ih]
    · rfl
    · exact List.append_ne_nil_of_right_ne_nil _ (List.cons_ne_nil _ _)

/-- The lines that were written are the lines that are found. -/
theorem contentLines_lineBytes {lines : List (List Char)}
    (whole : ∀ cs ∈ lines, newline ∉ Text.encode cs)
    (solid : ∀ cs ∈ lines, ∃ b ∈ Text.encode cs, Text.isBlankByte b = false) :
    contentLines (lineBytes lines) = lines.map fun cs => Text.encode (cs ++ ['\n']) := by
  have kept : ∀ line ∈ (lines.map Text.encode).map (· ++ [newline]),
      (!line.all Text.isBlankByte) = true := by
    intro line mem
    rw [List.map_map, List.mem_map] at mem
    obtain ⟨cs, mem, rfl⟩ := mem
    obtain ⟨b, mem, blank⟩ := solid cs mem
    rw [Bool.not_eq_true', List.all_eq_false]
    exact ⟨b, List.mem_append_left _ mem, by rw [blank]; exact Bool.false_ne_true⟩
  rw [contentLines, splitLines_lineBytes whole, terminated_append_nil, List.filter_append,
    List.filter_eq_self.2 kept]
  show List.map _ (List.map _ lines) ++ [] = _
  rw [List.append_nil, List.map_map]
  refine List.map_congr_left fun cs _ => ?_
  rw [Text.encode_append]
  rfl

section

variable {cs : List Char} {v : Value} (h : Line cs v)
include h

theorem Line.newline_not_mem : newline ∉ Text.encode cs := by
  intro mem
  obtain ⟨c, mem, number⟩ := Text.mem_encode_of_lt (by decide) mem
  have printable := h.reads.printable_chars c mem
  rw [number] at printable
  exact absurd printable (by decide)

theorem Line.solid : ∃ b ∈ Text.encode cs, Text.isBlankByte b = false := by
  obtain ⟨body, rfl⟩ := h.opens
  exact ⟨_, List.mem_cons_self .., rfl⟩

theorem Line.parseLine : parseLine (Text.encode (cs ++ ['\n'])) = .ok v := by
  obtain ⟨body, opens⟩ := h.opens
  have decoded : Text.decode (Text.encode (cs ++ ['\n'])) =
      .ok (Text.chars (cs ++ ['\n'])) := by
    rw [opens]
    exact Text.decode_encode (by decide) (by decide) _
  rw [Text.chars_append] at decoded
  rw [FileLog.parseLine, decoded]
  show (readPoints (Text.chars cs ++ [.char '\n'])).mapError _ = _
  rw [h.reads.readPoints]
  rfl

end

/-- A file of lines holds their documents. -/
theorem rawRecords_lineBytes {lines : List (List Char)} {documents : List Value}
    (h : List.Forall₂ Line lines documents) :
    rawRecords (.file (lineBytes lines)) = documents.map .ok := by
  have whole : ∀ cs ∈ lines, newline ∉ Text.encode cs :=
    forall_mem_of_forall₂ h fun _ _ line => line.newline_not_mem
  have solid : ∀ cs ∈ lines, ∃ b ∈ Text.encode cs, Text.isBlankByte b = false :=
    forall_mem_of_forall₂ h fun _ _ line => line.solid
  rw [rawRecords, contentLines_lineBytes whole solid, List.map_map]
  clear whole solid
  induction h with
  | nil => rfl
  | cons line _ ih => rw [List.map_cons, List.map_cons, ih, Function.comp, line.parseLine]

end EventLedger.FileLog
