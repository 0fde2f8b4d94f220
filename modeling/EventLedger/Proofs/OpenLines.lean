import Mathlib.Data.List.DropRight
import EventLedger.Proofs.FileLines

/-!
# Lines behind any content

An append writes behind whatever a file ends with. Behind a newline, or behind blanks that may stand
around a document, the lines that are written are found as they are (`rawRecords_behind`). Behind a
record that has lost its newline the first of them is not a line of its own, and what stands there
is no document any more (`rawRecords_glued`).
-/

namespace EventLedger.FileLog

open Json

/-- The bytes behind the last newline. -/
def openEnd (content : List UInt8) : List UInt8 :=
  content.rtakeWhile (· != newline)

/-- Nothing stands behind the last newline. -/
def Closed (content : List UInt8) : Prop :=
  content = [] ∨ ∃ front, content = front ++ [newline]

/-- Content is closed lines and an open end. -/
theorem exists_closed (content : List UInt8) :
    ∃ front, content = front ++ openEnd content ∧ Closed front := by
  refine ⟨content.rdropWhile (· != newline), List.rdropWhile_append_rtakeWhile.symm, ?_⟩
  by_cases nil : content.rdropWhile (· != newline) = []
  · exact .inl nil
  · have stop := List.rdropWhile_last_not (· != newline) content nil
    rw [bne_iff_ne, not_not] at stop
    exact .inr ⟨_, stop ▸ (List.dropLast_concat_getLast nil).symm⟩

theorem newline_not_mem_openEnd (content : List UInt8) : newline ∉ openEnd content :=
  fun mem => bne_iff_ne.1 (List.mem_rtakeWhile_imp (p := (· != newline)) mem) rfl

theorem splitLines_ne_nil (content : List UInt8) : splitLines content ≠ [] := by
  cases content with
  | nil => exact List.cons_ne_nil _ _
  | cons b content =>
    rw [splitLines]
    split
    · exact List.cons_ne_nil _ _
    · split <;> exact List.cons_ne_nil _ _

/-- A newline cuts content in two. -/
theorem splitLines_concat (front rest : List UInt8) :
    splitLines (front ++ newline :: rest) = splitLines front ++ splitLines rest := by
  induction front with
  | nil => exact splitLines_append (List.not_mem_nil) rest
  | cons b front ih =>
    obtain ⟨line, lines, cut⟩ := List.exists_cons_of_ne_nil (splitLines_ne_nil front)
    rw [List.cons_append, splitLines, splitLines, ih, cut]
    split <;> rfl

theorem splitLines_whole {line : List UInt8} (whole : newline ∉ line) :
    splitLines line = [line] := by
  have cut := splitLines_append whole []
  rw [splitLines_concat] at cut
  exact List.append_cancel_right cut

theorem terminated_append (lines : List (List UInt8)) {more : List (List UInt8)} (ne : more ≠ []) :
    terminated (lines ++ more) = lines.map (· ++ [newline]) ++ terminated more := by
  induction lines with
  | nil => rfl
  | cons line lines ih =>
    rw [List.cons_append, terminated, ih]
    · rfl
    · exact List.append_ne_nil_of_right_ne_nil _ ne

/-- What stands behind closed lines does not change them. -/
theorem contentLines_append {front : List UInt8} (closed : Closed front) (rest : List UInt8) :
    contentLines (front ++ rest) = contentLines front ++ contentLines rest := by
  rcases closed with rfl | ⟨front, rfl⟩
  · rfl
  · have cut : ∀ rest, contentLines (front ++ newline :: rest) =
        ((splitLines front).map (· ++ [newline])).filter (fun line => !line.all Text.isBlankByte) ++
          contentLines rest := fun rest => by
      rw [contentLines, splitLines_concat, terminated_append _ (splitLines_ne_nil rest),
        List.filter_append]
      rfl
    have none : contentLines [] = [] := rfl
    rw [List.append_assoc, List.singleton_append, cut, cut, none, List.append_nil]

theorem rawRecords_append {front : List UInt8} (closed : Closed front) (rest : List UInt8) :
    rawRecords (.file (front ++ rest)) = rawRecords (.file front) ++ rawRecords (.file rest) := by
  rw [rawRecords, contentLines_append closed, List.map_append]
  rfl

/-- A line that is not blank, with its newline or without. -/
theorem rawRecords_single {line : List UInt8} (whole : newline ∉ line)
    (solid : ∃ b ∈ line, Text.isBlankByte b = false) :
    rawRecords (.file line) = [parseLine line] ∧
      rawRecords (.file (line ++ [newline])) = [parseLine (line ++ [newline])] := by
  obtain ⟨b, mem, blank⟩ := solid
  have kept : ∀ rest, (!(line ++ rest).all Text.isBlankByte) = true := fun rest => by
    rw [Bool.not_eq_true', List.all_eq_false]
    exact ⟨b, List.mem_append_left _ mem, by rw [blank]; exact Bool.false_ne_true⟩
  have alone := kept []
  rw [List.append_nil] at alone
  have behind : splitLines (line ++ [newline]) = [line, []] := splitLines_append whole []
  constructor
  · rw [rawRecords, contentLines, splitLines_whole whole, terminated, List.filter_cons, if_pos alone]
    rfl
  · rw [rawRecords, contentLines, behind, terminated, List.filter_cons, if_pos (kept _)]
    · rfl
    · exact List.cons_ne_nil _ _

theorem rawRecords_blank {line : List UInt8} (whole : newline ∉ line)
    (blank : ∀ b ∈ line, Text.isBlankByte b = true) : rawRecords (.file line) = [] := by
  rw [rawRecords, contentLines, splitLines_whole whole]
  simp [terminated, List.all_eq_true.2 blank]

/-- A blank that may stand around a document. -/
def IsSkipped (b : UInt8) : Prop :=
  b = 0x20 ∨ b = 0x09 ∨ b = 0x0D

theorem exists_blanks {line : List UInt8} (skipped : ∀ b ∈ line, IsSkipped b) :
    ∃ blanks, line = Text.encode blanks ∧ ∀ c ∈ blanks, c = ' ' ∨ c = '\t' ∨ c = '\r' := by
  induction line with
  | nil => exact ⟨[], rfl, List.forall_mem_nil _⟩
  | cons b line ih =>
    rw [List.forall_mem_cons] at skipped
    obtain ⟨blanks, rfl, all⟩ := ih skipped.2
    rcases skipped.1 with rfl | rfl | rfl
    · exact ⟨' ' :: blanks, rfl, List.forall_mem_cons.2 ⟨.inl rfl, all⟩⟩
    · exact ⟨'\t' :: blanks, rfl, List.forall_mem_cons.2 ⟨.inr (.inl rfl), all⟩⟩
    · exact ⟨'\r' :: blanks, rfl, List.forall_mem_cons.2 ⟨.inr (.inr rfl), all⟩⟩

section

variable {cs : List Char} {v : Value} (h : Line cs v)
include h

/-- A record that begins a line, or stands behind blanks on it, decides how the line is decoded. -/
theorem Line.decode_behind {blanks : List Char}
    (skipped : ∀ c ∈ blanks, c = ' ' ∨ c = '\t' ∨ c = '\r') (rest : List Char) :
    Text.decode (Text.encode (blanks ++ (cs ++ rest))) =
      .ok (Text.chars (blanks ++ (cs ++ rest))) := by
  have low : ∀ c : Char, c = ' ' ∨ c = '\t' ∨ c = '\r' → 0 < c.toNat ∧ c.toNat < 128 := by
    rintro c (rfl | rfl | rfl) <;> decide
  obtain ⟨body, rfl⟩ := h.opens
  cases blanks with
  | nil => exact Text.decode_encode (by decide) (by decide) _
  | cons c blanks =>
    rw [List.forall_mem_cons] at skipped
    cases blanks with
    | nil => exact Text.decode_encode (low c skipped.1) (by decide) _
    | cons d blanks =>
      exact Text.decode_encode (low c skipped.1) (low d (skipped.2 d List.mem_cons_self)) _

/-- A record behind blanks, at the end of its line or of the file. -/
theorem Line.parseLine_between {blanks rest : List Char}
    (skipped : ∀ c ∈ blanks, c = ' ' ∨ c = '\t' ∨ c = '\r') (ends : Ends (Text.chars rest))
    (last : skipSpace (Text.chars rest) = []) :
    FileLog.parseLine (Text.encode (blanks ++ (cs ++ rest))) = .ok v := by
  have spaces : ∀ p ∈ Text.chars blanks, isSpace p = true := List.forall_mem_map.2 fun c mem => by
    rcases skipped c mem with rfl | rfl | rfl <;> rfl
  rw [FileLog.parseLine, h.decode_behind skipped, Text.chars_append, Text.chars_append]
  show (readPoints (Text.chars blanks ++ (Text.chars cs ++ Text.chars rest))).mapError _ = _
  rw [h.reads.readPoints_between spaces ends last]
  rfl

/-- A record that nothing follows any more is read as before. -/
theorem rawRecords_cut : rawRecords (.file (Text.encode cs)) = [.ok v] := by
  have parse := @Line.parseLine_between _ _ h [] [] (List.forall_mem_nil _) ends_nil rfl
  rw [List.nil_append, List.append_nil] at parse
  rw [(rawRecords_single h.newline_not_mem h.solid).1, parse]

theorem rawRecords_first {line : List UInt8} (skipped : ∀ b ∈ line, IsSkipped b) :
    rawRecords (.file (line ++ (Text.encode cs ++ [newline]))) = [.ok v] := by
  have whole : newline ∉ line ++ Text.encode cs := by
    rw [List.mem_append, not_or]
    refine ⟨fun mem => ?_, h.newline_not_mem⟩
    rcases skipped _ mem with eq | eq | eq <;> exact absurd eq (by decide)
  obtain ⟨b, mem, solid⟩ := h.solid
  have single := (rawRecords_single whole ⟨b, List.mem_append_right _ mem, solid⟩).2
  obtain ⟨blanks, rfl, all⟩ := exists_blanks skipped
  have bytes : Text.encode blanks ++ Text.encode cs ++ [newline] =
      Text.encode (blanks ++ (cs ++ ['\n'])) := by
    rw [Text.encode_append, Text.encode_append, List.append_assoc]
    rfl
  rw [← List.append_assoc, single, bytes,
    @Line.parseLine_between _ _ h blanks ['\n'] all ends_newline rfl]

end

/-- Lines behind blanks are found as they were written. -/
theorem rawRecords_behind {content : List UInt8} (skipped : ∀ b ∈ openEnd content, IsSkipped b)
    {lines : List (List Char)} {documents : List Value} (h : List.Forall₂ Line lines documents) :
    rawRecords (.file (content ++ lineBytes lines)) =
      rawRecords (.file content) ++ documents.map .ok := by
  obtain ⟨front, parts, closed⟩ := exists_closed content
  have whole := newline_not_mem_openEnd content
  generalize openEnd content = line at parts whole skipped
  have blank : ∀ b ∈ line, Text.isBlankByte b = true := fun b mem => by
    rcases skipped b mem with rfl | rfl | rfl <;> rfl
  rw [parts, List.append_assoc, rawRecords_append closed, rawRecords_append closed,
    rawRecords_blank whole blank, List.append_nil]
  congr 1
  cases h with
  | nil => rw [lineBytes, List.flatMap_nil, List.append_nil, rawRecords_blank whole blank]; rfl
  | @cons cs v lines documents first others =>
    have bytes : line ++ lineBytes (cs :: lines) =
        (line ++ (Text.encode cs ++ [newline])) ++ lineBytes lines := by
      rw [List.append_assoc]
      rfl
    have closed' : Closed (line ++ (Text.encode cs ++ [newline])) :=
      .inr ⟨line ++ Text.encode cs, (List.append_assoc ..).symm⟩
    rw [bytes, rawRecords_append closed', rawRecords_first first skipped,
      rawRecords_lineBytes others]
    rfl

/-! ## A record without its newline -/

/-- Two records on one line are no document. -/
theorem rawRecords_glued {front : List UInt8} (closed : Closed front) {cs ds : List Char}
    {v w : Value} (h : Line cs v) (ends : EndsItself (Text.chars cs) v) (next : Line ds w)
    (lines : List (List Char)) :
    ∃ fault rest, rawRecords (.file (front ++ Text.encode cs ++ lineBytes (ds :: lines))) =
      rawRecords (.file front) ++ .error fault :: rest := by
  have whole : newline ∉ Text.encode cs ++ Text.encode ds := by
    rw [List.mem_append, not_or]
    exact ⟨h.newline_not_mem, next.newline_not_mem⟩
  obtain ⟨b, mem, solid⟩ := h.solid
  have single := (rawRecords_single whole ⟨b, List.mem_append_left _ mem, solid⟩).2
  have bytes : Text.encode cs ++ Text.encode ds ++ [newline] =
      Text.encode ([] ++ (cs ++ (ds ++ ['\n']))) := by
    rw [List.nil_append, Text.encode_append, Text.encode_append, List.append_assoc]
    rfl
  obtain ⟨e, fails⟩ := ends.readPoints h.reads.begins (next.reads.begins.append [.char '\n'])
  have parse : parseLine (Text.encode cs ++ Text.encode ds ++ [newline]) =
      .error (.syntaxError e) := by
    rw [bytes, parseLine, h.decode_behind (List.forall_mem_nil _), List.nil_append,
      Text.chars_append, Text.chars_append]
    show (readPoints (Text.chars cs ++ (Text.chars ds ++ [.char '\n']))).mapError _ = _
    rw [fails]
    rfl
  have parts : front ++ Text.encode cs ++ lineBytes (ds :: lines) =
      front ++ ((Text.encode cs ++ Text.encode ds ++ [newline]) ++ lineBytes lines) := by
    rw [lineBytes, List.flatMap_cons]
    simp only [List.append_assoc]
    rfl
  have closed' : Closed (Text.encode cs ++ Text.encode ds ++ [newline]) := .inr ⟨_, rfl⟩
  rw [parts, rawRecords_append closed, rawRecords_append closed', single, parse]
  exact ⟨_, _, rfl⟩

end EventLedger.FileLog
