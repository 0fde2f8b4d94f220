import EventLedger.Proofs.Documents
import EventLedger.Proofs.DoubleReading
import EventLedger.Proofs.SortedItems

/-!
# What is written can be read

Every value that can be written is read back (`exists_reads_of_write`), though not always as itself: a
tuple becomes a list, and a name that is no text becomes one. `Value.reread` is what becomes of a value
that is stored and read again; it fails for no other reason than that the value cannot be written
(`Value.reread_cases`).
-/

namespace EventLedger

namespace Json

theorem exists_name_of_writeMember {style : Style} {key : Value} {body ps : List Text.Point}
    (h : writeMember style key body = .ok ps) :
    ∃ name, ps = writeString style.asciiOnly name ++ style.colon ++ body := by
  rw [writeMember] at h
  split at h
  · cases h; exact ⟨_, rfl⟩
  · cases h

/-- The members of a map are read if their values are. -/
theorem exists_readsMembers {entries : List (Value × Except Fault (List Text.Point))}
    (values : ∀ e ∈ entries, ∀ cs, e.2 = .ok cs → ∃ w, Reads cs w) {parts : List (List Text.Point)}
    (h : entries.mapM (fun e => do writeMember .compact e.1 (← e.2)) = .ok parts) :
    ∃ members, List.Forall₂ ReadsMember parts members := by
  have members := (forall₂_of_mapM h).flip
  refine exists_forall₂ fun part mem => ?_
  obtain ⟨e, listed, written⟩ := exists_of_forall₂ members part mem
  obtain ⟨body, text, written⟩ := exists_of_bind_ok written
  obtain ⟨name, rfl⟩ := exists_name_of_writeMember written
  obtain ⟨w, reads⟩ := values e listed body text
  exact ⟨(.ofPoints name, w), name, body, rfl, List.append_assoc .., reads⟩

mutual

/-- Whatever is written can be read. -/
theorem exists_reads_of_write : ∀ {v : Value} {cs : List Text.Point},
    write .compact v = .ok cs → ∃ w, Reads cs w
  | .null, _, h => by cases h; exact ⟨_, reads_null⟩
  | .bool b, _, h => by cases h; exact ⟨_, reads_bool b⟩
  | .int i, _, h => by cases h; exact ⟨_, reads_int i⟩
  | .double d, _, h => by
    cases h
    obtain ⟨d', reads⟩ := Double.exists_reads_double d
    exact ⟨_, reads⟩
  | .str s, _, h => by cases h; exact ⟨_, reads_text s⟩
  | .broken b, _, h => by cases h; exact ⟨_, reads_text b.points⟩
  | .decimal _, _, h => by cases h
  | .bytes _, _, h => by cases h
  | .list items, _, h => by
    rw [write] at h
    obtain ⟨parts, texts, h⟩ := exists_of_bind_ok h
    cases h
    obtain ⟨ws, reads⟩ := exists_reads_of_writeItems texts
    exact ⟨_, reads_list reads⟩
  | .tuple items, _, h => by
    rw [write] at h
    obtain ⟨parts, texts, h⟩ := exists_of_bind_ok h
    cases h
    obtain ⟨ws, reads⟩ := exists_reads_of_writeItems texts
    exact ⟨_, reads_list reads⟩
  | .map entries, _, h => by
    obtain ⟨sorted, parts, same, texts, rfl⟩ := exists_of_write_map h
    obtain ⟨members, reads⟩ := exists_readsMembers
      (fun e mem => exists_reads_of_writeEntries e (same.mem_iff.1 mem)) texts
    exact ⟨_, reads_object reads⟩

theorem exists_reads_of_writeItems : ∀ {items : List Value} {parts : List (List Text.Point)},
    writeItems .compact items = .ok parts → ∃ ws, List.Forall₂ Reads parts ws
  | [], _, h => by cases h; exact ⟨[], .nil⟩
  | v :: vs, _, h => by
    rw [writeItems] at h
    obtain ⟨cs, text, h⟩ := exists_of_bind_ok h
    obtain ⟨parts, texts, h⟩ := exists_of_bind_ok h
    cases h
    obtain ⟨w, first⟩ := exists_reads_of_write text
    obtain ⟨ws, others⟩ := exists_reads_of_writeItems texts
    exact ⟨w :: ws, .cons first others⟩

theorem exists_reads_of_writeEntries : ∀ {entries : List (Value × Value)},
    ∀ e ∈ writeEntries .compact entries, ∀ cs, e.2 = .ok cs → ∃ w, Reads cs w
  | [], e, mem, _, _ => by cases mem
  | (k, v) :: entries, e, mem, cs, text => by
    rw [writeEntries] at mem
    rcases List.mem_cons.1 mem with rfl | mem
    · exact exists_reads_of_write text
    · exact exists_reads_of_writeEntries e mem cs text

end

end Json

namespace Value

open Json

/-- What a value has become when it was stored and is read again. -/
def reread (v : Value) : Except Fault Value := do
  (Json.readPoints (Text.chars (← v.canonicalChars))).mapError .syntaxError

/-- What can become of a value that is to be stored and read again. -/
inductive Rereading (v : Value) : Except Fault Value → Prop
  | unwritten {fault : Fault} (fails : v.canonicalChars = .error fault) :
    Rereading v (.error fault)
  | read {p w : Value} {cs : List Char} (form : v.canonicalize = .ok p)
    (text : write .compact p = .ok (Text.chars cs)) (reads : Reads (Text.chars cs) w) :
    Rereading v (.ok w)

/-- A value that can be written can be read again. -/
theorem reread_cases (v : Value) : Rereading v v.reread := by
  rw [reread]
  cases chars : v.canonicalChars with
  | error fault => exact .unwritten chars
  | ok cs =>
    obtain ⟨p, form, text⟩ := exists_of_bind_ok (whole_of_canonicalChars chars).1
    obtain ⟨w, reads⟩ := exists_reads_of_write text
    show Rereading v ((readPoints (Text.chars cs)).mapError .syntaxError)
    rw [reads.readPoints_alone]
    exact .read form text reads

/-- A document is read again as it is. -/
theorem Document.reread {v : Value} (h : Document v) : v.reread = .ok v := by
  obtain ⟨cs, chars, reads⟩ := h.exists_canonicalChars
  rw [Value.reread, chars]
  show (readPoints (Text.chars cs)).mapError Fault.syntaxError = _
  rw [reads.readPoints_alone]
  rfl

end Value

end EventLedger
