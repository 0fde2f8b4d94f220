import EventLedger.Canonical
import EventLedger.Proofs.Lists
import EventLedger.Proofs.SortedItems

/-!
# Texts that have no bytes

A half of a character in a value, be it in a name, is in the document that is written of it unless
it is escaped there (`Json.hasHalf_write`), and the canonical form of a value has a half just if the
value does (`hasHalf_canonicalize`). So a value without halves has its canonical characters if it
can be written at all (`canonicalChars_of_whole`), and a value with a half has none: there is a
place where encoding fails (`canonicalChars_of_half`).
-/

namespace EventLedger

namespace Text

theorem hasHalf_cons (p : Point) (ps : List Point) :
    hasHalf (p :: ps) = (p.isHalf || hasHalf ps) :=
  List.any_cons

/-- A text without halves has characters. -/
theorem exists_chars {ps : List Point} (whole : hasHalf ps = false) : ∃ cs, ps = chars cs := by
  cases found : chars? ps with
  | some cs => exact ⟨cs, chars?_eq_some_iff.1 found⟩
  | none => rw [chars?_eq_none_iff.1 found] at whole; cases whole

theorem leadingHalves_append (ps : List Point) (c : Char) (rest : List Point) :
    leadingHalves (ps ++ .char c :: rest) = leadingHalves ps := by
  induction ps with
  | nil => rfl
  | cons p ps ih =>
    cases p with
    | char d => rfl
    | half h => exact congrArg (h :: ·) ih

/-- Where encoding fails is known from the front of a text, up to the end of its first halves. -/
theorem EncodingError.of_append {ps : List Point} (half : hasHalf ps = true) (c : Char)
    (rest : List Point) : of (ps ++ .char c :: rest) = of ps := by
  induction ps with
  | nil => cases half
  | cons p ps ih =>
    cases p with
    | char d =>
      have behind := ih half
      simp only [of, EncodingError.mk.injEq] at behind ⊢
      exact ⟨congrArg (· + 1) behind.1, behind.2⟩
    | half h => exact congrArg (EncodingError.mk 0) (leadingHalves_append (.half h :: ps) c rest)

end Text

namespace Value

mutual

/-- Whether a half of a character is in a text of the value. -/
def hasHalf : Value → Bool
  | .broken _ => true
  | .list items | .tuple items => anyHalf items
  | .map entries => entriesHalf entries
  | _ => false

/-- Whether one of the values has a half in it. -/
def anyHalf : List Value → Bool
  | [] => false
  | v :: vs => hasHalf v || anyHalf vs

/-- Whether one of the entries has a half in its name or value. -/
def entriesHalf : List (Value × Value) → Bool
  | [] => false
  | (k, v) :: entries => hasHalf k || hasHalf v || entriesHalf entries

end

theorem anyHalf_eq_any (items : List Value) : anyHalf items = items.any hasHalf := by
  induction items with
  | nil => rfl
  | cons v items ih => rw [anyHalf, ih, List.any_cons]

theorem entriesHalf_eq_any (entries : List (Value × Value)) :
    entriesHalf entries = entries.any fun e => e.1.hasHalf || e.2.hasHalf := by
  induction entries with
  | nil => rfl
  | cons e entries ih => rw [entriesHalf, ih, List.any_cons]

theorem whole_item {items : List Value} (whole : anyHalf items = false) {v : Value}
    (mem : v ∈ items) : v.hasHalf = false := by
  rw [anyHalf_eq_any, List.any_eq_false] at whole
  exact Bool.not_eq_true _ ▸ whole v mem

theorem whole_entry {entries : List (Value × Value)} (whole : entriesHalf entries = false) :
    ∀ e ∈ entries, e.1.hasHalf = false ∧ e.2.hasHalf = false := by
  rw [entriesHalf_eq_any, List.any_eq_false] at whole
  simpa only [Bool.or_eq_true, not_or, Bool.not_eq_true] using whole

/-- A record has halves where its fields have. -/
@[simp] theorem hasHalf_record (fields : List (String × Value)) :
    (record fields).hasHalf = fields.any (·.2.hasHalf) := by
  rw [record, hasHalf, entriesHalf_eq_any, List.any_map]
  rfl

end Value

section

variable {α β ε : Type} {f : Value → Except ε α} {g : Value → α → Except ε β}

/-- What is made of sorted entries has a property just if the entries have. -/
theorem any_eq_of_sorted {entries : List (Value × Value)} {sorted : List (Value × Except ε α)}
    (same : sorted.Perm (entries.map fun e => (e.1, f e.2))) {parts : List β}
    (made : sorted.mapM (fun e => do g e.1 (← e.2)) = .ok parts) {p : β → Bool}
    {q : Value × Value → Bool}
    (each : ∀ e ∈ entries, ∀ x part, f e.2 = .ok x → g e.1 x = .ok part → p part = q e) :
    parts.any p = entries.any q := by
  obtain ⟨entries', perm, rfl⟩ := exists_map_of_perm same
  have members := (List.forall₂_and_left ..).2
    ⟨fun e mem => each e (perm.mem_iff.1 mem), List.forall₂_map_left_iff.1 (forall₂_of_mapM made)⟩
  have common : entries'.map q = parts.map p := by
    refine map_eq_of_forall₂ members fun e part member => ?_
    obtain ⟨each, member⟩ := member
    obtain ⟨x, value, member⟩ := exists_of_bind_ok member
    exact (each x part value member).symm
  have all := congrArg (List.any · id) common
  simp only [List.any_map, Function.id_comp] at all
  rw [← all, perm.any_eq]

end

namespace Json

open Text

theorem hasHalf_writePoint (asciiOnly : Bool) (p : Point) :
    Text.hasHalf (writePoint asciiOnly p) = (!asciiOnly && p.isHalf) := by
  cases p with
  | char c => rw [writePoint, hasHalf_chars, Point.isHalf, Bool.and_false]
  | half h => cases asciiOnly <;> rfl

/-- Only escapes keep the halves of a text out of its quotes. -/
theorem hasHalf_writeString (asciiOnly : Bool) (ps : List Point) :
    Text.hasHalf (writeString asciiOnly ps) = (!asciiOnly && Text.hasHalf ps) := by
  have inside : Text.hasHalf (ps.flatMap (writePoint asciiOnly)) =
      (!asciiOnly && Text.hasHalf ps) := by
    induction ps with
    | nil => rw [List.flatMap_nil, Text.hasHalf, List.any_nil, Bool.and_false]
    | cons p ps ih =>
      rw [List.flatMap_cons, hasHalf_append, ih, hasHalf_writePoint, hasHalf_cons,
        Bool.and_or_distrib_left]
  rw [writeString, hasHalf_append, hasHalf_cons, inside]
  exact Bool.or_false _

theorem hasHalf_join (separator : String) (parts : List (List Point)) :
    Text.hasHalf (join separator parts) = parts.any Text.hasHalf := by
  rw [join]
  induction parts with
  | nil => rfl
  | cons p parts ih =>
    cases parts with
    | nil => simp
    | cons q parts =>
      rw [List.intersperse_cons_cons, List.flatten_cons, List.flatten_cons, hasHalf_append,
        hasHalf_append, hasHalf_chars, ih, List.any_cons]
      rfl

theorem hasHalf_enclosed (a b : Char) (ps : List Point) :
    Text.hasHalf (.char a :: ps ++ [.char b]) = Text.hasHalf ps := by
  rw [hasHalf_append, hasHalf_cons]
  exact Bool.or_false _

theorem hasHalf_namePoints {key : Value} {name : List Point} (named : namePoints? key = some name) :
    Text.hasHalf name = key.hasHalf := by
  cases key with
  | broken b =>
    cases named
    exact chars?_eq_none_iff.1 b.broken
  | bool b => cases b <;> cases named <;> rfl
  | str | null | int | double => cases named; exact hasHalf_chars _
  | decimal | bytes | list | tuple | map => cases named

theorem hasHalf_writeMember {style : Style} {key : Value} {body ps : List Point}
    (written : writeMember style key body = .ok ps) :
    Text.hasHalf ps = (!style.asciiOnly && key.hasHalf || Text.hasHalf body) := by
  rw [writeMember] at written
  split at written
  next name named =>
    cases written
    rw [hasHalf_append, hasHalf_append, hasHalf_writeString, hasHalf_chars,
      hasHalf_namePoints named, Bool.or_false]
  next => cases written

theorem writeItems_eq_mapM (style : Style) (items : List Value) :
    writeItems style items = items.mapM (write style) := by
  induction items with
  | nil => rfl
  | cons v items ih => rw [writeItems, ih, List.mapM_cons]

theorem writeEntries_eq_map (style : Style) (entries : List (Value × Value)) :
    writeEntries style entries = entries.map fun e => (e.1, write style e.2) := by
  induction entries with
  | nil => rfl
  | cons e entries ih => rw [writeEntries, ih, List.map_cons]

/-- The members of an object have the halves of their names and values. -/
theorem hasHalf_members {style : Style} {entries : List (Value × Value)}
    (values : ∀ e ∈ entries, ∀ ps, write style e.2 = .ok ps →
      Text.hasHalf ps = (!style.asciiOnly && e.2.hasHalf))
    {sorted : List (Value × Except Fault (List Point))}
    (same : sorted.Perm (writeEntries style entries)) {parts : List (List Point)}
    (written : sorted.mapM (fun e => do writeMember style e.1 (← e.2)) = .ok parts) :
    parts.any Text.hasHalf = (!style.asciiOnly && Value.entriesHalf entries) := by
  rw [writeEntries_eq_map] at same
  rw [Value.entriesHalf_eq_any, List.and_any_distrib_left]
  refine any_eq_of_sorted same written fun e mem body part text member => ?_
  rw [hasHalf_writeMember member, values e mem body text, Bool.and_or_distrib_left]

/-- A map is written entry by entry, in some order. -/
theorem exists_of_write_map {style : Style} {entries : List (Value × Value)} {ps : List Point}
    (h : write style (.map entries) = .ok ps) :
    ∃ (sorted : List (Value × Except Fault (List Point))) (parts : List (List Point)),
      sorted.Perm (writeEntries style entries) ∧
      sorted.mapM (fun e => do writeMember style e.1 (← e.2)) = .ok parts ∧
      ps = .char '\x7b' :: join style.comma parts ++ [.char '\x7d'] := by
  rw [write] at h
  split at h
  next =>
    obtain ⟨sorted, sorts, h⟩ := exists_of_bind_ok h
    obtain ⟨parts, texts, h⟩ := exists_of_bind_ok h
    cases h
    exact ⟨sorted, parts, Value.sortByKey_perm sorts, texts, rfl⟩
  next =>
    obtain ⟨_, ⟨⟩, h⟩ := exists_of_bind_ok h
    obtain ⟨parts, texts, h⟩ := exists_of_bind_ok h
    cases h
    exact ⟨_, parts, .refl _, texts, rfl⟩

theorem hasHalf_word (asciiOnly : Bool) (cs : List Char) :
    Text.hasHalf (chars cs) = (!asciiOnly && false) := by
  rw [hasHalf_chars, Bool.and_false]

mutual

/-- A written document has halves just if the value has and they are not escaped. -/
theorem hasHalf_write {style : Style} : ∀ {v : Value} {ps : List Point},
    write style v = .ok ps → Text.hasHalf ps = (!style.asciiOnly && v.hasHalf)
  | .null, _, h => by cases h; exact hasHalf_word _ _
  | .bool b, _, h => by cases b <;> cases h <;> exact hasHalf_word _ _
  | .int i, _, h => by cases h; exact hasHalf_word _ _
  | .double d, _, h => by cases h; exact hasHalf_word _ _
  | .str s, _, h => by
    cases h
    rw [hasHalf_writeString, hasHalf_chars]
    rfl
  | .broken b, _, h => by
    cases h
    rw [hasHalf_writeString, chars?_eq_none_iff.1 b.broken, Value.hasHalf]
  | .decimal _, _, h => by cases h
  | .bytes _, _, h => by cases h
  | .list items, _, h => by
    rw [write] at h
    obtain ⟨parts, texts, h⟩ := exists_of_bind_ok h
    cases h
    rw [hasHalf_enclosed, hasHalf_join, hasHalf_writeItems texts, Value.hasHalf]
  | .tuple items, _, h => by
    rw [write] at h
    obtain ⟨parts, texts, h⟩ := exists_of_bind_ok h
    cases h
    rw [hasHalf_enclosed, hasHalf_join, hasHalf_writeItems texts, Value.hasHalf]
  | .map entries, _, h => by
    obtain ⟨sorted, parts, same, texts, rfl⟩ := exists_of_write_map h
    rw [hasHalf_enclosed, hasHalf_join, Value.hasHalf,
      hasHalf_members (hasHalf_writeEntries entries) same texts]

theorem hasHalf_writeItems {style : Style} : ∀ {items : List Value} {parts : List (List Point)},
    writeItems style items = .ok parts →
      parts.any Text.hasHalf = (!style.asciiOnly && Value.anyHalf items)
  | [], _, h => by cases h; rw [Value.anyHalf, Bool.and_false]; rfl
  | v :: vs, _, h => by
    rw [writeItems] at h
    obtain ⟨ps, text, h⟩ := exists_of_bind_ok h
    obtain ⟨parts, texts, h⟩ := exists_of_bind_ok h
    cases h
    rw [List.any_cons, hasHalf_write text, hasHalf_writeItems texts, Value.anyHalf,
      Bool.and_or_distrib_left]

theorem hasHalf_writeEntries {style : Style} : ∀ (entries : List (Value × Value)),
    ∀ e ∈ entries, ∀ ps, write style e.2 = .ok ps →
      Text.hasHalf ps = (!style.asciiOnly && e.2.hasHalf)
  | [], _, mem, _, _ => by cases mem
  | (_, v) :: entries, e, mem, ps, text => by
    rcases List.mem_cons.1 mem with rfl | mem
    · exact hasHalf_write text
    · exact hasHalf_writeEntries entries e mem ps text

end

theorem wholeText_chars (cs : List Char) : wholeText (chars cs) = .ok cs :=
  congrArg (Except.mapError _) (encodable_chars cs)

/-- A document that is shown has no halves, since they are escaped there. -/
theorem exists_show {sorted : Bool} {v : Value} {ps : List Point}
    (written : write (.shown sorted) v = .ok ps) :
    ∃ cs, show? sorted v = .ok (String.ofList cs) := by
  obtain ⟨cs, rfl⟩ := exists_chars (hasHalf_write written)
  refine ⟨cs, ?_⟩
  rw [show?, written]
  exact congrArg (·.map String.ofList) (wholeText_chars cs)

end Json

namespace Value

open Text

theorem canonicalItems_eq_mapM (items : List Value) :
    canonicalItems items = items.mapM canonicalize := by
  induction items with
  | nil => rfl
  | cons v items ih => rw [canonicalItems, ih, List.mapM_cons]

theorem canonicalEntries_eq_map (entries : List (Value × Value)) :
    canonicalEntries entries = entries.map fun e => (e.1, e.2.canonicalize) := by
  induction entries with
  | nil => rfl
  | cons e entries ih => rw [canonicalEntries, ih, List.map_cons]

mutual

/-- A canonical form has halves just if the value has. -/
theorem hasHalf_canonicalize : ∀ {v p : Value}, v.canonicalize = .ok p → p.hasHalf = v.hasHalf
  | .null, _, h => by cases h; rfl
  | .bool _, _, h => by cases h; rfl
  | .int _, _, h => by cases h; rfl
  | .double _, _, h => by cases h; rfl
  | .str _, _, h => by cases h; rfl
  | .broken _, _, h => by cases h; rfl
  | .bytes _, _, h => by cases h; rfl
  | .decimal d, _, h => by
    rw [canonicalize] at h
    obtain ⟨t, -, h⟩ := exists_of_bind_ok h
    cases h
    rfl
  | .list items, _, h => by
    rw [canonicalize] at h
    obtain ⟨forms, canonical, h⟩ := exists_of_bind_ok h
    cases h
    rw [hasHalf, anyHalf_canonicalItems canonical, hasHalf]
  | .tuple items, _, h => by
    rw [canonicalize] at h
    obtain ⟨forms, canonical, h⟩ := exists_of_bind_ok h
    cases h
    rw [hasHalf, anyHalf_canonicalItems canonical, hasHalf]
  | .map entries, _, h => by
    rw [canonicalize] at h
    obtain ⟨sorted, sorts, h⟩ := exists_of_bind_ok h
    obtain ⟨forms, canonical, h⟩ := exists_of_bind_ok h
    cases h
    have same := sortByKey_perm sorts
    rw [canonicalEntries_eq_map] at same
    rw [hasHalf, hasHalf, entriesHalf_eq_any, entriesHalf_eq_any]
    refine any_eq_of_sorted (g := fun k p => .ok (k, p)) same canonical
      fun e mem p form canonical made => ?_
    cases made
    rw [hasHalf_canonicalEntries entries e mem p canonical]

theorem anyHalf_canonicalItems : ∀ {items forms : List Value},
    canonicalItems items = .ok forms → anyHalf forms = anyHalf items
  | [], _, h => by cases h; rfl
  | v :: vs, _, h => by
    rw [canonicalItems] at h
    obtain ⟨p, canonical, h⟩ := exists_of_bind_ok h
    obtain ⟨forms, canonicals, h⟩ := exists_of_bind_ok h
    cases h
    rw [anyHalf, hasHalf_canonicalize canonical, anyHalf_canonicalItems canonicals, anyHalf]

theorem hasHalf_canonicalEntries : ∀ (entries : List (Value × Value)),
    ∀ e ∈ entries, ∀ p, e.2.canonicalize = .ok p → p.hasHalf = e.2.hasHalf
  | [], _, mem, _, _ => by cases mem
  | (_, v) :: entries, e, mem, p, canonical => by
    rcases List.mem_cons.1 mem with rfl | mem
    · exact hasHalf_canonicalize canonical
    · exact hasHalf_canonicalEntries entries e mem p canonical

end

/-- The canonical document is what is written of the canonical form. -/
theorem canonicalPoints_of_form {v p : Value} (form : v.canonicalize = .ok p) {ps : List Point}
    (written : Json.write .compact p = .ok ps) : v.canonicalPoints = .ok ps := by
  rw [canonicalPoints, form]
  exact written

/-- Values with one canonical form have one text, or fail for one reason. -/
theorem canonicalChars_congr {v w : Value} (same : v.canonicalize = w.canonicalize) :
    v.canonicalChars = w.canonicalChars := by
  rw [canonicalChars, canonicalChars, canonicalPoints, canonicalPoints, same]

theorem canonicalChars_error {v : Value} {fault : Fault} (fails : v.canonicalize = .error fault) :
    v.canonicalChars = .error fault := by
  rw [canonicalChars, canonicalPoints, fails]
  rfl

/-- A canonical document has halves just if the value has. -/
theorem hasHalf_canonicalPoints {v : Value} {ps : List Point}
    (written : v.canonicalPoints = .ok ps) : Text.hasHalf ps = v.hasHalf := by
  obtain ⟨p, canonical, text⟩ := exists_of_bind_ok written
  exact (Json.hasHalf_write text).trans (hasHalf_canonicalize canonical)

theorem canonicalChars_of_points {v : Value} {cs : List Char}
    (written : v.canonicalPoints = .ok (chars cs)) : v.canonicalChars = .ok cs := by
  rw [canonicalChars, written]
  exact Json.wholeText_chars cs

/-- A value without halves has its canonical characters if it can be written. -/
theorem canonicalChars_of_whole {v : Value} (whole : v.hasHalf = false) {ps : List Point}
    (written : v.canonicalPoints = .ok ps) : ∃ cs, ps = chars cs ∧ v.canonicalChars = .ok cs := by
  obtain ⟨cs, rfl⟩ := exists_chars ((hasHalf_canonicalPoints written).trans whole)
  exact ⟨cs, rfl, canonicalChars_of_points written⟩

/-- A value with a half has no canonical characters: its document cannot be encoded. -/
theorem canonicalChars_of_half {v : Value} (half : v.hasHalf = true) {ps : List Point}
    (written : v.canonicalPoints = .ok ps) :
    v.canonicalChars = .error (.encoding (.encoding (.of ps))) := by
  have broken : chars? ps = none :=
    chars?_eq_none_iff.2 ((hasHalf_canonicalPoints written).trans half)
  rw [canonicalChars, written]
  show Json.wholeText ps = _
  rw [Json.wholeText, encodable, broken]
  rfl

/-- A value with canonical characters can be written, and has no halves. -/
theorem whole_of_canonicalChars {v : Value} {cs : List Char} (text : v.canonicalChars = .ok cs) :
    v.canonicalPoints = .ok (chars cs) ∧ v.hasHalf = false := by
  obtain ⟨ps, written, whole⟩ := exists_of_bind_ok text
  cases half : v.hasHalf with
  | true => cases (canonicalChars_of_half half written).symm.trans text
  | false =>
    obtain ⟨cs', rfl, text'⟩ := canonicalChars_of_whole half written
    cases text.symm.trans text'
    exact ⟨written, rfl⟩

end Value

end EventLedger
