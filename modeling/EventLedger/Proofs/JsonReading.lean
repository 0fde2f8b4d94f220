import EventLedger.Json.Reader
import EventLedger.Json.Writer
import EventLedger.Proofs.Lists
import EventLedger.Proofs.Numerals

/-!
# Reading what was written

Code points are a written form of a value (`Reads`) if the reader takes just them and returns the
value, whatever follows, and if they fit on one line. The compact forms of texts, numbers and words
are written forms, and lists and objects of written forms are written forms again (`reads_list`,
`reads_object`).
-/

namespace EventLedger.Json

open Text

theorem hexDigit?_hexChar {d : Nat} (h : d < 16) : hexDigit? (.char (hexChar d)) = some d := by
  revert d
  decide

theorem codeUnit?_hexChars {n : Nat} (h : n < 0x10000) :
    ∃ a b c d, chars (hexChars 4 n) = [a, b, c, d] ∧ codeUnit? a b c d = some n := by
  refine ⟨_, _, _, _, rfl, ?_⟩
  rw [codeUnit?, hexDigit?_hexChar (by omega), hexDigit?_hexChar (by omega),
    hexDigit?_hexChar (by omega), hexDigit?_hexChar (by omega)]
  refine congrArg some ?_
  omega

/-- A short escape is read as the character it stands for. -/
theorem readString_escape (opening : Nat) {e : Point} {c : Char} (named : escaped? e = some c)
    (rest : List Point) : readString opening (.char '\\' :: e :: rest) =
      consPoint (.char c) (readString opening rest) := by
  have unit : e ≠ .char 'u' := by
    rintro rfl
    cases named
  rw [readString, named]
  · rintro _ _ _ _ _ _ rfl; exact absurd rfl unit
  · exact unit

/-- The written forms of a character: a short escape, its number, or the character itself. -/
theorem writeChar_cases (c : Char) :
    (∃ e, escaped? (.char e) = some c ∧ 0x20 ≤ e.toNat ∧ writeChar false c = ['\\', e]) ∨
      (c.toNat < 0x20 ∧ writeChar false c = unitEscape c.toNat) ∨
      (¬ c.toNat < 0x20 ∧ c ≠ '"' ∧ c ≠ '\\' ∧ writeChar false c = [c]) := by
  by_cases quote : c = '"'
  · subst quote; exact .inl ⟨'"', rfl, by decide, rfl⟩
  by_cases slash : c = '\\'
  · subst slash; exact .inl ⟨'\\', rfl, by decide, rfl⟩
  by_cases newline : c = '\n'
  · subst newline; exact .inl ⟨'n', rfl, by decide, rfl⟩
  by_cases carriageReturn : c = '\r'
  · subst carriageReturn; exact .inl ⟨'r', rfl, by decide, rfl⟩
  by_cases tab : c = '\t'
  · subst tab; exact .inl ⟨'t', rfl, by decide, rfl⟩
  by_cases formFeed : c = '\x0c'
  · subst formFeed; exact .inl ⟨'f', rfl, by decide, rfl⟩
  by_cases backspace : c = '\x08'
  · subst backspace; exact .inl ⟨'b', rfl, by decide, rfl⟩
  have others : writeChar false c = if c.toNat < 0x20 then unitEscape c.toNat else [c] := by
    simp only [writeChar, beq_iff_eq, quote, slash, newline, carriageReturn, tab, formFeed,
      backspace, if_false, Bool.not_false, Bool.true_or, if_true]
  by_cases control : c.toNat < 0x20
  · exact .inr (.inl ⟨control, others.trans (if_pos control)⟩)
  · exact .inr (.inr ⟨control, quote, slash, others.trans (if_neg control)⟩)

/-- The reader takes back a character that is written as its number. -/
theorem readString_unitEscape (opening : Nat) {c : Char} (control : c.toNat < 0x20)
    {rest : List Point} (more : rest ≠ []) :
    readString opening (chars (unitEscape c.toNat) ++ rest) =
      consPoint (.char c) (readString opening rest) := by
  obtain ⟨a, b, d, e, digits, unit⟩ := codeUnit?_hexChars (by omega : c.toNat < 0x10000)
  obtain ⟨f, rest, rfl⟩ := List.exists_cons_of_ne_nil more
  have high : isHighSurrogate c.toNat = false := by
    simp only [isHighSurrogate, Bool.and_eq_false_iff, decide_eq_false_iff_not]
    omega
  have point : Point.ofNat c.toNat = .char c := by
    rw [Point.ofNat, dif_neg (by omega), Char.ofNat_toNat]
  rw [unitEscape, chars_cons, chars_cons, digits]
  simp [readString, unit, high, point]

/-- A code point that needs no escape stands for itself. -/
theorem readString_itself (opening : Nat) {p : Point} (printable : ¬ p.toNat < 0x20)
    (quote : p ≠ .char '"') (slash : p ≠ .char '\\') (rest : List Point) :
    readString opening (p :: rest) = consPoint p (readString opening rest) := by
  rw [readString, if_neg printable]
  · exact quote
  · rintro rfl; exact absurd rfl slash
  · rintro _ _ _ _ _ _ rfl; exact absurd rfl slash
  · rintro _ rfl; exact absurd rfl slash
  · rintro _ _ rfl; exact absurd rfl slash

theorem printable_half (h : Half) : 0x20 ≤ (Point.half h).toNat := by
  show 0x20 ≤ 0xD800 + _
  omega

/-- The reader takes back one written code point. -/
theorem readString_writePoint (opening : Nat) (p : Point) {rest : List Point} (more : rest ≠ []) :
    readString opening (writePoint false p ++ rest) = consPoint p (readString opening rest) := by
  cases p with
  | half h =>
    exact readString_itself opening (Nat.not_lt.2 (printable_half h)) nofun nofun rest
  | char c =>
    rw [writePoint]
    rcases writeChar_cases c with
      ⟨e, named, -, written⟩ | ⟨control, written⟩ | ⟨printable, quote, slash, written⟩
    · rw [written]
      exact readString_escape opening named rest
    · rw [written]
      exact readString_unitEscape opening control more
    · rw [written]
      exact @readString_itself opening (.char c) printable (fun eq => quote (Point.char.inj eq))
        (fun eq => slash (Point.char.inj eq)) rest

theorem printable_hexChars (k n : Nat) : ∀ c ∈ hexChars k n, 0x20 ≤ c.toNat := by
  induction k generalizing n with
  | zero => intro c mem; cases mem
  | succ k ih =>
    have digit : ∀ d < 16, 0x20 ≤ (hexChar d).toNat := by decide
    intro c mem
    rw [hexChars, List.mem_append, List.mem_singleton] at mem
    rcases mem with mem | rfl
    · exact ih _ c mem
    · exact digit _ (Nat.mod_lt _ (by decide))

theorem printable_writeChar (c : Char) : ∀ d ∈ writeChar false c, 0x20 ≤ d.toNat := by
  intro d mem
  rcases writeChar_cases c with
    ⟨e, -, printable, written⟩ | ⟨-, written⟩ | ⟨printable, -, -, written⟩
  · rw [written] at mem
    rcases List.mem_pair.1 mem with rfl | rfl
    · decide
    · exact printable
  · rw [written, unitEscape, List.mem_cons, List.mem_cons] at mem
    rcases mem with rfl | rfl | mem
    · decide
    · decide
    · exact printable_hexChars 4 _ d mem
  · rw [written, List.mem_singleton] at mem
    rw [mem]
    exact Nat.le_of_not_lt printable

/-- No written code point is a control character. -/
theorem printable_writePoint (p : Point) : ∀ q ∈ writePoint false p, 0x20 ≤ q.toNat := by
  cases p with
  | half h => exact List.forall_mem_singleton.2 (printable_half h)
  | char c => exact List.forall_mem_map.2 (printable_writeChar c)

/-- The reader takes back a written text. -/
theorem readString_written (opening : Nat) (ps rest : List Point) :
    readString opening (ps.flatMap (writePoint false) ++ .char '"' :: rest) = .ok (ps, rest) := by
  induction ps with
  | nil => simp [readString]
  | cons p ps ih =>
    rw [List.flatMap_cons, List.append_assoc, readString_writePoint opening p (by simp), ih]
    rfl

/-- A code point that may follow a value: a comma, the end of a list or of an object, or the end of
the line. -/
def IsEnd (p : Point) : Prop :=
  p = .char ',' ∨ p = .char ']' ∨ p = .char '\x7d' ∨ p = .char '\n'

/-- What follows a value: nothing, or a code point that may. -/
def Ends (rest : List Point) : Prop :=
  ∀ p ∈ rest.head?, IsEnd p

theorem ends_comma (rest : List Point) : Ends (.char ',' :: rest) := by
  rintro p ⟨⟩
  exact .inl rfl

theorem ends_bracket (rest : List Point) : Ends (.char ']' :: rest) := by
  rintro p ⟨⟩
  exact .inr (.inl rfl)

theorem ends_brace (rest : List Point) : Ends (.char '\x7d' :: rest) := by
  rintro p ⟨⟩
  exact .inr (.inr (.inl rfl))

/-- What comes next is no digit. -/
def NoDigit (rest : List Point) : Prop :=
  ∀ c, .char c ∈ rest.head? → c.isDigit = false

theorem Ends.noDigit {rest : List Point} (ends : Ends rest) : NoDigit rest := by
  intro c mem
  rcases ends _ mem with eq | eq | eq | eq <;> rw [Point.char.inj eq] <;> rfl

/-- Digits are taken up to the first code point that is none. -/
theorem splitDigits_append {ds : List Char} (digits : ∀ d ∈ ds, d.isDigit = true)
    {rest : List Point} (stop : NoDigit rest) : splitDigits (chars ds ++ rest) = (ds, rest) := by
  induction ds with
  | nil =>
    cases rest with
    | nil => rfl
    | cons p rest =>
      cases p with
      | half h => rfl
      | char c =>
        show splitDigits (.char c :: rest) = _
        rw [splitDigits, stop c rfl]
        rfl
  | cons d ds ih =>
    rw [List.forall_mem_cons] at digits
    rw [chars_cons, List.cons_append, splitDigits, if_pos digits.1, ih digits.2]

/-- Neither a fraction nor an exponent follows. -/
theorem Ends.split {rest : List Point} (ends : Ends rest) :
    splitFraction rest = ([], rest) ∧ splitExponent rest = (none, rest) := by
  cases rest with
  | nil => exact ⟨rfl, rfl⟩
  | cons p rest => rcases ends p rfl with rfl | rfl | rfl | rfl <;> exact ⟨rfl, rfl⟩

theorem readUnsigned_natChars (negative : Bool) (n : Nat) {rest : List Point} (ends : Ends rest) :
    readUnsigned negative (chars (natChars n) ++ rest) =
      some (.int (Decimal.signed negative n), rest) := by
  have whole := splitDigits_append (fun d mem => isDigit_of_mem_natChars (n := n) mem) ends.noDigit
  have value := ofChars_natChars n
  rcases natChars_cases n with ⟨rfl, zero⟩ | ⟨d, ds, number, ne⟩
  · rw [zero] at value ⊢
    simp [readUnsigned, ends.split.1, ends.split.2, value]
  · rw [readUnsigned, whole]
    · simp [natChars_ne_nil, ends.split.1, ends.split.2, value]
    · intro rest' eq
      rw [number, chars_cons, List.cons_append] at eq
      exact ne (Point.char.inj (List.cons_eq_cons.1 eq).1)

theorem digit_point_ne {d c : Char} (digit : d.isDigit = true) (other : c.isDigit = false)
    (ps qs : List Point) : Point.char d :: ps ≠ .char c :: qs := by
  intro eq
  rw [Point.char.inj (List.cons_eq_cons.1 eq).1, other] at digit
  cases digit

/-- A number that begins with a digit has no sign. -/
theorem readNumber_digit {d : Char} (digit : d.isDigit = true) (ps : List Point) :
    readNumber (.char d :: ps) = readUnsigned false (.char d :: ps) := by
  unfold readNumber
  split
  next eq => exact absurd eq (digit_point_ne digit rfl _ _)
  next eq => exact absurd eq (digit_point_ne digit rfl _ _)
  next eq => exact absurd eq (digit_point_ne digit rfl _ _)
  next eq => exact absurd eq (digit_point_ne digit rfl _ _)
  next => rfl

theorem readNumber_minus {d : Char} (digit : d.isDigit = true) (ps : List Point) :
    readNumber (.char '-' :: .char d :: ps) = readUnsigned true (.char d :: ps) := by
  unfold readNumber
  split
  next eq => cases (List.cons_eq_cons.1 eq).1
  next eq => cases (List.cons_eq_cons.1 eq).1
  next eq => exact absurd (List.cons_eq_cons.1 eq).2 (digit_point_ne digit rfl _ _)
  next eq => rw [(List.cons_eq_cons.1 eq).2]
  next other => exact absurd rfl (other _)

/-- A written whole number is read back. -/
theorem readNumber_intChars (i : Int) {rest : List Point} (ends : Ends rest) :
    readNumber (chars (intChars i) ++ rest) = some (.int i, rest) := by
  have digit : ∀ {n : Nat} {d : Char} {ds : List Char}, natChars n = d :: ds → d.isDigit = true :=
    fun number => isDigit_of_mem_natChars (number ▸ List.mem_cons_self ..)
  cases i with
  | ofNat n =>
    have read := readUnsigned_natChars false n ends
    obtain ⟨d, ds, number⟩ := List.exists_cons_of_ne_nil (natChars_ne_nil n)
    show readNumber (chars (natChars n) ++ rest) = _
    rw [number, chars_cons, List.cons_append] at read ⊢
    rw [readNumber_digit (digit number), read]
    rfl
  | negSucc n =>
    have read := readUnsigned_natChars true (n + 1) ends
    obtain ⟨d, ds, number⟩ := List.exists_cons_of_ne_nil (natChars_ne_nil (n + 1))
    show readNumber (.char '-' :: (chars (natChars (n + 1)) ++ rest)) = _
    rw [number, chars_cons, List.cons_append] at read ⊢
    rw [readNumber_minus (digit number), read]
    rfl

/-- The first code point is no blank and ends no list. -/
def Begins (cs : List Point) : Prop :=
  ∃ c cs', cs = c :: cs' ∧ isSpace c = false ∧ c ≠ .char ']'

theorem Begins.append {cs : List Point} (h : Begins cs) (rest : List Point) :
    Begins (cs ++ rest) := by
  obtain ⟨c, cs, rfl, begins⟩ := h
  exact ⟨c, cs ++ rest, rfl, begins⟩

theorem Begins.skipSpace {cs : List Point} (h : Begins cs) : skipSpace cs = cs := by
  obtain ⟨c, cs, rfl, solid, -⟩ := h
  rw [Json.skipSpace, List.dropWhile_cons_of_neg (by simp [solid])]

/-- The code points are a written form of the value. -/
structure Reads (cs : List Point) (v : Value) : Prop where
  begins : Begins cs
  /-- No code point ends the line. -/
  printable : ∀ c ∈ cs, 0x20 ≤ c.toNat
  reads : ∀ fuel rest, cs.length ≤ fuel + 1 → Ends rest →
    readValue (fuel + 1) (cs ++ rest) = .ok (v, rest)

theorem Reads.printable_chars {cs : List Char} {v : Value} (h : Reads (chars cs) v) :
    ∀ c ∈ cs, 0x20 ≤ c.toNat :=
  fun c mem => h.printable (.char c) (List.mem_map_of_mem mem)

theorem Begins.length_pos {cs : List Point} (h : Begins cs) : 0 < cs.length := by
  obtain ⟨c, cs', rfl, -⟩ := h
  exact Nat.succ_pos _

theorem Reads.read {cs : List Point} {v : Value} (h : Reads cs v) {fuel : Nat} {rest : List Point}
    (enough : cs.length ≤ fuel) (ends : Ends rest) :
    readValue fuel (cs ++ rest) = .ok (v, rest) := by
  have pos := h.begins.length_pos
  obtain ⟨fuel, rfl⟩ := Nat.exists_eq_add_one_of_ne_zero (by omega : fuel ≠ 0)
  exact h.reads fuel rest enough ends

/-- Two written forms that begin alike, whatever follows them, are of one value. -/
theorem Reads.unique {v w : Value} {cs ds r s : List Point} (left : Reads cs v) (right : Reads ds w)
    (ends : Ends r) (ends' : Ends s) (eq : cs ++ r = ds ++ s) : v = w ∧ r = s := by
  have first := left.reads (cs.length + ds.length) r (by omega) ends
  have second := right.reads (cs.length + ds.length) s (by omega) ends'
  rw [eq, second] at first
  cases first
  exact ⟨rfl, rfl⟩

theorem reads_null : Reads "null" .null where
  begins := ⟨_, _, rfl, rfl, by decide⟩
  printable := by decide
  reads _ _ _ _ := rfl

theorem reads_bool (b : Bool) : Reads (if b then "true" else "false") (.bool b) := by
  cases b with
  | true => exact ⟨⟨_, _, rfl, rfl, by decide⟩, by decide, fun _ _ _ _ => rfl⟩
  | false => exact ⟨⟨_, _, rfl, rfl, by decide⟩, by decide, fun _ _ _ _ => rfl⟩

theorem printable_writeString (cs : List Point) : ∀ c ∈ writeString false cs, 0x20 ≤ c.toNat := by
  intro c mem
  simp only [writeString, List.cons_append, List.mem_cons, List.mem_append, List.mem_flatMap,
    List.not_mem_nil, or_false] at mem
  rcases mem with rfl | ⟨d, -, mem⟩ | rfl
  · decide
  · exact printable_writePoint d c mem
  · decide

/-- Any text is read back, with or without halves. -/
theorem reads_text (ps : List Point) : Reads (writeString false ps) (.ofPoints ps) := by
  refine ⟨⟨_, _, rfl, rfl, by decide⟩, printable_writeString _, fun fuel rest _ _ => ?_⟩
  have text := fun opening => readString_written opening ps rest
  simp only [writeString, List.cons_append, List.append_assoc, List.nil_append]
  rw [readValue, text]
  rfl

theorem reads_str (s : String) : Reads (writeString false s) (.str s) := by
  have text := reads_text s
  rw [Value.ofPoints_coe] at text
  exact text

theorem intChars_cases {i : Int} {c : Char} (mem : c ∈ intChars i) :
    c = '-' ∨ c.isDigit = true := by
  cases i with
  | ofNat n => exact .inr (isDigit_of_mem_natChars mem)
  | negSucc n =>
    rcases List.mem_cons.1 mem with rfl | mem
    · exact .inl rfl
    · exact .inr (isDigit_of_mem_natChars mem)

theorem intChars_ne_nil (i : Int) : intChars i ≠ [] := by
  cases i with
  | ofNat n => exact natChars_ne_nil n
  | negSucc n => exact List.cons_ne_nil _ _

/-- What the reader of numbers takes is a written form, if it begins like a number. -/
theorem reads_number {c : Char} {cs : List Char} {v : Value} (first : c = '-' ∨ c.isDigit = true)
    (printable : ∀ d ∈ c :: cs, 0x20 ≤ d.toNat)
    (read : ∀ rest, Ends rest → readNumber (chars (c :: cs) ++ rest) = some (v, rest)) :
    Reads (chars (c :: cs)) v := by
  have ne : ∀ d : Char, d ≠ '-' → d.isDigit = false → Point.char c ≠ .char d := by
    rintro d minus digit eq
    obtain rfl := Point.char.inj eq
    rcases first with rfl | first
    · exact minus rfl
    · rw [digit] at first; cases first
  refine ⟨⟨.char c, chars cs, rfl, ?_, ne ']' (by decide) rfl⟩, List.forall_mem_map.2 printable,
    fun fuel rest _ ends => ?_⟩
  · simp only [isSpace, beq_false_of_ne (ne ' ' (by decide) rfl),
      beq_false_of_ne (ne '\t' (by decide) rfl), beq_false_of_ne (ne '\n' (by decide) rfl),
      beq_false_of_ne (ne '\r' (by decide) rfl), Bool.or_false]
  · have number := read rest ends
    rw [chars_cons, List.cons_append] at number ⊢
    rw [readValue, number]
    all_goals rintro _ eq; exact absurd (List.cons_eq_cons.1 eq).1 (ne _ (by decide) rfl)

theorem printable_of_isDigit {c : Char} (digit : c.isDigit = true) : 0x20 ≤ c.toNat := by
  have := (isDigit_iff.1 digit).1
  omega

theorem reads_int (i : Int) : Reads (chars (intChars i)) (.int i) := by
  obtain ⟨c, cs, number⟩ := List.exists_cons_of_ne_nil (intChars_ne_nil i)
  have first := intChars_cases (number ▸ List.mem_cons_self .. : c ∈ intChars i)
  have printable : ∀ d ∈ intChars i, 0x20 ≤ d.toNat := by
    intro d mem
    rcases intChars_cases mem with rfl | digit
    · decide
    · exact printable_of_isDigit digit
  have read := fun (rest : List Point) (ends : Ends rest) => readNumber_intChars i ends
  rw [number] at read printable ⊢
  exact reads_number first printable read

/-! ## Lists and objects -/

theorem join_cons_cons (p q : List Point) (ps : List (List Point)) :
    join "," (p :: q :: ps) = p ++ .char ',' :: join "," (q :: ps) := by
  simp [join]

theorem join_singleton (separator : String) (p : List Point) : join separator [p] = p := by
  simp [join]

theorem begins_join {p : List Point} (h : Begins p) (parts : List (List Point)) :
    Begins (join "," (p :: parts)) := by
  cases parts with
  | nil => rw [join_singleton]; exact h
  | cons q parts => rw [join_cons_cons]; exact h.append _

/-- The items of a list are read up to its end. -/
theorem readItems_join {parts : List (List Point)} {items : List Value}
    (h : List.Forall₂ Reads parts items) (ne : parts ≠ []) :
    ∀ fuel rest, (join "," parts).length ≤ fuel →
      readItems (fuel + 1) (join "," parts ++ .char ']' :: rest) = .ok (items, rest) := by
  induction h with
  | nil => exact absurd rfl ne
  | @cons p v parts items first others ih =>
    intro fuel rest enough
    cases others with
    | nil =>
      rw [join_singleton] at enough ⊢
      rw [readItems, first.read enough (ends_bracket rest)]
      rfl
    | @cons q w parts items second others =>
      rw [join_cons_cons] at enough ⊢
      rw [List.length_append, List.length_cons] at enough
      have pos := first.begins.length_pos
      obtain ⟨fuel, rfl⟩ := Nat.exists_eq_add_one_of_ne_zero (by omega : fuel ≠ 0)
      have tail := ih (List.cons_ne_nil _ _) fuel rest (by omega)
      have skip := ((begins_join second.begins parts).append (.char ']' :: rest)).skipSpace
      rw [List.append_assoc, List.cons_append]
      rw [readItems, first.read (by omega) (ends_comma _)]
      show (readItems (fuel + 1) (skipSpace (join "," (q :: parts) ++ .char ']' :: rest)) >>=
        fun r => .ok (v :: r.1, r.2)) = _
      rw [skip, tail]
      rfl

/-- The code points of a member of an object. -/
def ReadsMember (cs : List Point) (m : Value × Value) : Prop :=
  ∃ name body, m.1 = .ofPoints name ∧ cs = writeString false name ++ .char ':' :: body ∧
    Reads body m.2

theorem readString_name (opening : Nat) (name rest : List Point) :
    ∃ cs, writeString false name ++ rest = .char '"' :: cs ∧
      readString opening cs = .ok (name, rest) := by
  refine ⟨_, ?_, readString_written opening name rest⟩
  simp only [writeString, List.cons_append, List.append_assoc, List.nil_append]

/-- A text in quotes is known, whatever follows it. -/
theorem writeString_inj {a b r s : List Point}
    (eq : writeString false a ++ r = writeString false b ++ s) : a = b ∧ r = s := by
  obtain ⟨cs, text, name⟩ := readString_name 0 a r
  obtain ⟨cs', text', name'⟩ := readString_name 0 b s
  rw [text, text'] at eq
  cases eq
  rw [name] at name'
  injection name' with pair
  exact Prod.mk.injEq .. ▸ pair

theorem ReadsMember.begins {p : List Point} {m : Value × Value} (h : ReadsMember p m) :
    ∃ cs, p = .char '"' :: cs := by
  obtain ⟨name, body, -, rfl, -⟩ := h
  exact ⟨_, rfl⟩

theorem ReadsMember.join_begins {p : List Point} {m : Value × Value} (h : ReadsMember p m)
    (parts : List (List Point)) : ∃ cs, join "," (p :: parts) = .char '"' :: cs := by
  obtain ⟨cs, rfl⟩ := h.begins
  cases parts with
  | nil => exact ⟨cs, join_singleton ..⟩
  | cons q parts => exact ⟨_, join_cons_cons ..⟩

/-- What reading goes on with behind a member. -/
def readBehind (fuel : Nat) (m : Value × Value) :
    List Point → Except Stop (List (Value × Value) × List Point)
  | .char '\x7d' :: rest => .ok ([m], rest)
  | .char ',' :: rest => (readMembers fuel (skipSpace rest)).map fun r => (m :: r.1, r.2)
  | rest => stopAt .expectingComma rest

/-- One member is read, and then what follows it. -/
theorem ReadsMember.read {p : List Point} {m : Value × Value} (h : ReadsMember p m) {fuel : Nat}
    {rest : List Point} (enough : p.length ≤ fuel) (ends : Ends rest) :
    readMembers (fuel + 1) (p ++ rest) = readBehind fuel m (skipSpace rest) := by
  obtain ⟨key, v⟩ := m
  obtain ⟨name, body, rfl, rfl, value⟩ := h
  rw [List.length_append, List.length_cons] at enough
  obtain ⟨cs, text, -⟩ := readString_name 0 name (.char ':' :: (body ++ rest))
  obtain ⟨cs', text', read⟩ :=
    readString_name (Point.char '"' :: cs).length name (.char ':' :: (body ++ rest))
  cases text.symm.trans text'
  rw [List.append_assoc, List.cons_append, text, readMembers, read]
  show (readValue fuel (skipSpace (body ++ rest)) >>= fun r =>
    readBehind fuel (.ofPoints name, r.1) (skipSpace r.2)) = _
  rw [(value.begins.append rest).skipSpace, value.read (by omega) ends]
  rfl

/-- The members of an object are read up to its end. -/
theorem readMembers_join {parts : List (List Point)} {members : List (Value × Value)}
    (h : List.Forall₂ ReadsMember parts members) (ne : parts ≠ []) :
    ∀ fuel rest, (join "," parts).length ≤ fuel →
      readMembers (fuel + 1) (join "," parts ++ .char '\x7d' :: rest) = .ok (members, rest) := by
  induction h with
  | nil => exact absurd rfl ne
  | @cons p m parts members first others ih =>
    intro fuel rest enough
    cases others with
    | nil =>
      rw [join_singleton] at enough ⊢
      rw [first.read enough (ends_brace rest)]
      rfl
    | @cons q w parts members second others =>
      rw [join_cons_cons] at enough ⊢
      rw [List.length_append, List.length_cons] at enough
      have pos : 0 < p.length := by
        obtain ⟨cs, rfl⟩ := first.begins
        exact Nat.succ_pos _
      obtain ⟨fuel, rfl⟩ := Nat.exists_eq_add_one_of_ne_zero (by omega : fuel ≠ 0)
      have tail := ih (List.cons_ne_nil _ _) fuel rest (by omega)
      obtain ⟨cs, begins⟩ := second.join_begins parts
      rw [List.append_assoc, List.cons_append]
      rw [first.read (by omega) (ends_comma _)]
      show (readMembers (fuel + 1) (skipSpace (join "," (q :: parts) ++ .char '\x7d' :: rest))).map
        (fun r => (m :: r.1, r.2)) = _
      have skip : skipSpace (join "," (q :: parts) ++ .char '\x7d' :: rest) =
          join "," (q :: parts) ++ .char '\x7d' :: rest := by
        rw [begins]
        rfl
      rw [skip, tail]
      rfl

/-! ## Whole lists and objects -/

theorem printable_join {parts : List (List Point)}
    (h : ∀ p ∈ parts, ∀ c ∈ p, 0x20 ≤ c.toNat) : ∀ c ∈ join "," parts, 0x20 ≤ c.toNat := by
  induction parts with
  | nil => intro c mem; cases mem
  | cons p parts ih =>
    rw [List.forall_mem_cons] at h
    cases parts with
    | nil => rw [join_singleton]; exact h.1
    | cons q parts =>
      intro c mem
      rw [join_cons_cons, List.mem_append, List.mem_cons] at mem
      rcases mem with mem | rfl | mem
      · exact h.1 c mem
      · decide
      · exact ih h.2 c mem

/-- Brackets around printable code points. -/
theorem printable_enclosed {a b : Point} {body : List Point} (ha : 0x20 ≤ a.toNat)
    (hb : 0x20 ≤ b.toNat) (h : ∀ c ∈ body, 0x20 ≤ c.toNat) :
    ∀ c ∈ a :: body ++ [b], 0x20 ≤ c.toNat := by
  intro c mem
  simp only [List.cons_append, List.mem_cons, List.mem_append, List.not_mem_nil, or_false] at mem
  rcases mem with rfl | mem | rfl
  · exact ha
  · exact h c mem
  · exact hb

theorem ReadsMember.printable {p : List Point} {m : Value × Value} (h : ReadsMember p m) :
    ∀ c ∈ p, 0x20 ≤ c.toNat := by
  obtain ⟨name, body, -, rfl, value⟩ := h
  intro c mem
  rw [List.mem_append, List.mem_cons] at mem
  rcases mem with mem | rfl | mem
  · exact printable_writeString _ c mem
  · decide
  · exact value.printable c mem

theorem reads_list {parts : List (List Point)} {items : List Value}
    (h : List.Forall₂ Reads parts items) :
    Reads (.char '[' :: join "," parts ++ [.char ']']) (.list items) := by
  have printable : ∀ p ∈ parts, ∀ c ∈ p, 0x20 ≤ c.toNat :=
    forall_mem_of_forall₂ h fun _ _ reads => reads.printable
  refine ⟨⟨_, _, rfl, rfl, by decide⟩,
    printable_enclosed (by decide) (by decide) (printable_join printable), ?_⟩
  intro fuel rest enough _
  simp only [List.cons_append, List.append_assoc, List.nil_append]
  cases h with
  | nil => rfl
  | @cons p v parts items first others =>
    simp only [List.cons_append, List.length_cons, List.length_append, List.length_nil] at enough
    obtain ⟨fuel, rfl⟩ := Nat.exists_eq_add_one_of_ne_zero (by omega : fuel ≠ 0)
    have begins := (begins_join first.begins parts).append (.char ']' :: rest)
    have read := readItems_join (.cons first others) (List.cons_ne_nil _ _) fuel rest (by omega)
    rw [readValue, begins.skipSpace]
    split
    next eq =>
      obtain ⟨c, cs, front, -, ne⟩ := begins
      exact absurd (List.cons_eq_cons.1 (front.symm.trans eq)).1 ne
    next => rw [read]; rfl

/-- The value ends where the code points end, whatever follows them. -/
def EndsItself (cs : List Point) (v : Value) : Prop :=
  ∀ fuel rest, cs.length ≤ fuel + 1 → readValue (fuel + 1) (cs ++ rest) = .ok (v, rest)

theorem endsItself_object {parts : List (List Point)} {members : List (Value × Value)}
    (h : List.Forall₂ ReadsMember parts members) :
    EndsItself (.char '\x7b' :: join "," parts ++ [.char '\x7d']) (object members) := by
  intro fuel rest enough
  simp only [List.cons_append, List.append_assoc, List.nil_append]
  cases h with
  | nil => rfl
  | @cons p m parts members first others =>
    simp only [List.cons_append, List.length_cons, List.length_append, List.length_nil] at enough
    obtain ⟨fuel, rfl⟩ := Nat.exists_eq_add_one_of_ne_zero (by omega : fuel ≠ 0)
    have read := readMembers_join (.cons first others) (List.cons_ne_nil _ _) fuel rest (by omega)
    obtain ⟨cs, begins⟩ := first.join_begins parts
    rw [begins, List.cons_append] at read ⊢
    rw [readValue]
    show (readMembers (fuel + 1) (.char '"' :: (cs ++ .char '\x7d' :: rest))).map _ = _
    rw [read]
    rfl

theorem reads_object {parts : List (List Point)} {members : List (Value × Value)}
    (h : List.Forall₂ ReadsMember parts members) :
    Reads (.char '\x7b' :: join "," parts ++ [.char '\x7d']) (object members) := by
  have printable : ∀ p ∈ parts, ∀ c ∈ p, 0x20 ≤ c.toNat :=
    forall_mem_of_forall₂ h fun _ _ reads => reads.printable
  exact ⟨⟨_, _, rfl, rfl, by decide⟩,
    printable_enclosed (by decide) (by decide) (printable_join printable),
    fun fuel rest enough _ => endsItself_object h fuel rest enough⟩

/-! ## Whole lines -/

/-- A written form, with blanks in front and nothing or a newline behind it, is a line with just
this value. -/
theorem Reads.readPoints_between {cs : List Point} {v : Value} (h : Reads cs v)
    {blanks rest : List Point} (skipped : ∀ c ∈ blanks, isSpace c = true) (ends : Ends rest)
    (last : skipSpace rest = []) : readPoints (blanks ++ (cs ++ rest)) = .ok v := by
  have enough : cs.length ≤ 2 * (blanks ++ (cs ++ rest)).length + 2 := by
    simp only [List.length_append]
    omega
  have front : skipSpace (blanks ++ (cs ++ rest)) = cs ++ rest := by
    rw [skipSpace, List.dropWhile_append_of_pos skipped]
    exact (h.begins.append rest).skipSpace
  have all : readAll (blanks ++ (cs ++ rest)) = .ok v := by
    rw [readAll, front, h.read enough ends]
    simp only [bind, Except.bind, last]
    rfl
  rw [Json.readPoints, all]

theorem ends_newline : Ends [.char '\n'] := by
  rintro c ⟨⟩
  exact .inr (.inr (.inr rfl))

theorem Reads.readPoints {cs : List Point} {v : Value} (h : Reads cs v) :
    readPoints (cs ++ [.char '\n']) = .ok v :=
  h.readPoints_between (List.forall_mem_nil _) ends_newline rfl

theorem ends_nil : Ends [] := by
  intro c h
  cases h

theorem Reads.readPoints_alone {cs : List Point} {v : Value} (h : Reads cs v) :
    Json.readPoints cs = .ok v := by
  have chars := h.readPoints_between (List.forall_mem_nil _) ends_nil rfl
  rw [List.nil_append, List.append_nil] at chars
  exact chars

/-- A written form is a text with just this value. It has no byte order mark, which is nothing that
a value begins with. -/
theorem Reads.read_text {cs : List Char} {v : Value} (h : Reads (chars cs) v) :
    Json.read (String.ofList cs) = .ok v := by
  rw [Json.read, String.toList_ofList]
  split
  next rest =>
    have value := h.reads rest.length [] (Nat.le_of_eq (length_chars _)) ends_nil
    cases value
  next => exact h.readPoints_alone

/-- Nothing may follow a value on its line. -/
theorem EndsItself.readPoints {cs : List Point} {v : Value} (h : EndsItself cs v)
    (begins : Begins cs) {more : List Point} (solid : Begins more) :
    ∃ e, readPoints (cs ++ more) = .error e := by
  have read := h (2 * (cs ++ more).length + 1) more (by rw [List.length_append]; omega)
  have stops : readAll (cs ++ more) = stopAt .extraData more := by
    obtain ⟨c, more, rfl, -⟩ := id solid
    rw [readAll, (begins.append _).skipSpace, read]
    simp only [bind, Except.bind, solid.skipSpace]
  rw [Json.readPoints, stops]
  exact ⟨_, rfl⟩

end EventLedger.Json
