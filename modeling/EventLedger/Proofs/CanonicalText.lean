import EventLedger.Proofs.DoubleText
import EventLedger.Proofs.JsonValues

/-!
# Canonical texts tell values apart

Every value that can be read and has no halves has a canonical text (`Prints`), and the text says
which value it is, up to the order of fields, whatever follows it (`Prints.toldApart`). The kind of
the value shows in the first code point; scalars other than doubles are read back, and lists and
records are told apart part by part (`join_unique`).
-/

namespace EventLedger

namespace Value

open Text Json

/-- The code points are the canonical text of a value that can be read and has no halves. -/
structure Prints (v : Value) (cs : List Point) : Prop where
  json : WholeJson v
  text : v.canonicalPoints = .ok cs

/-- The code points are the canonical text of a field. -/
def PrintsField (f : String × Value) (cs : List Point) : Prop :=
  ∃ body, cs = writeString false f.1 ++ .char ':' :: body ∧ Prints f.2 body

theorem Prints.unique {v : Value} {cs ds : List Point} (h : Prints v cs) (h' : Prints v ds) :
    cs = ds :=
  Except.ok.inj (h.text.symm.trans h'.text)

theorem prints_list {items : List Value} {parts : List (List Point)}
    (h : List.Forall₂ Prints items parts) :
    Prints (.list items) (.char '[' :: join "," parts ++ [.char ']']) := by
  refine ⟨.list (forall_mem_of_forall₂ h fun _ _ prints => prints.json), ?_⟩
  have forms : ∃ canonical, canonicalItems items = .ok canonical ∧
      writeItems .compact canonical = .ok parts := by
    induction h with
    | nil => exact ⟨[], rfl, rfl⟩
    | cons prints _ ih =>
      obtain ⟨form, canonical, written⟩ := exists_of_bind_ok prints.text
      obtain ⟨forms, canonicals, writtens⟩ := ih
      refine ⟨form :: forms, ?_, ?_⟩
      · rw [canonicalItems, canonical, canonicals]
        rfl
      · rw [writeItems, written, writtens]
        rfl
  obtain ⟨canonical, forms, written⟩ := forms
  rw [canonicalPoints, canonicalize, forms]
  show write .compact (.list canonical) = _
  rw [write, written]
  rfl

/-- The canonical text of a record has the texts of its fields, in order. -/
theorem prints_record {fields sorted : List (String × Value)} {parts : List (List Point)}
    (same : sorted.Perm fields) (order : sorted.Pairwise fun f g => f.1 < g.1)
    (h : List.Forall₂ PrintsField sorted parts) :
    Prints (.record fields) (.char '\x7b' :: join "," parts ++ [.char '\x7d']) := by
  have json : ∀ f ∈ sorted, WholeJson f.2 :=
    forall_mem_of_forall₂ h fun _ _ ⟨_, _, prints⟩ => prints.json
  have distinct := same.pairwise (order.imp fun lt => String.ne_of_lt lt) Ne.symm
  refine ⟨.record distinct fun f mem => json f (same.mem_iff.2 mem), ?_⟩
  have forms : ∃ canonical : List (String × Value),
      (canonical.map fun g => (g.1, (.ok g.2 : Except Fault Value))) =
        (sorted.map fun f => (f.1, f.2.canonicalize)) ∧
      canonical.map Prod.fst = sorted.map Prod.fst ∧ List.Forall₂ WritesMember canonical parts := by
    clear same order json distinct
    induction h with
    | nil => exact ⟨[], rfl, rfl, .nil⟩
    | @cons f _ _ _ field _ ih =>
      obtain ⟨body, rfl, prints⟩ := field
      obtain ⟨form, canonical, written⟩ := exists_of_bind_ok prints.text
      obtain ⟨forms, canonicals, names, writtens⟩ := ih
      refine ⟨(f.1, form) :: forms, ?_, ?_, .cons ⟨body, rfl, written⟩ writtens⟩
      · rw [List.map_cons, List.map_cons, canonicals, canonical]
      · rw [List.map_cons, List.map_cons, names]
  obtain ⟨canonical, forms, names, written⟩ := forms
  have order' : canonical.Pairwise fun f g => f.1 < g.1 :=
    List.pairwise_map.1 (names ▸ List.pairwise_map.2 order)
  exact canonicalPoints_of_form (canonicalize_fields (forms ▸ same.map _) order')
    (write_fields order' written)

/-- The written form of a scalar other than a double. -/
inductive Scalar : Value → List Point → Prop
  | null : Scalar .null "null"
  | bool (b : Bool) : Scalar (.bool b) (if b then "true" else "false")
  | int (i : Int) : Scalar (.int i) (chars (intChars i))
  | str (s : String) : Scalar (.str s) (writeString false s)

/-- The canonical text of a value by the kind of the value. -/
inductive Form : Value → List Point → Prop
  | scalar {v : Value} {cs : List Point} (scalar : Scalar v cs) : Form v cs
  | double (d : Double) : Form (.double d) (chars (d.chars .document))
  | list {items : List Value} {parts : List (List Point)}
    (texts : List.Forall₂ Prints items parts) :
    Form (.list items) (.char '[' :: (join "," parts ++ [.char ']']))
  | record {fields sorted : List (String × Value)} {parts : List (List Point)}
    (same : sorted.Perm fields) (order : sorted.Pairwise fun f g => f.1 < g.1)
    (texts : List.Forall₂ PrintsField sorted parts) :
    Form (.record fields) (.char '\x7b' :: (join "," parts ++ [.char '\x7d']))

/-- The texts of the fields of a record, in the order of their names. -/
theorem exists_fields {fields : List (String × Value)}
    (distinct : fields.Pairwise fun f g => f.1 ≠ g.1) (h : ∀ f ∈ fields, ∃ cs, Prints f.2 cs) :
    ∃ (sorted : List (String × Value)) (parts : List (List Point)), sorted.Perm fields ∧
      (sorted.Pairwise fun f g => f.1 < g.1) ∧ List.Forall₂ PrintsField sorted parts := by
  obtain ⟨sorted, same, order⟩ := exists_sorted distinct
  have texts : ∀ f ∈ sorted, ∃ cs, PrintsField f cs := by
    intro f mem
    obtain ⟨body, prints⟩ := h f (same.mem_iff.1 mem)
    exact ⟨_, body, rfl, prints⟩
  obtain ⟨parts, texts⟩ := exists_forall₂ texts
  exact ⟨sorted, parts, same, order, texts⟩

/-- Such a value has a canonical text. -/
theorem WholeJson.exists_form {v : Value} (h : WholeJson v) : ∃ cs, Prints v cs ∧ Form v cs := by
  induction h with
  | null => exact ⟨_, ⟨.null, rfl⟩, .scalar .null⟩
  | bool b => exact ⟨_, ⟨.bool b, rfl⟩, .scalar (.bool b)⟩
  | int i => exact ⟨_, ⟨.int i, rfl⟩, .scalar (.int i)⟩
  | double d => exact ⟨_, ⟨.double d, rfl⟩, .double d⟩
  | str s => exact ⟨_, ⟨.str s, rfl⟩, .scalar (.str s)⟩
  | list _ ih =>
    obtain ⟨parts, texts⟩ := exists_forall₂ fun v mem => (ih v mem).imp fun _ => And.left
    exact ⟨_, prints_list texts, .list texts⟩
  | record distinct _ ih =>
    obtain ⟨sorted, parts, same, order, texts⟩ :=
      exists_fields distinct fun f mem => (ih f mem).imp fun _ => And.left
    exact ⟨_, prints_record same order texts, .record same order texts⟩

theorem Prints.form {v : Value} {cs : List Point} (h : Prints v cs) : Form v cs := by
  obtain ⟨cs', prints, form⟩ := h.json.exists_form
  exact prints.unique h ▸ form

theorem Prints.exists_chars {v : Value} {ps : List Point} (h : Prints v ps) :
    ∃ cs, ps = chars cs ∧ v.canonicalChars = .ok cs :=
  canonicalChars_of_whole h.json.hasHalf h.text

theorem Scalar.reads {v : Value} {cs : List Point} (h : Scalar v cs) : Reads cs v := by
  cases h with
  | null => exact reads_null
  | bool b => exact reads_bool b
  | int i => exact reads_int i
  | str s => exact reads_str s

theorem Scalar.same {v : Value} {cs : List Point} (h : Scalar v cs) : SameJson v v := by
  cases h with
  | null => exact .null
  | bool b => exact .bool b
  | int i => exact .int i
  | str s => exact .str s

theorem intChars_begins (i : Int) : ∃ c cs, intChars i = c :: cs ∧ beginsNumber c = true := by
  obtain ⟨c, cs, number⟩ := List.exists_cons_of_ne_nil (intChars_ne_nil i)
  refine ⟨c, cs, number, ?_⟩
  rcases intChars_cases (number ▸ List.mem_cons_self : c ∈ intChars i) with rfl | digit
  · rfl
  · exact beginsNumber_digit digit

/-- No scalar begins like a list or an object. -/
theorem Scalar.begins {v : Value} {cs : List Point} (h : Scalar v cs) :
    ∃ c cs', cs = c :: cs' ∧ c ≠ .char '[' ∧ c ≠ .char '\x7b' := by
  cases h with
  | null => exact ⟨_, _, rfl, by decide, by decide⟩
  | bool b => cases b <;> exact ⟨_, _, rfl, by decide, by decide⟩
  | int i =>
    obtain ⟨c, cs, number, begins⟩ := intChars_begins i
    refine ⟨.char c, chars cs, by rw [number, chars_cons], ?_, ?_⟩
    · rintro ⟨⟩; cases begins
    · rintro ⟨⟩; cases begins
  | str s => exact ⟨_, _, rfl, by decide, by decide⟩

theorem Form.begins {v : Value} {cs : List Point} (h : Form v cs) :
    ∃ c cs', cs = c :: cs' ∧ c ≠ .char ']' := by
  cases h with
  | scalar scalar =>
    obtain ⟨c, cs', text, -, ne⟩ := scalar.reads.begins
    exact ⟨c, cs', text, ne⟩
  | double d =>
    obtain ⟨c, cs, text, begins⟩ := d.chars_begins
    exact ⟨.char c, chars cs, by rw [text, chars_cons], by rintro ⟨⟩; cases begins⟩
  | list => exact ⟨_, _, rfl, by decide⟩
  | record => exact ⟨_, _, rfl, by decide⟩

/-- What ends in front of a part of a document is told apart from what follows. -/
theorem cancel_of_no_end {cs ds : List Char} {r s : List Point}
    (left : ∀ c ∈ cs, ¬ IsEnd (.char c)) (right : ∀ c ∈ ds, ¬ IsEnd (.char c)) (ends : Ends r)
    (ends' : Ends s) (eq : chars cs ++ r = chars ds ++ s) : cs = ds ∧ r = s := by
  induction cs generalizing ds with
  | nil =>
    cases ds with
    | nil => exact ⟨rfl, eq⟩
    | cons d ds =>
      exact absurd (ends (.char d) (by rw [← List.nil_append r, ← chars_nil, eq]; rfl))
        (right d (by simp))
  | cons c cs ih =>
    cases ds with
    | nil =>
      exact absurd (ends' (.char c) (by rw [← List.nil_append s, ← chars_nil, ← eq]; rfl))
        (left c (by simp))
    | cons d ds =>
      obtain ⟨⟨⟩, tails⟩ := List.cons_eq_cons.1 eq
      rw [List.forall_mem_cons] at left right
      obtain ⟨rfl, rest⟩ := ih left.2 right.2 tails
      exact ⟨rfl, rest⟩

/-- No other scalar is written like a double. -/
theorem Scalar.ne_double {v : Value} {cs r s : List Point} (h : Scalar v cs) (d : Double)
    (ends : Ends r) (ends' : Ends s) : cs ++ r ≠ chars (d.chars .document) ++ s := by
  intro eq
  obtain ⟨c, ds, text, begins⟩ := d.chars_begins
  have head : (cs ++ r).head? = some (.char c) := by rw [eq, text]; rfl
  cases h with
  | null => cases head; cases begins
  | bool b => cases b <;> cases head <;> cases begins
  | str => cases head; cases begins
  | int i =>
    have solid : ∀ c ∈ intChars i, ¬ IsEnd (.char c) := fun c mem =>
      Double.IsNumeric.not_isEnd ((intChars_cases mem).elim (fun h => .inr (.inl h)) .inl)
    obtain ⟨same, -⟩ := cancel_of_no_end solid d.chars_no_end ends ends' eq
    obtain ⟨c, mem, digit, minus⟩ := d.chars_marked
    rcases intChars_cases (same ▸ mem) with rfl | digit'
    · exact minus rfl
    · rw [digit] at digit'; cases digit'

/-! ## Joined texts -/

/-- What follows the first part of a list that is closed by a character. -/
def behind (close : Point) (parts : List (List Point)) (rest : List Point) : List Point :=
  match parts with
  | [] => close :: rest
  | parts => .char ',' :: (join "," parts ++ close :: rest)

theorem join_behind (p : List Point) (close : Point) (parts : List (List Point))
    (rest : List Point) :
    join "," (p :: parts) ++ close :: rest = p ++ behind close parts rest := by
  cases parts with
  | nil => rw [join_singleton]; rfl
  | cons q parts => rw [join_cons_cons, List.append_assoc]; rfl

theorem ends_behind {close : Point} (closes : close = .char ']' ∨ close = .char '\x7d')
    (parts : List (List Point)) (rest : List Point) : Ends (behind close parts rest) := by
  cases parts with
  | nil => rcases closes with rfl | rfl <;> [exact ends_bracket _; exact ends_brace _]
  | cons => exact ends_comma _

section

variable {α : Type} {text : α → List Point → Prop} {same : α → α → Prop} {close : Point}

/-- Parts that are told apart, whatever follows them, make joined texts that are. -/
theorem join_unique (closes : close = .char ']' ∨ close = .char '\x7d')
    (begins : ∀ x p, text x p → ∃ c cs, p = c :: cs ∧ c ≠ close)
    {xs ys : List α} {ps qs : List (List Point)} (left : List.Forall₂ text xs ps)
    (right : List.Forall₂ text ys qs)
    (unique : ∀ x ∈ xs, ∀ y p q r s, text x p → text y q → Ends r → Ends s → p ++ r = q ++ s →
      same x y ∧ r = s)
    {r s : List Point} (eq : join "," ps ++ close :: r = join "," qs ++ close :: s) :
    List.Forall₂ same xs ys ∧ r = s := by
  have comma : close ≠ .char ',' := by rcases closes with rfl | rfl <;> decide
  induction left generalizing ys qs with
  | nil =>
    cases right with
    | nil => exact ⟨.nil, (List.cons_eq_cons.1 eq).2⟩
    | cons first others =>
      obtain ⟨c, cs, rfl, ne⟩ := begins _ _ first
      rw [join_behind] at eq
      exact absurd (List.cons_eq_cons.1 eq).1.symm ne
  | @cons x p xs ps first others ih =>
    rw [List.forall_mem_cons] at unique
    cases right with
    | nil =>
      obtain ⟨c, cs, rfl, ne⟩ := begins _ _ first
      rw [join_behind] at eq
      exact absurd (List.cons_eq_cons.1 eq).1 ne
    | @cons y q ys qs first' others' =>
      rw [join_behind, join_behind] at eq
      obtain ⟨here, tails⟩ :=
        unique.1 y p q _ _ first first' (ends_behind closes _ _) (ends_behind closes _ _) eq
      cases others with
      | nil =>
        cases others' with
        | nil => exact ⟨.cons here .nil, (List.cons_eq_cons.1 tails).2⟩
        | cons => exact absurd (List.cons_eq_cons.1 tails).1 comma
      | cons second others =>
        cases others' with
        | nil => exact absurd (List.cons_eq_cons.1 tails).1.symm comma
        | cons second' others' =>
          obtain ⟨there, rest⟩ := ih (.cons second' others') unique.2 (List.cons_eq_cons.1 tails).2
          exact ⟨.cons here there, rest⟩

end

/-! ## Values -/

/-- The code points are of no other value, whatever follows them. -/
def ToldApart (v : Value) (cs : List Point) : Prop :=
  ∀ w ds r s, Prints w ds → Ends r → Ends s → cs ++ r = ds ++ s → SameJson v w ∧ r = s

/-- Fields whose values are told apart are told apart. -/
theorem PrintsField.unique {f g : String × Value} {p q r s : List Point}
    (apart : ∀ cs, Prints f.2 cs → ToldApart f.2 cs)
    (left : PrintsField f p) (right : PrintsField g q) (ends : Ends r) (ends' : Ends s)
    (eq : p ++ r = q ++ s) : (f.1 = g.1 ∧ SameJson f.2 g.2) ∧ r = s := by
  obtain ⟨body, rfl, prints⟩ := left
  obtain ⟨body', rfl, prints'⟩ := right
  rw [List.append_assoc, List.append_assoc, List.cons_append, List.cons_append] at eq
  obtain ⟨names, values⟩ := writeString_inj eq
  have name : f.1 = g.1 := String.toList_inj.1 (chars_inj names)
  obtain ⟨same, rest⟩ := apart body prints g.2 body' r s prints' ends ends'
    (List.cons_eq_cons.1 values).2
  exact ⟨⟨name, same⟩, rest⟩

/-- Records whose fields agree in the order of their names are the same. -/
theorem sameJson_record {fields fields' sorted sorted' : List (String × Value)}
    (perm : sorted.Perm fields) (perm' : sorted'.Perm fields')
    (order : sorted'.Pairwise fun f g => f.1 < g.1)
    (same : List.Forall₂ (fun f g => f.1 = g.1 ∧ SameJson f.2 g.2) sorted sorted') :
    SameJson (.record fields) (.record fields') := by
  refine .record (fun name => ?_) fun f mem g mem' names => ?_
  · have names : sorted.map Prod.fst = sorted'.map Prod.fst :=
      map_eq_of_forall₂ same fun _ _ field => field.1
    rw [← (perm.map _).mem_iff, names, (perm'.map _).mem_iff]
  · obtain ⟨g', mem'', names', same⟩ := exists_of_forall₂ same f (perm.mem_iff.2 mem)
    rw [eq_of_mem_of_order order (perm'.mem_iff.2 mem') mem'' (names.symm.trans names')]
    exact same

theorem Scalar.prints {v : Value} {cs : List Point} (h : Scalar v cs) : Prints v cs := by
  cases h with
  | null => exact ⟨.null, rfl⟩
  | bool b => exact ⟨.bool b, rfl⟩
  | int i => exact ⟨.int i, rfl⟩
  | str s => exact ⟨.str s, rfl⟩

theorem Scalar.toldApart {v : Value} {cs : List Point} (h : Scalar v cs) : ToldApart v cs := by
  intro w ds r s prints ends ends' eq
  obtain ⟨c, cs', text, list, object⟩ := h.begins
  cases prints.form with
  | scalar other =>
    obtain ⟨rfl, rest⟩ := Reads.unique h.reads other.reads ends ends' eq
    exact ⟨h.same, rest⟩
  | double d => exact absurd eq (h.ne_double d ends ends')
  | list => rw [text] at eq; exact absurd (List.cons_eq_cons.1 eq).1 list
  | record => rw [text] at eq; exact absurd (List.cons_eq_cons.1 eq).1 object

theorem toldApart_double (d : Double) : ToldApart (.double d) (chars (d.chars .document)) := by
  intro w ds r s prints ends ends' eq
  obtain ⟨c, cs, text, begins⟩ := d.chars_begins
  cases prints.form with
  | scalar other => exact absurd eq.symm (other.ne_double d ends' ends)
  | double e =>
    obtain ⟨same, rest⟩ := cancel_of_no_end d.chars_no_end e.chars_no_end ends ends' eq
    exact ⟨.double same, rest⟩
  | list => rw [text] at eq; cases (List.cons_eq_cons.1 eq).1; cases begins
  | record => rw [text] at eq; cases (List.cons_eq_cons.1 eq).1; cases begins

theorem toldApart_list {items : List Value} {parts : List (List Point)}
    (texts : List.Forall₂ Prints items parts)
    (apart : ∀ v ∈ items, ∀ cs, Prints v cs → ToldApart v cs) :
    ToldApart (.list items) (.char '[' :: (join "," parts ++ [.char ']'])) := by
  intro w ds r s prints ends ends' eq
  cases prints.form with
  | scalar other =>
    obtain ⟨c, cs, rfl, list, -⟩ := other.begins
    exact absurd (List.cons_eq_cons.1 eq).1.symm list
  | double d =>
    obtain ⟨c, cs, text, begins⟩ := d.chars_begins
    rw [text] at eq
    cases (List.cons_eq_cons.1 eq).1
    cases begins
  | list texts' =>
    rw [List.cons_append, List.cons_append, List.append_assoc, List.append_assoc] at eq
    have inner := (List.cons_eq_cons.1 eq).2
    obtain ⟨same, rest⟩ := join_unique (.inl rfl) (fun v p prints => prints.form.begins) texts
      texts' (fun v mem w p q r s left => apart v mem p left w q r s) inner
    exact ⟨.list same, rest⟩
  | record => cases (List.cons_eq_cons.1 eq).1

theorem PrintsField.begins {f : String × Value} {cs : List Point} (h : PrintsField f cs) :
    ∃ c cs', cs = c :: cs' ∧ c ≠ .char '\x7d' := by
  obtain ⟨body, rfl, -⟩ := h
  exact ⟨_, _, rfl, by decide⟩

theorem toldApart_record {fields sorted : List (String × Value)} {parts : List (List Point)}
    (perm : sorted.Perm fields) (texts : List.Forall₂ PrintsField sorted parts)
    (apart : ∀ f ∈ fields, ∀ cs, Prints f.2 cs → ToldApart f.2 cs) :
    ToldApart (.record fields) (.char '\x7b' :: (join "," parts ++ [.char '\x7d'])) := by
  intro w ds r s prints ends ends' eq
  cases prints.form with
  | scalar other =>
    obtain ⟨c, cs, rfl, -, object⟩ := other.begins
    exact absurd (List.cons_eq_cons.1 eq).1.symm object
  | double d =>
    obtain ⟨c, cs, text, begins⟩ := d.chars_begins
    rw [text] at eq
    cases (List.cons_eq_cons.1 eq).1
    cases begins
  | list => cases (List.cons_eq_cons.1 eq).1
  | record perm' order texts' =>
    rw [List.cons_append, List.cons_append, List.append_assoc, List.append_assoc] at eq
    have inner := (List.cons_eq_cons.1 eq).2
    obtain ⟨same, rest⟩ := join_unique (.inr rfl) (fun f p field => field.begins) texts texts'
      (fun f mem g p q r s left => left.unique (apart f (perm.mem_iff.1 mem))) inner
    exact ⟨sameJson_record perm perm' order same, rest⟩

/-- Canonical texts are told apart, whatever follows them. -/
theorem Prints.toldApart {v : Value} {cs : List Point} (h : Prints v cs) : ToldApart v cs := by
  have json := h.json
  induction json generalizing cs with
  | null => rw [h.unique Scalar.null.prints]; exact Scalar.null.toldApart
  | bool b => rw [h.unique (Scalar.bool b).prints]; exact (Scalar.bool b).toldApart
  | int i => rw [h.unique (Scalar.int i).prints]; exact (Scalar.int i).toldApart
  | str s => rw [h.unique (Scalar.str s).prints]; exact (Scalar.str s).toldApart
  | double d => rw [h.unique ⟨.double d, rfl⟩]; exact toldApart_double d
  | list all ih =>
    obtain ⟨parts, texts⟩ :=
      exists_forall₂ fun v mem => (all v mem).exists_form.imp fun _ => And.left
    rw [h.unique (prints_list texts)]
    exact toldApart_list texts fun v mem cs prints => ih v mem prints
  | @record fields distinct all ih =>
    obtain ⟨sorted, parts, perm, order, texts⟩ :=
      exists_fields distinct fun f mem => (all f mem).exists_form.imp fun _ => And.left
    rw [h.unique (prints_record perm order texts)]
    exact toldApart_record perm texts fun f mem cs prints => ih f mem prints

end Value

end EventLedger
