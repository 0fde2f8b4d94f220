import EventLedger.Proofs.HalvedTexts
import EventLedger.Proofs.JsonReading

/-!
# Documents that are read back

A `Document` is a value that the compact form keeps apart from all others: words, whole numbers,
texts, lists of documents, and maps of documents under texts in order. Its compact form is read back
as the document itself (`Document.written`). The canonical form of a record of documents is the
record with its fields in order (`canonicalize_record`).
-/

namespace EventLedger.Value

/-- A value that the compact form keeps apart from all others. -/
inductive Document : Value → Prop
  | null : Document .null
  | bool (b : Bool) : Document (.bool b)
  | int (i : Int) : Document (.int i)
  | str (s : String) : Document (.str s)
  | list {items : List Value} (documents : ∀ v ∈ items, Document v) : Document (.list items)
  | record {fields : List (String × Value)} (order : fields.Pairwise fun f g => f.1 < g.1)
    (documents : ∀ f ∈ fields, Document f.2) : Document (.record fields)

section

variable {α β : Type}

/-- An entry under a text. -/
def named (f : String × α) : Value × α :=
  (.str f.1, f.2)

theorem record_eq (fields : List (String × Value)) : record fields = .map (fields.map named) := rfl

theorem eq_of_mem_of_order {fields : List (String × α)}
    (order : fields.Pairwise fun f g => f.1 < g.1) {f g : String × α} (hf : f ∈ fields)
    (hg : g ∈ fields) (same : f.1 = g.1) : f = g := by
  induction order with
  | nil => cases hf
  | @cons first fields before _ ih =>
    rcases List.mem_cons.1 hf with first' | hf <;> rcases List.mem_cons.1 hg with first'' | hg
    · rw [first', first'']
    · exact absurd (before g hg) (by rw [← first', same]; exact String.lt_irrefl _)
    · exact absurd (before f hf) (by rw [← first'', same]; exact String.lt_irrefl _)
    · exact ih hf hg

/-- Whether the first of two named things does not come behind the second one. -/
def nameOrder (f g : String × α) : Bool :=
  !decide (g.1 < f.1)

theorem nameOrder_iff {f g : String × α} : nameOrder f g = true ↔ f.1 ≤ g.1 := by
  rw [nameOrder, Bool.not_eq_true', decide_eq_false_iff_not, String.not_lt]

theorem pairwise_mergeSort_nameOrder (fields : List (String × α)) :
    (fields.mergeSort nameOrder).Pairwise fun f g => f.1 ≤ g.1 := by
  refine (List.pairwise_mergeSort ?_ ?_ fields).imp nameOrder_iff.1
  · intro f g h fg gh
    exact nameOrder_iff.2 (String.le_trans (nameOrder_iff.1 fg) (nameOrder_iff.1 gh))
  · intro f g
    rw [Bool.or_eq_true, nameOrder_iff, nameOrder_iff]
    exact String.le_total ..

/-- Sorting puts entries under different texts into the one order of these texts. -/
theorem sortByKey_named {fields sorted : List (String × α)} (same : sorted.Perm fields)
    (order : sorted.Pairwise fun f g => f.1 < g.1) :
    sortByKey (fields.map named) = .ok (sorted.map named) := by
  have texts : (fields.map named).all (·.1.isText) = true := by
    simp [named, isText]
  have sorts : fields.mergeSort nameOrder = sorted := by
    refine List.Perm.eq_of_pairwise (fun f g hf hg fg gf => ?_)
      (pairwise_mergeSort_nameOrder fields)
      (order.imp fun lt => String.not_lt.1 (String.lt_asymm lt))
      ((List.mergeSort_perm ..).trans same.symm)
    have mem : f ∈ sorted := same.mem_iff.2 ((List.mergeSort_perm ..).mem_iff.1 hf)
    exact eq_of_mem_of_order order mem hg (String.le_antisymm fg gf)
  have moved : (fields.mergeSort nameOrder).map named =
      (fields.map named).mergeSort fun a b => textOrder a.1 b.1 :=
    List.map_mergeSort fun _ _ _ _ => rfl
  rw [sortByKey, if_pos texts, ← sorts, moved]

/-- Entries under different texts in the order of these texts. -/
theorem exists_sorted {fields : List (String × α)}
    (distinct : fields.Pairwise fun f g => f.1 ≠ g.1) :
    ∃ sorted : List (String × α), sorted.Perm fields ∧ sorted.Pairwise fun f g => f.1 < g.1 := by
  have perm := List.mergeSort_perm fields nameOrder
  have distinct' := perm.symm.pairwise distinct Ne.symm
  refine ⟨_, perm, ((pairwise_mergeSort_nameOrder fields).and distinct').imp ?_⟩
  intro f g ⟨le, ne⟩
  by_contra behind
  exact ne (String.le_antisymm le (String.not_lt.1 behind))

end

/-! ## Reading compact forms -/

open Json

theorem insert_named_of_new {name : String} (v : Value) {fields : List (String × Value)}
    (new : ∀ f ∈ fields, f.1 ≠ name) :
    insert (.str name) v (fields.map named) = (fields ++ [(name, v)]).map named := by
  induction fields with
  | nil => rfl
  | cons f fields ih =>
    rw [List.forall_mem_cons] at new
    have other : sameKey (.str f.1) (.str name) = false := by
      simp [sameKey, isStr, new.1]
    rw [List.map_cons, named, insert, other, if_neg Bool.false_ne_true, ih new.2]
    rfl

theorem foldl_insert_named (front : List (String × Value)) {members : List (String × Value)}
    (distinct : (front ++ members).Pairwise fun f g => f.1 ≠ g.1) :
    (members.map named).foldl (fun entries m => insert m.1 m.2 entries) (front.map named) =
      (front ++ members).map named := by
  induction members generalizing front with
  | nil => rw [List.append_nil]; rfl
  | cons m members ih =>
    have new : ∀ f ∈ front, f.1 ≠ m.1 := fun f mem =>
      (List.pairwise_append.1 distinct).2.2 f mem m (List.mem_cons_self ..)
    rw [List.append_cons] at distinct ⊢
    rw [List.map_cons, List.foldl_cons, ← ih _ distinct]
    exact congrArg (List.foldl _ · _) (insert_named_of_new m.2 new)

/-- An object whose members have different names is a record of them. -/
theorem object_eq {members : List (String × Value)}
    (order : members.Pairwise fun f g => f.1 < g.1) :
    object (members.map named) = record members :=
  congrArg Value.map
    (foldl_insert_named [] (order.imp fun lt => String.ne_of_lt lt))

theorem writeEntries_named (style : Style) (fields : List (String × Value)) :
    writeEntries style (fields.map named) =
      (fields.map fun f => (f.1, write style f.2)).map named := by
  rw [writeEntries_eq_map, List.map_map, List.map_map]
  rfl

theorem writeItems_reads {items : List Value}
    (h : ∀ v ∈ items, ∃ cs, write .compact v = .ok cs ∧ Reads cs v) :
    ∃ parts, writeItems .compact items = .ok parts ∧ List.Forall₂ Reads parts items := by
  induction items with
  | nil => exact ⟨[], rfl, .nil⟩
  | cons v items ih =>
    rw [List.forall_mem_cons] at h
    obtain ⟨cs, text, reads⟩ := h.1
    obtain ⟨parts, texts, all⟩ := ih h.2
    refine ⟨cs :: parts, ?_, .cons reads all⟩
    rw [writeItems, text, texts]
    rfl

/-- The code points of a field in the compact form. -/
def WritesMember (f : String × Value) (cs : List Text.Point) : Prop :=
  ∃ body, cs = writeString false f.1 ++ .char ':' :: body ∧ write .compact f.2 = .ok body

theorem writeMembers {fields : List (String × Value)} {parts : List (List Text.Point)}
    (h : List.Forall₂ WritesMember fields parts) :
    ((fields.map fun f => (f.1, write .compact f.2)).map named).mapM
      (fun e => do writeMember .compact e.1 (← e.2)) = .ok parts := by
  induction h with
  | nil => rfl
  | @cons f _ fields parts first _ ih =>
    obtain ⟨cs, rfl, text⟩ := first
    have member : writeMember .compact (.str f.1) cs =
        .ok (writeString false f.1 ++ .char ':' :: cs) := by
      rw [writeMember, namePoints?, Style.compact]
      exact congrArg Except.ok (List.append_assoc ..)
    rw [List.map_cons, List.map_cons, List.mapM_cons, ih, text]
    show (do
      let part ← writeMember .compact (.str f.1) cs
      return part :: parts) = _
    rw [member]
    rfl

/-- A record whose fields are in order is written field by field. -/
theorem write_ordered {fields : List (String × Value)}
    (order : fields.Pairwise fun f g => f.1 < g.1) :
    write .compact (record fields) =
      Except.map (fun members => .char '\x7b' :: join "," members ++ [.char '\x7d'])
        (((fields.map fun f => (f.1, write .compact f.2)).map named).mapM
          fun e => do writeMember .compact e.1 (← e.2)) := by
  have sorted : (fields.map fun f => (f.1, write .compact f.2)).Pairwise fun f g => f.1 < g.1 :=
    List.pairwise_map.2 order
  rw [record_eq, write, writeEntries_named, sortByKey_named (.refl _) sorted]
  rfl

theorem write_fields {fields : List (String × Value)} {parts : List (List Text.Point)}
    (order : fields.Pairwise fun f g => f.1 < g.1) (h : List.Forall₂ WritesMember fields parts) :
    write .compact (record fields) = .ok (.char '\x7b' :: join "," parts ++ [.char '\x7d']) := by
  rw [write_ordered order, writeMembers h]
  rfl

/-- A field is written and read back as one of the same name. -/
def ReadsField (f m : String × Value) : Prop :=
  f.1 = m.1 ∧ ∃ cs, write .compact f.2 = .ok cs ∧ Reads cs m.2

theorem writesMember_reads {fields members : List (String × Value)}
    (h : List.Forall₂ ReadsField fields members) :
    ∃ parts, List.Forall₂ WritesMember fields parts ∧
      List.Forall₂ ReadsMember parts (members.map named) := by
  induction h with
  | nil => exact ⟨[], .nil, .nil⟩
  | cons first _ ih =>
    obtain ⟨name, cs, text, reads⟩ := first
    obtain ⟨parts, texts, all⟩ := ih
    exact ⟨_ :: parts, .cons ⟨cs, rfl, text⟩ texts,
      .cons ⟨_, cs, (ofPoints_coe _).symm, by rw [name], reads⟩ all⟩

/-- A record is read back field by field. -/
theorem write_record {fields members : List (String × Value)}
    (order : fields.Pairwise fun f g => f.1 < g.1) (h : List.Forall₂ ReadsField fields members) :
    ∃ parts,
      write .compact (record fields) = .ok (.char '\x7b' :: join "," parts ++ [.char '\x7d']) ∧
        List.Forall₂ ReadsMember parts (members.map named) := by
  obtain ⟨parts, texts, reads⟩ := writesMember_reads h
  exact ⟨parts, write_fields order texts, reads⟩

theorem ReadsField.order {fields members : List (String × Value)}
    (h : List.Forall₂ ReadsField fields members) (order : fields.Pairwise fun f g => f.1 < g.1) :
    members.Pairwise fun f g => f.1 < g.1 := by
  have names : fields.map Prod.fst = members.map Prod.fst :=
    map_eq_of_forall₂ h fun _ _ field => field.1
  exact List.pairwise_map.1 (names ▸ List.pairwise_map.2 order)

/-- A document has a compact form, which is read back as the document. -/
theorem Document.written {v : Value} (h : Document v) :
    ∃ cs, write .compact v = .ok cs ∧ Reads cs v := by
  induction h with
  | null => exact ⟨_, rfl, reads_null⟩
  | bool b => exact ⟨_, rfl, reads_bool b⟩
  | int i => exact ⟨_, rfl, reads_int i⟩
  | str s => exact ⟨_, rfl, reads_str s⟩
  | list _ ih =>
    obtain ⟨parts, texts, reads⟩ := writeItems_reads ih
    refine ⟨_, ?_, reads_list reads⟩
    rw [write, texts]
    rfl
  | record order _ ih =>
    obtain ⟨parts, text, reads⟩ :=
      write_record order (List.forall₂_same.2 fun f mem => ⟨rfl, ih f mem⟩)
    exact ⟨_, text, object_eq order ▸ reads_object reads⟩

/-! ## Canonical forms -/

theorem canonicalEntries_named (fields : List (String × Value)) :
    canonicalEntries (fields.map named) =
      (fields.map fun f => (f.1, f.2.canonicalize)).map named := by
  rw [canonicalEntries_eq_map, List.map_map, List.map_map]
  rfl

theorem mapM_ok_named (fields : List (String × Value)) :
    ((fields.map fun f => (f.1, (.ok f.2 : Except Fault Value))).map named).mapM
      (fun e => do return (e.1, ← e.2)) = .ok (fields.map named) := by
  induction fields with
  | nil => rfl
  | cons f fields ih =>
    rw [List.map_cons, List.map_cons, List.mapM_cons, ih]
    rfl

/-- A record whose fields have canonical forms has these in the order of their names. -/
theorem canonicalize_fields {fields sorted : List (String × Value)}
    (entries : (sorted.map fun f => (f.1, (.ok f.2 : Except Fault Value))).Perm
      (fields.map fun f => (f.1, f.2.canonicalize)))
    (order : sorted.Pairwise fun f g => f.1 < g.1) :
    (record fields).canonicalize = .ok (record sorted) := by
  have sorts := sortByKey_named entries (List.pairwise_map.2 order)
  rw [record_eq, canonicalize, canonicalEntries_named, sorts]
  exact congrArg (·.map Value.map) (mapM_ok_named sorted)

/-- The second field has the canonical form of the first one, which is a document. -/
structure CanonicalField (f g : String × Value) : Prop where
  name : f.1 = g.1
  form : f.2.canonicalize = .ok g.2
  document : Document g.2

theorem CanonicalField.entries {fields canonical sorted : List (String × Value)}
    (h : List.Forall₂ CanonicalField fields canonical) (same : sorted.Perm canonical) :
    (sorted.map fun f => (f.1, (.ok f.2 : Except Fault Value))).Perm
      (fields.map fun f => (f.1, f.2.canonicalize)) := by
  have forms : (fields.map fun f => (f.1, f.2.canonicalize)) =
      canonical.map fun g => (g.1, .ok g.2) :=
    map_eq_of_forall₂ h fun _ _ field => by rw [field.name, field.form]
  exact forms ▸ same.map _

/-- The canonical form of a record has the canonical forms of its fields, in order. -/
theorem canonicalize_record {fields canonical sorted : List (String × Value)}
    (h : List.Forall₂ CanonicalField fields canonical) (same : sorted.Perm canonical)
    (order : sorted.Pairwise fun f g => f.1 < g.1) :
    (record fields).canonicalize = .ok (record sorted) :=
  canonicalize_fields (CanonicalField.entries h same) order

theorem CanonicalField.documents {fields canonical : List (String × Value)}
    (h : List.Forall₂ CanonicalField fields canonical) : ∀ g ∈ canonical, Document g.2 :=
  forall_mem_of_forall₂ h.flip fun _ _ field => field.document

theorem canonicalItems_eq_self {items : List Value}
    (h : ∀ v ∈ items, v.canonicalize = .ok v) : canonicalItems items = .ok items := by
  induction items with
  | nil => rfl
  | cons v items ih =>
    rw [List.forall_mem_cons] at h
    rw [canonicalItems, h.1, ih h.2]
    rfl

/-- A document is its own canonical form. -/
theorem Document.canonicalize {v : Value} (h : Document v) : v.canonicalize = .ok v := by
  induction h with
  | null => rfl
  | bool => rfl
  | int => rfl
  | str => rfl
  | list _ ih =>
    rw [Value.canonicalize, canonicalItems_eq_self ih]
    rfl
  | record order documents ih =>
    exact canonicalize_record
      (List.forall₂_same.2 fun f mem => ⟨rfl, ih f mem, documents f mem⟩) (.refl _) order

theorem Document.field {v : Value} (h : Document v) (name : String) :
    CanonicalField (name, v) (name, v) :=
  ⟨rfl, h.canonicalize, h⟩

theorem document_record {fields canonical sorted : List (String × Value)}
    (h : List.Forall₂ CanonicalField fields canonical) (same : sorted.Perm canonical)
    (order : sorted.Pairwise fun f g => f.1 < g.1) : Document (record sorted) :=
  .record order fun f mem => CanonicalField.documents h f (same.mem_iff.1 mem)

/-- Fields are in order if their names are. -/
theorem order_of_names {α : Type} {fields : List (String × α)} (names : List String)
    (named : fields.map Prod.fst = names) (order : names.Pairwise (· < ·)) :
    fields.Pairwise fun f g => f.1 < g.1 :=
  List.pairwise_map.1 (named ▸ order)

/-- A document has no halves. -/
theorem Document.whole {v : Value} (h : Document v) : v.hasHalf = false := by
  induction h with
  | null => rfl
  | bool => rfl
  | int => rfl
  | str => rfl
  | list _ ih =>
    rw [hasHalf, anyHalf_eq_any, List.any_eq_false]
    exact fun v mem => by simp [ih v mem]
  | record _ _ ih =>
    rw [hasHalf_record, List.any_eq_false]
    exact fun f mem => by simp [ih f mem]

/-- A document has a canonical text. -/
theorem Document.exists_canonicalChars {v : Value} (h : Document v) :
    ∃ cs, v.canonicalChars = .ok cs ∧ Reads (Text.chars cs) v := by
  obtain ⟨ps, text, reads⟩ := h.written
  have points := canonicalPoints_of_form h.canonicalize text
  obtain ⟨cs, rfl, chars⟩ := canonicalChars_of_whole h.whole points
  exact ⟨cs, chars, reads⟩

/-- The canonical text of a record is read back as the record of what its fields are read back as. If
there are any fields, it begins with a brace and the first name. -/
theorem canonicalChars_fields {fields sorted members : List (String × Value)}
    (entries : (sorted.map fun f => (f.1, (.ok f.2 : Except Fault Value))).Perm
      (fields.map fun f => (f.1, f.2.canonicalize)))
    (order : sorted.Pairwise fun f g => f.1 < g.1)
    (written : List.Forall₂ ReadsField sorted members) (nonempty : members ≠ [])
    (whole : (record fields).hasHalf = false) :
    ∃ cs, (record fields).canonicalChars = .ok ('\x7b' :: '"' :: cs) ∧
      Reads (Text.chars ('\x7b' :: '"' :: cs)) (record members) ∧
      EndsItself (Text.chars ('\x7b' :: '"' :: cs)) (record members) := by
  obtain ⟨parts, text, reads⟩ := write_record order written
  have object := reads_object reads
  have ends := endsItself_object reads
  rw [object_eq (ReadsField.order written order)] at object ends
  have points := canonicalPoints_of_form (canonicalize_fields entries order) text
  obtain ⟨cs, own, chars⟩ := canonicalChars_of_whole whole points
  cases written with
  | nil => exact absurd rfl nonempty
  | cons _ _ =>
    cases reads with
    | @cons p m parts members first others =>
      obtain ⟨ps, begins⟩ := first.join_begins parts
      rw [begins] at own
      obtain ⟨_, cs, rfl, ⟨⟩, own'⟩ := List.map_eq_cons_iff.1 own.symm
      obtain ⟨_, cs, rfl, ⟨⟩, -⟩ := List.map_eq_cons_iff.1 own'
      rw [begins, own] at object ends
      exact ⟨cs, chars, object, ends⟩

theorem canonicalChars_record {fields canonical sorted : List (String × Value)}
    (h : List.Forall₂ CanonicalField fields canonical) (same : sorted.Perm canonical)
    (order : sorted.Pairwise fun f g => f.1 < g.1) (nonempty : sorted ≠ []) :
    ∃ cs, (record fields).canonicalChars = .ok ('\x7b' :: '"' :: cs) ∧
      Reads (Text.chars ('\x7b' :: '"' :: cs)) (record sorted) := by
  have documents := CanonicalField.documents h
  have whole : (record fields).hasHalf = false := by
    rw [← hasHalf_canonicalize (canonicalize_record h same order)]
    exact (document_record h same order).whole
  obtain ⟨cs, text, reads, -⟩ := canonicalChars_fields (CanonicalField.entries h same) order
    (List.forall₂_same.2 fun f mem => ⟨rfl, (documents f (same.mem_iff.1 mem)).written⟩) nonempty
    whole
  exact ⟨cs, text, reads⟩

end EventLedger.Value
