import EventLedger.Proofs.CanonicalText
import EventLedger.Proofs.ChainVerification
import EventLedger.Proofs.WrittenValues

/-!
# The order of names

The entries of a map are written in the order of their keys, and only then do the keys become names.
What is read of the text has texts as keys, so its entries are written in the order of the names. Both
texts are the same exactly if the names were in order the first time (`text_kept_iff`): always if the
keys are texts (`Document.namesInOrder`), but not if they are the numbers 2 and 10
(`text_kept_fails_numbers`).
-/

namespace EventLedger

namespace Json

open Text (Point)

/-- Code points that are read as some value. -/
def IsRead (cs : List Point) : Prop :=
  ∃ v, Reads cs v

/-- Code points that are read as a member of an object. -/
def IsMember (cs : List Point) : Prop :=
  ∃ m, ReadsMember cs m

theorem IsRead.rest_unique {p q r s : List Point} (left : IsRead p) (right : IsRead q)
    (ends : Ends r) (ends' : Ends s) (eq : p ++ r = q ++ s) : r = s := by
  obtain ⟨v, reads⟩ := left
  obtain ⟨w, reads'⟩ := right
  exact (reads.unique reads' ends ends' eq).2

theorem IsMember.rest_unique {p q r s : List Point} (left : IsMember p) (right : IsMember q)
    (ends : Ends r) (ends' : Ends s) (eq : p ++ r = q ++ s) : r = s := by
  obtain ⟨m, name, body, -, rfl, reads⟩ := left
  obtain ⟨m', name', body', -, rfl, reads'⟩ := right
  rw [List.append_assoc, List.append_assoc, List.cons_append, List.cons_append] at eq
  exact (reads.unique reads' ends ends' (List.cons_eq_cons.1 (writeString_inj eq).2).2).2

end Json

namespace Value

open Json Text

/-- Parts whose ends are known are known from the joined text. -/
theorem join_inj {close : Point} (closes : close = .char ']' ∨ close = .char '\x7d')
    {part : List Point → Prop}
    (begins : ∀ p, part p → ∃ c cs, p = c :: cs ∧ c ≠ close)
    (unique : ∀ {p q r s}, part p → part q → Ends r → Ends s → p ++ r = q ++ s → r = s)
    {ps qs : List (List Point)} (left : ∀ p ∈ ps, part p) (right : ∀ q ∈ qs, part q)
    (eq : join "," ps ++ [close] = join "," qs ++ [close]) : ps = qs := by
  have left' : List.Forall₂ (fun x p => x = p ∧ part p) ps ps :=
    List.forall₂_same.2 fun p mem => ⟨rfl, left p mem⟩
  have right' : List.Forall₂ (fun x p => x = p ∧ part p) qs qs :=
    List.forall₂_same.2 fun q mem => ⟨rfl, right q mem⟩
  have same : List.Forall₂ Eq ps qs := by
    refine (join_unique closes (fun _ p text => begins p text.2) left' right' ?_ eq).1
    rintro p - q _ _ r s ⟨rfl, here⟩ ⟨rfl, there⟩ ends ends' eq
    have rest := unique here there ends ends' eq
    rw [rest] at eq
    exact ⟨List.append_cancel_right eq, rest⟩
  rwa [List.forall₂_eq_eq_eq] at same

theorem Prints.isRead {v : Value} {cs : List Point} (h : Prints v cs) : IsRead cs := by
  obtain ⟨p, -, written⟩ := exists_of_bind_ok h.text
  exact exists_reads_of_write written

theorem PrintsField.isMember {f : String × Value} {cs : List Point} (h : PrintsField f cs) :
    IsMember cs := by
  obtain ⟨body, rfl, prints⟩ := h
  obtain ⟨w, reads⟩ := prints.isRead
  exact ⟨(.str f.1, w), f.1, body, (ofPoints_coe _).symm, rfl, reads⟩

/-- A list of what was read has the same text iff its items have theirs. -/
theorem prints_list_iff {parts : List (List Point)} {ws : List Value}
    (reads : List.Forall₂ Reads parts ws) :
    Prints (.list ws) (.char '[' :: join "," parts ++ [.char ']']) ↔
      List.Forall₂ Prints ws parts := by
  refine ⟨fun prints => ?_, prints_list⟩
  have form := prints.form
  generalize text : .char '[' :: join "," parts ++ [.char ']'] = cs at form
  cases form with
  | scalar other => cases other
  | @list _ parts' texts =>
    have inner := (List.cons_eq_cons.1 text).2
    have same : parts = parts' := by
      refine join_inj (.inl rfl) (fun p part => ?_) IsRead.rest_unique
        (forall_mem_of_forall₂ reads fun p w read => ⟨w, read⟩)
        (forall_mem_of_forall₂ texts.flip fun p w print => print.isRead) inner
      obtain ⟨w, read⟩ := part
      obtain ⟨c, cs, eq, -, ne⟩ := read.begins
      exact ⟨c, cs, eq, ne⟩
    exact same ▸ texts

theorem names_of_parts {fields members : List (String × Value)} {parts : List (List Point)}
    (texts : List.Forall₂ PrintsField fields parts)
    (reads : List.Forall₂ ReadsMember parts (members.map named)) :
    fields.map Prod.fst = members.map Prod.fst := by
  induction texts generalizing members with
  | nil => cases List.map_eq_nil_iff.1 (List.forall₂_nil_left_iff.1 reads); rfl
  | @cons f _ _ _ field _ ih =>
    cases members with
    | nil => cases reads
    | cons m members =>
      cases reads with
      | cons member others =>
        obtain ⟨body, rfl, -⟩ := field
        obtain ⟨name, body', own, eq, -⟩ := member
        rw [← (writeString_inj eq).1, ofPoints_coe] at own
        rw [List.map_cons, List.map_cons, ih others, Value.str.inj own]

theorem named_inj {α : Type} {f g : String × α} (eq : named f = named g) : f = g := by
  obtain ⟨name, v⟩ := Prod.mk.injEq .. ▸ eq
  exact Prod.ext (Value.str.inj name) v

/-- A record of what was read has the same text iff its fields are in order and have theirs. -/
theorem prints_object_iff {parts : List (List Point)} {members : List (String × Value)}
    (reads : List.Forall₂ ReadsMember parts (members.map named)) :
    Prints (object (members.map named)) (.char '\x7b' :: join "," parts ++ [.char '\x7d']) ↔
      (members.Pairwise fun f g => f.1 < g.1) ∧ List.Forall₂ PrintsField members parts := by
  constructor
  · intro prints
    have form := prints.form
    generalize text : .char '\x7b' :: join "," parts ++ [.char '\x7d'] = cs at form
    generalize whole : object (members.map named) = w at form
    cases form with
    | scalar other =>
      obtain ⟨c, cs, rfl, -, ne⟩ := other.begins
      exact absurd (List.cons_eq_cons.1 text).1.symm ne
    | double d =>
      obtain ⟨c, cs, eq, begins⟩ := d.chars_begins
      rw [eq] at text
      cases (List.cons_eq_cons.1 text).1
      cases begins
    | list => cases (List.cons_eq_cons.1 text).1
    | @record fields sorted parts' perm order texts =>
      have inner := (List.cons_eq_cons.1 text).2
      have same : parts = parts' := by
        refine join_inj (.inr rfl) (fun p part => ?_) IsMember.rest_unique
          (forall_mem_of_forall₂ reads fun p m read => ⟨m, read⟩)
          (forall_mem_of_forall₂ texts.flip fun p f field => PrintsField.isMember field) inner
        obtain ⟨m, member⟩ := part
        obtain ⟨cs, rfl⟩ := member.begins
        exact ⟨_, _, rfl, by decide⟩
      obtain rfl := same
      have names := names_of_parts texts reads
      have order' : members.Pairwise fun f g => f.1 < g.1 :=
        List.pairwise_map.1 (names ▸ List.pairwise_map.2 order)
      have entries : members.map named = fields.map named :=
        Value.map.inj ((object_eq order').symm.trans whole)
      obtain rfl := List.map_injective_iff.2 (fun _ _ => named_inj) entries
      obtain rfl : sorted = members := by
        refine List.Perm.eq_of_pairwise (fun f g _ _ lt gt => ?_) order order' perm
        exact absurd gt (String.lt_asymm lt)
      exact ⟨order', texts⟩
  · rintro ⟨order, texts⟩
    rw [object_eq order]
    exact prints_record (.refl _) order texts

/-! ## Values that are read again -/

/-- Values that are built from words, whole numbers, texts and decimals, with any keys. -/
inductive Plain : Value → Prop
  | null : Plain .null
  | bool (b : Bool) : Plain (.bool b)
  | int (i : Int) : Plain (.int i)
  | str (s : String) : Plain (.str s)
  | decimal (d : Decimal) : Plain (.decimal d)
  | list {items : List Value} (all : ∀ v ∈ items, Plain v) : Plain (.list items)
  | tuple {items : List Value} (all : ∀ v ∈ items, Plain v) : Plain (.tuple items)
  | map {entries : List (Value × Value)} (all : ∀ e ∈ entries, Plain e.2) : Plain (.map entries)

/-- In every map the names are different and in order, as the entries are written. -/
inductive NamesInOrder : Value → Prop
  | null : NamesInOrder .null
  | bool (b : Bool) : NamesInOrder (.bool b)
  | int (i : Int) : NamesInOrder (.int i)
  | str (s : String) : NamesInOrder (.str s)
  | list {items : List Value} (all : ∀ v ∈ items, NamesInOrder v) : NamesInOrder (.list items)
  | tuple {items : List Value} (all : ∀ v ∈ items, NamesInOrder v) : NamesInOrder (.tuple items)
  | map {entries : List (Value × Value)} {sorted : List (Value × Except Fault (List Point))}
    {names : List String} (sorts : sortByKey (writeEntries .compact entries) = .ok sorted)
    (texts : (sorted.map fun e => namePoints? e.1) =
      names.map fun name => some (chars name.toList))
    (order : names.Pairwise (· < ·)) (all : ∀ e ∈ entries, NamesInOrder e.2) :
    NamesInOrder (.map entries)

/-- What a text is read as, and when that has the same text. -/
structure ReadAgain (p : Value) (cs : List Point) (w : Value) : Prop where
  reads : Reads cs w
  json : WholeJson w
  kept : Prints w cs ↔ p.NamesInOrder

theorem some_chars_injective : Function.Injective fun name : String => some (chars name.toList) :=
  fun _ _ eq => String.toList_inj.1 (chars_inj (Option.some.inj eq))

theorem NamesInOrder.names {entries : List (Value × Value)}
    {sorted : List (Value × Except Fault (List Point))} (h : NamesInOrder (.map entries))
    (sorts : sortByKey (writeEntries .compact entries) = .ok sorted) :
    ∃ names : List String,
      (sorted.map fun e => namePoints? e.1) = (names.map fun name => some (chars name.toList)) ∧
        names.Pairwise (· < ·) ∧ ∀ e ∈ entries, NamesInOrder e.2 := by
  cases h with
  | map sorts' texts order all =>
    cases sorts.symm.trans sorts'
    exact ⟨_, texts, order, all⟩

/-- Names that are texts are always in order. -/
theorem Document.namesInOrder {v : Value} (h : Document v) : v.NamesInOrder := by
  induction h with
  | null => exact .null
  | bool b => exact .bool b
  | int i => exact .int i
  | str s => exact .str s
  | list _ ih => exact .list ih
  | @record fields order _ ih =>
    have order' : (fields.map fun f => (f.1, write .compact f.2)).Pairwise fun f g => f.1 < g.1 :=
      List.pairwise_map.2 order
    have sorts := sortByKey_named (.refl _) order'
    rw [← writeEntries_named] at sorts
    refine @NamesInOrder.map _ _ (fields.map Prod.fst) sorts ?_ (List.pairwise_map.2 order)
      (List.forall_mem_map.2 ih)
    rw [writeEntries_eq_map, List.map_map, List.map_map, List.map_map]
    rfl

/-- The items of a list are read again, one by one. -/
theorem readAgain_items {items : List Value} {parts : List (List Point)}
    (texts : List.Forall₂ (fun v cs => write .compact v = .ok cs) items parts)
    (again : ∀ v ∈ items, ∀ cs, write .compact v = .ok cs → ∃ w, ReadAgain v cs w) :
    ∃ ws, List.Forall₂ Reads parts ws ∧ (∀ w ∈ ws, WholeJson w) ∧
      (List.Forall₂ Prints ws parts ↔ ∀ v ∈ items, v.NamesInOrder) := by
  induction texts with
  | nil => exact ⟨[], .nil, nofun, iff_of_true .nil nofun⟩
  | cons text _ ih =>
    rw [List.forall_mem_cons] at again
    obtain ⟨w, first⟩ := again.1 _ text
    obtain ⟨ws, reads, json, kept⟩ := ih again.2
    refine ⟨w :: ws, .cons first.reads reads, List.forall_mem_cons.2 ⟨first.json, json⟩, ?_⟩
    rw [List.forall₂_cons, List.forall_mem_cons, first.kept, kept]

theorem readAgain_list {items : List Value} {cs : List Point}
    (written : (writeItems .compact items).map
      (fun parts => .char '[' :: join "," parts ++ [.char ']']) = .ok cs)
    (again : ∀ v ∈ items, ∀ cs, write .compact v = .ok cs → ∃ w, ReadAgain v cs w) :
    ∃ w, Reads cs w ∧ WholeJson w ∧ (Prints w cs ↔ ∀ v ∈ items, v.NamesInOrder) := by
  obtain ⟨parts, texts, rfl⟩ := exists_of_map_ok written
  rw [writeItems_eq_mapM] at texts
  obtain ⟨ws, reads, json, kept⟩ := readAgain_items (forall₂_of_mapM texts) again
  exact ⟨.list ws, reads_list reads, .list json, (prints_list_iff reads).trans kept⟩

/-- The code points of an entry, under the text that its key has become. -/
def WritesEntry (e : Value × Value) (cs : List Point) : Prop :=
  ∃ (name : String) (body : List Point), namePoints? e.1 = some (chars name.toList) ∧
    write .compact e.2 = .ok body ∧ cs = writeString false name ++ .char ':' :: body

/-- The entries of a map are read again, one by one, under their names. -/
theorem readAgain_members {entries : List (Value × Value)} {parts : List (List Point)}
    (texts : List.Forall₂ WritesEntry entries parts)
    (again : ∀ e ∈ entries, ∀ cs, write .compact e.2 = .ok cs → ∃ w, ReadAgain e.2 cs w) :
    ∃ members : List (String × Value), List.Forall₂ ReadsMember parts (members.map named) ∧
      (∀ m ∈ members, WholeJson m.2) ∧
      ((entries.map fun e => namePoints? e.1) = members.map fun m => some (chars m.1.toList)) ∧
      (List.Forall₂ PrintsField members parts ↔ ∀ e ∈ entries, e.2.NamesInOrder) := by
  induction texts with
  | nil => exact ⟨[], .nil, nofun, rfl, iff_of_true .nil nofun⟩
  | cons entry _ ih =>
    rw [List.forall_mem_cons] at again
    obtain ⟨name, body, points, text, rfl⟩ := entry
    obtain ⟨w, first⟩ := again.1 _ text
    obtain ⟨members, reads, json, names, kept⟩ := ih again.2
    have own : PrintsField (name, w) (writeString false name ++ .char ':' :: body) ↔
        Prints w body := by
      refine ⟨?_, fun prints => ⟨body, rfl, prints⟩⟩
      rintro ⟨body', eq, prints⟩
      rw [(List.cons_eq_cons.1 (writeString_inj eq).2).2]
      exact prints
    refine ⟨(name, w) :: members,
      .cons ⟨_, body, (ofPoints_coe name).symm, rfl, first.reads⟩ reads,
      List.forall_mem_cons.2 ⟨first.json, json⟩, ?_, ?_⟩
    · rw [List.map_cons, List.map_cons, points, names]
    · rw [List.forall₂_cons, List.forall_mem_cons, own, first.kept, kept]

theorem writesEntry_of_writeMember {e : Value × Value} (whole : e.1.hasHalf = false)
    {cs : List Point} (h : (do writeMember .compact e.1 (← write .compact e.2)) = .ok cs) :
    WritesEntry e cs := by
  obtain ⟨body, text, h⟩ := exists_of_bind_ok h
  rw [writeMember] at h
  split at h
  next name points =>
    cases h
    obtain ⟨cs, rfl⟩ := exists_chars ((hasHalf_namePoints points).trans whole)
    refine ⟨String.ofList cs, body, ?_, text, ?_⟩
    · rw [points, String.toList_ofList]
    · rw [String.toList_ofList, List.append_assoc]
      rfl
  next => cases h

/-- A map is read again, with the same text iff its names are in order. -/
theorem readAgain_map {entries : List (Value × Value)} {cs : List Point}
    (whole : ∀ e ∈ entries, e.1.hasHalf = false)
    (written : write .compact (.map entries) = .ok cs)
    (again : ∀ e ∈ entries, ∀ cs, write .compact e.2 = .ok cs → ∃ w, ReadAgain e.2 cs w) :
    ∃ w, ReadAgain (.map entries) cs w := by
  rw [write] at written
  obtain ⟨sorted, sorts, written⟩ := exists_of_bind_ok written
  obtain ⟨parts, texts, written⟩ := exists_of_bind_ok written
  cases written
  replace sorts : sortByKey (writeEntries .compact entries) = .ok sorted := sorts
  -- The entries themselves, in the order in which they are written.
  have kept := sortByKey_perm sorts
  rw [writeEntries_eq_map] at kept
  obtain ⟨ordered, perm, rfl⟩ := exists_map_of_perm kept
  rw [List.mapM_map] at texts
  have pairs := (List.forall₂_and_left ..).2
    ⟨fun e mem => whole e (perm.mem_iff.1 mem), forall₂_of_mapM texts⟩
  obtain ⟨members, reads, json, names, texts'⟩ := readAgain_members
    (pairs.imp fun _ _ entry => writesEntry_of_writeMember entry.1 entry.2)
    fun e mem => again e (perm.mem_iff.1 mem)
  have names' : (ordered.map fun e => (e.1, write .compact e.2)).map (fun e => namePoints? e.1) =
      (members.map Prod.fst).map fun name => some (chars name.toList) := by
    rw [List.map_map, List.map_map]
    exact names
  refine ⟨object (members.map named), reads_object reads, wholeJson_object json, ?_⟩
  refine (prints_object_iff reads).trans ?_
  rw [texts']
  constructor
  · rintro ⟨order, all⟩
    exact .map sorts names' (List.pairwise_map.2 order) fun e mem => all e (perm.mem_iff.2 mem)
  · intro inOrder
    obtain ⟨names, others, order, all⟩ := inOrder.names sorts
    obtain rfl := List.map_injective_iff.2 some_chars_injective (others.symm.trans names')
    exact ⟨List.pairwise_map.1 order, fun e mem => all e (perm.mem_iff.1 mem)⟩

/-- Whatever is written and has no halves is read again, with the same text iff the names are in
order. -/
theorem Plain.readAgain {p : Value} (plain : p.Plain) (whole : p.hasHalf = false) :
    ∀ cs, write .compact p = .ok cs → ∃ w, ReadAgain p cs w := by
  induction plain with
  | null => rintro _ ⟨⟩; exact ⟨_, reads_null, .null, iff_of_true Scalar.null.prints .null⟩
  | bool b =>
    rintro _ ⟨⟩
    exact ⟨_, reads_bool b, .bool b, iff_of_true (Scalar.bool b).prints (.bool b)⟩
  | int i =>
    rintro _ ⟨⟩
    exact ⟨_, reads_int i, .int i, iff_of_true (Scalar.int i).prints (.int i)⟩
  | str s =>
    rintro _ ⟨⟩
    exact ⟨_, reads_str s, .str s, iff_of_true (Scalar.str s).prints (.str s)⟩
  | decimal => rintro _ ⟨⟩
  | list _ ih =>
    intro cs written
    obtain ⟨w, reads, json, kept⟩ :=
      readAgain_list written fun v mem => ih v mem (whole_item whole mem)
    exact ⟨w, reads, json, kept.trans ⟨.list, fun | .list all => all⟩⟩
  | tuple _ ih =>
    intro cs written
    obtain ⟨w, reads, json, kept⟩ :=
      readAgain_list written fun v mem => ih v mem (whole_item whole mem)
    exact ⟨w, reads, json, kept.trans ⟨.tuple, fun | .tuple all => all⟩⟩
  | map _ ih =>
    have entries := whole_entry whole
    exact fun cs written => readAgain_map (fun e mem => (entries e mem).1) written
      fun e mem => ih e mem (entries e mem).2

/-! ## Canonical texts -/

theorem plain_items {items : List Value} {p : Value}
    (form : Except.map Value.list (canonicalItems items) = .ok p)
    (plain : ∀ v ∈ items, ∀ p, v.canonicalize = .ok p → p.Plain) : p.Plain := by
  obtain ⟨forms, items', rfl⟩ := exists_of_map_ok form
  rw [canonicalItems_eq_mapM] at items'
  refine .list fun q mem => ?_
  obtain ⟨v, listed, own⟩ := exists_of_forall₂ (forall₂_of_mapM items').flip q mem
  exact plain v listed q own

/-- The canonical form is built from the same kinds of values. -/
theorem Plain.canonicalize {v : Value} (plain : v.Plain) :
    ∀ p, v.canonicalize = .ok p → p.Plain := by
  induction plain with
  | null => rintro _ ⟨⟩; exact .null
  | bool b => rintro _ ⟨⟩; exact .bool b
  | int i => rintro _ ⟨⟩; exact .int i
  | str s => rintro _ ⟨⟩; exact .str s
  | decimal d =>
    intro p form
    rw [Value.canonicalize] at form
    obtain ⟨t, -, form⟩ := exists_of_bind_ok form
    cases form
    exact .str t
  | list _ ih => exact fun p form => plain_items form ih
  | tuple _ ih => exact fun p form => plain_items form ih
  | @map entries _ ih =>
    intro p form
    rw [Value.canonicalize] at form
    obtain ⟨sorted, sorts, form⟩ := exists_of_bind_ok form
    obtain ⟨forms, values, form⟩ := exists_of_bind_ok form
    cases form
    refine .map fun f mem => ?_
    obtain ⟨e, listed, value⟩ := exists_of_forall₂ (forall₂_of_mapM values).flip f mem
    obtain ⟨q, form, same⟩ := exists_of_bind_ok value
    cases same
    have mem' := (sortByKey_perm sorts).mem_iff.1 listed
    rw [canonicalEntries_eq_map] at mem'
    obtain ⟨entry, own, rfl⟩ := List.mem_map.1 mem'
    exact ih entry own q form

theorem canonicalText_iff {v : Value} {t : String} :
    v.canonicalText = .ok t ↔ v.canonicalChars = .ok t.toList := by
  constructor
  · intro text
    obtain ⟨cs, chars, rfl⟩ := exists_of_map_ok text
    rw [chars, String.toList_ofList]
  · intro chars
    rw [canonicalText, chars]
    exact congrArg Except.ok String.ofList_toList

/-- What is read of the canonical text of a value has a canonical text. It is the same text iff the
names of the canonical form are in order; then the value that is read has the hashes of the value. -/
theorem text_kept_iff {v : Value} {t : String} (plain : v.Plain) (text : v.canonicalText = .ok t) :
    ∃ p w t', v.canonicalize = .ok p ∧ Json.read t = .ok w ∧ w.canonicalText = .ok t' ∧
      (t' = t ↔ p.NamesInOrder) ∧
      (p.NamesInOrder → ∀ previous, Chain.hashRecord previous w = Chain.hashRecord previous v) := by
  have chars := canonicalText_iff.1 text
  obtain ⟨points, whole⟩ := whole_of_canonicalChars chars
  obtain ⟨p, form, written⟩ := exists_of_bind_ok points
  obtain ⟨w, again⟩ :=
    (plain.canonicalize p form).readAgain ((hasHalf_canonicalize form).trans whole) _ written
  have read := again.reads.read_text
  rw [String.ofList_toList] at read
  obtain ⟨ps, prints, -⟩ := again.json.exists_form
  obtain ⟨cs, rfl, chars'⟩ := prints.exists_chars
  refine ⟨p, w, String.ofList cs, form, read, ?_, ?_, fun inOrder previous => ?_⟩
  · rw [canonicalText_iff, String.toList_ofList]
    exact chars'
  · rw [← again.kept]
    constructor
    · rintro rfl
      rw [String.toList_ofList]
      exact prints
    · intro kept
      rw [chars_inj (prints.unique kept), String.ofList_toList]
  · obtain ⟨cs', own, same⟩ := (again.kept.2 inOrder).exists_chars
    rw [Chain.hashRecord_of_chars same, Chain.hashRecord_of_chars chars, ← chars_inj own]

/-- `text_kept_iff` for a map under a truth value. -/
theorem text_kept_iff_true :
    let v : Value := .map [(.bool true, .tuple [.decimal (.infinite false)])]
    v.Plain ∧ v.canonicalText = .ok "\x7b\"true\":[\"Infinity\"]\x7d" ∧
      ∃ p w t', v.canonicalize = .ok p ∧ Json.read "\x7b\"true\":[\"Infinity\"]\x7d" = .ok w ∧
        w.canonicalText = .ok t' ∧ (t' = "\x7b\"true\":[\"Infinity\"]\x7d" ↔ p.NamesInOrder) ∧
        (p.NamesInOrder → ∀ previous,
          Chain.hashRecord previous w = Chain.hashRecord previous v) := by
  intro v
  have plain : v.Plain :=
    .map (List.forall_mem_singleton.2 (.tuple (List.forall_mem_singleton.2 (.decimal _))))
  have alone : ([.bool true] : List Value).IsChain fun k l => before l k = .ok false := .singleton _
  have form : v.canonicalize = .ok (.map [(.bool true, .list [.str "Infinity"])]) := by
    rw [Value.canonicalize, sortByKey_of_chain alone rfl rfl]
    rfl
  have text : v.canonicalText = .ok "\x7b\"true\":[\"Infinity\"]\x7d" := by
    have written : v.canonicalPoints = .ok "\x7b\"true\":[\"Infinity\"]\x7d" := by
      refine canonicalPoints_of_form form ?_
      rw [write, Style.compact, if_pos rfl, sortByKey_of_chain alone rfl rfl]
      rfl
    exact canonicalText_iff.2 (canonicalChars_of_points written)
  exact ⟨plain, text, text_kept_iff plain text⟩

/-- Under the numbers 2 and 10, what is read has another text than what was written. -/
theorem text_kept_fails_numbers :
    let v : Value := .map [(.int 2, .str "a"), (.int 10, .str "b")]
    v.Plain ∧ v.canonicalText = .ok "\x7b\"2\":\"a\",\"10\":\"b\"\x7d" ∧
      ∃ w, Json.read "\x7b\"2\":\"a\",\"10\":\"b\"\x7d" = .ok w ∧
        w.canonicalText ≠ .ok "\x7b\"2\":\"a\",\"10\":\"b\"\x7d" := by
  intro v
  have plain : v.Plain :=
    .map (List.forall_mem_cons.2 ⟨.str _, List.forall_mem_singleton.2 (.str _)⟩)
  have order : ([.int 2, .int 10] : List Value).IsChain fun k l => before l k = .ok false :=
    List.isChain_cons_cons.2 ⟨rfl, .singleton _⟩
  have form : v.canonicalize = .ok v := by
    rw [Value.canonicalize, sortByKey_of_chain order rfl rfl]
    rfl
  have written : write .compact v = .ok "\x7b\"2\":\"a\",\"10\":\"b\"\x7d" := by
    rw [write, Style.compact, if_pos rfl, sortByKey_of_chain order rfl rfl]
    exact congrArg Except.ok (by decide +kernel)
  have chars : v.canonicalChars = .ok "\x7b\"2\":\"a\",\"10\":\"b\"\x7d".toList :=
    canonicalChars_of_points (canonicalPoints_of_form form written)
  have disorder : ¬ v.NamesInOrder := by
    intro inOrder
    obtain ⟨names, texts, order', -⟩ := inOrder.names (sortByKey_of_chain order rfl rfl)
    have two : intChars 2 = "2".toList := by decide +kernel
    have ten : intChars 10 = "10".toList := by decide +kernel
    have known : names = ["2", "10"] := by
      refine List.map_injective_iff.2 some_chars_injective (texts.symm.trans ?_)
      show [some (Text.chars (intChars 2)), some (Text.chars (intChars 10))] =
        [some (Text.chars "2".toList), some (Text.chars "10".toList)]
      rw [two, ten]
    rw [known] at order'
    exact absurd order' (by decide)
  obtain ⟨w, again⟩ := plain.readAgain rfl _ written
  refine ⟨plain, canonicalText_iff.2 chars, w, again.reads.read_text, fun same => ?_⟩
  have prints : Prints w _ := ⟨again.json, (whole_of_canonicalChars (canonicalText_iff.1 same)).1⟩
  exact disorder (again.kept.1 prints)

end Value

end EventLedger
