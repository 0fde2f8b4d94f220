import EventLedger.Proofs.Documents

/-!
# Values that are read

The reader returns words, numbers, texts, lists and maps under different texts, at every depth
(`isJson_of_readPoints`). Such a value without halves is a record where it is a map
(`IsJson.whole`). Two such values are the same, as JSON has it, if they agree but for the order of
fields (`SameJson`).
-/

namespace EventLedger.Value

open Json

/-- A value that can be read from a text. -/
inductive IsJson : Value → Prop
  | null : IsJson .null
  | bool (b : Bool) : IsJson (.bool b)
  | int (i : Int) : IsJson (.int i)
  | double (d : Double) : IsJson (.double d)
  | str (s : String) : IsJson (.str s)
  | broken (b : Text.Broken) : IsJson (.broken b)
  | list {items : List Value} (all : ∀ v ∈ items, IsJson v) : IsJson (.list items)
  | map {entries : List (Value × Value)} (texts : ∀ e ∈ entries, e.1.isText = true)
    (distinct : entries.Pairwise fun e f => e.1 ≠ f.1) (all : ∀ e ∈ entries, IsJson e.2) :
    IsJson (.map entries)

/-- A value that can be read from a text without halves, written or escaped. -/
inductive WholeJson : Value → Prop
  | null : WholeJson .null
  | bool (b : Bool) : WholeJson (.bool b)
  | int (i : Int) : WholeJson (.int i)
  | double (d : Double) : WholeJson (.double d)
  | str (s : String) : WholeJson (.str s)
  | list {items : List Value} (all : ∀ v ∈ items, WholeJson v) : WholeJson (.list items)
  | record {fields : List (String × Value)} (distinct : fields.Pairwise fun f g => f.1 ≠ g.1)
    (all : ∀ f ∈ fields, WholeJson f.2) : WholeJson (.record fields)

/-- Two values that are the same but for the order of fields. Doubles are the same if they are
written alike. -/
inductive SameJson : Value → Value → Prop
  | null : SameJson .null .null
  | bool (b : Bool) : SameJson (.bool b) (.bool b)
  | int (i : Int) : SameJson (.int i) (.int i)
  | double {d e : Double} (text : d.chars .document = e.chars .document) :
    SameJson (.double d) (.double e)
  | str (s : String) : SameJson (.str s) (.str s)
  | list {items items' : List Value} (same : List.Forall₂ SameJson items items') :
    SameJson (.list items) (.list items')
  | record {fields fields' : List (String × Value)}
    (names : ∀ name, name ∈ fields.map Prod.fst ↔ name ∈ fields'.map Prod.fst)
    (same : ∀ f ∈ fields, ∀ g ∈ fields', f.1 = g.1 → SameJson f.2 g.2) :
    SameJson (.record fields) (.record fields')

/-- A record whose fields have different names. -/
theorem IsJson.record {fields : List (String × Value)}
    (distinct : fields.Pairwise fun f g => f.1 ≠ g.1) (all : ∀ f ∈ fields, IsJson f.2) :
    IsJson (.record fields) :=
  .map (List.forall_mem_map.2 fun _ _ => rfl)
    (List.pairwise_map.2 (distinct.imp fun ne same => ne (Value.str.inj same)))
    (List.forall_mem_map.2 all)

theorem WholeJson.isJson {v : Value} (whole : WholeJson v) : IsJson v := by
  induction whole with
  | null => exact .null
  | bool b => exact .bool b
  | int i => exact .int i
  | double d => exact .double d
  | str s => exact .str s
  | list _ ih => exact .list ih
  | record distinct _ ih => exact .record distinct ih

theorem WholeJson.hasHalf {v : Value} (whole : WholeJson v) : v.hasHalf = false := by
  induction whole with
  | null => rfl
  | bool => rfl
  | int => rfl
  | double => rfl
  | str => rfl
  | list _ ih =>
    rw [Value.hasHalf, anyHalf_eq_any, List.any_eq_false]
    exact fun v mem => by simp [ih v mem]
  | record _ _ ih =>
    rw [hasHalf_record, List.any_eq_false]
    exact fun f mem => by simp [ih f mem]

/-- Entries under texts without halves are the fields of a record. -/
theorem exists_fields_of_texts {entries : List (Value × Value)}
    (texts : ∀ e ∈ entries, e.1.isText = true) (whole : ∀ e ∈ entries, e.1.hasHalf = false) :
    ∃ fields : List (String × Value), entries = fields.map named := by
  induction entries with
  | nil => exact ⟨[], rfl⟩
  | cons e entries ih =>
    rw [List.forall_mem_cons] at texts whole
    obtain ⟨fields, rfl⟩ := ih texts.2 whole.2
    obtain ⟨key, v⟩ := e
    cases key with
    | str name => exact ⟨(name, v) :: fields, rfl⟩
    | broken b => cases whole.1
    | _ => cases texts.1

/-- What can be read and has no halves. -/
theorem IsJson.whole {v : Value} (json : IsJson v) (whole : v.hasHalf = false) : WholeJson v := by
  induction json with
  | null => exact .null
  | bool b => exact .bool b
  | int i => exact .int i
  | double d => exact .double d
  | str s => exact .str s
  | broken b => cases whole
  | list _ ih =>
    exact .list fun v mem => ih v mem (whole_item whole mem)
  | map texts distinct _ ih =>
    have wholes := whole_entry whole
    obtain ⟨fields, rfl⟩ := exists_fields_of_texts texts fun e mem => (wholes e mem).1
    rw [List.forall_mem_map] at wholes ih
    have names := (List.pairwise_map.1 distinct).imp fun ne same => ne (congrArg Value.str same)
    exact .record names fun f mem => ih f mem (wholes f mem).2

theorem exists_sortByKey_of_texts {α : Type} {entries : List (Value × α)}
    (texts : ∀ e ∈ entries, e.1.isText = true) :
    ∃ sorted, sortByKey entries = .ok sorted ∧ sorted.Perm entries := by
  rw [sortByKey, if_pos (List.all_eq_true.2 texts)]
  exact ⟨_, rfl, List.mergeSort_perm ..⟩

/-- What can be read has a canonical form that could be read as well. -/
theorem IsJson.exists_canonicalize {v : Value} (json : IsJson v) :
    ∃ p, v.canonicalize = .ok p ∧ IsJson p := by
  induction json with
  | null => exact ⟨_, rfl, .null⟩
  | bool b => exact ⟨_, rfl, .bool b⟩
  | int i => exact ⟨_, rfl, .int i⟩
  | double d => exact ⟨_, rfl, .double d⟩
  | str s => exact ⟨_, rfl, .str s⟩
  | broken b => exact ⟨_, rfl, .broken b⟩
  | list _ ih =>
    obtain ⟨forms, all⟩ := exists_forall₂ ih
    have canonical := mapM_of_forall₂ (all.imp fun _ _ form => form.1)
    refine ⟨.list forms, ?_, .list (forall_mem_of_forall₂ all.flip fun _ _ form => form.2)⟩
    rw [canonicalize, canonicalItems_eq_mapM, canonical]
    rfl
  | @map entries texts distinct _ ih =>
    obtain ⟨sorted, sorts, same⟩ := @exists_sortByKey_of_texts _
      (entries.map fun e => (e.1, e.2.canonicalize)) (List.forall_mem_map.2 texts)
    obtain ⟨entries', perm, rfl⟩ := exists_map_of_perm same
    have forms : ∀ e ∈ entries', ∃ g : Value × Value,
        g.1 = e.1 ∧ e.2.canonicalize = .ok g.2 ∧ IsJson g.2 := by
      intro e mem
      obtain ⟨p, form, json⟩ := ih e (perm.mem_iff.1 mem)
      exact ⟨(e.1, p), rfl, form, json⟩
    obtain ⟨canonical, all⟩ := exists_forall₂ forms
    have keys : entries'.map Prod.fst = canonical.map Prod.fst :=
      map_eq_of_forall₂ all fun _ _ form => form.1.symm
    have made : (entries'.map fun e => (e.1, e.2.canonicalize)).mapM
        (fun e => do return (e.1, ← e.2)) = .ok canonical := by
      refine mapM_of_forall₂ (List.forall₂_map_left_iff.2 (all.imp fun e g form => ?_))
      simp only [form.2.1, ← form.1, bind, Except.bind, pure, Except.pure]
    refine ⟨.map canonical, ?_, .map ?_ ?_ ?_⟩
    · rw [canonicalize, canonicalEntries_eq_map, sorts]
      exact congrArg (·.map Value.map) made
    · refine forall_mem_of_forall₂ ((List.forall₂_and_left ..).2
        ⟨fun e mem => texts e (perm.mem_iff.1 mem), all⟩).flip fun g e form => ?_
      rw [form.2.1]
      exact form.1
    · have distinct' := perm.symm.pairwise distinct Ne.symm
      exact List.pairwise_map.1 (keys ▸ List.pairwise_map.2 distinct')
    · exact forall_mem_of_forall₂ all.flip fun _ _ form => form.2.2

theorem exists_writeMember_of_text {key : Value} (text : key.isText = true)
    (body : List Text.Point) : ∃ part, writeMember .compact key body = .ok part := by
  cases key with
  | str s => exact ⟨_, rfl⟩
  | broken b => exact ⟨_, rfl⟩
  | _ => cases text

/-- What can be read can be written. -/
theorem IsJson.exists_write {v : Value} (json : IsJson v) :
    ∃ ps, write .compact v = .ok ps := by
  induction json with
  | null => exact ⟨_, rfl⟩
  | bool b => exact ⟨_, rfl⟩
  | int i => exact ⟨_, rfl⟩
  | double d => exact ⟨_, rfl⟩
  | str s => exact ⟨_, rfl⟩
  | broken b => exact ⟨_, rfl⟩
  | list _ ih =>
    obtain ⟨parts, all⟩ := exists_forall₂ ih
    refine ⟨.char '[' :: join "," parts ++ [.char ']'], ?_⟩
    rw [write, writeItems_eq_mapM, mapM_of_forall₂ all]
    rfl
  | @map entries texts _ _ ih =>
    have entries_eq := writeEntries_eq_map .compact entries
    have keys : ∀ e ∈ writeEntries .compact entries, e.1.isText = true :=
      entries_eq ▸ List.forall_mem_map.2 texts
    have written : ∀ e ∈ writeEntries .compact entries,
        ∃ part, (do writeMember .compact e.1 (← e.2)) = .ok part := by
      rw [entries_eq]
      refine List.forall_mem_map.2 fun e mem => ?_
      obtain ⟨body, text⟩ := ih e mem
      simp only [text]
      exact exists_writeMember_of_text (texts e mem) body
    obtain ⟨sorted, sorts, same⟩ := exists_sortByKey_of_texts keys
    obtain ⟨parts, all⟩ := exists_forall₂ fun e mem => written e (same.mem_iff.1 mem)
    refine ⟨.char '\x7b' :: join "," parts ++ [.char '\x7d'], ?_⟩
    show (sortByKey (writeEntries .compact entries) >>= _) = _
    rw [sorts]
    show ((sorted.mapM fun e => do writeMember .compact e.1 (← e.2)) >>= _) = _
    rw [mapM_of_forall₂ all]
    rfl

/-- What can be read has a canonical document, which has no bytes if there are halves in it. -/
theorem IsJson.exists_canonicalPoints {v : Value} (json : IsJson v) :
    ∃ ps, v.canonicalPoints = .ok ps := by
  obtain ⟨p, form, json⟩ := json.exists_canonicalize
  obtain ⟨ps, text⟩ := json.exists_write
  exact ⟨ps, canonicalPoints_of_form form text⟩

/-- The fields of such a value are such values. -/
theorem IsJson.field {v w : Value} (json : IsJson v) {name : String}
    (found : v.field? name = some w) : IsJson w := by
  have entries : ∀ entries : List (Value × Value), (∀ e ∈ entries, IsJson e.2) →
      get? name entries = some w → IsJson w := by
    intro entries all found
    induction entries with
    | nil => cases found
    | cons e entries ih =>
      rw [List.forall_mem_cons] at all
      rw [get?] at found
      split at found
      next => cases found; exact all.1
      next => exact ih all.2 found
  cases json with
  | map _ _ all => exact entries _ all found
  | _ => cases found

theorem sameKey_iff_of_texts {k l : Value} (text : k.isText = true) (text' : l.isText = true) :
    sameKey k l = true ↔ k = l := by
  cases k with
  | str s =>
    cases l with
    | str t => simp [sameKey, isStr]
    | broken b => simp [sameKey, isStr]
    | _ => cases text'
  | broken a =>
    cases l with
    | str t => simp [sameKey]
    | broken b => simp [sameKey]
    | _ => cases text'
  | _ => cases text

/-- A new name comes last, and a known name keeps its place. -/
theorem insert_texts {k v : Value} (text : k.isText = true) {entries : List (Value × Value)}
    (texts : ∀ e ∈ entries, e.1.isText = true)
    (distinct : entries.Pairwise fun e f => e.1 ≠ f.1) :
    (∀ e ∈ insert k v entries, e = (k, v) ∨ e ∈ entries) ∧
      (insert k v entries).Pairwise fun e f => e.1 ≠ f.1 := by
  induction entries with
  | nil => exact ⟨by simp [insert], List.pairwise_singleton ..⟩
  | cons e entries ih =>
    obtain ⟨key, w⟩ := e
    rw [List.forall_mem_cons] at texts
    obtain ⟨first, others⟩ := List.pairwise_cons.1 distinct
    rw [insert]
    split
    next same =>
      obtain rfl := (sameKey_iff_of_texts texts.1 text).1 same
      exact ⟨List.forall_mem_cons.2 ⟨.inl rfl, fun e mem => .inr (List.mem_cons_of_mem _ mem)⟩,
        .cons first others⟩
    next other =>
      rw [sameKey_iff_of_texts texts.1 text] at other
      obtain ⟨origin, distinct'⟩ := ih texts.2 others
      refine ⟨List.forall_mem_cons.2 ⟨.inr List.mem_cons_self, fun e mem => ?_⟩,
        .cons (fun e mem => ?_) distinct'⟩
      · exact (origin e mem).imp_right (List.mem_cons_of_mem _)
      · rcases origin e mem with rfl | mem
        · exact other
        · exact first e mem

/-- The entries of an object are members of it, under different names. -/
theorem exists_entries_object {members : List (Value × Value)}
    (texts : ∀ m ∈ members, m.1.isText = true) :
    ∃ entries, object members = .map entries ∧ (∀ e ∈ entries, e ∈ members) ∧
      entries.Pairwise fun e f => e.1 ≠ f.1 := by
  suffices ∀ entries : List (Value × Value), (∀ e ∈ entries, e.1.isText = true) →
      (entries.Pairwise fun e f => e.1 ≠ f.1) →
      ∃ entries', members.foldl (fun entries m => insert m.1 m.2 entries) entries = entries' ∧
        (∀ e ∈ entries', e ∈ entries ∨ e ∈ members) ∧
        entries'.Pairwise fun e f => e.1 ≠ f.1 by
    obtain ⟨entries, made, origin, distinct⟩ := this [] nofun .nil
    refine ⟨entries, congrArg Value.map made, fun e mem => ?_, distinct⟩
    exact (origin e mem).resolve_left List.not_mem_nil
  induction members with
  | nil => exact fun entries _ distinct => ⟨entries, rfl, fun e mem => .inl mem, distinct⟩
  | cons m members ih =>
    intro entries texts' distinct
    rw [List.forall_mem_cons] at texts
    obtain ⟨origin, distinct'⟩ := insert_texts (v := m.2) texts.1 texts' distinct
    have texts'' : ∀ e ∈ insert m.1 m.2 entries, e.1.isText = true := fun e mem =>
      (origin e mem).elim (fun own => own ▸ texts.1) (texts' e)
    obtain ⟨entries', made, origin', distinct''⟩ := ih texts.2 _ texts'' distinct'
    refine ⟨entries', made, fun e mem => ?_, distinct''⟩
    rcases origin' e mem with before | later
    · exact (origin e before).symm.imp_right fun own => List.mem_cons.2 (.inl own)
    · exact .inr (List.mem_cons_of_mem _ later)

/-- An object whose members were read. -/
theorem isJson_object {members : List (Value × Value)}
    (texts : ∀ m ∈ members, m.1.isText = true) (all : ∀ m ∈ members, IsJson m.2) :
    IsJson (object members) := by
  obtain ⟨entries, made, origin, distinct⟩ := exists_entries_object texts
  rw [made]
  exact .map (fun e mem => texts e (origin e mem)) distinct fun e mem => all e (origin e mem)

/-- An object without halves. -/
theorem wholeJson_object {members : List (String × Value)} (all : ∀ m ∈ members, WholeJson m.2) :
    WholeJson (object (members.map named)) := by
  have texts : ∀ m ∈ members.map named, m.1.isText = true := List.forall_mem_map.2 fun _ _ => rfl
  refine (isJson_object texts (List.forall_mem_map.2 fun m mem => (all m mem).isJson)).whole ?_
  obtain ⟨entries, made, origin, -⟩ := exists_entries_object texts
  rw [made, Value.hasHalf, entriesHalf_eq_any, List.any_eq_false]
  intro e mem
  obtain ⟨m, listed, rfl⟩ := List.mem_map.1 (origin e mem)
  simp [named, Value.hasHalf, (all m listed).hasHalf]

theorem isText_ofPoints (ps : List Text.Point) : (ofPoints ps).isText = true := by
  unfold ofPoints
  split <;> rfl

theorem isJson_ofPoints (ps : List Text.Point) : IsJson (ofPoints ps) := by
  unfold ofPoints
  split
  · exact .str _
  · exact .broken _

theorem isJson_readUnsigned {negative : Bool} {cs : List Text.Point} {r : Value × List Text.Point}
    (read : readUnsigned negative cs = some r) : IsJson r.1 := by
  unfold readUnsigned at read
  dsimp only at read
  split_ifs at read <;> cases read
  · exact .int _
  · exact .double _

theorem isJson_readNumber {cs : List Text.Point} {r : Value × List Text.Point}
    (read : readNumber cs = some r) : IsJson r.1 := by
  unfold readNumber at read
  split at read
  · cases read; exact .double _
  · cases read; exact .double _
  · cases read; exact .double _
  · exact isJson_readUnsigned read
  · exact isJson_readUnsigned read

/-- What the readers return at some depth. -/
structure ReadersJson (fuel : Nat) : Prop where
  value : ∀ {cs r}, readValue fuel cs = .ok r → IsJson r.1
  items : ∀ {cs r}, readItems fuel cs = .ok r → ∀ v ∈ r.1, IsJson v
  members : ∀ {cs r}, readMembers fuel cs = .ok r → ∀ m ∈ r.1, m.1.isText = true ∧ IsJson m.2

section

variable {fuel : Nat} (ih : ReadersJson fuel) {cs : List Text.Point}
include ih

theorem ReadersJson.readValue {r : Value × List Text.Point}
    (read : readValue (fuel + 1) cs = .ok r) : IsJson r.1 := by
  unfold Json.readValue at read
  split at read
  next => obtain ⟨text, -, rfl⟩ := exists_of_map_ok read; exact isJson_ofPoints _
  next =>
    split at read
    next => cases read; exact @isJson_object [] (List.forall_mem_nil _) (List.forall_mem_nil _)
    next =>
      obtain ⟨r, members, rfl⟩ := exists_of_map_ok read
      exact isJson_object (fun m mem => (ih.members members m mem).1) fun m mem =>
        (ih.members members m mem).2
  next =>
    split at read
    next => cases read; exact .list (List.forall_mem_nil _)
    next =>
      obtain ⟨r, items, rfl⟩ := exists_of_map_ok read
      exact .list (ih.items items)
  next => cases read; exact .null
  next => cases read; exact .bool true
  next => cases read; exact .bool false
  next =>
    split at read
    next number => cases read; exact isJson_readNumber number
    next => cases read

theorem ReadersJson.readItems {r : List Value × List Text.Point}
    (read : readItems (fuel + 1) cs = .ok r) : ∀ v ∈ r.1, IsJson v := by
  obtain ⟨⟨v, rest⟩, first, read⟩ := exists_of_bind_ok read
  dsimp only at read
  split at read
  next => cases read; exact List.forall_mem_singleton.2 (ih.value first)
  next =>
    obtain ⟨⟨vs, rest⟩, others, read⟩ := exists_of_bind_ok read
    cases read
    exact List.forall_mem_cons.2 ⟨ih.value first, ih.items others⟩
  next => cases read

theorem ReadersJson.readMembers {r : List (Value × Value) × List Text.Point}
    (read : readMembers (fuel + 1) cs = .ok r) :
    ∀ m ∈ r.1, m.1.isText = true ∧ IsJson m.2 := by
  unfold Json.readMembers at read
  split at read
  next =>
    obtain ⟨⟨name, rest⟩, -, read⟩ := exists_of_bind_ok read
    dsimp only at read
    split at read
    next =>
      obtain ⟨⟨v, rest⟩, first, read⟩ := exists_of_bind_ok read
      dsimp only at read
      split at read
      next =>
        cases read
        exact List.forall_mem_singleton.2 ⟨isText_ofPoints _, ih.value first⟩
      next =>
        obtain ⟨⟨ms, rest⟩, others, read⟩ := exists_of_bind_ok read
        cases read
        exact List.forall_mem_cons.2 ⟨⟨isText_ofPoints _, ih.value first⟩, ih.members others⟩
      next => cases read
    next => cases read
  next => cases read

end

/-- What is read is a value of this kind, at every depth. -/
theorem readersJson (fuel : Nat) : ReadersJson fuel := by
  induction fuel with
  | zero => exact ⟨nofun, nofun, nofun⟩
  | succ fuel ih => exact ⟨ih.readValue, ih.readItems, ih.readMembers⟩

/-- What a text is read as. -/
theorem isJson_of_readPoints {cs : List Text.Point} {v : Value} (read : readPoints cs = .ok v) :
    IsJson v := by
  unfold readPoints at read
  split at read
  next all =>
    cases read
    obtain ⟨⟨v, rest⟩, first, all⟩ := exists_of_bind_ok all
    dsimp only at all
    split at all
    next => cases all; exact (readersJson _).value first
    next => cases all
  next => cases read

end EventLedger.Value
