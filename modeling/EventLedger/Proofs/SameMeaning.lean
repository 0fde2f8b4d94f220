import EventLedger.Proofs.CanonicalReading
import EventLedger.Replay

/-!
# Values that mean the same

The order in which the fields of a record were put in, a tuple in the place of a list, and how a
decimal was written are no part of what a value means (`SameMeaning`). Two values that mean the same
have one canonical form (`SameMeaning.canonicalize`), and so one text and one hash; where a decimal
is out of range, neither of them has any (`canonicalBytes_of_sameMeaning`). That asks for values
that are built of parts with a text, which a half of a character is not
(`canonicalBytes_of_sameMeaning_half`).
-/

namespace EventLedger

namespace Decimal

/-- A number or an infinity, but no NaN. -/
def IsNumber : Decimal → Prop
  | .nan .. => False
  | _ => True

/-- Decimals that are equal: one number, or one infinity. -/
inductive SameNumber : Decimal → Decimal → Prop
  | finite {d e : Decimal} (left : d.isFinite = true) (right : e.isFinite = true)
    (value : d.value = e.value) : SameNumber d e
  | infinite (negative : Bool) : SameNumber (.infinite negative) (.infinite negative)

theorem sameNumber_of_equals {d e : Decimal} (equal : d.equals e = .ok true) : SameNumber d e := by
  cases d with
  | finite n c a =>
    cases e with
    | finite m b f =>
      rw [equals_of_isFinite rfl rfl] at equal
      exact .finite rfl rfl (of_decide_eq_true (Except.ok.inj equal))
    | infinite m => cases m <;> cases equal
    | nan signaling m payload => cases signaling <;> cases equal
  | infinite n =>
    cases e with
    | finite m b f => cases n <;> cases equal
    | infinite m => cases n <;> cases m <;> first | exact .infinite _ | cases equal
    | nan signaling m payload => cases signaling <;> cases equal
  | nan signaling n payload =>
    cases e with
    | nan signaling' m payload' => cases signaling <;> cases signaling' <;> cases equal
    | _ => cases signaling <;> cases equal

theorem equals_self {d : Decimal} (number : d.IsNumber) : d.equals d = .ok true := by
  cases d with
  | finite n c e => rw [equals_of_isFinite rfl rfl, decide_eq_true rfl]
  | infinite n => cases n <;> rfl
  | nan => cases number

theorem SameNumber.canonical {d e : Decimal} (same : SameNumber d e) :
    d.canonical = e.canonical := by
  cases same with
  | finite left right value => exact canonical_congr left right value
  | infinite => rfl

/-- What is no NaN has a canonical text, unless it is out of range. -/
theorem IsNumber.canonical {d : Decimal} (number : d.IsNumber) :
    d.canonical = .error .overflow ∨ ∃ t, d.canonical = .ok t := by
  cases d with
  | finite n c e =>
    rcases lt_or_ge |rounded (finite n c e).value| limit with below | large
    · exact .inr (InRange.canonical ⟨rfl, below⟩)
    · exact .inl (canonical_of_large rfl large)
  | infinite n => cases n <;> exact .inr ⟨_, rfl⟩
  | nan => cases number

end Decimal

namespace Value

/-- A list or a tuple of these items. -/
inductive Sequence : Value → List Value → Prop
  | list (items : List Value) : Sequence (.list items) items
  | tuple (items : List Value) : Sequence (.tuple items) items

/-- Two values that differ in nothing but the order of the fields of records, tuples in the place of
lists, and decimals in the place of equal ones, at any depth. Nothing is said of whether they can be
written. -/
inductive SameMeaning : Value → Value → Prop
  | null : SameMeaning .null .null
  | bool (b : Bool) : SameMeaning (.bool b) (.bool b)
  | int (i : Int) : SameMeaning (.int i) (.int i)
  | str (s : String) : SameMeaning (.str s) (.str s)
  | broken (b : Text.Broken) : SameMeaning (.broken b) (.broken b)
  | decimal {d e : Decimal} (equal : d.equals e = .ok true) : SameMeaning (.decimal d) (.decimal e)
  | sequence {v w : Value} {items items' : List Value} (left : Sequence v items)
    (right : Sequence w items') (length : items.length = items'.length)
    (same : ∀ p ∈ items.zip items', SameMeaning p.1 p.2) : SameMeaning v w
  | record {fields fields' : List (String × Value)}
    (distinct : fields.Pairwise fun f g => f.1 ≠ g.1)
    (distinct' : fields'.Pairwise fun f g => f.1 ≠ g.1)
    (names : ∀ name, name ∈ fields.map Prod.fst ↔ name ∈ fields'.map Prod.fst)
    (same : ∀ f ∈ fields, ∀ g ∈ fields', f.1 = g.1 → SameMeaning f.2 g.2) :
    SameMeaning (.record fields) (.record fields')

variable {v w : Value}

theorem eq_of_mem_of_distinct {α : Type} {fields : List (String × α)}
    (distinct : fields.Pairwise fun f g => f.1 ≠ g.1) {f g : String × α} (hf : f ∈ fields)
    (hg : g ∈ fields) (same : f.1 = g.1) : f = g := by
  obtain ⟨sorted, perm, order⟩ := exists_sorted distinct
  exact eq_of_mem_of_order order (perm.mem_iff.2 hf) (perm.mem_iff.2 hg) same

theorem zip_self_sameMeaning {items : List Value} (all : ∀ v ∈ items, v.SameMeaning v) :
    ∀ p ∈ items.zip items, p.1.SameMeaning p.2 := by
  have pairs := List.forall₂_iff_zip.1 (List.forall₂_same.2 all)
  exact fun p mem => pairs.2 mem

/-- Every value that is built without a NaN means the same as itself. -/
theorem SameMeaning.refl (built : v.Built Decimal.IsNumber) : v.SameMeaning v := by
  induction built with
  | null => exact .null
  | bool b => exact .bool b
  | int _ => exact .int _
  | str s => exact .str s
  | decimal number => exact .decimal (Decimal.equals_self number)
  | list _ ih => exact .sequence (.list _) (.list _) rfl (zip_self_sameMeaning ih)
  | tuple _ ih => exact .sequence (.tuple _) (.tuple _) rfl (zip_self_sameMeaning ih)
  | record distinct _ ih =>
    refine .record distinct distinct (fun _ => .rfl) fun f mem g mem' same => ?_
    obtain rfl := eq_of_mem_of_distinct distinct mem mem' same
    exact ih f mem

/-- Two fields in the other order. -/
theorem SameMeaning.swapped {a b : String} {v' w' : Value} (ne : a ≠ b) (first : v.SameMeaning v')
    (second : w.SameMeaning w') :
    (Value.record [(a, v), (b, w)]).SameMeaning (.record [(b, w'), (a, v')]) := by
  refine .record (List.pairwise_pair.2 ne) (List.pairwise_pair.2 ne.symm) (by simp [or_comm]) ?_
  refine List.forall_mem_cons.2 ⟨List.forall_mem_cons.2 ⟨fun eq => absurd eq ne, ?_⟩, ?_⟩
  · exact List.forall_mem_singleton.2 fun _ => first
  · refine List.forall_mem_singleton.2 (List.forall_mem_cons.2 ⟨fun _ => second, ?_⟩)
    exact List.forall_mem_singleton.2 fun eq => absurd eq ne.symm

/-! ## One form, one text, one hash -/

theorem Sequence.canonicalize {items : List Value} (sequence : Sequence v items) :
    v.canonicalize = (items.mapM Value.canonicalize).map .list := by
  rw [← canonicalItems_eq_mapM]
  cases sequence <;> rfl

/-- The canonical forms of fields, under their names. -/
def formsOf (fields : List (String × Value)) : List (String × Except Fault Value) :=
  fields.map fun f => (f.1, f.2.canonicalize)

/-- The canonical form of a record is a function of the forms of its fields, in whatever order they
are. -/
theorem canonicalize_record_congr {fields fields' : List (String × Value)}
    (distinct : fields.Pairwise fun f g => f.1 ≠ g.1)
    (forms : (formsOf fields).Perm (formsOf fields')) :
    (record fields).canonicalize = (record fields').canonicalize := by
  have distinctForms : (formsOf fields).Pairwise fun f g => f.1 ≠ g.1 :=
    List.pairwise_map.2 distinct
  obtain ⟨sorted, perm, order⟩ := exists_sorted distinctForms
  have sorts := sortByKey_named perm order
  have sorts' := sortByKey_named (perm.trans forms) order
  rw [formsOf] at sorts sorts'
  rw [record_eq, record_eq, Value.canonicalize, Value.canonicalize, canonicalEntries_named,
    canonicalEntries_named, sorts, sorts']

/-- Forms that stand under the same names are forms of the other record. -/
theorem formsOf_subset {fields fields' : List (String × Value)}
    (names : ∀ name ∈ fields.map Prod.fst, name ∈ fields'.map Prod.fst)
    (same : ∀ f ∈ fields, ∀ g ∈ fields', f.1 = g.1 → f.2.canonicalize = g.2.canonicalize) :
    formsOf fields ⊆ formsOf fields' := by
  intro form found
  obtain ⟨f, mem, rfl⟩ := List.mem_map.1 found
  obtain ⟨g, mem', name⟩ := List.mem_map.1 (names f.1 (List.mem_map_of_mem mem))
  exact List.mem_map.2 ⟨g, mem', Prod.ext name (same f mem g mem' name.symm).symm⟩

theorem nodup_formsOf {fields : List (String × Value)}
    (distinct : fields.Pairwise fun f g => f.1 ≠ g.1) : (formsOf fields).Nodup :=
  List.pairwise_map.2 (distinct.imp fun ne same => ne (Prod.mk.inj same).1)

/-- Values that mean the same have the same canonical form, or fail for the same reason. -/
theorem SameMeaning.canonicalize (same : v.SameMeaning w) : v.canonicalize = w.canonicalize := by
  induction same with
  | null | bool | int | str | broken => rfl
  | decimal equal =>
    rw [Value.canonicalize, Value.canonicalize, (Decimal.sameNumber_of_equals equal).canonical]
  | sequence left right length _ ih =>
    have forms := List.forall₂_iff_zip.2 ⟨length, fun {v w} mem => ih (v, w) mem⟩
    rw [left.canonicalize, right.canonicalize, mapM_congr_of_forall₂ forms]
  | @record fields fields' distinct distinct' names _ ih =>
    -- both records sort the same pairs of a name and a form
    have there := formsOf_subset (fun name => (names name).1) ih
    have back := formsOf_subset (fun name => (names name).2) fun g mem' f mem same =>
      (ih f mem g mem' same.symm).symm
    exact canonicalize_record_congr distinct ((List.perm_ext_iff_of_nodup (nodup_formsOf distinct)
      (nodup_formsOf distinct')).2 fun form => ⟨@there form, @back form⟩)

theorem canonicalBytes_of_chars {r : Except Fault (List Char)} (chars : v.canonicalChars = r) :
    v.canonicalBytes = r.map Text.encode := by
  rw [canonicalBytes, chars]
  rfl

theorem Built.exists_bytes (texts : v.Built fun d => ∃ t, d.canonical = .ok t) :
    ∃ bytes, v.canonicalBytes = .ok bytes := by
  obtain ⟨p, form, document⟩ := texts.document_of fun _ text => text
  obtain ⟨cs, text, -⟩ := canonicalChars_of_document form document
  exact ⟨_, canonicalBytes_of_chars text⟩

/-- Without a NaN the one thing that stops a text is a decimal that is out of range. -/
theorem Built.bytes_or_overflow (built : v.Built Decimal.IsNumber) :
    (∃ bytes, v.canonicalBytes = .ok bytes) ∨
      v.canonicalBytes = .error (.arithmetic .overflow) := by
  rcases built.overflows_of (fun _ text => text) (fun _ number => number.canonical) with
    fails | texts
  · exact .inr (canonicalBytes_of_chars (canonicalChars_error fails))
  · exact .inl texts.exists_bytes

/-- Values that mean the same have the same canonical bytes, or neither has any because a decimal is
out of range. So they are hashed alike, as a record behind any hash and as a state. -/
theorem canonicalBytes_of_sameMeaning (built : v.Built Decimal.IsNumber) (same : v.SameMeaning w) :
    ((∃ bytes, v.canonicalBytes = .ok bytes ∧ w.canonicalBytes = .ok bytes) ∨
      v.canonicalBytes = .error (.arithmetic .overflow) ∧
        w.canonicalBytes = .error (.arithmetic .overflow)) ∧
    (∀ previous, Chain.hashRecord previous v = Chain.hashRecord previous w) ∧
    stateHash (.ok v) = stateHash (.ok w) := by
  have bytes : v.canonicalBytes = w.canonicalBytes := by
    rw [Value.canonicalBytes, Value.canonicalBytes, canonicalChars_congr same.canonicalize]
  refine ⟨?_, fun previous => ?_, ?_⟩
  · rcases built.bytes_or_overflow with ⟨cs, written⟩ | stopped
    · exact .inl ⟨cs, written, bytes ▸ written⟩
    · exact .inr ⟨stopped, bytes ▸ stopped⟩
  · rw [Chain.hashRecord, Chain.hashRecord, bytes]
  · show (v.canonicalBytes >>= _) = (w.canonicalBytes >>= _)
    rw [bytes]

/-- `canonicalBytes_of_sameMeaning` for fields in another order, a tuple in the place of a list, and
the numbers 70.00 for 70, 1E+2 for 100 and -0 for 0. -/
theorem canonicalBytes_of_sameMeaning_rewritten :
    let v : Value := .record [("b", .tuple [.decimal (.finite false 7000 (-2)), .null]),
      ("a", .record [("y", .decimal (.finite false 1 2)), ("x", .decimal (.finite true 0 0))])]
    let w : Value := .record [("a", .record [("x", .decimal (.finite false 0 0)),
      ("y", .decimal (.finite false 100 0))]), ("b", .list [.decimal (.finite false 70 0), .null])]
    v.Built Decimal.IsNumber ∧ v.SameMeaning w ∧
      (∃ bytes, v.canonicalBytes = .ok bytes ∧ w.canonicalBytes = .ok bytes) ∧
      stateHash (.ok v) = stateHash (.ok w) := by
  intro v w
  have pair : (tuple [.decimal (.finite false 7000 (-2)), .null]).SameMeaning
      (.list [.decimal (.finite false 70 0), .null]) :=
    .sequence (.tuple _) (.list _) rfl (List.forall_mem_cons.2
      ⟨.decimal (by decide +kernel), List.forall_mem_singleton.2 .null⟩)
  have same : v.SameMeaning w := by
    refine .swapped ?_ pair (.swapped ?_ (.decimal ?_) (.decimal ?_)) <;> decide +kernel
  have built {number : Decimal → Prop} (price : number (.finite false 7000 (-2)))
      (hundred : number (.finite false 1 2)) (zero : number (.finite true 0 0)) :
      v.Built number := by
    have inner : (record [("y", .decimal (.finite false 1 2)),
        ("x", .decimal (.finite true 0 0))]).Built number :=
      .record (by decide) (List.forall_mem_cons.2
        ⟨.decimal hundred, List.forall_mem_singleton.2 (.decimal zero)⟩)
    have items : (tuple [.decimal (.finite false 7000 (-2)), .null]).Built number :=
      .tuple (List.forall_mem_cons.2 ⟨.decimal price, List.forall_mem_singleton.2 .null⟩)
    exact .record (by decide)
      (List.forall_mem_cons.2 ⟨items, List.forall_mem_singleton.2 inner⟩)
  have numbers : v.Built Decimal.IsNumber := built trivial trivial trivial
  obtain ⟨bytes, -, hashes⟩ := canonicalBytes_of_sameMeaning numbers same
  refine ⟨numbers, same, bytes.resolve_right fun stopped => ?_, hashes⟩
  have short {d : Decimal} (finite : d.isFinite = true) (round : d.round = .ok d) :
      ∃ t, d.canonical = .ok t := Decimal.canonical_of_round finite round
  have texts : v.Built fun d => ∃ t, d.canonical = .ok t := by
    refine built (short rfl ?_) (short rfl ?_) (short rfl ?_) <;> decide +kernel
  obtain ⟨bytes, written⟩ := texts.exists_bytes
  cases written.symm.trans stopped.1

/-- A list and a tuple of the text that is one half of a pair mean the same, but neither has bytes,
and no decimal is to blame. -/
theorem canonicalBytes_of_sameMeaning_half :
    let half : Value := .broken ⟨[.half ⟨0⟩], rfl⟩
    (list [half]).SameMeaning (.tuple [half]) ∧
      ¬ ((∃ bytes, (list [half]).canonicalBytes = .ok bytes ∧
          (tuple [half]).canonicalBytes = .ok bytes) ∨
        (list [half]).canonicalBytes = .error (.arithmetic .overflow) ∧
          (tuple [half]).canonicalBytes = .error (.arithmetic .overflow)) := by
  intro half
  have same : (list [half]).SameMeaning (.tuple [half]) :=
    .sequence (.list _) (.tuple _) rfl (List.forall_mem_singleton.2 (.broken _))
  have fails : (list [half]).canonicalBytes = .error (.encoding (.encoding ⟨2, [⟨0⟩]⟩)) := rfl
  refine ⟨same, ?_⟩
  rintro (⟨bytes, written, -⟩ | ⟨stopped, -⟩)
  · cases fails.symm.trans written
  · cases fails.symm.trans stopped

end Value

end EventLedger
