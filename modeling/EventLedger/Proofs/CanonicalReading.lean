import EventLedger.Proofs.ChainVerification
import EventLedger.Proofs.DecimalText
import EventLedger.Proofs.RecordLines
import EventLedger.Text.Integer

/-!
# Canonical texts are read as canonical forms

The canonical form of a value that is built from words, whole numbers, texts and decimals, with texts
as keys, is a document (`Built.document`). So its canonical text is read back as that form, on one
line of a file and with the hash that was stored (`canonical_text_read`). The one thing that can go
wrong is a decimal that is out of range (`Built.overflows`). A whole number has a text if it is not
too long for one (`ShortInt`).
-/

namespace EventLedger

namespace Decimal

/-- A number that stays below the limit of the exponents when it is rounded. -/
structure InRange (d : Decimal) : Prop where
  finite : d.isFinite = true
  below : |rounded d.value| < limit

theorem InRange.canonical {d : Decimal} (range : d.InRange) : ∃ t, d.canonical = .ok t := by
  have rounds := round_rounds range.finite
  generalize result : d.round = r at rounds
  cases rounds with
  | number => exact canonical_of_round range.finite result
  | overflow large => exact absurd range.below (not_lt.2 large)

theorem inRange_of_fits {d : Decimal} (finite : d.isFinite = true) (fits : Fits d.value) :
    d.InRange :=
  ⟨finite, by rw [fits.rounded_eq]; exact fits.abs_lt⟩

/-- A number that does not stay below the limit has no canonical text. -/
theorem canonical_of_large {d : Decimal} (finite : d.isFinite = true)
    (large : limit ≤ |rounded d.value|) : d.canonical = .error .overflow := by
  have ne : d.value ≠ 0 := by
    intro zero
    rw [zero, rounded_of_nonneg le_rfl, nearest_zero, abs_zero, limit] at large
    exact absurd large (not_le.2 (by positivity))
  have rounds := round_rounds finite
  rw [Decimal.canonical, equals_of_isFinite finite rfl, value_zero, decide_eq_false ne, normalize_eq]
  generalize d.round = r at rounds ⊢
  cases rounds with
  | number value digits unit small => exact absurd large (not_le.2 (abs_rounded_lt value small))
  | overflow => rfl

end Decimal

namespace Value

open Json

/-- A whole number whose numeral is short enough to be written and to be read back. That a longer
one may be refused is not described here. -/
def ShortInt (i : Int) : Prop :=
  Text.digitCount i.natAbs ≤ Text.maxDigits

/-- Values that are built from words, whole numbers, texts and some decimals; the keys of their maps
are texts. -/
inductive Built (number : Decimal → Prop) : Value → Prop
  | null : Built number .null
  | bool (b : Bool) : Built number (.bool b)
  | int {i : Int} (short : ShortInt i) : Built number (.int i)
  | str (s : String) : Built number (.str s)
  | decimal {d : Decimal} (holds : number d) : Built number (.decimal d)
  | list {items : List Value} (all : ∀ v ∈ items, Built number v) : Built number (.list items)
  | tuple {items : List Value} (all : ∀ v ∈ items, Built number v) : Built number (.tuple items)
  | record {fields : List (String × Value)} (distinct : fields.Pairwise fun f g => f.1 ≠ g.1)
    (all : ∀ f ∈ fields, Built number f.2) : Built number (.record fields)

/-- The entry of a field in canonical form. -/
def canonicalEntry (f : String × Value) : Except Fault (Value × Value) := do
  return (.str f.1, ← f.2.canonicalize)

/-- The canonical form of a record, field by field in the order of the names. -/
theorem canonicalize_sorted {fields sorted : List (String × Value)} (same : sorted.Perm fields)
    (order : sorted.Pairwise fun f g => f.1 < g.1) :
    (record fields).canonicalize = (sorted.mapM canonicalEntry).map .map := by
  have forms := same.map fun f : String × Value => (f.1, f.2.canonicalize)
  have sorts := sortByKey_named forms (List.pairwise_map.2 order)
  have entries : ((sorted.map fun f => (f.1, f.2.canonicalize)).map named).mapM
      (fun e => do return (e.1, ← e.2)) = sorted.mapM canonicalEntry := by
    rw [List.mapM_map, List.mapM_map]
    rfl
  rw [record_eq, canonicalize, canonicalEntries_named, sorts, ← entries]
  rfl

theorem exists_items {items : List Value}
    (h : ∀ v ∈ items, ∃ p, v.canonicalize = .ok p ∧ Document p) :
    ∃ p, Except.map Value.list (canonicalItems items) = .ok p ∧ Document p := by
  obtain ⟨forms, all⟩ := exists_forall₂ h
  have canonical := mapM_of_forall₂ (all.imp fun _ _ form => form.1)
  refine ⟨.list forms, ?_, .list (forall_mem_of_forall₂ all.flip fun _ _ form => form.2)⟩
  rw [canonicalItems_eq_mapM, canonical]
  rfl

variable {v : Value}

/-- With decimals that have a text, the canonical form is a document. -/
theorem Built.document_of {number : Decimal → Prop}
    (text : ∀ d, number d → ∃ t, d.canonical = .ok t) (built : v.Built number) :
    ∃ p, v.canonicalize = .ok p ∧ Document p := by
  induction built with
  | null => exact ⟨_, rfl, .null⟩
  | bool b => exact ⟨_, rfl, .bool b⟩
  | int _ => exact ⟨_, rfl, .int _⟩
  | str s => exact ⟨_, rfl, .str s⟩
  | decimal holds =>
    obtain ⟨t, text⟩ := text _ holds
    exact ⟨.str t, by rw [canonicalize, text]; rfl, .str t⟩
  | list _ ih => exact exists_items ih
  | tuple _ ih => exact exists_items ih
  | @record fields distinct _ ih =>
    have forms : ∀ f ∈ fields, ∃ g, CanonicalField f g := by
      intro f mem
      obtain ⟨p, form, document⟩ := ih f mem
      exact ⟨(f.1, p), rfl, form, document⟩
    obtain ⟨canonical, all⟩ := exists_forall₂ forms
    have names : fields.map Prod.fst = canonical.map Prod.fst :=
      map_eq_of_forall₂ all fun _ _ field => field.name
    have distinct' : canonical.Pairwise fun f g => f.1 ≠ g.1 :=
      List.pairwise_map.1 (names ▸ List.pairwise_map.2 distinct)
    obtain ⟨sorted, same, order⟩ := exists_sorted distinct'
    exact ⟨_, canonicalize_record all same order, document_record all same order⟩

theorem Built.document (built : v.Built Decimal.InRange) :
    ∃ p, v.canonicalize = .ok p ∧ Document p :=
  built.document_of fun _ => Decimal.InRange.canonical

section

variable {number good : Decimal → Prop} (text : ∀ d, good d → ∃ t, d.canonical = .ok t)

include text

theorem items_overflow {items : List Value}
    (h : ∀ v ∈ items, v.canonicalize = .error (.arithmetic .overflow) ∨ v.Built good) :
    Except.map Value.list (canonicalItems items) = .error (.arithmetic .overflow) ∨
      ∀ v ∈ items, v.Built good := by
  have forms : ∀ v : Value, v.Built good → ∃ p, v.canonicalize = .ok p := fun v built =>
    (built.document_of text).imp fun _ => And.left
  refine (mapM_error_or forms h).imp_left fun fails => ?_
  rw [canonicalItems_eq_mapM, fails]
  rfl

/-- There is no canonical form if some decimal has no text; the only reason is that it is out of
range. -/
theorem Built.overflows_of
    (judged : ∀ d, number d → d.canonical = .error .overflow ∨ good d) (built : v.Built number) :
    v.canonicalize = .error (.arithmetic .overflow) ∨ v.Built good := by
  induction built with
  | null => exact .inr .null
  | bool b => exact .inr (.bool b)
  | int short => exact .inr (.int short)
  | str s => exact .inr (.str s)
  | decimal holds =>
    refine (judged _ holds).imp (fun fails => ?_) .decimal
    rw [canonicalize, fails]
    rfl
  | list _ ih => exact (items_overflow text ih).imp_right .list
  | tuple _ ih => exact (items_overflow text ih).imp_right .tuple
  | @record fields distinct _ ih =>
    obtain ⟨sorted, same, order⟩ := exists_sorted distinct
    have entries : sorted.mapM canonicalEntry = .error (.arithmetic .overflow) ∨
        ∀ f ∈ sorted, f.2.Built good := by
      refine mapM_error_or (fun f built => ?_) fun f mem => ?_
      · obtain ⟨p, form, -⟩ := Built.document_of text built
        exact ⟨(.str f.1, p), by rw [canonicalEntry, form]; rfl⟩
      · refine (ih f (same.mem_iff.1 mem)).imp_left fun fails => ?_
        rw [canonicalEntry, fails]
        rfl
    rcases entries with fails | all
    · refine .inl ?_
      rw [canonicalize_sorted same order, fails]
      rfl
    · exact .inr (.record distinct fun f mem => all f (same.mem_iff.2 mem))

end

/-- There is no canonical form if some decimal is out of range. -/
theorem Built.overflows (built : v.Built fun d => d.isFinite = true) :
    v.canonicalize = .error (.arithmetic .overflow) ∨ v.Built Decimal.InRange := by
  refine built.overflows_of (fun _ => Decimal.InRange.canonical) fun d finite => ?_
  rcases lt_or_ge |Decimal.rounded d.value| Decimal.limit with below | large
  · exact .inr ⟨finite, below⟩
  · exact .inl (Decimal.canonical_of_large finite large)

/-! ## Texts and lines -/

/-- The canonical text of a value whose form is a document. -/
theorem canonicalChars_of_document {p : Value} (form : v.canonicalize = .ok p)
    (document : p.Document) :
    ∃ cs, v.canonicalChars = .ok cs ∧ p.canonicalChars = .ok cs ∧ Reads (Text.chars cs) p := by
  obtain ⟨cs, text, reads⟩ := document.exists_canonicalChars
  have same := canonicalChars_congr (form.trans document.canonicalize.symm)
  exact ⟨cs, same.trans text, text, reads⟩

/-- The canonical text of a built value is read back as its canonical form and has no control
character. A record of the value is one line, and what is read of the line has the hash that was
stored with it. All of this holds if the decimals are in range; otherwise there is neither a canonical
form nor a text. -/
theorem canonical_text_read (built : v.Built fun d => d.isFinite = true) :
    (v.Built Decimal.InRange →
      ∃ p cs, v.canonicalize = .ok p ∧ v.canonicalText = .ok (String.ofList cs) ∧
        Json.read (String.ofList cs) = .ok p ∧ (∀ c ∈ cs, 0x20 ≤ c.toNat) ∧
        ∀ previous, ∃ hash line,
          Chain.link previous v = .ok (hash, Chain.recordOf previous hash v) ∧
          (Chain.recordOf previous hash v).canonicalChars = .ok line ∧
          (∀ c ∈ line, 0x20 ≤ c.toNat) ∧
          FileLog.rawRecords (.file (FileLog.lineBytes [line])) =
            [.ok (FileLog.storedRecord previous hash p)] ∧
          Chain.hashRecord previous p = .ok hash) ∧
    ((¬ v.Built Decimal.InRange) →
      v.canonicalize = .error (.arithmetic .overflow) ∧
      v.canonicalText = .error (.arithmetic .overflow)) := by
  refine ⟨fun range => ?_, fun beyond => ?_⟩
  · obtain ⟨p, form, document⟩ := range.document
    obtain ⟨cs, text, again, reads⟩ := canonicalChars_of_document form document
    refine ⟨p, cs, form, by rw [canonicalText, text]; rfl, reads.read_text, reads.printable_chars,
      fun previous => ?_⟩
    have hashed := Chain.hashRecord_of_chars text previous
    have whole := (hasHalf_canonicalize form).symm.trans document.whole
    obtain ⟨line, written, isLine, -⟩ := FileLog.line_of_data form ⟨rfl, document.written⟩ whole
      previous (Sha256.hexDigest (Text.bytesOf previous ++ Text.encode cs))
    exact ⟨_, line, by rw [Chain.link, hashed]; rfl, written, isLine.reads.printable_chars,
      FileLog.rawRecords_lineBytes (.cons isLine .nil), Chain.hashRecord_of_chars again previous⟩
  · have fails := built.overflows.resolve_right beyond
    refine ⟨fails, ?_⟩
    rw [canonicalText, canonicalChars_error fails]
    rfl

/-- `canonical_text_read` for 1.5 and a tuple with a newline in a text, under keys that are not in
order. -/
theorem canonical_text_read_newline :
    let v : Value :=
      .record [("b", .tuple [.str "a\n", .null]), ("a", .decimal (.finite false 15 (-1)))]
    (v.Built fun d => d.isFinite = true) ∧ v.Built Decimal.InRange ∧
      ∃ p cs, v.canonicalize = .ok p ∧ v.canonicalText = .ok (String.ofList cs) ∧
        Json.read (String.ofList cs) = .ok p ∧ ∀ c ∈ cs, 0x20 ≤ c.toNat := by
  intro v
  have built : ∀ {number : Decimal → Prop}, number (.finite false 15 (-1)) → v.Built number := by
    intro number holds
    have pair : (Value.tuple [.str "a\n", .null]).Built number :=
      .tuple (List.forall_mem_cons.2 ⟨.str _, List.forall_mem_singleton.2 .null⟩)
    exact .record (by decide)
      (List.forall_mem_cons.2 ⟨pair, List.forall_mem_singleton.2 (.decimal holds)⟩)
  have fits : Decimal.Fits (Decimal.finite false 15 (-1)).value :=
    ⟨false, 15, -1, rfl, by decide, by decide, Decimal.lt_limit_of_adjusted_lt (by decide +kernel)⟩
  have range := built (Decimal.inRange_of_fits rfl fits)
  obtain ⟨p, cs, form, text, read, printable, -⟩ := (canonical_text_read (built rfl)).1 range
  exact ⟨built rfl, range, p, cs, form, text, read, printable⟩

/-- Ten to the millionth power is a finite number, but no payload with it has a canonical text. -/
theorem canonical_text_overflows :
    let v : Value := .record [("amount", .decimal (.finite false 1 1000000))]
    (v.Built fun d => d.isFinite = true) ∧
      ¬ ∃ p t, v.canonicalize = .ok p ∧ v.canonicalText = .ok t ∧ Json.read t = .ok p := by
  intro v
  have large : Decimal.limit ≤ |Decimal.rounded (Decimal.finite false 1 1000000).value| := by
    rw [Decimal.value_finite, Decimal.abs_rounded_magnitude]
    exact Decimal.limit_le_nearest (by decide) (by decide +kernel)
  have fails : v.canonicalize = .error (.arithmetic .overflow) := by
    rw [canonicalize_sorted (.refl _) (List.pairwise_singleton ..), List.mapM_cons, canonicalEntry,
      canonicalize, Decimal.canonical_of_large rfl large]
    rfl
  refine ⟨.record (List.pairwise_singleton ..) (List.forall_mem_singleton.2 (.decimal rfl)), ?_⟩
  rintro ⟨p, t, form, -⟩
  rw [fails] at form
  cases form

end Value

end EventLedger
