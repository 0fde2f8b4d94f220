import EventLedger.Proofs.StoredEvents

/-!
# Registrations of a codec

A codec knows the last name that each class of events was registered under, and the last class that
was registered under each name. So an event is read back as an equal one, unless another class took
the name of its class afterwards (`roundTrip_registered_iff`). Then nothing fails, but what is read
is an event of that other class, if it is one at all (`roundTrip_taken_name`).
-/

namespace EventLedger

variable {E : Type}

/-- What is decoded of the stored form of an event. -/
def Codec.roundTrip [HasFields E] (codec : Codec E) (event : E) : Except Fault E := do
  let (name, payload) ← codec.encode event
  codec.decode name payload

/-- A value fits a field: a decimal that needs no rounding in a field for decimals, a text or a whole
number in any other. -/
inductive Field.Holds : Field → Value → Prop
  | str (name s : String) : Holds ⟨name, false⟩ (.str s)
  | int (name : String) (i : Int) : Holds ⟨name, false⟩ (.int i)
  | decimal (name : String) {d : Decimal} (finite : d.isFinite = true) (fits : Decimal.Fits d.value) :
    Holds ⟨name, true⟩ (.decimal d)

/-- Two fields of one name with equal values. -/
inductive SameField : String × Value → String × Value → Prop
  | str (name s : String) : SameField (name, .str s) (name, .str s)
  | int (name : String) (i : Int) : SameField (name, .int i) (name, .int i)
  | decimal (name : String) {d d' : Decimal} (finite : d.isFinite = true ∧ d'.isFinite = true)
    (same : d.equals d' = .ok true) : SameField (name, .decimal d) (name, .decimal d')

/-- Two events of one class whose fields are equal. -/
structure SameEvent [HasFields E] (e e' : E) : Prop where
  own : kind e' = kind e
  fields : List.Forall₂ SameField (HasFields.fields e) (HasFields.fields e')

namespace EventClass

/-- All events that the class makes are of the class. -/
def MakesOwn [HasFields E] (c : EventClass E) : Prop :=
  ∀ fields e, c.build fields = .ok e → HasKind.kind e = c.kind

/-- The event has the fields of the class, and the class makes events with fields equal to these. -/
structure Describes [HasFields E] (c : EventClass E) (e : E) : Prop where
  distinct : c.fields.Pairwise fun f g => f.name ≠ g.name
  holds : List.Forall₂ (fun field f => f.1 = field.name ∧ field.Holds f.2) c.fields
    (HasFields.fields e)
  makes : ∀ fields, List.Forall₂ SameField (HasFields.fields e) fields →
    ∃ e', c.build fields = .ok e' ∧ HasFields.fields e' = fields

end EventClass

open Value

theorem get?_named {fields : List (String × Value)} (order : fields.Pairwise fun f g => f.1 < g.1)
    {f : String × Value} (mem : f ∈ fields) : get? f.1 (fields.map named) = some f.2 := by
  induction order with
  | nil => cases mem
  | @cons g fields before _ ih =>
    rw [List.map_cons, named, get?]
    rcases List.mem_cons.1 mem with rfl | mem
    · rw [if_pos (by simp [isStr])]
    · have other : f.1 ≠ g.1 := (String.ne_of_lt (before f mem)).symm
      rw [if_neg (by simpa [isStr] using other), ih mem]

/-- A field has a canonical form, and is read from it as an equal value. -/
theorem Field.Holds.stored {field : Field} {v : Value} (h : field.Holds v) :
    ∃ w v', v.canonicalize = .ok w ∧ w.Document ∧
      (if field.isDecimal then Value.decimal <$> Decimal.ofValue w else .ok w) = .ok v' ∧
      SameField (field.name, v) (field.name, v') := by
  cases h with
  | str name s => exact ⟨.str s, .str s, rfl, .str s, rfl, .str name s⟩
  | int name i => exact ⟨.int i, .int i, rfl, .int i, rfl, .int name i⟩
  | @decimal name d finite fits =>
    obtain ⟨t, d', text, read, finite', value⟩ := Decimal.parse_canonical_of_fits finite fits
    have form : (Value.decimal d).canonicalize = .ok (.str t) := by
      rw [canonicalize, text]
      rfl
    have reads : Value.decimal <$> Decimal.ofValue (.str t) = .ok (.decimal d') := by
      rw [Decimal.ofValue, read]
      rfl
    have same : d.equals d' = .ok true := by
      rw [Decimal.equals_of_isFinite finite finite', decide_eq_true value.symm]
    exact ⟨.str t, .decimal d', form, .str t, reads, .decimal name ⟨finite, finite'⟩ same⟩

/-- Fields have canonical forms, and equal fields are read from every payload with these forms. -/
theorem exists_stored {fields : List Field} {values : List (String × Value)}
    (holds : List.Forall₂ (fun field f => f.1 = field.name ∧ field.Holds f.2) fields values) :
    ∃ forms values' : List (String × Value), List.Forall₂ CanonicalField values forms ∧
      List.Forall₂ SameField values values' ∧
      ∀ payload, (∀ f ∈ forms, payloadEntry? f.1 payload = .ok (some f.2)) →
        readFields payload fields = .ok values' := by
  induction holds with
  | nil => exact ⟨[], [], .nil, .nil, fun _ _ => rfl⟩
  | @cons field f fields values first _ ih =>
    obtain ⟨forms, values', canonical, same, reads⟩ := ih
    obtain ⟨name, v⟩ := f
    obtain ⟨rfl, held⟩ := first
    obtain ⟨w, v', form, document, read, equal⟩ := held.stored
    refine ⟨(field.name, w) :: forms, (field.name, v') :: values',
      .cons ⟨rfl, form, document⟩ canonical, .cons equal same, fun payload entries => ?_⟩
    rw [List.forall_mem_cons] at entries
    have others := reads payload entries.2
    simp only [readFields, entries.1, bind, Except.bind, others]
    split at read
    next decimal => rw [if_pos decimal, read]; rfl
    next other => cases read; rw [if_neg other]; rfl

namespace Codec

theorem decode_map {codec : Codec E} {name : String} {decoder : Decoder E}
    (known : Registry.get? name codec.decoders = some decoder) (entries : List (Value × Value)) :
    codec.decode name (.map entries) = decoder (.map entries) := by
  rw [decode, known]
  cases entries <;> rfl

variable [HasFields E]

/-- What is decoded of an event is what the class that has the name of its own class reads of the
fields of the event. -/
theorem roundTrip_described {codec : Codec E} {c : EventClass E} {e : E} (described : c.Describes e)
    {name : String} (named : Registry.get? (kind e) codec.names = some name)
    {decoder : Decoder E} (known : Registry.get? name codec.decoders = some decoder) :
    ∃ payload fields, codec.roundTrip e = decoder payload ∧ readFields payload c.fields = .ok fields ∧
      List.Forall₂ SameField (HasFields.fields e) fields := by
  obtain ⟨forms, fields, canonical, same, reads⟩ := exists_stored described.holds
  have distinct : forms.Pairwise fun f g => f.1 ≠ g.1 := by
    have names : forms.map Prod.fst = c.fields.map Field.name :=
      (map_eq_of_forall₂ canonical.flip fun _ _ field => field.name.symm).trans
        (map_eq_of_forall₂ described.holds.flip fun _ _ field => field.1)
    exact List.pairwise_map.1 (names ▸ List.pairwise_map.2 described.distinct)
  obtain ⟨sorted, perm, order⟩ := exists_sorted distinct
  have entries : ∀ f ∈ forms, payloadEntry? f.1 (record sorted) = .ok (some f.2) := fun f mem =>
    congrArg Except.ok (get?_named order (perm.mem_iff.2 mem))
  refine ⟨record sorted, fields, ?_, reads _ entries, same⟩
  rw [roundTrip, encode, named]
  simp only [canonicalize_record canonical perm order, bind, Except.bind]
  exact decode_map known _

end Codec

namespace Codec

/-- The codec after registrations with default decoders, one after the other. -/
def registerAll (calls : List (String × Registrable E)) : Except Fault (Codec E) :=
  calls.foldlM (fun codec call => codec.register call.1 call.2 none) {}

/-- The codec after classes were registered under names. -/
def addAll (codec : Codec E) (classes : List (String × EventClass E)) : Codec E :=
  classes.foldl (fun codec r => codec.add r.1 r.2 none) codec

/-- Registrations that succeed are of classes of events. -/
theorem exists_classes {calls : List (String × Registrable E)} {codec codec' : Codec E}
    (h : calls.foldlM (fun codec call => codec.register call.1 call.2 none) codec = .ok codec') :
    ∃ classes : List (String × EventClass E),
      calls = classes.map (fun r => (r.1, .event r.2)) ∧ codec' = codec.addAll classes := by
  induction calls generalizing codec with
  | nil => cases h; exact ⟨[], rfl, rfl⟩
  | cons call calls ih =>
    rw [List.foldlM_cons] at h
    obtain ⟨next, first, others⟩ := exists_of_bind_ok h
    obtain ⟨classes, rfl, rfl⟩ := ih others
    obtain ⟨name, c | other⟩ := call
    · cases first
      exact ⟨(name, c) :: classes, rfl, rfl⟩
    · cases first

section

variable {classes : List (String × EventClass E)} (codec : Codec E)

/-- Registrations of other classes leave the name of a class as it is. -/
theorem names_addAll {k : Kind} (others : ∀ r ∈ classes, r.2.kind ≠ k) :
    Registry.get? k (codec.addAll classes).names = Registry.get? k codec.names := by
  induction classes generalizing codec with
  | nil => rfl
  | cons r classes ih =>
    rw [List.forall_mem_cons] at others
    exact (ih _ others.2).trans (Registry.get?_set_of_ne others.1 ..)

/-- Registrations under other names leave the class of a name as it is. -/
theorem decoders_addAll {name : String} (others : ∀ r ∈ classes, r.1 ≠ name) :
    Registry.get? name (codec.addAll classes).decoders = Registry.get? name codec.decoders := by
  induction classes generalizing codec with
  | nil => rfl
  | cons r classes ih =>
    rw [List.forall_mem_cons] at others
    exact (ih _ others.2).trans (Registry.get?_set_of_ne others.1 ..)

theorem addAll_cut (front : List (String × EventClass E)) (r : String × EventClass E)
    (rest : List (String × EventClass E)) :
    codec.addAll (front ++ r :: rest) = ((codec.addAll front).add r.1 r.2 none).addAll rest :=
  List.foldl_append ..

/-- A class has the name of its last registration. -/
theorem names_last (front : List (String × EventClass E)) (name : String) {c : EventClass E}
    {rest : List (String × EventClass E)} (others : ∀ r ∈ rest, r.2.kind ≠ c.kind) :
    Registry.get? c.kind (codec.addAll (front ++ (name, c) :: rest)).names = some name := by
  rw [addAll_cut, names_addAll _ others]
  exact Registry.get?_set_self ..

/-- A name has the class of its last registration. -/
theorem decoders_last (front : List (String × EventClass E)) {name : String} (c : EventClass E)
    {rest : List (String × EventClass E)} (others : ∀ r ∈ rest, r.1 ≠ name) :
    Registry.get? name (codec.addAll (front ++ (name, c) :: rest)).decoders = some c.decoder := by
  rw [addAll_cut, decoders_addAll _ others]
  exact Registry.get?_set_self ..

end

variable [HasFields E]

/-- An event whose class has kept its name is read back. -/
theorem roundTrip_kept {codec : Codec E} {c : EventClass E} {e : E} (own : c.kind = HasKind.kind e)
    (makes : c.MakesOwn) (described : c.Describes e) {name : String}
    (named : Registry.get? (HasKind.kind e) codec.names = some name)
    (known : Registry.get? name codec.decoders = some c.decoder) :
    ∃ e', codec.roundTrip e = .ok e' ∧ SameEvent e e' := by
  obtain ⟨payload, fields, restores, reads, same⟩ := roundTrip_described described named known
  obtain ⟨e', made, rfl⟩ := described.makes fields same
  refine ⟨e', ?_, (makes _ _ made).trans own, same⟩
  rw [restores, EventClass.decoder, reads]
  exact made

/-- An event whose class has lost its name is read as an event of the class that has it. -/
theorem roundTrip_lost {codec : Codec E} {c other : EventClass E} {e : E} (makes : other.MakesOwn)
    (described : c.Describes e) {name : String}
    (named : Registry.get? (HasKind.kind e) codec.names = some name)
    (known : Registry.get? name codec.decoders = some other.decoder) {e' : E}
    (restored : codec.roundTrip e = .ok e') : HasKind.kind e' = other.kind := by
  obtain ⟨payload, -, restores, -⟩ := roundTrip_described described named known
  obtain ⟨fields, -, made⟩ := exists_of_bind_ok (restores.symm.trans restored)
  exact makes fields e' made

end Codec

/-! ## The classes of the account -/

namespace Account

theorem makesOwn_plain (e : Event) : (plainClass (kind e) e).MakesOwn := by
  rintro fields e' ⟨⟩
  rfl

theorem describes_plain {e : Event} (plain : e.fields = []) :
    (plainClass (kind e) e).Describes e where
  distinct := .nil
  holds := by
    show List.Forall₂ _ [] e.fields
    rw [plain]
    exact .nil
  makes fields same := by
    have none : HasFields.fields e = [] := plain
    rw [none] at same
    cases same
    exact ⟨e, rfl, none⟩

theorem makesOwn_deposit : (amountClass Event.depositedKind Event.deposit).MakesOwn := by
  intro fields e made
  obtain ⟨d, made⟩ : ∃ d, Event.deposit d = .ok e := by
    simp only [amountClass] at made
    split at made
    · exact ⟨_, made⟩
    · cases made
  obtain ⟨a, -, rfl⟩ := exists_of_map_ok made
  rfl

theorem describes_deposit {a : Amount} (finite : a.value.isFinite = true)
    (fits : Decimal.Fits a.value.value) :
    (amountClass Event.depositedKind Event.deposit).Describes (.deposited a) where
  distinct := List.pairwise_singleton ..
  holds := .cons ⟨rfl, .decimal "amount" finite fits⟩ .nil
  makes fields same := by
    obtain ⟨g, _, first, others, rfl⟩ := List.forall₂_cons_left_iff.1 same
    cases others
    cases first with
    | @decimal _ _ d' finite' equal =>
      rw [Decimal.equals_of_isFinite finite'.1 finite'.2] at equal
      have value := of_decide_eq_true (Except.ok.inj equal)
      rcases Amount.make_cases "deposited" finite'.2 with ⟨neg, -⟩ | ⟨-, a', made, rfl⟩
      · exact absurd (Amount.value_pos finite) (not_lt.2 (value ▸ neg))
      · refine ⟨.deposited a', ?_, rfl⟩
        show Event.deposited <$> Amount.make "deposited" a'.value = _
        rw [made]
        rfl

end Account

/-! ## Any order of registrations -/

/-- The kind of what one may try to register. -/
def Registrable.kind : Registrable E → Kind
  | .event c => c.kind
  | .other kind => kind

/-- After registrations in any order, an event of a registered class is read back as an equal event
of its class iff nothing was registered under the name of its class afterwards. Otherwise whatever is
read is of another class. -/
theorem roundTrip_registered_iff [HasFields E] {calls : List (String × Registrable E)}
    {codec : Codec E} (registered : Codec.registerAll calls = .ok codec) {e : E}
    (known : ∃ call ∈ calls, call.2.kind = kind e)
    (classes : ∀ name c, (name, Registrable.event c) ∈ calls →
      c.MakesOwn ∧ (c.kind = kind e → c.Describes e)) :
    ∃ front name c rest, calls = front ++ (name, .event c) :: rest ∧ c.kind = kind e ∧
      (∀ call ∈ rest, call.2.kind ≠ kind e) ∧
      ((∃ e', codec.roundTrip e = .ok e' ∧ SameEvent e e') ↔ ∀ call ∈ rest, call.1 ≠ name) ∧
      ((∃ call ∈ rest, call.1 = name) → ∀ e', codec.roundTrip e = .ok e' → kind e' ≠ kind e) := by
  obtain ⟨regs, rfl, rfl⟩ := Codec.exists_classes registered
  have all : ∀ r ∈ regs, r.2.MakesOwn ∧ (r.2.kind = kind e → r.2.Describes e) := fun r mem =>
    classes r.1 r.2 (List.mem_map.2 ⟨r, mem, rfl⟩)
  have known' : ∃ r ∈ regs, r.2.kind = kind e := by
    obtain ⟨call, mem, own⟩ := known
    obtain ⟨r, listed, rfl⟩ := List.mem_map.1 mem
    exact ⟨r, listed, own⟩
  obtain ⟨front, ⟨name, c⟩, rest, rfl, own, others⟩ := exists_cut_last known'
  obtain ⟨makes, describes⟩ := all (name, c) (List.mem_append_right _ List.mem_cons_self)
  have described := describes own
  have named : Registry.get? (kind e)
      (Codec.addAll {} (front ++ (name, c) :: rest)).names = some name := by
    have last := Codec.names_last {} front name (own ▸ others)
    rw [own] at last
    exact last
  have lost : (∃ r ∈ rest, r.1 = name) →
      ∀ e', (Codec.addAll {} (front ++ (name, c) :: rest)).roundTrip e = .ok e' →
        kind e' ≠ kind e := by
    intro taken e' restored
    obtain ⟨front', ⟨name, other⟩, rest', rfl, rfl, others'⟩ := exists_cut_last taken
    have mem := List.mem_append_right front' (List.mem_cons_self (a := (name, other)) (l := rest'))
    obtain ⟨makes', -⟩ := all _ (List.mem_append_right front (List.mem_cons_of_mem _ mem))
    have last := Codec.decoders_last {} (front ++ (name, c) :: front') other others'
    rw [List.append_assoc, List.cons_append] at last
    rw [Codec.roundTrip_lost makes' described named last restored]
    exact others _ mem
  refine ⟨front.map fun r => (r.1, .event r.2), name, c, rest.map fun r => (r.1, .event r.2), ?_, own,
    ?_, ⟨?_, ?_⟩, ?_⟩
  · rw [List.map_append, List.map_cons]
  · rw [List.forall_mem_map]
    exact others
  · rintro ⟨e', restored, same⟩ call mem taken
    obtain ⟨r, listed, rfl⟩ := List.mem_map.1 mem
    exact lost ⟨r, listed, taken⟩ e' restored same.own
  · intro free
    rw [List.forall_mem_map] at free
    exact Codec.roundTrip_kept own makes described named (Codec.decoders_last {} front c free)
  · rintro ⟨call, mem, taken⟩
    obtain ⟨r, listed, rfl⟩ := List.mem_map.1 mem
    exact lost ⟨r, listed, taken⟩

/-- `roundTrip_registered_iff` for a class with two names, the first of which was given to another
class afterwards. -/
theorem roundTrip_registered_iff_renamed :
    let deposited : EventClass Account.Event :=
      Account.amountClass Account.Event.depositedKind Account.Event.deposit
    let closed := Account.plainClass Account.Event.closedKind .closed
    let calls : List (String × Registrable Account.Event) :=
      [("In", .event deposited), ("End", .event closed), ("Paid", .event deposited),
        ("In", .event closed)]
    let five : Account.Event := .deposited ⟨.ofNat 5, rfl⟩
    ∃ codec, Codec.registerAll calls = .ok codec ∧ (∃ call ∈ calls, call.2.kind = kind five) ∧
      (∀ name c, (name, Registrable.event c) ∈ calls →
        c.MakesOwn ∧ (c.kind = kind five → c.Describes five)) ∧
      ∃ front name c rest, calls = front ++ (name, .event c) :: rest ∧ c.kind = kind five ∧
        (∀ call ∈ rest, call.2.kind ≠ kind five) ∧
        ((∃ e', codec.roundTrip five = .ok e' ∧ SameEvent five e') ↔ ∀ call ∈ rest, call.1 ≠ name) ∧
        ((∃ call ∈ rest, call.1 = name) →
          ∀ e', codec.roundTrip five = .ok e' → kind e' ≠ kind five) := by
  intro deposited closed calls five
  have fits : Decimal.Fits (Decimal.ofNat 5).value :=
    ⟨false, 5, 0, rfl, by decide, by decide, Decimal.lt_limit_of_adjusted_lt (by decide +kernel)⟩
  have known : ∃ call ∈ calls, call.2.kind = kind five := ⟨_, List.mem_cons_self, rfl⟩
  have ofDeposits : deposited.MakesOwn ∧ (deposited.kind = kind five → deposited.Describes five) :=
    ⟨Account.makesOwn_deposit, fun _ => Account.describes_deposit rfl fits⟩
  have ofClosed : closed.MakesOwn ∧ (closed.kind = kind five → closed.Describes five) :=
    ⟨Account.makesOwn_plain .closed, fun same => absurd same (by decide)⟩
  have classes : ∀ name c, (name, Registrable.event c) ∈ calls →
      c.MakesOwn ∧ (c.kind = kind five → c.Describes five) := by
    intro name c mem
    simp only [calls, List.mem_cons, List.not_mem_nil, or_false, Prod.mk.injEq,
      Registrable.event.injEq] at mem
    rcases mem with ⟨-, rfl⟩ | ⟨-, rfl⟩ | ⟨-, rfl⟩ | ⟨-, rfl⟩
    · exact ofDeposits
    · exact ofClosed
    · exact ofDeposits
    · exact ofClosed
  exact ⟨_, rfl, known, classes, roundTrip_registered_iff rfl known classes⟩

/-- Under one name for two classes, an account that was created is read back as one that was
closed. -/
theorem roundTrip_taken_name :
    ∃ codec : Codec Account.Event,
      Codec.registerAll
          [("E", .event (Account.plainClass Account.Event.createdKind .created)),
            ("E", .event (Account.plainClass Account.Event.closedKind .closed))] = .ok codec ∧
        codec.roundTrip .created = .ok .closed ∧
        ¬ ∃ e, codec.roundTrip .created = .ok e ∧ SameEvent .created e := by
  -- Both maps are right about their own keys: the name they share leads to the other class.
  have closes : ∀ codec : Codec Account.Event,
      Registry.get? Account.Event.createdKind codec.names = some "E" →
      Registry.get? "E" codec.decoders =
        some (Account.plainClass Account.Event.closedKind .closed).decoder →
      codec.roundTrip .created = .ok .closed := by
    intro codec named known
    obtain ⟨payload, -, restores, -⟩ :=
      Codec.roundTrip_described (Account.describes_plain (e := .created) rfl) named known
    exact restores
  refine ⟨_, rfl, closes _ rfl rfl, ?_⟩
  rintro ⟨e, restored, same⟩
  cases (closes _ rfl rfl).symm.trans restored
  exact absurd same.own (by decide)

end EventLedger
