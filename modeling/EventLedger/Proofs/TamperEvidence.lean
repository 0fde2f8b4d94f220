import EventLedger.Log.File
import EventLedger.Proofs.CanonicalText
import EventLedger.Proofs.ChainVerification
import EventLedger.Proofs.Utf8

/-!
# Tamper evidence

Two chains that are accepted and end with one hash hold the same records, unless two of the byte
strings that were hashed for them collide or one of them has the hash that stands for no record
(`tamper_evident`). Going back from the end, equal hashes have equal inputs, and an input says which
hash stands before it and which event follows: the hash before it is always 64 characters long, and
the canonical text tells events apart.
-/

namespace EventLedger

namespace Sha256

open Text

theorem hexChar_inj {d e : Nat} (hd : d < 16) (he : e < 16) (h : hexChar d = hexChar e) :
    d = e := by
  have left := Json.hexDigit?_hexChar hd
  rw [h, Json.hexDigit?_hexChar he] at left
  exact (Option.some.inj left).symm

theorem hexChars_inj {width n m : Nat} (hn : n < 16 ^ width) (hm : m < 16 ^ width)
    (h : hexChars width n = hexChars width m) : n = m := by
  induction width generalizing n m with
  | zero => omega
  | succ width ih =>
    rw [hexChars, hexChars] at h
    obtain ⟨front, last⟩ := List.append_inj' h rfl
    rw [Nat.pow_succ] at hn hm
    have quotients := ih (by omega) (by omega) front
    have digits := hexChar_inj (by omega) (by omega) (List.cons_eq_cons.1 last).1
    omega

theorem flatMap_inj {α β : Type} {f : α → List β} {k : Nat} (length : ∀ a, (f a).length = k)
    (inj : ∀ a b, f a = f b → a = b) {xs ys : List α} (same : xs.length = ys.length)
    (h : xs.flatMap f = ys.flatMap f) : xs = ys := by
  induction xs generalizing ys with
  | nil => exact (List.length_eq_zero_iff.1 same.symm).symm
  | cons x xs ih =>
    cases ys with
    | nil => cases same
    | cons y ys =>
      rw [List.flatMap_cons, List.flatMap_cons] at h
      obtain ⟨first, others⟩ := List.append_inj h ((length x).trans (length y).symm)
      rw [inj x y first, ih (Nat.succ.inj same) others]

theorem State.hexChars_inj {s t : State} (h : s.hexChars = t.hexChars) : s = t := by
  obtain ⟨a, b, c, d, e, f, g, i⟩ := s
  obtain ⟨a', b', c', d', e', f', g', i'⟩ := t
  have words : [a, b, c, d, e, f, g, i] = [a', b', c', d', e', f', g', i'] :=
    flatMap_inj (fun _ => Text.length_hexChars 8 _)
      (fun v w eq => UInt32.toNat_inj.1 (Sha256.hexChars_inj v.toNat_lt w.toNat_lt eq)) rfl h
  cases words
  rfl

theorem length_hexDigest (message : List UInt8) : (hexDigest message).toList.length = 64 :=
  (congrArg List.length String.toList_ofList).trans (State.length_hexChars _)

/-- The digits of a hash say which hash it is. -/
theorem hash_eq_of_hexDigest_eq {a b : List UInt8} (h : hexDigest a = hexDigest b) :
    hash a = hash b :=
  State.hexChars_inj (String.ofList_inj.1 h)

end Sha256

namespace Chain

open Value

/-- The byte strings that are hashed while records are checked behind a hash. -/
def hashedFrom (previous : String) : List Value → List (List UInt8)
  | [] => []
  | record :: records =>
    match hashInput previous record with
    | .error _ => []
    | .ok input => input :: hashedFrom (Sha256.hexDigest input) records

/-- The byte strings that are hashed while records are checked. -/
def hashed (records : List Value) : List (List UInt8) :=
  hashedFrom zeroHash records

/-- The hash of the last record, as it is stored. -/
def lastHash (records : List Value) : Value :=
  (records.getLast?.bind (Value.field? "event_hash")).getD (.str zeroHash)

/-- Records from the start of a chain on that are accepted, with what was hashed for them and the
hash of the last one. -/
inductive Verified : List Value → List (List UInt8) → String → Prop
  | nil : Verified [] [] zeroHash
  | snoc {records : List Value} {inputs : List (List UInt8)} {previous : String} {record : Value}
    {input : List UInt8} (front : Verified records inputs previous)
    (linked : Linked previous record input) :
    Verified (records ++ [record]) (inputs ++ [input]) (Sha256.hexDigest input)

theorem verified_of_verifyFrom {front : List Value} {inputs : List (List UInt8)}
    {previous : String} (verified : Verified front inputs previous) {records : List Value} {n : Nat}
    (accepted : verifyFrom previous (records.map .ok) = .ok n) :
    ∃ last, Verified (front ++ records) (inputs ++ hashedFrom previous records) last := by
  induction records generalizing front inputs previous n with
  | nil =>
    rw [List.append_nil, hashedFrom, List.append_nil]
    exact ⟨previous, verified⟩
  | cons record records ih =>
    obtain ⟨_, ⟨⟩, accepted⟩ := exists_of_bind_ok accepted
    obtain ⟨hash, first, accepted⟩ := exists_of_bind_ok accepted
    obtain ⟨n, others, -⟩ := exists_of_bind_ok accepted
    obtain ⟨input, hashes, linked, rfl⟩ := verifyRecord_linked first
    rw [hashedFrom, hashes, List.append_cons front]
    show ∃ last, Verified _ (inputs ++ input :: hashedFrom _ records) last
    rw [List.append_cons inputs]
    exact ih (verified.snoc linked) others

/-- What is accepted is verified record by record. -/
theorem verified_of_verify {records : List Value} {n : Nat}
    (accepted : verify (records.map .ok) = .ok n) :
    ∃ last, Verified records (hashed records) last :=
  verified_of_verifyFrom .nil accepted

theorem Verified.lastHash {records : List Value} {inputs : List (List UInt8)} {last : String}
    (h : Verified records inputs last) : lastHash records = .str last := by
  cases h with
  | nil => rfl
  | snoc _ linked =>
    rw [Chain.lastHash, List.getLast?_concat, Option.bind_some, linked.own]
    rfl

theorem length_zeroHash : zeroHash.toList.length = 64 :=
  (congrArg List.length String.toList_ofList).trans List.length_replicate

theorem Verified.length_last {records : List Value} {inputs : List (List UInt8)} {last : String}
    (h : Verified records inputs last) : last.toList.length = 64 := by
  cases h with
  | nil => exact length_zeroHash
  | @snoc _ _ _ _ input => exact Sha256.length_hexDigest input

/-- Two records with the same hashes and the same event. -/
structure SameRecord (record record' : Value) : Prop where
  previous : ∃ hash, record.field? "prev_hash" = some (.str hash) ∧
    record'.field? "prev_hash" = some (.str hash)
  hash : ∃ hash, record.field? "event_hash" = some (.str hash) ∧
    record'.field? "event_hash" = some (.str hash)
  event : ∃ event event', record.field? "event" = some event ∧
    record'.field? "event" = some event' ∧ SameJson event event'

/-- Two different byte strings, one from each list, with the same hash. -/
def Collision (inputs inputs' : List (List UInt8)) : Prop :=
  ∃ a ∈ inputs, ∃ b ∈ inputs', a ≠ b ∧ Sha256.hash a = Sha256.hash b

theorem encode_inj {cs ds : List Char} (h : Text.encode cs = Text.encode ds) : cs = ds := by
  have decoded := Text.Utf8.decode_encode 0 cs
  rw [h, Text.Utf8.decode_encode] at decoded
  exact Text.chars_inj (Except.ok.inj decoded).symm

/-- One input says which hash stands before it and which event follows. -/
theorem Linked.same {previous previous' : String} {record record' : Value} {input : List UInt8}
    (h : Linked previous record input) (h' : Linked previous' record' input)
    (json : IsJson record) (json' : IsJson record')
    (lengths : previous.toList.length = previous'.toList.length) :
    previous = previous' ∧ SameRecord record record' := by
  obtain ⟨event, cs, found, text, eq⟩ := h.event
  obtain ⟨event', cs', found', text', eq'⟩ := h'.event
  obtain ⟨front, rest⟩ := List.append_inj (encode_inj (eq.symm.trans eq')) lengths
  have hashes := String.toList_inj.1 front
  obtain ⟨points, whole⟩ := whole_of_canonicalChars text
  obtain ⟨points', whole'⟩ := whole_of_canonicalChars text'
  have prints : Prints event (Text.chars cs) := ⟨(json.field found).whole whole, points⟩
  have prints' : Prints event' (Text.chars cs') := ⟨(json'.field found').whole whole', points'⟩
  have apart := prints.toldApart event' _ [] [] prints' Json.ends_nil Json.ends_nil
  have same := (apart (by rw [rest])).1
  exact ⟨hashes, ⟨_, h.before, hashes ▸ h'.before⟩, ⟨_, h.own, h'.own⟩,
    _, _, found, found', same⟩

/-- Going back from the end of two chains. -/
theorem Verified.agree {records records' : List Value} {inputs inputs' : List (List UInt8)}
    {last last' : String} (h : Verified records inputs last)
    (h' : Verified records' inputs' last') (same : last = last')
    (json : ∀ record ∈ records, IsJson record) (json' : ∀ record ∈ records', IsJson record) :
    List.Forall₂ SameRecord records records' ∨ Collision inputs inputs' ∨
      ∃ a ∈ inputs ++ inputs', Sha256.hexDigest a = zeroHash := by
  induction h generalizing records' inputs' last' with
  | nil =>
    cases h' with
    | nil => exact .inl .nil
    | snoc => exact .inr (.inr ⟨_, by simp, same.symm⟩)
  | @snoc records inputs previous record input front linked ih =>
    cases h' with
    | nil => exact .inr (.inr ⟨_, by simp, same⟩)
    | @snoc records' inputs' previous' record' input' front' linked' =>
      by_cases equal : input = input'
      · subst equal
        rw [List.forall_mem_append, List.forall_mem_singleton] at json json'
        obtain ⟨hashes, here⟩ := linked.same linked' json.2 json'.2
          (front.length_last.trans front'.length_last.symm)
        rcases ih front' hashes json.1 json'.1 with
          there | ⟨a, mem, b, mem', collide⟩ | ⟨a, mem, zero⟩
        · exact .inl (List.rel_append there (.cons here .nil))
        · exact .inr (.inl ⟨a, List.mem_append_left _ mem, b, List.mem_append_left _ mem', collide⟩)
        · refine .inr (.inr ⟨a, ?_, zero⟩)
          rcases List.mem_append.1 mem with mem | mem <;> simp [mem]
      · exact .inr (.inl ⟨input, by simp, input', by simp, equal,
          Sha256.hash_eq_of_hexDigest_eq same⟩)

/-- Two chains that are accepted and end with one hash agree record by record in their hashes and
events, unless two different byte strings that were hashed for them have one hash, or one has the
hash that stands for no record. So short of that no event of a chain can be altered, removed,
inserted or moved while the last hash stays. What a text is read as is among the values here
(`isJson_of_readPoints`). -/
theorem tamper_evident {records records' : List Value} {n n' : Nat}
    (json : ∀ record ∈ records, IsJson record) (json' : ∀ record ∈ records', IsJson record)
    (accepted : verify (records.map .ok) = .ok n) (accepted' : verify (records'.map .ok) = .ok n')
    (same : lastHash records = lastHash records') :
    List.Forall₂ SameRecord records records' ∨ Collision (hashed records) (hashed records') ∨
      ∃ a ∈ hashed records ++ hashed records', Sha256.hexDigest a = zeroHash := by
  obtain ⟨last, verified⟩ := verified_of_verify accepted
  obtain ⟨last', verified'⟩ := verified_of_verify accepted'
  have lasts : last = last' := by
    rw [verified.lastHash, verified'.lastHash] at same
    exact Value.str.inj same
  exact verified.agree verified' lasts json json'

/-- Two fields with texts, in the order of their names and in the other one. -/
theorem exists_text_swapped {f g : String × Value} (order : f.1 < g.1) (left : WholeJson f.2)
    (right : WholeJson g.2) :
    ∃ cs, Prints (.record [f, g]) (Text.chars cs) ∧ Prints (.record [g, f]) (Text.chars cs) := by
  obtain ⟨p, prints, -⟩ := left.exists_form
  obtain ⟨q, prints', -⟩ := right.exists_form
  have sorted : [f, g].Pairwise fun f g => f.1 < g.1 := by simpa using order
  have texts : List.Forall₂ PrintsField [f, g] _ :=
    .cons ⟨p, rfl, prints⟩ (.cons ⟨q, rfl, prints'⟩ .nil)
  have text := prints_record (.refl _) sorted texts
  obtain ⟨cs, own, -⟩ := text.exists_chars
  exact ⟨cs, own ▸ text, own ▸ prints_record (.swap ..) sorted texts⟩

/-- A chain of one record is accepted. -/
theorem verify_recordOf {fields : List (String × Value)} {cs : List Char}
    (prints : Prints (.record fields) (Text.chars cs)) :
    verify [.ok (recordOf zeroHash (Sha256.hexDigest (Text.bytesOf zeroHash ++ Text.encode cs))
      (.record fields))] = .ok 1 := by
  obtain ⟨cs', own, text⟩ := prints.exists_chars
  obtain rfl := Text.chars_inj own
  have accepted : verifyRecord zeroHash (recordOf zeroHash _ (.record fields)) = .ok _ :=
    verifyRecord_of_parts rfl rfl rfl (hashRecord_of_chars text zeroHash)
  show (verifyRecord zeroHash (recordOf zeroHash _ (.record fields)) >>= fun hash =>
    verifyFrom hash [] >>= fun n => .ok (n + 1)) = _
  rw [accepted]
  rfl

theorem isJson_recordOf (previous hash : String) {event : Value} (json : IsJson event) :
    IsJson (recordOf previous hash event) :=
  .record (by simp) (by simpa using ⟨.str _, .str _, json⟩)

/-- `tamper_evident` for two chains of one record, whose events have their fields in different
orders. -/
theorem tamper_evident_swapped :
    ∃ hash : String,
      let left :=
        [recordOf zeroHash hash (.record [("seq", .int 0), ("type", .str "AccountCreated")])]
      let right :=
        [recordOf zeroHash hash (.record [("type", .str "AccountCreated"), ("seq", .int 0)])]
      ((∀ record ∈ left, IsJson record) ∧ ∀ record ∈ right, IsJson record) ∧
        (verify (left.map .ok) = .ok 1 ∧ verify (right.map .ok) = .ok 1) ∧
        lastHash left = lastHash right ∧
        (List.Forall₂ SameRecord left right ∨ Collision (hashed left) (hashed right) ∨
          ∃ a ∈ hashed left ++ hashed right, Sha256.hexDigest a = zeroHash) := by
  obtain ⟨cs, text, text'⟩ := exists_text_swapped (f := ("seq", .int 0))
    (g := ("type", .str "AccountCreated")) (by decide) (.int 0) (.str _)
  refine ⟨Sha256.hexDigest (Text.bytesOf zeroHash ++ Text.encode cs), ?_⟩
  intro left right
  have json : ∀ record ∈ left, IsJson record :=
    List.forall_mem_singleton.2 (isJson_recordOf _ _ text.json.isJson)
  have json' : ∀ record ∈ right, IsJson record :=
    List.forall_mem_singleton.2 (isJson_recordOf _ _ text'.json.isJson)
  have accepted : verify (left.map .ok) = .ok 1 := verify_recordOf text
  have accepted' : verify (right.map .ok) = .ok 1 := verify_recordOf text'
  have same : lastHash left = lastHash right := rfl
  exact ⟨⟨json, json'⟩, ⟨accepted, accepted'⟩, same,
    tamper_evident json json' accepted accepted' same⟩

end Chain

/-! ## Files -/

namespace FileLog

open Chain Value

/-- The records of a file are read from its lines. -/
theorem isJson_rawRecords {state : FileState} {record : Value}
    (mem : .ok record ∈ rawRecords state) : IsJson record := by
  cases state with
  | missing => simp [rawRecords] at mem
  | directory => simp [rawRecords] at mem
  | file content =>
    obtain ⟨line, -, parsed⟩ := List.mem_map.1 mem
    obtain ⟨cs, -, read⟩ := exists_of_bind_ok parsed
    cases document : Json.readPoints cs with
    | error fault => rw [document] at read; cases read
    | ok v => rw [document] at read; cases read; exact isJson_of_readPoints document

theorem lastFrom_cons {seq hash record : Value} {records : List (Except Fault Value)}
    {last : Value × Value} (ends : lastFrom seq hash (.ok record :: records) = .ok last) :
    ∃ seq hash, require "event_hash" record = .ok hash ∧ lastFrom seq hash records = .ok last := by
  obtain ⟨_, ⟨⟩, ends⟩ := exists_of_bind_ok ends
  obtain ⟨_, -, ends⟩ := exists_of_bind_ok ends
  obtain ⟨seq', -, ends⟩ := exists_of_bind_ok ends
  obtain ⟨hash', own, ends⟩ := exists_of_bind_ok ends
  exact ⟨seq', hash', own, ends⟩

theorem lastFrom_concat {seq hash : Value} {records : List Value} {record : Value}
    {last : Value × Value} (ends : lastFrom seq hash ((records ++ [record]).map .ok) = .ok last) :
    require "event_hash" record = .ok last.2 := by
  induction records generalizing seq hash with
  | nil =>
    obtain ⟨_, _, own, ends⟩ := lastFrom_cons ends
    cases ends
    exact own
  | cons first records ih =>
    obtain ⟨_, _, -, ends⟩ := lastFrom_cons ends
    exact ih ends

theorem lastFrom_verified {records : List Value} {inputs : List (List UInt8)} {hash : String}
    (verified : Verified records inputs hash) {seq : Value} {last : Value × Value}
    (ends : lastFrom seq (.str zeroHash) (records.map .ok) = .ok last) : last.2 = .str hash := by
  cases verified with
  | nil => cases ends; rfl
  | @snoc _ _ _ record _ _ linked =>
    have own := lastFrom_concat ends
    cases record with
    | map entries =>
      have found : Value.get? "event_hash" entries = some (.str _) := linked.own
      rw [require, found] at own
      exact (Except.ok.inj own).symm
    | _ => cases own

/-- Two files that verify and end with one hash hold the same records, with the same exceptions. -/
theorem verified_files_agree {E : Type} {log log' : FileLog E} {n n' : Nat} {hash : Value}
    (accepted : log.verify = .ok n) (accepted' : log'.verify = .ok n')
    (ends : log.lastHash = .ok hash) (ends' : log'.lastHash = .ok hash) :
    ∃ records records', rawRecords log.state = records.map .ok ∧
      rawRecords log'.state = records'.map .ok ∧
      (List.Forall₂ SameRecord records records' ∨ Collision (hashed records) (hashed records') ∨
        ∃ a ∈ hashed records ++ hashed records', Sha256.hexDigest a = zeroHash) := by
  obtain ⟨records, raw⟩ := records_of_verifyFrom accepted
  obtain ⟨records', raw'⟩ := records_of_verifyFrom accepted'
  rw [FileLog.verify, raw] at accepted
  rw [FileLog.verify, raw'] at accepted'
  obtain ⟨last, verified⟩ := verified_of_verify accepted
  obtain ⟨last', verified'⟩ := verified_of_verify accepted'
  obtain ⟨pair, read, same⟩ := exists_of_bind_ok ends
  obtain ⟨pair', read', same'⟩ := exists_of_bind_ok ends'
  rw [FileLog.last, raw] at read
  rw [FileLog.last, raw'] at read'
  have lasts : last = last' := by
    have left := lastFrom_verified verified read
    have right := lastFrom_verified verified' read'
    rw [Except.ok.inj same'] at right
    rw [Except.ok.inj same, right] at left
    exact (Value.str.inj left).symm
  refine ⟨records, records', raw, raw', verified.agree verified' lasts ?_ ?_⟩
  · exact fun record mem => isJson_rawRecords (raw ▸ List.mem_map_of_mem mem)
  · exact fun record mem => isJson_rawRecords (raw' ▸ List.mem_map_of_mem mem)

end FileLog

end EventLedger
