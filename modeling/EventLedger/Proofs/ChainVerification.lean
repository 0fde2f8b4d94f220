import EventLedger.Chain
import EventLedger.Proofs.JsonValues

/-!
# What verification accepts

A record is accepted behind a hash if it holds that hash, an event, and the hash of both: that is
all that is asked (`verifyRecord_of_parts`), and what is accepted has all of that
(`verifyRecord_linked`).
-/

namespace EventLedger.Chain

open Value

/-- What is hashed for a record behind a hash. -/
def hashInput (previous : String) (record : Value) : Except Fault (List UInt8) := do
  return Text.bytesOf previous ++ (← (← require "event" record).canonicalBytes)

/-- A record continues a chain: it holds the hash before it, an event, and the hash of both. -/
structure Linked (previous : String) (record : Value) (input : List UInt8) : Prop where
  before : record.field? "prev_hash" = some (.str previous)
  own : record.field? "event_hash" = some (.str (Sha256.hexDigest input))
  event : ∃ event cs, record.field? "event" = some event ∧ event.canonicalChars = .ok cs ∧
    input = Text.encode (previous.toList ++ cs)

/-- The hash of a value with a canonical text. -/
theorem hashRecord_of_chars {event : Value} {cs : List Char} (text : event.canonicalChars = .ok cs)
    (previous : String) : hashRecord previous event =
      .ok (Sha256.hexDigest (Text.bytesOf previous ++ Text.encode cs)) := by
  rw [hashRecord, canonicalBytes, text]
  rfl

theorem get?_of_isStr {entries : List (Value × Value)} {key s : String}
    (h : ((get? key entries).getD .null).isStr s = true) : get? key entries = some (.str s) := by
  cases found : get? key entries with
  | none => rw [found] at h; cases h
  | some v =>
    rw [found, Option.getD_some] at h
    unfold isStr at h
    split at h
    next => rw [beq_iff_eq.1 h]
    next => cases h

theorem get?_of_require {entries : List (Value × Value)} {key : String} {v : Value}
    (h : require key (.map entries) = .ok v) : get? key entries = some v := by
  rw [require] at h
  cases found : get? key entries with
  | none => rw [found] at h; cases h
  | some w => rw [found] at h; cases h; rfl

/-- A record that is accepted continues the chain. -/
theorem verifyRecord_linked {previous hash : String} {record : Value}
    (accepted : verifyRecord previous record = .ok hash) :
    ∃ input, hashInput previous record = .ok input ∧ Linked previous record input ∧
      hash = Sha256.hexDigest input := by
  obtain ⟨event, parts, accepted⟩ := exists_of_bind_ok accepted
  obtain ⟨seq, -, accepted⟩ := exists_of_bind_ok accepted
  cases record with
  | map entries =>
    obtain ⟨_, ⟨⟩, accepted⟩ := exists_of_bind_ok accepted
    split at accepted
    next => cases accepted
    next before =>
    obtain ⟨_, ⟨⟩, accepted⟩ := exists_of_bind_ok accepted
    obtain ⟨event, found, accepted⟩ := exists_of_bind_ok accepted
    obtain ⟨hash', hashes, accepted⟩ := exists_of_bind_ok accepted
    obtain ⟨bytes, text, ⟨⟩⟩ := exists_of_bind_ok hashes
    obtain ⟨cs, chars, ⟨⟩⟩ := exists_of_bind_ok text
    split at accepted
    next => cases accepted
    next own =>
    cases accepted
    rw [Bool.not_eq_true', Bool.not_eq_false] at before own
    refine ⟨_, ?_, ⟨get?_of_isStr before, get?_of_isStr own, event, cs, get?_of_require found,
      chars, (Text.encode_append ..).symm⟩, rfl⟩
    rw [hashInput, found]
    show (event.canonicalBytes >>= fun bytes => .ok (Text.bytesOf previous ++ bytes)) = _
    rw [text]
    rfl
  | _ => cases parts

/-- A record that holds the hash before it, an event, and the hash of both is accepted. -/
theorem verifyRecord_of_parts {previous hash : String} {entries data : List (Value × Value)}
    (before : get? "prev_hash" entries = some (.str previous))
    (own : get? "event_hash" entries = some (.str hash))
    (event : get? "event" entries = some (.map data))
    (hashes : hashRecord previous (.map data) = .ok hash) :
    verifyRecord previous (.map entries) = .ok hash := by
  have found : require "event" (.map entries) = .ok (.map data) := by rw [require, event]
  have same : ∀ s : String, (Value.str s).isStr s = true := fun s => beq_self_eq_true s
  simp only [verifyRecord, lookup, event, before, own, found, hashes, Option.getD_some, same,
    bind, Except.bind]
  rfl

/-- What is accepted was read to its end. -/
theorem records_of_verifyFrom {previous : String} {raw : List (Except Fault Value)} {n : Nat}
    (accepted : verifyFrom previous raw = .ok n) :
    ∃ records : List Value, raw = records.map .ok := by
  induction raw generalizing previous n with
  | nil => exact ⟨[], rfl⟩
  | cons record raw ih =>
    obtain ⟨record, read, accepted⟩ := exists_of_bind_ok accepted
    obtain ⟨hash, -, accepted⟩ := exists_of_bind_ok accepted
    obtain ⟨n, others, -⟩ := exists_of_bind_ok accepted
    obtain ⟨records, rfl⟩ := ih others
    exact ⟨record :: records, by rw [read]; rfl⟩

end EventLedger.Chain
