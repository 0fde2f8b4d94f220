import EventLedger.Fault
import EventLedger.Sorting

/-!
# Keys of maps

The keys of one map are told apart by value: the numbers 1 and 1.0 and the truth value `true` are
one key. To write a map its keys are put in order, which only works among numbers, among texts,
among bytes and among tuples of these.

`ofPairs` builds a map, and `sortByKey` puts entries in the order of their keys.
-/

namespace EventLedger.Value

mutual

/-- Whether a value can be a key. -/
def isKey : Value → Bool
  | .list _ | .map _ => false
  | .decimal d => !d.isSignaling
  | .tuple items => areKeys items
  | _ => true

/-- Whether all values can be keys. -/
def areKeys : List Value → Bool
  | [] => true
  | v :: vs => isKey v && areKeys vs

end

/-- A number among the values. -/
inductive Number where
  | whole (i : Int)
  | double (d : Double)
  | decimal (d : Decimal)

/-- The number that a value is; truth values count as zero and one. -/
def number? : Value → Option Number
  | .bool b => some (.whole (if b then 1 else 0))
  | .int i => some (.whole i)
  | .double d => some (.double d)
  | .decimal d => some (.decimal d)
  | _ => none

/-- The order of two numbers, compared exactly, when neither is a NaN. -/
def Number.order? : Number → Number → Option Ordering
  | .whole i, .whole j => some (compare i j)
  | .whole i, .double d => (d.orderInt? i).map Ordering.swap
  | .double d, .whole i => d.orderInt? i
  | .double d, .double e => d.order? e
  | .decimal d, .decimal e => d.order? e
  | .decimal d, .whole i => d.order? (.ofInt i)
  | .whole i, .decimal d => (Decimal.ofInt i).order? d
  | .decimal d, .double e => d.order? e.toDecimal
  | .double d, .decimal e => d.toDecimal.order? e

mutual

/-- Whether two values are the same key. -/
def sameKey : Value → Value → Bool
  | .str s, w => w.isStr s
  | .broken a, w => match w with | .broken b => a == b | _ => false
  | .null, w => match w with | .null => true | _ => false
  | .bytes a, w => match w with | .bytes b => a == b | _ => false
  | .tuple a, w => match w with | .tuple b => sameKeys a b | _ => false
  | v, w =>
    match number? v, number? w with
    | some m, some n => m.order? n == some .eq
    | _, _ => false

/-- Whether two tuples of keys are the same. -/
def sameKeys : List Value → List Value → Bool
  | [], [] => true
  | v :: vs, w :: ws => sameKey v w && sameKeys vs ws
  | _, _ => false

end

/-- Puts an entry into a map: a new key goes to the end, a known key keeps its place. -/
def insert (k v : Value) : List (Value × Value) → List (Value × Value)
  | [] => [(k, v)]
  | (k', v') :: entries =>
    if sameKey k' k then (k', v) :: entries else (k', v') :: insert k v entries

/-- The map with the given entries, the later ones over the earlier ones. -/
def ofPairs (pairs : List (Value × Value)) : Except Fault Value :=
  if pairs.all fun p => isKey p.1 then
    .ok (.map (pairs.foldl (fun entries p => insert p.1 p.2 entries) []))
  else .error .mistyped

/-- Whether one number comes before another. A NaN among doubles comes nowhere; one among decimals
cannot be asked. -/
def Number.before (m n : Number) : Except Fault Bool :=
  match m.order? n with
  | some o => .ok (o == .lt)
  | none =>
    match m, n with
    | .decimal _, _ | _, .decimal _ => .error (.arithmetic .invalidOperation)
    | _, _ => .ok false

/-- Whether one text of code points comes before another. -/
def pointsBefore : List Text.Point → List Text.Point → Bool
  | _, [] => false
  | [], _ :: _ => true
  | p :: ps, q :: qs => p.toNat < q.toNat || (p == q && pointsBefore ps qs)

/-- The code points of a text, unless the value is none. -/
def textPoints? : Value → Option (List Text.Point)
  | .str s => some s
  | .broken b => some b.points
  | _ => none

/-- Whether one sequence of bytes comes before another. -/
def bytesBefore : List UInt8 → List UInt8 → Bool
  | _, [] => false
  | [], _ :: _ => true
  | a :: as, b :: bs => a < b || (a == b && bytesBefore as bs)

mutual

/-- Whether one key comes before another. -/
def before : Value → Value → Except Fault Bool
  | .str s, w =>
    match w with
    | .str t => .ok (decide (s < t))
    | .broken b => .ok (pointsBefore s b.points)
    | _ => .error .mistyped
  | .broken a, w =>
    match textPoints? w with
    | some ps => .ok (pointsBefore a.points ps)
    | none => .error .mistyped
  | .bytes a, w => match w with | .bytes b => .ok (bytesBefore a b) | _ => .error .mistyped
  | .tuple a, w => match w with | .tuple b => tupleBefore a b | _ => .error .mistyped
  | v, w =>
    match number? v, number? w with
    | some m, some n => m.before n
    | _, _ => .error .mistyped

/-- Whether one tuple comes before another: the first difference decides. -/
def tupleBefore : List Value → List Value → Except Fault Bool
  | _, [] => .ok false
  | [], _ :: _ => .ok true
  | v :: vs, w :: ws => if sameKey v w then tupleBefore vs ws else before v w

end

/-- Whether a key is a text. -/
def isText : Value → Bool
  | .str _ | .broken _ => true
  | _ => false

/-- Whether the first of two keys does not come behind the second one, when both are texts. -/
def textOrder : Value → Value → Bool
  | .str s, .str t => !decide (t < s)
  | v, w =>
    match textPoints? v, textPoints? w with
    | some ps, some qs => !pointsBefore qs ps
    | _, _ => true

/-- Entries in the order of their keys. Texts can all be compared and never contradict themselves,
so for them any way of sorting will do. -/
def sortByKey {α : Type} (entries : List (Value × α)) : Except Fault (List (Value × α)) :=
  if entries.all (·.1.isText) then .ok (entries.mergeSort fun a b => textOrder a.1 b.1)
  else Sorting.sortWith (fun a b => before a.1 b.1) entries

end EventLedger.Value
