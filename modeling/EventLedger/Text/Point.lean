import EventLedger.Text.Numeral

/-!
# Code points

A text that comes from elsewhere may hold one half of a surrogate pair by itself. That half is a
code point but no character, and a text with it has no bytes. A `Point` is a character or such a
half; `chars` takes characters as code points, and `encodable` gives the characters back or says
where the first halves stand.
-/

namespace EventLedger.Text

/-- One half of a surrogate pair, by its place among them all. -/
structure Half where
  place : Fin 0x800
deriving DecidableEq

/-- The number of a half. -/
def Half.toNat (h : Half) : Nat :=
  0xD800 + h.place

/-- A code point. -/
inductive Point where
  | char (c : Char)
  | half (h : Half)
deriving DecidableEq

namespace Point

/-- The number of a code point. -/
def toNat : Point → Nat
  | char c => c.toNat
  | half h => h.toNat

@[simp] theorem toNat_char (c : Char) : (char c).toNat = c.toNat := rfl

/-- The code point with a number, which has to be below 0x110000. -/
def ofNat (n : Nat) : Point :=
  if h : 0xD800 ≤ n ∧ n < 0xE000 then .half ⟨⟨n - 0xD800, by omega⟩⟩ else .char (Char.ofNat n)

/-- The character that a code point is, unless it is a half. -/
def char? : Point → Option Char
  | char c => some c
  | half _ => none

/-- Whether a code point is a half. -/
def isHalf : Point → Bool
  | char _ => false
  | half _ => true

end Point

/-- Characters as code points. -/
def chars (cs : List Char) : List Point :=
  cs.map .char

@[simp] theorem chars_nil : chars [] = [] := rfl

@[simp] theorem chars_cons (c : Char) (cs : List Char) :
    chars (c :: cs) = .char c :: chars cs := rfl

@[simp] theorem chars_append (cs ds : List Char) : chars (cs ++ ds) = chars cs ++ chars ds :=
  List.map_append

@[simp] theorem length_chars (cs : List Char) : (chars cs).length = cs.length :=
  List.length_map _

/-- A text as code points. -/
instance : Coe String (List Point) := ⟨fun s => chars s.toList⟩

/-- Whether a half is among the code points. -/
def hasHalf (ps : List Point) : Bool :=
  ps.any Point.isHalf

@[simp] theorem hasHalf_append (ps qs : List Point) :
    hasHalf (ps ++ qs) = (hasHalf ps || hasHalf qs) :=
  List.any_append

@[simp] theorem hasHalf_chars (cs : List Char) : hasHalf (chars cs) = false := by
  simp [hasHalf, chars, Point.isHalf]

/-- The characters of a text without halves. -/
def chars? : List Point → Option (List Char)
  | [] => some []
  | .char c :: ps => (chars? ps).map (c :: ·)
  | .half _ :: _ => none

@[simp] theorem chars?_chars (cs : List Char) : chars? (chars cs) = some cs := by
  induction cs with
  | nil => rfl
  | cons c cs ih => rw [chars_cons, chars?, ih]; rfl

theorem chars?_eq_some_iff {ps : List Point} {cs : List Char} :
    chars? ps = some cs ↔ ps = chars cs := by
  refine ⟨fun whole => ?_, fun eq => eq ▸ chars?_chars cs⟩
  induction ps generalizing cs with
  | nil => cases whole; rfl
  | cons p ps ih =>
    cases p with
    | half h => cases whole
    | char c =>
      obtain ⟨ds, tail, rfl⟩ := Option.map_eq_some_iff.1 whole
      rw [ih tail, chars_cons]

theorem chars?_eq_none_iff {ps : List Point} : chars? ps = none ↔ hasHalf ps = true := by
  induction ps with
  | nil => exact ⟨nofun, nofun⟩
  | cons p ps ih =>
    cases p with
    | half h => exact ⟨fun _ => rfl, fun _ => rfl⟩
    | char c => rw [chars?, Option.map_eq_none_iff, ih]; rfl

theorem chars_inj {cs ds : List Char} (eq : chars cs = chars ds) : cs = ds := by
  have whole := chars?_chars cs
  rw [eq, chars?_chars] at whole
  exact (Option.some.inj whole).symm

/-- A text that holds a half. -/
structure Broken where
  points : List Point
  broken : chars? points = none
deriving DecidableEq

/-- The place of the first halves of a text that has no bytes. -/
structure EncodingError where
  start : Nat
  /-- The halves that follow one another there. -/
  halves : List Half
deriving DecidableEq

/-- The halves in front. -/
def leadingHalves : List Point → List Half
  | .half h :: ps => h :: leadingHalves ps
  | _ => []

/-- The first halves of a text. -/
def EncodingError.of (ps : List Point) : EncodingError where
  start := (ps.takeWhile (!·.isHalf)).length
  halves := leadingHalves (ps.dropWhile (!·.isHalf))

/-- The escape of a half, where it has to be shown. -/
def Half.escape (h : Half) : List Char :=
  '\\' :: 'u' :: hexChars 4 h.toNat

/-- The message for a text that has no bytes. -/
def EncodingError.message (e : EncodingError) : String :=
  "'utf-8' codec can't encode " ++
    (match e.halves with
    | [half] =>
      "character '" ++ String.ofList half.escape ++ "' in position " ++ natText e.start
    | halves =>
      "characters in position " ++ natText e.start ++ "-" ++
        natText (e.start + halves.length - 1)) ++
    ": surrogates not allowed"

/-- The characters of a text that has to have bytes. -/
def encodable (ps : List Point) : Except EncodingError (List Char) :=
  match chars? ps with
  | some cs => .ok cs
  | none => .error (.of ps)

@[simp] theorem encodable_chars (cs : List Char) : encodable (chars cs) = .ok cs := by
  rw [encodable, chars?_chars]

/-- A text as it can be shown everywhere: halves are written as their escapes. -/
def shown (ps : List Point) : String :=
  String.ofList (ps.flatMap fun p => match p with
    | .char c => [c]
    | .half h => h.escape)

end EventLedger.Text
