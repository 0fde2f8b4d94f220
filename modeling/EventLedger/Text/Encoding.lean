import EventLedger.Text.Point

/-!
# Text as bytes

Texts are stored as UTF-8 (`encode`). A stored document may also be read from UTF-16 or UTF-32 in
either byte order: `detect` finds the encoding from a byte order mark, or from the zero bytes among
the first four, and `decode` reads the code points or says where the bytes go wrong. A half that is
written like a character is read as a half.

`Utf8.step` reads one character of UTF-8. `decodeLossy` uses it to show bytes that are no text, with
a replacement character for each malformed part.
-/

namespace EventLedger.Text

/-- The UTF-8 bytes of a list of characters. -/
def encode (cs : List Char) : List UInt8 :=
  cs.flatMap String.utf8EncodeChar

@[simp] theorem encode_nil : encode [] = [] := rfl

@[simp] theorem encode_cons (c : Char) (cs : List Char) :
    encode (c :: cs) = String.utf8EncodeChar c ++ encode cs := rfl

@[simp] theorem encode_append (cs ds : List Char) : encode (cs ++ ds) = encode cs ++ encode ds := by
  simp [encode]

/-- The UTF-8 bytes of a text. -/
def bytesOf (s : String) : List UInt8 :=
  encode s.toList

/-- The encodings of a stored document. -/
inductive Encoding where
  | utf8
  | utf16 (bigEndian : Bool)
  | utf32 (bigEndian : Bool)
deriving DecidableEq

/-- The name of an encoding. -/
def Encoding.name : Encoding → String
  | .utf8 => "utf-8"
  | .utf16 bigEndian => if bigEndian then "utf-16-be" else "utf-16-le"
  | .utf32 bigEndian => if bigEndian then "utf-32-be" else "utf-32-le"

/-- What is wrong with bytes that are no text. -/
inductive Malformation where
  | invalidStart
  | invalidContinuation
  | unexpectedEnd
  | truncated
  | notACodePoint
deriving DecidableEq

/-- The words for a malformation. -/
def Malformation.words : Malformation → String
  | .invalidStart => "invalid start byte"
  | .invalidContinuation => "invalid continuation byte"
  | .unexpectedEnd => "unexpected end of data"
  | .truncated => "truncated data"
  | .notACodePoint => "code point not in range(0x110000)"

/-- The place and kind of the first malformed bytes. -/
structure DecodingError where
  encoding : Encoding
  /-- The position of the first malformed byte. -/
  start : Nat
  /-- How many bytes are malformed. -/
  width : Nat
  /-- The first malformed byte. -/
  byte : UInt8
  malformation : Malformation
deriving DecidableEq

/-- The message for malformed bytes. -/
def DecodingError.message (e : DecodingError) : String :=
  "'" ++ e.encoding.name ++ "' codec can't decode " ++
    (if e.width = 1 then
      "byte 0x" ++ String.ofList (hexChars 2 e.byte.toNat) ++ " in position " ++ natText e.start
    else
      "bytes in position " ++ natText e.start ++ "-" ++ natText (e.start + e.width - 1)) ++
    ": " ++ e.malformation.words

namespace Utf8

/-- What the next bytes are: a character and the bytes after it, or malformed bytes. -/
inductive Step where
  | char (c : Char) (rest : List UInt8)
  | malformed (malformation : Malformation) (width : Nat)

/-- Reads `needed` more continuation bytes of a character; the first has to lie between `low` and
`high`. -/
def continuation (value low high : Nat) : (needed seen : Nat) → List UInt8 → Step
  | 0, _, rest => .char (Char.ofNat value) rest
  | _ + 1, seen, [] => .malformed .unexpectedEnd seen
  | needed + 1, seen, b :: rest =>
    if low ≤ b.toNat ∧ b.toNat ≤ high then
      continuation (value * 64 + b.toNat % 64) 0x80 0xBF needed (seen + 1) rest
    else .malformed .invalidContinuation seen

/-- Reads the character that starts with the byte `b`. -/
def step (b : UInt8) (rest : List UInt8) : Step :=
  let n := b.toNat
  if n < 0x80 then .char (Char.ofNat n) rest
  else if n < 0xC2 then .malformed .invalidStart 1
  else if n < 0xE0 then continuation (n - 0xC0) 0x80 0xBF 1 1 rest
  else if n = 0xE0 then continuation 0 0xA0 0xBF 2 1 rest
  else if n = 0xED then continuation 0xD 0x80 0x9F 2 1 rest
  else if n < 0xF0 then continuation (n - 0xE0) 0x80 0xBF 2 1 rest
  else if n = 0xF0 then continuation 0 0x90 0xBF 3 1 rest
  else if n < 0xF4 then continuation (n - 0xF0) 0x80 0xBF 3 1 rest
  else if n = 0xF4 then continuation 4 0x80 0x8F 3 1 rest
  else .malformed .invalidStart 1

theorem length_continuation {value low high needed seen : Nat} {bs rest : List UInt8} {c : Char}
    (h : continuation value low high needed seen bs = .char c rest) : rest.length ≤ bs.length := by
  induction needed generalizing value low high seen bs with
  | zero => simp only [continuation, Step.char.injEq] at h; simp [h.2]
  | succ needed ih =>
    cases bs with
    | nil => simp [continuation] at h
    | cons b bs =>
      rw [continuation] at h
      split at h
      · exact Nat.le_succ_of_le (ih h)
      · simp at h

/-- A character takes at least one byte. -/
theorem length_step {b : UInt8} {bs rest : List UInt8} {c : Char} (h : step b bs = .char c rest) :
    rest.length ≤ bs.length := by
  unfold step at h
  extract_lets n at h
  split at h
  · simp only [Step.char.injEq] at h; simp [h.2]
  · repeat' split at h
    all_goals first | exact length_continuation h | simp at h

/-- A half that is written like a character, and the bytes after it. -/
def half? (b : UInt8) : List UInt8 → Option (Point × List UInt8)
  | b₁ :: b₂ :: rest =>
    if b = 0xED ∧ 0xA0 ≤ b₁ ∧ b₁ ≤ 0xBF ∧ 0x80 ≤ b₂ ∧ b₂ ≤ 0xBF then
      some (.ofNat (0xD000 + b₁.toNat % 64 * 64 + b₂.toNat % 64), rest)
    else none
  | _ => none

theorem length_half? {b : UInt8} {bs rest : List UInt8} {p : Point}
    (h : half? b bs = some (p, rest)) : rest.length < bs.length := by
  match bs, h with
  | b₁ :: b₂ :: bs, h =>
    simp only [half?] at h
    split at h
    · simp only [Option.some.injEq, Prod.mk.injEq] at h
      simp only [h.2, List.length_cons]
      omega
    · simp at h

/-- Reads a text whose last byte lies before the position `stop`. -/
def decode (stop : Nat) : List UInt8 → Except DecodingError (List Point)
  | [] => .ok []
  | b :: bs =>
    match h : step b bs with
    | .char c rest =>
      have := length_step h
      return .char c :: (← decode stop rest)
    | .malformed malformation width =>
      match h : half? b bs with
      | some (half, rest) =>
        have := length_half? h
        return half :: (← decode stop rest)
      | none => .error ⟨.utf8, stop - (bs.length + 1), width, b, malformation⟩
termination_by bs => bs.length
decreasing_by
  · rw [List.length_cons]
    omega
  · rw [List.length_cons]
    omega

/-- The character that stands for bytes that are no character. -/
def replacement : Char := Char.ofNat 0xFFFD

/-- The characters of the bytes, with a replacement character for each malformed part. -/
def decodeLossy : List UInt8 → List Char
  | [] => []
  | b :: bs =>
    match h : step b bs with
    | .char c rest =>
      have := length_step h
      c :: decodeLossy rest
    | .malformed _ width => replacement :: decodeLossy (bs.drop (width - 1))
termination_by bs => bs.length
decreasing_by
  · rw [List.length_cons]
    omega
  · rw [List.length_drop, List.length_cons]
    omega

end Utf8

/-- A number of two bytes. -/
def word16 (bigEndian : Bool) (a b : UInt8) : Nat :=
  if bigEndian then a.toNat * 256 + b.toNat else b.toNat * 256 + a.toNat

/-- The code units of UTF-16, with the position after each. -/
def units16 (bigEndian : Bool) (position : Nat) : List UInt8 → Except DecodingError (List Nat)
  | [] => .ok []
  | [b] => .error ⟨.utf16 bigEndian, position, 1, b, .truncated⟩
  | a :: b :: rest => return word16 bigEndian a b :: (← units16 bigEndian (position + 2) rest)

/-- The code points of UTF-16 units: two halves that belong together are one character. -/
def joinUnits : List Nat → List Point
  | [] => []
  | [u] => [.ofNat u]
  | u :: v :: rest =>
    if 0xD800 ≤ u ∧ u ≤ 0xDBFF ∧ 0xDC00 ≤ v ∧ v ≤ 0xDFFF then
      .ofNat (0x10000 + (u - 0xD800) * 0x400 + (v - 0xDC00)) :: joinUnits rest
    else .ofNat u :: joinUnits (v :: rest)

/-- Reads UTF-32. -/
def decode32 (bigEndian : Bool) (position : Nat) : List UInt8 → Except DecodingError (List Point)
  | [] => .ok []
  | a :: b :: c :: d :: rest =>
    let n :=
      if bigEndian then word16 true a b * 65536 + word16 true c d
      else word16 false c d * 65536 + word16 false a b
    if 0x110000 ≤ n then .error ⟨.utf32 bigEndian, position, 4, a, .notACodePoint⟩
    else return .ofNat n :: (← decode32 bigEndian (position + 4) rest)
  | a :: rest => .error ⟨.utf32 bigEndian, position, rest.length + 1, a, .truncated⟩

/-! ## Stored documents -/

/-- The byte order marks, each with its encoding and the position of what follows. -/
def marks : List (Encoding × Nat × List UInt8) :=
  [(.utf32 true, 4, [0x00, 0x00, 0xFE, 0xFF]), (.utf32 false, 4, [0xFF, 0xFE, 0x00, 0x00]),
    (.utf16 true, 2, [0xFE, 0xFF]), (.utf16 false, 2, [0xFF, 0xFE]), (.utf8, 0, [0xEF, 0xBB, 0xBF])]

/-- The encoding of bytes without a mark, from the zeros among the first of them. -/
def detectUnmarked : List UInt8 → Encoding
  | a :: b :: c :: d :: _ =>
    if a = 0 then (if b = 0 then .utf32 true else .utf16 true)
    else if b = 0 then (if c = 0 && d = 0 then .utf32 false else .utf16 false)
    else .utf8
  | [a, b] => if a = 0 then .utf16 true else if b = 0 then .utf16 false else .utf8
  | _ => .utf8

/-- The encoding of a stored document, the position of its first byte of text, and those bytes. -/
def detect (bs : List UInt8) : Encoding × Nat × List UInt8 :=
  match marks.find? fun mark => mark.2.2.isPrefixOf bs with
  | some (encoding, position, mark) => (encoding, position, bs.drop mark.length)
  | none => (detectUnmarked bs, 0, bs)

/-- Reads a stored document. -/
def decode (bs : List UInt8) : Except DecodingError (List Point) :=
  match detect bs with
  | (.utf8, position, rest) => Utf8.decode (position + rest.length) rest
  | (.utf16 bigEndian, position, rest) => return joinUnits (← units16 bigEndian position rest)
  | (.utf32 bigEndian, position, rest) => decode32 bigEndian position rest

/-- Why bytes are no text, or a text has no bytes. -/
inductive CodingError where
  | decoding (error : DecodingError)
  | encoding (error : EncodingError)
deriving DecidableEq

/-- The message of a coding error. -/
def CodingError.message : CodingError → String
  | .decoding error => error.message
  | .encoding error => error.message

end EventLedger.Text
