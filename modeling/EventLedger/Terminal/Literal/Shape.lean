import EventLedger.Terminal.Literal.Token

/-!
# Literals

A literal is a number, a text, the name of a value, or a tuple, a set or a map of literals. `shape?`
reads the shape of a literal: as much of its value as decides whether it can stand where it stands.
Only numbers have signs, a real number and an imaginary one can be added, and sets and maps cannot
be items of sets or keys of maps.
-/

namespace EventLedger.Terminal.Literal

/-- What kind of value a literal has. -/
inductive Shape where
  /-- A real number without a sign. -/
  | real
  /-- A real number with a sign. -/
  | signed
  /-- An imaginary number without a sign. -/
  | imaginary
  /-- Any other value that never changes. -/
  | fixed
  /-- A set or a map, or a tuple with one in it. -/
  | changeable
  /-- The word `set`, which is no value. -/
  | set
deriving DecidableEq

namespace Shape

/-- Whether this is the shape of a value. -/
def isValue (s : Shape) : Bool :=
  s != set

/-- Whether a value of this shape can be an item of a set or a key of a map. -/
def isFixed (s : Shape) : Bool :=
  s.isValue && s != changeable

/-- The shape of a value with a sign. -/
def withSign? : Shape → Option Shape
  | real => some signed
  | imaginary => some fixed
  | _ => none

/-- The shape of the sum or the difference of two values. -/
def plus? : Shape → Shape → Option Shape
  | real, imaginary | signed, imaginary => some fixed
  | _, _ => none

/-- The shape of a tuple. -/
def tuple? (items : List Shape) : Option Shape :=
  if items.all isFixed then some fixed
  else if items.all isValue then some changeable
  else none

/-- The shape of a set that is not empty. -/
def set? (items : List Shape) : Option Shape :=
  if items.all isFixed then some changeable else none

end Shape

/-- Whether a token is a sign. -/
def isSign (t : Token) : Bool :=
  t == .mark '+' || t == .mark '-'

/-- What follows the texts in front, which have to be of one kind, as they make one text. -/
def skipTexts? (isBytes : Bool) : List Token → Option (List Token)
  | .text isBytes' :: ts => if isBytes' = isBytes then skipTexts? isBytes ts else none
  | ts => some ts

/-- The word `set` with empty parentheses behind it makes a set. -/
def called : Shape × List Token → Shape × List Token
  | (.set, .mark '(' :: .mark ')' :: ts) => (.changeable, ts)
  | result => result

mutual

/-- The shape of a literal or of a sum of two numbers, and what follows it. In all these readers
`fuel` bounds the number of nested calls. -/
def value? : (fuel : Nat) → List Token → Option (Shape × List Token)
  | 0, _ => none
  | fuel + 1, ts => do
    let (left, rest) ← operand? fuel ts
    match rest with
    | t :: rest' =>
      if isSign t then do
        let (right, rest) ← primary? fuel rest'
        return (← left.plus? right, rest)
      else return (left, rest)
    | [] => return (left, rest)

/-- The shape of a literal with or without a sign, and what follows it. -/
def operand? : (fuel : Nat) → List Token → Option (Shape × List Token)
  | 0, _ => none
  | _ + 1, [] => none
  | fuel + 1, t :: ts =>
    if isSign t then do
      let (s, rest) ← primary? fuel ts
      return (← s.withSign?, rest)
    else primary? fuel (t :: ts)

/-- The shape of a literal without a sign, and what follows it. -/
def primary? : (fuel : Nat) → List Token → Option (Shape × List Token)
  | 0, _ => none
  | fuel + 1, ts => do
    match ts with
    | .real :: ts => return (.real, ts)
    | .imaginary :: ts => return (.imaginary, ts)
    | .constant :: ts => return (.fixed, ts)
    | .text isBytes :: ts => return (.fixed, ← skipTexts? isBytes ts)
    | .set :: ts => return called (.set, ts)
    | .mark '(' :: .mark ')' :: ts => return (.fixed, ts)
    | .mark '(' :: ts => return called (← values? fuel (.mark ')') ts)
    | .mark '\x7b' :: .mark '\x7d' :: ts => return (.changeable, ts)
    | .mark '\x7b' :: ts =>
      let (first, rest) ← value? fuel ts
      match rest with
      | .mark ':' :: rest => return (.changeable, ← entries? fuel first rest)
      | .mark ',' :: rest =>
        let (others, rest) ← items? fuel (.mark '\x7d') rest
        return (← Shape.set? (first :: others), rest)
      | .mark '\x7d' :: rest => return (← Shape.set? [first], rest)
      | _ => none
    | _ => none

/-- The shape of one literal, or of several with commas between them, which make a tuple, up to the
token `close`; and what follows that. -/
def values? : (fuel : Nat) → (close : Token) → List Token → Option (Shape × List Token)
  | 0, _, _ => none
  | fuel + 1, close, ts => do
    let (first, rest) ← value? fuel ts
    match rest with
    | t :: rest =>
      if t = close then return (first, rest)
      else if t = .mark ',' then do
        let (others, rest) ← items? fuel close rest
        return (← Shape.tuple? (first :: others), rest)
      else none
    | [] => none

/-- The shapes of items with commas between them and possibly behind them, up to the token `close`;
and what follows that. -/
def items? : (fuel : Nat) → (close : Token) → List Token → Option (List Shape × List Token)
  | 0, _, _ => none
  | fuel + 1, close, ts => do
    match ts with
    | t :: rest =>
      if t = close then return ([], rest)
      let (first, rest) ← value? fuel ts
      match rest with
      | t :: rest =>
        if t = close then return ([first], rest)
        else if t = .mark ',' then do
          let (others, rest) ← items? fuel close rest
          return (first :: others, rest)
        else none
      | [] => none
    | [] => none

/-- What follows the entries of a map, behind the first key and its colon. -/
def entries? : (fuel : Nat) → (key : Shape) → List Token → Option (List Token)
  | 0, _, _ => none
  | fuel + 1, key, ts => do
    let (v, rest) ← value? fuel ts
    if !key.isFixed || !v.isValue then none
    match rest with
    | .mark '\x7d' :: rest => return rest
    | .mark ',' :: .mark '\x7d' :: rest => return rest
    | .mark ',' :: rest =>
      let (key, rest) ← value? fuel rest
      match rest with
      | .mark ':' :: rest => entries? fuel key rest
      | _ => none
    | _ => none

end

/-- The shape of the literal that tokens make. -/
def shapeOf? (ts : List Token) : Option Shape :=
  match values? (4 * ts.length + 4) .finish ts with
  | some (s, []) => if s.isValue then some s else none
  | _ => none

/-- The shape of the literal that a text is, `none` if the text is no literal. -/
def shape? (cs : List Char) : Option Shape :=
  (tokens? cs).bind shapeOf?

end EventLedger.Terminal.Literal
