import EventLedger.Text.Integer

/-!
# Parts of literals

A literal is written with numbers, texts in quotes, a few names and marks. `tokens?` cuts a text
into these parts, and has no answer if some of it is none of them. Blanks and comments between the
parts are skipped. A literal takes one line, but lines may end inside of parentheses, and empty
lines do not count.
-/

namespace EventLedger.Terminal.Literal

open Text

/-- A part of a literal. -/
inductive Token where
  /-- A whole number, or one with a fraction or an exponent. -/
  | real
  | imaginary
  /-- A text in quotes, of characters or of bytes. -/
  | text (isBytes : Bool)
  /-- The name of a value, or three points. -/
  | constant
  /-- The word `set`, with which the empty set is made. -/
  | set
  | mark (c : Char)
  /-- The end of the literal. -/
  | finish
deriving DecidableEq

/-- The digits in front, and what follows them, behind a digit. Single underscores may stand between
digits. -/
def digitsBehind? (isDigit : Char → Bool) : List Char → Option (List Char × List Char)
  | [] => some ([], [])
  | ['_'] => none
  | '_' :: d :: cs =>
    if isDigit d then (digitsBehind? isDigit cs).map fun p => (d :: p.1, p.2) else none
  | c :: cs =>
    if isDigit c then (digitsBehind? isDigit cs).map fun p => (c :: p.1, p.2)
    else some ([], c :: cs)

/-- The digits in front, of which there has to be one. -/
def digits? (isDigit : Char → Bool) : List Char → Option (List Char × List Char)
  | [] => none
  | c :: cs =>
    if isDigit c then (digitsBehind? isDigit cs).map fun p => (c :: p.1, p.2) else none

/-- The digits behind the letter of a base. An underscore may stand between the letter and them. -/
def basedDigits? (isDigit : Char → Bool) : List Char → Option (List Char × List Char)
  | '_' :: cs => digits? isDigit cs
  | cs => digits? isDigit cs

/-- What follows an exponent, if there is one in front. -/
def skipExponent? : List Char → Option (List Char)
  | [] => some []
  | c :: cs =>
    if c == 'e' || c == 'E' then
      let cs := match cs with
        | '+' :: cs => cs
        | '-' :: cs => cs
        | cs => cs
      (digits? Char.isDigit cs).map (·.2)
    else some (c :: cs)

/-- What follows a point and the digits behind it. -/
def skipFraction? : List Char → Option (List Char)
  | [] => some []
  | c :: cs => if c.isDigit then (digits? Char.isDigit (c :: cs)).map (·.2) else some (c :: cs)

/-- A number whose whole part, exponent and fraction are read. -/
def endNumber : List Char → Token × List Char
  | 'j' :: cs => (.imaginary, cs)
  | 'J' :: cs => (.imaginary, cs)
  | cs => (.real, cs)

/-- Whether a whole number may have these digits: no zero in front, but for zero itself, and not too
many. -/
def areWhole (ds : List Char) : Bool :=
  ds.all (· == '0') || (ds.head? != some '0' && ds.length ≤ maxDigits)

/-- A number that begins with digits in base ten. -/
def decimalNumber? (cs : List Char) : Option (Token × List Char) := do
  let (ds, rest) ← digits? Char.isDigit cs
  match rest with
  | '.' :: rest => return endNumber (← skipExponent? (← skipFraction? rest))
  | c :: _ =>
    if c == 'e' || c == 'E' || c == 'j' || c == 'J' then return endNumber (← skipExponent? rest)
    else if areWhole ds then some (.real, rest)
    else none
  | [] => if areWhole ds then some (.real, []) else none

/-- The digits of the base with a letter. -/
def baseDigit? (letter : Char) : Option (Char → Bool) :=
  match letter.toLower with
  | 'x' => some fun c => (hexDigit? c).isSome
  | 'o' => some fun c => '0' ≤ c && c ≤ '7'
  | 'b' => some fun c => c == '0' || c == '1'
  | _ => none

/-- A number in front of a text that begins with a digit. -/
def number? (cs : List Char) : Option (Token × List Char) :=
  match cs with
  | '0' :: letter :: rest =>
    match baseDigit? letter with
    | some isDigit => (basedDigits? isDigit rest).map fun p => (.real, p.2)
    | none => decimalNumber? cs
  | cs => decimalNumber? cs

/-- The text in front of a quote, and what follows the quote. A backslash keeps the character behind
it from ending the text. -/
def quoted? (quote : Char) : List Char → Option (List Char × List Char)
  | [] => none
  | ['\\'] => none
  | '\\' :: c :: cs => (quoted? quote cs).map fun p => ('\\' :: c :: p.1, p.2)
  | c :: cs =>
    if c == quote then some ([], cs)
    else if c == '\n' then none
    else (quoted? quote cs).map fun p => (c :: p.1, p.2)

/-- The text in front of three quotes, and what follows them. -/
def longQuoted? (quote : Char) : List Char → Option (List Char × List Char)
  | [] => none
  | ['\\'] => none
  | '\\' :: c :: cs => (longQuoted? quote cs).map fun p => ('\\' :: c :: p.1, p.2)
  | c :: cs =>
    if [quote, quote, quote].isPrefixOf (c :: cs) then some ([], cs.drop 2)
    else (longQuoted? quote cs).map fun p => (c :: p.1, p.2)

/-- The text behind an opening quote, and what follows it. -/
def body? (quote : Char) (cs : List Char) : Option (List Char × List Char) :=
  match cs with
  | c :: d :: rest =>
    if c == quote && d == quote then longQuoted? quote rest else quoted? quote cs
  | cs => quoted? quote cs

/-- The number that the first `count` characters denote in base sixteen, if all are digits. -/
def hexNumber? (count : Nat) (cs : List Char) : Option Nat :=
  let ds := (cs.take count).filterMap hexDigit?
  if ds.length = count then some (ds.foldl (fun n d => 16 * n + d) 0) else none

/-- Whether a character can be part of the name of a character. -/
def isNameCharacter (c : Char) : Bool :=
  c.isAlphanum || c == ' ' || c == '-'

/-- Whether a name of a character in braces stands in front. -/
def hasName : List Char → Bool
  | '\x7b' :: cs =>
    let name := cs.takeWhile (· != '\x7d')
    !name.isEmpty && name.all isNameCharacter && name.length < cs.length
  | _ => false

/-- Whether what stands behind a backslash, the letter `c`, is an escape. -/
def isEscape (isBytes : Bool) (c : Char) (cs : List Char) : Bool :=
  match c with
  | 'x' => (hexNumber? 2 cs).isSome
  | 'u' => isBytes || (hexNumber? 4 cs).isSome
  | 'U' => isBytes || (hexNumber? 8 cs).any (· ≤ 0x10FFFF)
  | 'N' => isBytes || hasName cs
  | _ => true

/-- Whether every backslash begins an escape. -/
def areEscapes (isBytes : Bool) : List Char → Bool
  | '\\' :: c :: cs => isEscape isBytes c cs && areEscapes isBytes cs
  | _ :: cs => areEscapes isBytes cs
  | [] => true

/-- The letters in front of a quote, in small letters, with what they say: whether the text is one
of bytes, and whether backslashes are plain characters in it. -/
def prefixes : List (String × Bool × Bool) :=
  [("", false, false), ("u", false, false), ("r", false, true), ("b", true, false),
    ("br", true, true), ("rb", true, true)]

/-- A text behind its opening quote, with the letters in front of the quote. -/
def text? (letters : List Char) (quote : Char) (cs : List Char) : Option (Token × List Char) := do
  let (isBytes, isRaw) ← prefixes.lookup (String.ofList (letters.map Char.toLower))
  let (body, rest) ← body? quote cs
  if isBytes && body.any (·.toNat ≥ 0x80) then none
  else if isRaw || areEscapes isBytes body then some (.text isBytes, rest)
  else none

/-- Whether a character belongs to a word. -/
def isWordPart (c : Char) : Bool :=
  c.isAlphanum || c == '_' || c.toNat ≥ 0x80

/-- Whether a character is a quote. -/
def isQuote (c : Char) : Bool :=
  c == '"' || c == '\''

/-- A word in front, which has to be a known one or to belong to a quote. -/
def word? (cs : List Char) : Option (Token × List Char) :=
  let letters := cs.takeWhile isWordPart
  match cs.dropWhile isWordPart with
  | quote :: rest =>
    if isQuote quote then text? letters quote rest else (known? letters).map (·, quote :: rest)
  | [] => (known? letters).map (·, [])
where
  /-- The token of a known word. -/
  known? (letters : List Char) : Option Token :=
    [("True", Token.constant), ("False", .constant), ("None", .constant), ("set", .set)].lookup
      (String.ofList letters)

/-- The marks. -/
def marks : List Char :=
  ['(', ')', '\x7b', '\x7d', ',', ':', '+', '-']

/-- The token in front of a text that begins with no blank. -/
def token? (cs : List Char) : Option (Token × List Char) :=
  match cs with
  | '.' :: '.' :: '.' :: rest => some (.constant, rest)
  | '.' :: c :: rest =>
    if c.isDigit then return endNumber (← skipExponent? (← skipFraction? (c :: rest))) else none
  | c :: rest =>
    if c.isDigit then number? cs
    else if marks.contains c then some (.mark c, rest)
    else word? cs
  | [] => none

/-! ## Lines -/

/-- Whether a character is a blank inside of a line. -/
def isLineBlank (c : Char) : Bool :=
  c == ' ' || c == '\t' || c == '\x0c'

/-- What follows the empty lines and comments in front, and whether blanks stand right before it. A
backslash joins a line to the next one. `indented` says that blanks were read in this line, `joined`
that there were some in a line that is joined to it, and `inComment` that a comment was begun. -/
def skipLines? (indented joined inComment : Bool) : List Char → Option (Bool × List Char)
  | [] => some (indented || joined, [])
  | '\\' :: '\n' :: c :: cs =>
    if inComment then skipLines? false false false (c :: cs)
    else skipLines? indented (joined || indented) false (c :: cs)
  | c :: cs =>
    if c == '\n' then skipLines? false false false cs
    else if inComment then skipLines? indented joined true cs
    else if c == '#' then skipLines? indented joined true cs
    else if c == '\x0c' then skipLines? false joined false cs
    else if c == ' ' || c == '\t' then skipLines? true joined false cs
    else if c == '\\' then none
    else some (indented || joined, c :: cs)

/-- How deep parentheses may be nested. -/
def maxDepth : Nat := 200

/-- The depth of parentheses behind a token. -/
def depthBehind? (depth : Nat) : Token → Option Nat
  | .mark c =>
    if c == '(' || c == '\x7b' then if depth < maxDepth then some (depth + 1) else none
    else if c == ')' || c == '\x7d' then if depth = 0 then none else some (depth - 1)
    else some depth
  | _ => some depth

/-- The tokens of a text inside of `depth` parentheses. `fuel` bounds the number of steps, each of
which takes a character. -/
def tokensWithin? : (fuel depth : Nat) → List Char → Option (List Token)
  | 0, _, _ => none
  | _ + 1, _, [] => some [.finish]
  | fuel + 1, depth, c :: cs =>
    if isLineBlank c then tokensWithin? fuel depth cs
    else if c == '#' then tokensWithin? fuel depth (cs.dropWhile (· != '\n'))
    else if c == '\n' then
      if depth = 0 then
        match skipLines? false false false cs with
        | some (_, []) => some [.finish]
        | _ => none
      else tokensWithin? fuel depth cs
    else if c == '\\' then
      match cs with
      | '\n' :: d :: cs => tokensWithin? fuel depth (d :: cs)
      | _ => none
    else do
      let (token, rest) ← token? (c :: cs)
      let depth ← depthBehind? depth token
      return token :: (← tokensWithin? fuel depth rest)

/-- A text whose lines all end with a newline only. -/
def joinReturns : List Char → List Char
  | '\r' :: '\n' :: cs => '\n' :: joinReturns cs
  | '\r' :: cs => '\n' :: joinReturns cs
  | c :: cs => c :: joinReturns cs
  | [] => []

/-- The tokens of a text. The line of the literal must not begin with a blank, and no character may
be zero. -/
def tokens? (cs : List Char) : Option (List Token) :=
  if cs.contains '\x00' then none
  else
    match skipLines? false false false (joinReturns cs) with
    | some (false, rest) => tokensWithin? (rest.length + 1) 0 rest
    | _ => none

end EventLedger.Terminal.Literal
