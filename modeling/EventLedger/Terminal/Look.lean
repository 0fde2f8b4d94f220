import EventLedger.Terminal.Color
import EventLedger.Text.Blank

/-!
# Looks

The look of text on a terminal is said in words: features such as `bold` and `not blink`, a color, a
color behind `on` for the background, and a target behind `link`. `read` reads the words, of which
later ones replace earlier ones; `text` writes a look in its one order, so that two descriptions of
the same look have the same text.
-/

namespace EventLedger.Terminal

open Text

/-- What text can be besides colored. -/
inductive Feature where
  | bold
  | dim
  | italic
  | underline
  | blink
  | blink2
  | reverse
  | conceal
  | strike
  | underline2
  | frame
  | encircle
  | overline
deriving DecidableEq

namespace Feature

/-- The features in the order in which a look names them. -/
def all : List Feature :=
  [bold, dim, italic, underline, blink, blink2, reverse, conceal, strike, underline2, frame,
    encircle, overline]

/-- The name of a feature. -/
def name : Feature → String
  | bold => "bold"
  | dim => "dim"
  | italic => "italic"
  | underline => "underline"
  | blink => "blink"
  | blink2 => "blink2"
  | reverse => "reverse"
  | conceal => "conceal"
  | strike => "strike"
  | underline2 => "underline2"
  | frame => "frame"
  | encircle => "encircle"
  | overline => "overline"

/-- The short name of a feature, if it has one. -/
def shortName? : Feature → Option String
  | bold => some "b"
  | dim => some "d"
  | italic => some "i"
  | underline => some "u"
  | reverse => some "r"
  | conceal => some "c"
  | strike => some "s"
  | underline2 => some "uu"
  | overline => some "o"
  | blink | blink2 | frame | encircle => none

/-- The feature with a name or short name. -/
def ofName? (word : List Char) : Option Feature :=
  all.find? fun f => f.name.toList == word || f.shortName?.any (·.toList == word)

end Feature

/-- How text looks. What is absent stays as it is around the text. -/
structure Look where
  /-- The features that are turned on or off, the last turn first. -/
  features : List (Feature × Bool) := []
  color : Option (List Char) := none
  background : Option (List Char) := none
  link : Option (List Char) := none
deriving DecidableEq

namespace Look

/-- Turns a feature on or off. -/
def turn (look : Look) (f : Feature) (isOn : Bool) : Look :=
  { look with features := (f, isOn) :: look.features }

/-- The look that words describe, in addition to a look. Only colors and the names of features may
have capital letters, but no name behind `not`. -/
def readWords (look : Look) : List (List Char) → Except LookFault Look
  | [] => .ok look
  | word :: words =>
    let name := String.ofList (lower word)
    match name, words with
    | "on", color :: words => do
      readWords { look with background := some (← Color.read color) } words
    | "not", feature :: words =>
      match Feature.ofName? feature with
      | some f => readWords (look.turn f false) words
      | none => .error .unknown
    | "link", target :: words => readWords { look with link := some target } words
    | _, words =>
      match Feature.ofName? (lower word) with
      | some f => readWords (look.turn f true) words
      | none => do readWords { look with color := some (← Color.read word) } words

/-- The look that a text describes. -/
def read (cs : List Char) : Except LookFault Look :=
  if strip cs == "none".toList then .ok {} else readWords {} (fields cs)

/-- The words for a feature. -/
def featureWords (look : Look) (f : Feature) : List (List Char) :=
  match look.features.lookup f with
  | some true => [f.name.toList]
  | some false => ["not".toList, f.name.toList]
  | none => []

/-- The words for a look in their order. -/
def words (look : Look) : List (List Char) :=
  Feature.all.flatMap look.featureWords ++ look.color.toList ++
    (look.background.map fun c => ["on".toList, c]).getD [] ++
    (look.link.map fun target => ["link".toList, target]).getD []

/-- The text for a look. -/
def text (look : Look) : List Char :=
  match look.words with
  | [] => "none".toList
  | words => (words.intersperse [' ']).flatten

end Look

end EventLedger.Terminal
