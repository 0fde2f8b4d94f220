import EventLedger.Terminal.CellWidth
import EventLedger.Text.Blank
import EventLedger.Text.Separated

/-!
# Lines of a given width

`wrap` lays a text out on lines that take at most a given number of cells. A line ends where the
text has a newline, or where the next word does not fit. A word that fits on no line is either
folded over several lines, or put on a line of its own and cut, with an ellipsis in place of its
end.

`flatten_words` says that cutting a text into words loses nothing.
-/

namespace EventLedger.Terminal

open Text (isBlank separated)

/-- What becomes of a word that fits on no line. -/
inductive Overflow where
  | fold
  | ellipsis
deriving DecidableEq

/-- Where a line stands in its width. -/
inductive Alignment where
  /-- At the left, without blanks behind it. -/
  | ragged
  /-- At the left, with blanks behind it. -/
  | left
  | center
  | right
deriving DecidableEq

/-- The parts of a text between newlines. -/
def paragraphs (cs : List Char) : List (List Char) :=
  separated '\n' cs

/-- Blanks. -/
def spaces (n : Nat) : List Char :=
  List.replicate n ' '

/-- A text behind `position` cells with blanks in place of its tabs, which lead to the next multiple
of eight cells. -/
def expandTabs (position : Nat) : List Char → List Char
  | [] => []
  | c :: cs =>
    if c == '\t' then
      let size := 8 - position % 8
      spaces size ++ expandTabs (position + size) cs
    else c :: expandTabs (position + cellWidth c) cs

/-- Cuts a text between a blank and a character that is none. -/
def cutBehindBlanks : List Char → List (List Char)
  | [] => []
  | c :: cs =>
    match cutBehindBlanks cs with
    | [] => [[c]]
    | part :: parts =>
      if isBlank c && !part.head?.any isBlank then [c] :: part :: parts
      else (c :: part) :: parts

/-- The words of a text, each with the blanks behind it, and the first one also with those before
it. -/
def words (cs : List Char) : List (List Char) :=
  match cutBehindBlanks cs with
  | first :: second :: parts =>
    if first.all isBlank then (first ++ second) :: parts else first :: second :: parts
  | parts => parts

theorem flatten_cutBehindBlanks (cs : List Char) : (cutBehindBlanks cs).flatten = cs := by
  induction cs with
  | nil => rfl
  | cons c cs ih =>
    rw [cutBehindBlanks]
    split
    · rename_i h
      rw [← ih, h]
      rfl
    · rename_i h
      split <;> rw [← ih, h] <;> rfl

/-- The words of a text are the text. -/
theorem flatten_words (cs : List Char) : (words cs).flatten = cs := by
  have h := flatten_cutBehindBlanks cs
  rw [words]
  split
  · rename_i e
    rw [e] at h
    split <;> simpa using h
  · exact h

/-- A text without the blanks at its end. -/
def trimEnd (cs : List Char) : List Char :=
  (cs.reverse.dropWhile isBlank).reverse

/-- Fills lines character by character, behind a line that takes `used` cells: the lines that are
full, and the last one. -/
def chop (width : Nat) (line : List Char) (used : Nat) :
    List Char → List (List Char) × List Char
  | [] => ([], line)
  | c :: cs =>
    if used + cellWidth c > width then
      let rest := chop width [c] (cellWidth c) cs
      (line :: rest.1, rest.2)
    else chop width (line ++ [c]) (used + cellWidth c) cs

/-- Fills lines word by word, behind a line that is begun. -/
def fill (width : Nat) (overflow : Overflow) (line : List Char) :
    List (List Char) → List (List Char)
  | [] => [line]
  | word :: words =>
    let size := cells (trimEnd word)
    if cells line + size ≤ width then fill width overflow (line ++ word) words
    else
      let ended := if line.isEmpty then [] else [line]
      if size > width && overflow == .fold then
        let parts := chop width [] 0 word
        ended ++ parts.1 ++ fill width overflow parts.2 words
      else ended ++ fill width overflow word words

/-- A line without blanks at its end, as far as it has more than `size` characters. -/
def dropExcessBlanks (size : Nat) (line : List Char) : List Char :=
  let blanks := line.length - (trimEnd line).length
  line.take (line.length - min blanks (line.length - size))

/-- A line that takes at least `width` cells. -/
def padEnd (width : Nat) (line : List Char) : List Char :=
  line ++ spaces (width - cells line)

/-- Cuts a line to `width` cells at a place that is found by halving: it ends behind a position
from `start` up to `stop`. Which one of several places is taken, when characters without a cell
stand there, depends on the halving. A character of two cells at the cut gives way to a blank. -/
def cutBetween (width : Nat) (line : List Char) (start stop : Nat) : List Char :=
  let position := (start + stop) / 2
  let kept := line.take (position + 1)
  if cells kept = width + 1 ∧ kept.getLast?.any (cellWidth · == 2) then kept.dropLast ++ [' ']
  else if cells kept = width then kept
  else if start + 1 < stop then
    if width < cells kept then cutBetween width line start position
    else cutBetween width line position stop
  else kept
termination_by stop - start
decreasing_by all_goals omega

/-- A line that is too long, cut to exactly `width` cells. -/
def fit (width : Nat) (line : List Char) : List Char :=
  if width = 0 then [] else cutBetween width line 0 line.length

/-- A line cut to a width, if it is longer. -/
def truncate (width : Nat) (overflow : Overflow) (line : List Char) : List Char :=
  if cells line ≤ width then line
  else
    match overflow with
    | .fold => fit width line
    | .ellipsis => fit (width - 1) line ++ ['…']

/-- A line in its place. -/
def place (width : Nat) (overflow : Overflow) (alignment : Alignment) (line : List Char) :
    List Char :=
  match alignment with
  | .ragged => truncate width overflow line
  | .left => padEnd width (truncate width overflow line)
  | .center =>
    let line := truncate width overflow (trimEnd line)
    padEnd width (spaces ((width - cells line) / 2) ++ line)
  | .right =>
    let line := truncate width overflow (trimEnd line)
    spaces (width - cells line) ++ line

/-- The lines of a text. -/
def wrap (width : Nat) (overflow : Overflow) (alignment : Alignment) (text : List Char) :
    List (List Char) :=
  (paragraphs text).flatMap fun paragraph =>
    (fill width overflow [] (words (expandTabs 0 paragraph))).map fun line =>
      place width overflow alignment (dropExcessBlanks width line)

end EventLedger.Terminal
