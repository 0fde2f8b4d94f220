import EventLedger.Terminal.Literal.Shape
import EventLedger.Text.Blank
import EventLedger.Text.WordCharacter

/-!
# Handlers of tags

A tag whose name begins with `@` says what handles an event on its text, as in `[@click=open(1)]`:
behind the equals sign stands the name of a handler, the arguments in parentheses, or both. The
arguments have to be a literal. What is neither has to be a literal as a whole.
-/

namespace EventLedger.Terminal.Handler

open Text

/-- Whether a character can be part of the name of a handler. -/
def isNamePart (c : Char) : Bool :=
  isWordCharacter c || c == '.'

/-- The arguments in a text: what stands in parentheses behind a name, all of it on one line, empty
parentheses if there is only a name, and the whole text if it is neither. -/
def arguments (cs : List Char) : List Char :=
  match cs.dropWhile isNamePart with
  | [] => ['(', ')']
  | rest =>
    if rest.head? == some '(' && rest.getLast? == some ')' && !rest.contains '\n' then rest else cs

/-- Whether a handler can be read. -/
def isReadable (cs : List Char) : Bool :=
  (Literal.shape? (arguments (strip cs))).isSome

end EventLedger.Terminal.Handler
