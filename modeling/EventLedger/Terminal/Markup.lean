import EventLedger.Terminal.Handler
import EventLedger.Terminal.Look
import EventLedger.Terminal.Pictograph
import EventLedger.Text.Enclosed

/-!
# Marked-up text

Text for the terminal may hold tags in brackets, such as `[bold]` and `[/bold]`, which say how the
text between them looks. On a terminal without colors a tag has no effect, so `plain?` only takes
the tags out; but a closing tag still has to close something, by any name of the same look, and a
handler has to be readable. A tag begins with a small letter or one of `#`, `/` and `@`; other
brackets are text. A backslash in front of a tag makes text of it. In the text between tags,
pictographs stand in place of their names.
-/

namespace EventLedger.Terminal

open Text (strip lower upTo? length_upTo?)

/-- A part of marked-up text. -/
inductive Piece where
  | text (cs : List Char)
  /-- A tag, without its brackets. -/
  | tag (cs : List Char)
deriving DecidableEq

/-- What is wrong with marked-up text. -/
inductive MarkupFault where
  /-- A closing tag whose opening tag is missing. -/
  | unmatched (name : List Char)
  | nothingToClose
  /-- A tag whose handler cannot be read. -/
  | badHandler (handler : List Char)
  /-- A color that leaves out how much red, green or blue it has. -/
  | missingPart
deriving DecidableEq

namespace Markup

/-- Whether a tag can begin with a character. -/
def isTagStart (c : Char) : Bool :=
  ('a' ≤ c && c ≤ 'z') || c == '#' || c == '/' || c == '@'

/-- The tag behind an opening bracket, and what follows the tag. -/
def tag? : List Char → Option (List Char × List Char)
  | [] => none
  | c :: cs =>
    if isTagStart c then (upTo? ']' (· == '[') cs).map fun p => (c :: p.1, p.2) else none

theorem length_tag? {cs tag rest : List Char} (h : tag? cs = some (tag, rest)) :
    rest.length < cs.length := by
  cases cs with
  | nil => simp [tag?] at h
  | cons c cs =>
    simp only [tag?] at h
    split at h
    · obtain ⟨p, hp, he⟩ := Option.map_eq_some_iff.1 h
      cases he
      exact Nat.lt_succ_of_lt (length_upTo? hp)
    · simp at h

/-- Text whose escaped brackets are brackets. -/
def unescape : List Char → List Char
  | '\\' :: '[' :: cs => '[' :: unescape cs
  | c :: cs => c :: unescape cs
  | [] => []

/-- The characters that a terminal would not show but obey: bell, backspace and the like. -/
def isCommand (c : Char) : Bool :=
  c == '\x07' || c == '\x08' || c == '\x0b' || c == '\x0c' || c == '\r'

/-- Backslashes in a row. -/
def slashes (n : Nat) : List Char :=
  List.replicate n '\\'

/-- The pieces of a text. `read` is the text before it that belongs to the same piece, last
character first, and `n` counts the backslashes behind that. -/
def pieces (read : List Char) (n : Nat) : List Char → List Piece
  | [] => [.text (unescape (read.reverse ++ slashes n))]
  | c :: cs =>
    if c == '\\' then pieces read (n + 1) cs
    else if c == '[' then
      match h : tag? cs with
      | some (tag, rest) =>
        have := length_tag? h
        .text (unescape read.reverse) :: .text (slashes (n / 2)) ::
          (if n % 2 = 1 then .text ('[' :: tag ++ [']']) else .tag tag) :: pieces [] 0 rest
      | none => pieces (c :: (slashes n ++ read)) 0 cs
    else pieces (c :: (slashes n ++ read)) 0 cs
termination_by cs => cs.length

/-! ## Nesting -/

/-- An opening tag. -/
structure Tag where
  name : List Char
  /-- What stands behind an equals sign. -/
  parameters : Option (List Char) := none
deriving DecidableEq

/-- The one name of a look: its text, or the name in small letters if it is none. -/
def nameOf (cs : List Char) : Except MarkupFault (List Char) :=
  match Look.read cs with
  | .ok look => .ok look.text
  | .error .unknown => .ok (lower (strip cs))
  | .error .missingPart => .error .missingPart

/-- The opening tag that stands in brackets. -/
def Tag.read (cs : List Char) : Except MarkupFault Tag := do
  let name ← nameOf (cs.takeWhile (· != '='))
  return ⟨name, ((cs.dropWhile (· != '=')).tail?)⟩

/-- The whole description of the look of a tag. -/
def Tag.description (tag : Tag) : List Char :=
  match tag.parameters with
  | some parameters => tag.name ++ ' ' :: parameters
  | none => tag.name

/-- Closes a tag. -/
def Tag.close (tag : Tag) : Except MarkupFault Unit :=
  match tag.name, tag.parameters with
  | '@' :: _, some parameters =>
    if parameters.isEmpty || Handler.isReadable parameters then .ok ()
    else .error (.badHandler parameters)
  | _, _ => .ok ()

/-- Closes the innermost tag with a name. The tags that stay open are left. -/
def closeNamed (name : List Char) : List Tag → Except MarkupFault (List Tag)
  | [] => .error (.unmatched name)
  | tag :: opened =>
    if tag.name = name then do
      tag.close
      return opened
    else return tag :: (← closeNamed name opened)

/-- Closes the innermost tag. -/
def closeLast : List Tag → Except MarkupFault (List Tag)
  | [] => .error .nothingToClose
  | tag :: opened => do
    tag.close
    return opened

/-- The text of pieces, while the tags `opened` are open, the innermost first. -/
def assemble (opened : List Tag) : List Piece → Except MarkupFault (List Char)
  | [] => .ok []
  | .text cs :: ps => do
    return (Pictograph.replace cs).filter (!isCommand ·) ++ (← assemble opened ps)
  | .tag cs :: ps =>
    match cs.takeWhile (· != '=') with
    | '/' :: closing => do
      let opened ← if (strip closing).isEmpty then closeLast opened
        else do closeNamed (← nameOf closing) opened
      assemble opened ps
    | _ => do assemble ((← Tag.read cs) :: opened) ps

/-- The opening tags among pieces. -/
def openingTags : List Piece → Except MarkupFault (List Tag)
  | [] => .ok []
  | .text _ :: ps | .tag ('/' :: _) :: ps => openingTags ps
  | .tag cs :: ps => do return (← Tag.read cs) :: (← openingTags ps)

end Markup

/-- A marked-up text that is read. -/
structure Marked where
  /-- The text without its tags. -/
  text : List Char
  /-- The tags that say how it looks. -/
  tags : List Markup.Tag

/-- The text as a terminal without colors shows it. Tags whose words say nothing are no
hindrance. -/
def Marked.show (marked : Marked) : Except MarkupFault (List Char) := do
  marked.tags.forM fun tag => (Markup.nameOf tag.description).map fun _ => ()
  return marked.text

namespace Markup

/-- Reads a marked-up text. -/
def read (markup : List Char) : Except MarkupFault Marked := do
  let ps := pieces [] 0 markup
  return ⟨← assemble [] ps, ← openingTags ps⟩

/-- A text without its tags. -/
def plain? (markup : List Char) : Except MarkupFault (List Char) := do
  (← read markup).show

end Markup

end EventLedger.Terminal
