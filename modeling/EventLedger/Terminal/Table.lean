import EventLedger.Terminal.Markup
import EventLedger.Terminal.Wrap

/-!
# Tables and lines on a terminal

`printed` are the lines of a marked-up text on a terminal of a given width. A `Table` shows
marked-up texts in columns, with a blank on each side of a cell: as a plain `grid`, or as a `sheet`
with a frame, a title and headings. A column is as wide as its widest cell. If the columns are too
wide for the terminal together, the widest ones give way until they fit, and their cells are
wrapped.
-/

namespace EventLedger.Terminal

/-- The lines of a marked-up text. -/
def printed (width : Nat) (markup : String) : Except MarkupFault (List String) := do
  let text ← Markup.plain? markup.toList
  return (wrap width .fold .ragged text).map String.ofList

/-- A column of a table. -/
structure Column where
  heading : String
  alignment : Alignment := .left

/-- Whether a line of text ends at a character. -/
def endsLine (c : Char) : Bool :=
  let n := c.toNat
  (0x0A ≤ n && n ≤ 0x0D) || (0x1C ≤ n && n ≤ 0x1E) || n == 0x85 || n == 0x2028 || n == 0x2029

/-- How many cells the longest line of a text takes, behind a line of `used` cells. -/
def longestLine (used : Nat) : List Char → Nat
  | [] => used
  | c :: cs =>
    if endsLine c then max used (longestLine 0 cs) else longestLine (used + cellWidth c) cs

/-- The blanks at both sides of a cell. -/
def padding : Nat := 2

/-- The width of a column with the given cells. -/
def columnWidth (texts : List (List Char)) : Nat :=
  (texts.map (longestLine 0)).foldl max 0 + padding

/-- Half a quotient up or down to the nearest whole number, a tie to the even one. -/
def divRound (n d : Nat) : Nat :=
  let q := n / d
  if n % d * 2 < d || (n % d * 2 == d && q % 2 == 0) then q else q + 1

/-- Takes `excess` cells off the columns that are `widest`, evenly but at most `limit` from each.
`count` is the number of those columns. -/
def shrinkWidest (widest limit : Nat) (excess count : Nat) : List Nat → List Nat
  | [] => []
  | width :: widths =>
    if width == widest then
      let share := min limit (divRound excess count)
      (width - share) :: shrinkWidest widest limit (excess - share) (count - 1) widths
    else width :: shrinkWidest widest limit excess count widths

/-- The width of several columns together. -/
def total (widths : List Nat) : Nat :=
  widths.foldl (· + ·) 0

/-- Makes the widest columns as narrow as the next ones, or as narrow as `available` cells need. -/
def narrowWidest (available : Nat) (widths : List Nat) : List Nat :=
  let excess := total widths - available
  let widest := widths.foldl max 0
  let second := (widths.filter (· != widest)).foldl max 0
  shrinkWidest widest (min excess (widest - second)) excess (widths.count widest) widths

/-- Makes columns narrower, the widest first, until they fit into `available` cells. -/
def collapse (available : Nat) (widths : List Nat) : List Nat :=
  if total widths ≤ available then widths
  else if _h : total (narrowWidest available widths) < total widths then
    collapse available (narrowWidest available widths)
  else widths
termination_by total widths

/-- The lines of a cell in a column; a column that has room for blanks only shows none. -/
def cellLines (width : Nat) (alignment : Alignment) (text : List Char) : List (List Char) :=
  if width ≤ padding then []
  else
    (wrap (width - padding) .ellipsis alignment text).map fun line =>
      ' ' :: padEnd (width - padding) line ++ [' ']

/-- The parts of a row line by line, at least one; a cell with fewer lines is filled with blanks. -/
def rowLines (cells : List (Nat × List (List Char))) : List (List (List Char)) :=
  let height := (cells.map fun c => c.2.length).foldl max 1
  (List.range height).map fun i => cells.map fun c => c.2.getD i (spaces c.1)

/-- The lines of a row of texts. -/
def row (widths : List Nat) (alignments : List Alignment) (texts : List (List Char)) :
    List (List (List Char)) :=
  rowLines ((widths.zip (alignments.zip texts)).map fun c => (c.1, cellLines c.1 c.2.1 c.2.2))

/-- Parts with a separator between them, and an end on each side. -/
def framed (left separator right : Char) (parts : List (List Char)) : List Char :=
  left :: (parts.intersperse [separator]).flatten ++ [right]

/-- A line of a frame. -/
def rule (left line separator right : Char) (widths : List Nat) : List Char :=
  framed left separator right (widths.map fun w => List.replicate w line)

/-- The marked-up cells of a table with `count` columns. A fault in a column comes before the faults
in the columns behind it. -/
def readCells (count : Nat) (rows : List (List String)) :
    Except MarkupFault (List (List Marked)) := do
  let cells := rows.map fun row => row.map fun cell => Markup.read cell.toList
  (List.range count).forM fun i =>
    (cells.filterMap (·[i]?)).forM fun cell => cell.map fun _ => ()
  cells.mapM fun row => row.mapM id

/-- The texts of cells. -/
def showCells (cells : List (List Marked)) : Except MarkupFault (List (List (List Char))) :=
  cells.mapM fun row => row.mapM Marked.show

/-- The widths of columns in `available` cells, given rows of texts for `count` columns. -/
def columnWidths (available count : Nat) (rows : List (List (List Char))) : List Nat :=
  collapse available <| (List.range count).map fun i =>
    min available (columnWidth (rows.filterMap fun r => r[i]?))

/-- The lines of a table without a frame and without headings. -/
def grid (width : Nat) (rows : List (List String)) : Except MarkupFault (List String) := do
  let count := (rows.map List.length).foldl max 0
  let rows ← showCells (← readCells count rows)
  let widths := columnWidths width count rows
  let alignments := List.replicate count Alignment.left
  return (rows.flatMap (row widths alignments)).map fun parts => String.ofList parts.flatten

/-- The lines of a table with a title, headings and a frame. -/
def sheet (width : Nat) (title : String) (columns : List Column) (rows : List (List String)) :
    Except MarkupFault (List String) := do
  let cells ← readCells columns.length (columns.map Column.heading :: rows)
  let title ← Markup.plain? title.toList
  let texts ← showCells cells
  let headings := texts.headD []
  let rows := texts.tail
  let edges := columns.length + 1
  let widths := columnWidths (width - edges) columns.length (headings :: rows)
  let alignments := columns.map Column.alignment
  let lines :=
    wrap (total widths + edges) .fold .center title ++
    [rule '┏' '━' '┳' '┓' widths] ++
    (row widths alignments headings).map (framed '┃' '┃' '┃') ++
    [rule '┡' '━' '╇' '┩' widths] ++
    (rows.flatMap (row widths alignments)).map (framed '│' '│' '│') ++
    [rule '└' '─' '┴' '┘' widths]
  return lines.map String.ofList

end EventLedger.Terminal
