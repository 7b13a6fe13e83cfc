import ValidatorReader.Terminal.Markup
import ValidatorReader.Terminal.Wrap

/-!
# Tables

A table has a title over a box with a heavy head. Each column is as wide as its widest text, with a
blank on either side. Where the box would be too wide for the terminal, its widest columns give way
until it fits, and a text that is too wide for its column ends in an ellipsis. The title is centred
over the whole width, in several lines if need be. All texts are taken as markup.
-/

namespace ValidatorReader.Terminal

inductive Alignment
  | left
  | right
deriving DecidableEq, Repr

/-- A column: its header and where its text stands. -/
structure Column where
  header : String
  alignment : Alignment := .left
deriving DecidableEq, Repr

/-- A table: a row has a cell for each column, a single word. -/
structure Table where
  title : String
  columns : List Column
  rows : List (List String)

namespace Table

/-! ## Widths -/

/-- The cells of the widest text of a column, the header included. -/
def columnWidth (t : Table) (index : Nat) (column : Column) : Nat :=
  (column.header :: t.rows.map fun row => row.getD index "").foldl
    (fun width text => max width (cells text.toList)) 0

/-- The widths of the columns as their texts need them. -/
def naturalWidths (t : Table) : List Nat :=
  t.columns.mapIdx fun index column => t.columnWidth index column

/-- The width of a box over columns of the given widths. -/
def boxWidth (widths : List Nat) : Nat :=
  widths.foldr (fun width total => width + 3 + total) 1

def totalWidth (widths : List Nat) : Nat :=
  widths.foldr (fun width total => width + total) 0

/-- A quotient rounded to the nearest number, and to the even one of two that are as near. -/
def roundedQuotient (n d : Nat) : Nat :=
  let quotient := n / d
  let twice := 2 * (n % d)
  if twice < d ∨ (twice = d ∧ quotient % 2 = 0) then quotient else quotient + 1

/-- Takes an amount from those widths that are the widest, of which `count` are left: each of them
gives its share of what is still to be taken, but at most `limit`. -/
def takeFromWidest (widest limit : Nat) : Nat → Nat → List Nat → List Nat
  | _, _, [] => []
  | amount, count, width :: rest =>
    if width = widest then
      let share := min limit (roundedQuotient amount count)
      (width - share) :: takeFromWidest widest limit (amount - share) (count - 1) rest
    else width :: takeFromWidest widest limit amount count rest

/-- Widths whose widest have given way, down to the next widest and so on, until all fit into a room.
Each of the `steps` takes something away. -/
def narrow (room : Nat) : Nat → List Nat → List Nat
  | 0, widths => widths
  | steps + 1, widths =>
    let excess := totalWidth widths - room
    let widest := widths.foldr max 0
    let next := (widths.filter (· ≠ widest)).foldr max 0
    if excess = 0 ∨ widest = next then widths
    else narrow room steps
      (takeFromWidest widest (min excess (widest - next)) excess (widths.count widest) widths)

/-- The widths of the columns in a terminal. -/
def widths (terminal : Nat) (t : Table) : List Nat :=
  let room := terminal - (t.columns.length + 1)
  let padded := t.naturalWidths.map fun width => min (width + 2) room
  (narrow room (totalWidth padded) padded).map (· - 2)

/-! ## Lines -/

/-- A text that fits into a number of cells: one that does not ends in an ellipsis. -/
def fitText (width : Nat) (text : List Char) : List Char :=
  if cells text ≤ width then text else takeCells (width - 1) text ++ ['…']

/-- A text filled up with blanks to a number of cells. -/
def pad (alignment : Alignment) (width : Nat) (text : List Char) : List Char :=
  let blanks := List.replicate (width - cells text) ' '
  match alignment with
  | .left => text ++ blanks
  | .right => blanks ++ text

/-- A text in the middle of blanks; an odd blank goes to the right. -/
def centre (width : Nat) (text : List Char) : List Char :=
  let before := (width - cells text) / 2
  pad .left width (List.replicate before ' ' ++ text)

/-- The characters of a rule: its ends, its crossings and what is between them. -/
structure Rule where
  left : Char
  crossing : Char
  right : Char
  line : Char

def topRule : Rule := ⟨'┏', '┳', '┓', '━'⟩

def headRule : Rule := ⟨'┡', '╇', '┩', '━'⟩

def bottomRule : Rule := ⟨'└', '┴', '┘', '─'⟩

def ruleLine (widths : List Nat) (r : Rule) : List Char :=
  r.left :: [r.crossing].intercalate (widths.map fun w => List.replicate (w + 2) r.line) ++ [r.right]

def rowLine (bar : Char) (columns : List (Column × Nat)) (row : List String) : List Char :=
  bar :: (columns.zip row).flatMap fun ((column, width), text) =>
    ' ' :: pad column.alignment width (fitText width text.toList) ++ [' ', bar]

/-- The lines of a title over a box. -/
def titleLines (width : Nat) (title : String) : List (List Char) :=
  (wrap width title.toList).map fun line =>
    centre width (line.reverse.dropWhile Text.isBlank).reverse

/-- The lines of a table whose texts are plain. -/
def lines (terminal : Nat) (t : Table) : List (List Char) :=
  let widths := t.widths terminal
  let columns := t.columns.zip widths
  titleLines (boxWidth widths) t.title ++
    [ruleLine widths topRule, rowLine '┃' columns (t.columns.map Column.header),
      ruleLine widths headRule] ++
    t.rows.map (rowLine '│' columns) ++ [ruleLine widths bottomRule]

/-! ## Markup -/

def shownCell (markup : String) : Except MarkupError String :=
  (plainText markup).map String.ofList

def shownColumn (column : Column) : Except MarkupError Column :=
  (shownCell column.header).map fun header => { column with header }

/-- The table with the texts that its markup shows. -/
def shown (t : Table) : Except MarkupError Table := do
  let columns ← t.columns.mapM shownColumn
  let rows ← t.rows.mapM fun row => row.mapM shownCell
  let title ← shownCell t.title
  return { title, columns, rows }

/-- A table as the terminal shows it, each line with a line feed. -/
def render (terminal : Nat) (t : Table) : Except MarkupError String := do
  let plain ← t.shown
  return String.ofList <| (plain.lines terminal).flatMap fun line => line ++ ['\n']

end Table

end ValidatorReader.Terminal
