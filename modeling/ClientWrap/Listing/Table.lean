import ClientWrap.Text.Columns
import ClientWrap.Text.Lines

/-!
# Tables

Tables drawn with lines around their cells. A column is as wide as its widest cell with a blank on
either side. A cell may have several lines of text.

Main statements:

* `Alignment.margins_sum`: the margins of an aligned text take all columns that it leaves free.
-/

namespace ClientWrap.Listing

open ClientWrap.Text

/-- Where a text stands in its column. -/
inductive Alignment where
  | left
  | center
  deriving DecidableEq, Repr

/-- A cell of a table. -/
structure Cell where
  text : String
  alignment : Alignment
  deriving DecidableEq, Repr

/-- A table. -/
structure Table where
  header : List Cell
  rows : List (List Cell)
  deriving DecidableEq, Repr

/-- A number of blanks. -/
def blanks (n : Nat) : String :=
  String.ofList (List.replicate n ' ')

namespace Cell

/-- A cell with its text on the left. -/
def left (text : String) : Cell := ⟨text, .left⟩

/-- A cell with its text in the middle. -/
def center (text : String) : Cell := ⟨text, .center⟩

/-- The lines of a cell. -/
def lines (c : Cell) : List String := Text.lines c.text

/-- The columns that a cell needs. -/
def width (c : Cell) : Nat :=
  (c.lines.map columns).foldl max 0

end Cell

/-- The blanks before and after a text that leaves `n` columns free. An odd blank in the middle
goes to the left. -/
def Alignment.margins (a : Alignment) (n : Nat) : Nat × Nat :=
  match a with
  | .left => (0, n)
  | .center => ((n + 1) / 2, n / 2)

/-- A line of a cell in a column of a width, with a blank on either side. -/
def fitted (a : Alignment) (width : Nat) (line : String) : String :=
  let (before, after) := a.margins (width - columns line)
  " " ++ blanks before ++ line ++ blanks after ++ " "

/-- The margins take all free columns. -/
theorem Alignment.margins_sum (a : Alignment) (n : Nat) :
  (a.margins n).1 + (a.margins n).2 = n
  := by cases a <;> simp only [margins] <;> omega

namespace Table

/-- The widths of the columns. -/
def widths (t : Table) : List Nat :=
  t.rows.foldl (fun ws row => List.zipWith max ws (row.map Cell.width)) (t.header.map Cell.width)

/-- A horizontal line: its left end, its dash, its crossings and its right end. -/
def rule (ws : List Nat) (start dash cross stop : String) : String :=
  let part (w : Nat) : String := String.join (List.replicate (w + 2) dash)
  start ++ cross.intercalate (ws.map part) ++ stop

/-- The lines of a row. -/
def rowLines (ws : List Nat) (row : List Cell) : List String :=
  let height := (row.map fun c => c.lines.length).foldl max 0
  (List.range height).map fun i =>
    let part (w : Nat) (c : Cell) : String := fitted c.alignment w (c.lines.getD i "")
    "│" ++ "┆".intercalate (List.zipWith part ws row) ++ "│"

/-- The lines of the table. -/
def lines (t : Table) : List String :=
  let ws := t.widths
  let separator := rule ws "├" "╌" "┼" "┤"
  let body := (t.rows.map (rowLines ws)).intersperse [separator]
  [rule ws "┌" "─" "┬" "┐"] ++ rowLines ws t.header ++ [rule ws "╞" "═" "╪" "╡"] ++
    body.flatten ++ [rule ws "└" "─" "┴" "┘"]

/-- The text of the table, without a line feed at its end. -/
def text (t : Table) : String :=
  "\n".intercalate t.lines

end Table

end ClientWrap.Listing
