import SlashCommand.Number.Nearest
import SlashCommand.Shell.Console

/-!
# Tables

A table has a title, a header and rows.  Its columns are as wide as their widest cells, a blank on
either side included.  Where they are wider than the console together, the widest of them are made
narrower until they fit.

The width of a cell is measured before tabs are filled up, so a cell may still have to be broken
into several lines.
-/

namespace SlashCommand.Shell

/-- A table of markup cells. -/
structure Table where
  title : String
  header : List String
  rows : List (List String)

namespace Table

/-! ## Widths -/

/-- Whether a character ends a line where the width of a cell is measured. -/
def endsMeasuredLine (c : Char) : Bool :=
  c == '\n' || ('\x1C' ≤ c && c ≤ '\x1E') || c == '\u0085' || c == '\u2028' || c == '\u2029'

/-- The lines of a text where its width is measured. -/
def measuredLines : List Char → List (List Char)
  | [] => [[]]
  | c :: cs =>
    match measuredLines cs with
    | line :: lines => if endsMeasuredLine c then [] :: line :: lines else (c :: line) :: lines
    | [] => [[c]]

/-- The width of the widest line of a text. -/
def textWidth (cs : List Char) : Nat :=
  ((measuredLines cs).map Text.width).foldl max 0

/-- The width of a column by its cells, where there is room for `limit` cells. -/
def columnWidth (limit : Nat) (cells : List (List Char)) : Nat :=
  let width (cell : List Char) : Nat :=
    if limit < 3 then limit else min (textWidth cell + 2) limit
  (cells.map width).foldl max 0

/-- Takes an amount from numbers, in equal shares from those that are chosen; no number is made
smaller by more than is allowed. -/
def takeShares (amount : Nat) (chosen : Nat → Bool) (allowed : Nat → Nat) (widths : List Nat) :
    List Nat :=
  go amount (widths.countP fun width => chosen width && allowed width ≠ 0) widths
where
  go (amount shares : Nat) : List Nat → List Nat
    | [] => []
    | width :: widths =>
      if chosen width && allowed width ≠ 0 && shares ≠ 0 then
        let share := min (allowed width) (Number.nearestQuotient amount shares)
        (width - share) :: go (amount - share) (shares - 1) widths
      else width :: go amount shares widths

/-- Makes the widest columns narrower, down to the next wide ones at a time, until all columns fit.
The number bounds the steps. -/
def narrow (room : Nat) : Nat → List Nat → List Nat
  | 0, widths => widths
  | steps + 1, widths =>
    let excess := widths.foldl (· + ·) 0 - room
    let widest := widths.foldl max 0
    let next := (widths.filter (· != widest)).foldl max 0
    if excess = 0 || widest = next then widths
    else narrow room steps
      (takeShares excess (· == widest) (fun _ => min excess (widest - next)) widths)

/-- The widths of columns that fit, by the widths that they would have. -/
def fitWidths (room : Nat) (widths : List Nat) : List Nat :=
  let widths := narrow room (widths.foldl (· + ·) 0) widths
  let excess := widths.foldl (· + ·) 0 - room
  if excess = 0 then widths else takeShares excess (fun _ => true) id widths

/-- The widths of columns by their cells. -/
def columnWidths (columns : List (List (List Char))) : List Nat :=
  let widths := columns.map (columnWidth consoleWidth)
  if widths.foldl (· + ·) 0 ≤ consoleWidth then widths
  else (columns.zip (fitWidths consoleWidth widths)).map fun (cells, width) =>
    columnWidth width cells

/-! ## Lines -/

/-- A line of a cell with blanks behind it up to a width. -/
def padded (width : Nat) (line : List Char) : List Char :=
  line ++ List.replicate (width - Text.width line) ' '

/-- The lines of a cell, with the blanks around them.  A line that ends with a joiner takes the
first of its blanks in, and gets another one. -/
def cellLines (width : Nat) (cell : List Char) : List (List Char) :=
  (fitLines (width - 2) .ellipsis cell).map fun line =>
    ' ' :: padded (width - 2) (padded (width - 2) line) ++ [' ']

/-- The lines of one row: as many as its longest cell has.  The cells of the header stand at the
bottom of their row, all others at the top. -/
def rowLines (isHeader : Bool) (widths : List Nat) (row : List (List Char)) : List String :=
  let cells := (widths.zip row).map fun (width, cell) => (width, cellLines width cell)
  let height := cells.foldl (fun height cell => max height cell.2.length) 1
  let filled := cells.map fun (width, lines) =>
    let blank := List.replicate (height - lines.length) (List.replicate width ' ')
    if isHeader then blank ++ lines else lines ++ blank
  (List.range height).map fun n =>
    String.ofList (filled.flatMap fun lines => (lines[n]?).getD [])

/-- The title of a table, in the middle above it. -/
def titleLines (width : Nat) (title : List Char) : List String :=
  (fitLines width .fold title).map fun line =>
    let line := Text.dropBlankEnd line
    let left := List.replicate ((width - Text.width line) / 2) ' '
    String.ofList (padded width (left ++ line))

/-- The rendered cells of a column, the first of which is that of the header. -/
def column (table : Table) (number : Nat) : Except Markup.Fault (List (List Char)) :=
  (table.header :: table.rows).mapM fun row => rendered ((row[number]?).getD "")

/-- What printing a table prints.  The cells are rendered column by column. -/
def print (table : Table) : Output :=
  let result := do
    let columns ← (List.range table.header.length).mapM table.column
    return (columns, ← rendered table.title)
  match result with
  | .error fault => ⟨[], some fault⟩
  | .ok (columns, title) =>
    let widths := columnWidths columns
    let rows := (List.range (table.rows.length + 1)).map fun n =>
      rowLines (n == 0) widths (columns.map fun cells => (cells[n]?).getD [])
    .ofLines (titleLines (widths.foldl (· + ·) 0) title ++ rows.flatten)

end Table

end SlashCommand.Shell
