import LogSelect.Text.Blank
import LogSelect.Text.Lines

/-!
Tables in plain text.

Every column is as wide as its widest line.  Cells of several lines spread over as many lines of
the table.  Columns are divided by a bar, the header by a rule, and blanks at the end of a line are
dropped.
-/

namespace LogSelect.Table

def cellLines (cell : String) : List (List Char) :=
  splitAt '\n' cell.toList

def greatest (ns : List Nat) : Nat :=
  ns.foldl Nat.max 0

/-- The width of each column, given widths so far and the widths of a row's cells.  A row may have
fewer cells than there are columns, but not more. -/
def widen : List Nat → List Nat → Option (List Nat)
  | widths, [] => some widths
  | [], _ :: _ => none
  | width :: widths, cell :: cells => (widen widths cells).map (Nat.max width cell :: ·)

def pad (width : Nat) (cs : List Char) : List Char :=
  cs ++ List.replicate (width - cs.length) ' '

def line (widths : List Nat) (parts : List (List Char)) : String :=
  String.ofList (dropRightWhile isBlank
    ([' ', '|', ' '].intercalate ((widths.zip parts).map fun (width, part) => pad width part)))

def rule (widths : List Nat) : String :=
  String.ofList (['-', '+', '-'].intercalate (widths.map fun width => List.replicate width '-'))

/-- The lines of one row: as many as its highest cell has.  A row without cells is one empty
line. -/
def rowLines (widths : List Nat) (cells : List (List (List Char))) : List String :=
  let height := if cells.isEmpty then 1 else greatest (cells.map List.length)
  (List.range height).map fun k => line widths (cells.map fun cell => cell.getD k [])

def columnWidths (columns : List String) (rows : List (List (List (List Char)))) :
    Option (List Nat) :=
  rows.foldlM (fun widths cells => widen widths
    (cells.map fun cell => greatest (cell.map List.length))) (columns.map String.length)

/-- The table with the given columns and rows of cells.  There is none if a row has more cells than
there are columns. -/
def format? (columns : List String) (rows : List (List String)) : Option String :=
  let cells := rows.map fun row => row.map cellLines
  (columnWidths columns cells).map fun widths =>
    "\n".intercalate
      (line widths (columns.map String.toList) :: rule widths ::
        cells.flatMap (rowLines widths))

end LogSelect.Table
