-- A worksheet's used area: a grid of values that starts at some cell of the
-- sheet. Positions are counted from 0 over the whole sheet.
import GridQuery.Reference.Range
import GridQuery.Value.Basic

namespace GridQuery

/-- The last column of a worksheet, `XFD`. -/
def lastColumn : Nat := 16383

/-- The most rows that memory has room for: a row takes 24 bytes at least, and 63 bits count
them. -/
def rowLimit : Nat := 9223372036854775807 / 24

/-- The numbers from `lower` to `upper`, both included. -/
def between (lower upper : Nat) : List Nat := List.range' lower (upper + 1 - lower)

/-- A worksheet. -/
structure Sheet where
  name : String
  /-- The row of the first grid row. -/
  row : Nat := 0
  /-- The column of the first grid column. -/
  column : Nat := 0
  /-- The grid; its rows may differ in length. -/
  rows : List (List Value) := []

namespace Sheet

/-- The sheet has no cells. -/
def isEmpty (s : Sheet) : Bool := s.rows.all List.isEmpty

/-- The length of the longest row. -/
def width (s : Sheet) : Nat := s.rows.foldl (fun w row => max w row.length) 0

/-- The last used row. Indices wrap around. -/
def lastRow? (s : Sheet) : Option Nat :=
  if s.rows.isEmpty then none else some ((s.row + s.rows.length - 1) % indexLimit)

/-- The last used column. Indices wrap around. -/
def lastColumn? (s : Sheet) : Option Nat :=
  if s.width = 0 then none else some ((s.column + s.width - 1) % indexLimit)

/-- The grid row at a row of the sheet. -/
def rowAt (s : Sheet) (row : Nat) : List Value :=
  if row < s.row then [] else (s.rows[row - s.row]?).getD []

/-- The value at a column of the sheet, in a row of the grid. -/
def valueIn (s : Sheet) (cells : List Value) (column : Nat) : Value :=
  if column < s.column then .null else (cells[column - s.column]?).getD .null

/-- The value at a position; outside the used area it is null. -/
def get (s : Sheet) (row column : Nat) : Value := s.valueIn (s.rowAt row) column

/-- The cells of a range as a rectangular grid. Unbounded sides end with the used area.
No row below the used area and no column beyond the last one is taken. -/
def extract (s : Sheet) (range : CellRange) : List (List Value) :=
  match s.lastRow?, range.colUpper.or s.lastColumn? with
  | some lastRow, some lastUsed =>
    let columns := between (range.colLower.getD s.column) (min lastUsed lastColumn)
    let rows := between (range.rowLower.getD s.row) (min (range.rowUpper.getD lastRow) lastRow)
    rows.map fun row => columns.map (s.valueIn (s.rowAt row))
  | _, _ => []

/-- The number of rows of a range's grid. -/
def height (s : Sheet) (range : CellRange) : Nat :=
  match s.lastRow?, range.colUpper.or s.lastColumn? with
  | some lastRow, some _ =>
    min (range.rowUpper.getD lastRow) lastRow + 1 - range.rowLower.getD s.row
  | _, _ => 0

end Sheet

end GridQuery
