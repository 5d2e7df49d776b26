-- Tables: a grid with a name and a type for each column. The names come from
-- the first row or, without a header, from the position.
import Std.Data.HashSet
import GridQuery.Grid.ColumnType
import GridQuery.Mapping.Row
import GridQuery.Text.Ascii

namespace GridQuery

open GridQuery.Text

/-- A column of a table. -/
structure Column where
  name : String
  type : ColumnType
  deriving DecidableEq, Repr

/-- A table. Each row has one value per column. -/
structure Table where
  columns : List Column
  rows : List (List Value)

namespace Table

/-! ## Column names -/

/-- The name of a column by its position, counted from 0. -/
def positionName (position : Nat) : String := "F" ++ natText (position + 1)

/-- The name that a header cell asks for. -/
def titleOf (position : Nat) (v : Value) : String :=
  let title := trimmed v.display
  if title == "" then positionName position else title

/-- The first of `title1`, `title2`, … from a given number on that is not taken. One of
`tries` candidates has to be free. -/
def freeSuffix (taken : Std.HashSet String) (title : String) : Nat → Nat → String
  | 0, suffix => title ++ natText suffix
  | tries + 1, suffix =>
    let candidate := title ++ natText suffix
    if taken.contains (asciiLower candidate) then freeSuffix taken title tries (suffix + 1)
    else candidate

/-- The title itself, or the title with a number if it is taken. -/
def freeName (taken : Std.HashSet String) (title : String) : String :=
  if taken.contains (asciiLower title) then freeSuffix taken title taken.size 1 else title

/-- Gives each title a name of its own, up to ASCII case, from left to right. -/
def distinctNames : Std.HashSet String → List String → List String
  | _, [] => []
  | taken, title :: titles =>
    let name := freeName taken title
    name :: distinctNames (taken.insert (asciiLower name)) titles

/-- The column names that a header row gives. -/
def headerNames (titles : List Value) : List String :=
  distinctNames ∅ (titles.zipIdx.map fun (v, i) => titleOf i v)

/-! ## Tables of grids -/

/-- The columns of a grid with rows of one width. -/
def transpose (width : Nat) (rows : List (List Value)) : List (List Value) :=
  rows.foldr (fun row columns => List.zipWith List.cons (fitCells width row) columns)
    (List.replicate width [])

/-- The table with the given column names. -/
def ofRows (names : List String) (rows : List (List Value)) : Table :=
  let columns := List.zipWith
    (fun name cells => Column.mk name (ColumnType.detect (cells.map ColumnType.of?)))
    names (transpose names.length rows)
  { columns
    rows := rows.map fun row =>
      List.zipWith (fun (c : Column) v => c.type.coerce v) columns (fitCells names.length row) }

/-- The table of a grid. Without any column it has a single empty one. -/
def ofGrid (grid : List (List Value)) (header : Bool) : Table :=
  match grid with
  | [] => ofRows [positionName 0] []
  | first :: rest =>
    let width := max first.length 1
    if header then ofRows (headerNames (fitCells width first)) rest
    else ofRows ((List.range width).map positionName) grid

/-- The names of the columns. -/
def columnNames (t : Table) : List String := t.columns.map (·.name)

end Table

end GridQuery
