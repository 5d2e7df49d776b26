-- Generic rows: cells by column name or by position.
import GridQuery.Value.Basic

namespace GridQuery

/-- The place of a name in a list; of several, the last. -/
def lastPosition? (name : String) : List String → Option Nat
  | [] => none
  | n :: rest =>
    match lastPosition? name rest with
    | some i => some (i + 1)
    | none => if n = name then some 0 else none

/-- The place of a name in a list; of several, the first. -/
def firstPosition? (name : String) : List String → Option Nat
  | [] => none
  | n :: rest => if n = name then some 0 else (firstPosition? name rest).map (· + 1)

/-- The value at a place of a row that may be short. -/
def cellAt (cells : List Value) (i : Nat) : Value := cells[i]?.getD .null

/-- As many cells as there are columns: missing ones are null, extra ones are dropped. -/
def fitCells (width : Nat) (cells : List Value) : List Value :=
  cells.take width ++ List.replicate (width - cells.length) .null

theorem getElem?_fitCells (width : Nat) (cells : List Value) (i : Nat) :
    (fitCells width cells)[i]? = if i < width then some (cellAt cells i) else none := by
  unfold fitCells cellAt
  rw [List.getElem?_append, List.getElem?_take, List.getElem?_replicate, List.length_take]
  by_cases hi : i < width
  · by_cases hcell : i < cells.length
    · rw [if_pos (by omega), if_pos hi, if_pos hi, List.getElem?_eq_getElem hcell]
      rfl
    · rw [if_neg (by omega), if_pos (by omega), if_pos hi,
        List.getElem?_eq_none (Nat.le_of_not_lt hcell)]
      rfl
  · rw [if_neg (by omega), if_neg (by omega), if_neg hi]

theorem length_fitCells (width : Nat) (cells : List Value) :
    (fitCells width cells).length = width := by
  unfold fitCells
  rw [List.length_append, List.length_take, List.length_replicate]
  omega

theorem fitCells_of_length_eq {width : Nat} {cells : List Value} (h : cells.length = width) :
    fitCells width cells = cells := by
  subst h
  simp [fitCells]

theorem fitCells_map {α : Type} (name : α → String) (cell : α → Value) (members : List α) :
    fitCells (members.map name).length (members.map cell) = members.map cell :=
  fitCells_of_length_eq (by rw [List.length_map, List.length_map])

/-- A row with one cell per column. -/
structure Row where
  columns : List String
  cells : List Value

namespace Row

/-- The row of some cells under the given columns. -/
def of (columns : List String) (cells : List Value) : Row :=
  ⟨columns, fitCells columns.length cells⟩

/-- The cell of a column; of several of that name, the last. -/
def get? (r : Row) (column : String) : Option Value :=
  (lastPosition? column r.columns).bind fun i => r.cells[i]?

/-- The cell at a position. -/
def at? (r : Row) (position : Nat) : Option Value := r.cells[position]?

/-- The number of cells. -/
def length (r : Row) : Nat := r.cells.length

/-- What is said when the row has no such column. -/
def noColumn (column : String) : String := "'" ++ column ++ "' is not a column of this row"

/-- What is said when the row has no such position. -/
def noPosition (r : Row) (position : Nat) : String :=
  "index out of bounds: the len is " ++ Text.natText r.length ++ " but the index is " ++
    Text.natText position

end Row

end GridQuery
