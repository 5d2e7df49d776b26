-- The part of a worksheet that a range takes. It is a rectangle of the cells
-- that the sheet has there, null where it has none; it ends with the used rows
-- and the last column, and no value within the bounds is left out, unless the
-- used area goes past the last index.
import GridQuery.Grid.Sheet
import Mathlib.Data.List.Basic

namespace GridQuery

/-- The cell of a grid at a row and a column of the grid. -/
def gridCell? (grid : List (List Value)) (i j : Nat) : Option Value := grid[i]?.bind (·[j]?)

theorem gridCell?_eq_some_iff {grid : List (List Value)} {i j : Nat} {v : Value} :
    gridCell? grid i j = some v ↔ ∃ cells, grid[i]? = some cells ∧ cells[j]? = some v :=
  Option.bind_eq_some_iff

/-- A position lies within the bounds that a range has. -/
structure CellRange.Covers (range : CellRange) (row column : Nat) : Prop where
  rowLower : ∀ r, range.rowLower = some r → r ≤ row
  rowUpper : ∀ r, range.rowUpper = some r → row ≤ r
  colLower : ∀ c, range.colLower = some c → c ≤ column
  colUpper : ∀ c, range.colUpper = some c → column ≤ c

/-! ## Bounds that may be missing -/

section

variable {bound : Option Nat} {n other : Nat}

theorem getD_le (h : ∀ b, bound = some b → b ≤ n) (hother : other ≤ n) : bound.getD other ≤ n := by
  rcases bound with _ | b
  · exact hother
  · exact h b rfl

theorem le_getD (h : ∀ b, bound = some b → n ≤ b) (hother : n ≤ other) : n ≤ bound.getD other := by
  rcases bound with _ | b
  · exact hother
  · exact h b rfl

end

theorem getElem?_between (lower upper i : Nat) :
    (between lower upper)[i]? = if lower + i ≤ upper then some (lower + i) else none := by
  unfold between
  by_cases h : lower + i ≤ upper
  · rw [if_pos h, List.getElem?_range' (by omega), Nat.one_mul]
  · rw [if_neg h, List.getElem?_eq_none]
    rw [List.length_range']
    omega

namespace Sheet

/-! ## The used area -/

/-- The used area ends before the indices do. -/
structure Fits (s : Sheet) : Prop where
  rows : s.row + s.rows.length < indexLimit
  columns : s.column + s.width < indexLimit

section

variable {s : Sheet}

theorem length_le_width {cells : List Value} (h : cells ∈ s.rows) : cells.length ≤ s.width := by
  have hwider (rows : List (List Value)) (w : Nat) :
      w ≤ rows.foldl (fun w row => max w row.length) w ∧
        ∀ row ∈ rows, row.length ≤ rows.foldl (fun w row => max w row.length) w := by
    induction rows generalizing w with
    | nil => exact ⟨Nat.le_refl w, nofun⟩
    | cons row rows ih =>
      obtain ⟨hstart, hrows⟩ := ih (max w row.length)
      refine ⟨Nat.le_trans (Nat.le_max_left _ _) hstart, List.forall_mem_cons.mpr ⟨?_, hrows⟩⟩
      exact Nat.le_trans (Nat.le_max_right _ _) hstart
  exact (hwider s.rows 0).2 cells h

/-- A cell of the used area lies no further than the last used row and column. -/
theorem within_of_cell (hfits : s.Fits) {i j : Nat} {v : Value}
    (h : gridCell? s.rows i j = some v) :
    (∃ lastRow, s.lastRow? = some lastRow ∧ s.row + i ≤ lastRow) ∧
      ∃ lastUsed, s.lastColumn? = some lastUsed ∧ s.column + j ≤ lastUsed := by
  obtain ⟨cells, hcells, hcell⟩ := gridCell?_eq_some_iff.mp h
  obtain ⟨hi, -⟩ := List.getElem?_eq_some_iff.mp hcells
  obtain ⟨hj, -⟩ := List.getElem?_eq_some_iff.mp hcell
  have hwidth := length_le_width (List.mem_of_getElem? hcells)
  have hrows : s.rows.isEmpty = false := by
    rw [List.isEmpty_eq_false_iff_exists_mem]
    exact ⟨cells, List.mem_of_getElem? hcells⟩
  have hlastRow := hfits.rows
  have hlastColumn := hfits.columns
  refine ⟨⟨s.row + s.rows.length - 1, ?_, by omega⟩, s.column + s.width - 1, ?_, by omega⟩
  · rw [lastRow?, hrows, Nat.mod_eq_of_lt (by omega)]
    rfl
  · rw [lastColumn?, if_neg (by omega), Nat.mod_eq_of_lt (by omega)]

theorem lt_of_le_lastRow? {row lastRow : Nat} (h : s.lastRow? = some lastRow)
    (hrow : row ≤ lastRow) : row < s.row + s.rows.length := by
  unfold lastRow? at h
  split at h
  · cases h
  · rename_i hrows
    have hpos := List.length_pos_iff.mpr (mt List.isEmpty_iff.mpr hrows)
    have hwrapped := Nat.mod_le (s.row + s.rows.length - 1) indexLimit
    cases h
    omega

theorem get_of_cell {i j : Nat} {v : Value} (h : gridCell? s.rows i j = some v) :
    s.get (s.row + i) (s.column + j) = v := by
  obtain ⟨cells, hcells, hcell⟩ := gridCell?_eq_some_iff.mp h
  have hrow : ¬ s.row + i < s.row := Nat.not_lt.mpr (Nat.le_add_right _ _)
  have hcolumn : ¬ s.column + j < s.column := Nat.not_lt.mpr (Nat.le_add_right _ _)
  rw [get, rowAt, if_neg hrow, Nat.add_sub_cancel_left, hcells, valueIn, if_neg hcolumn,
    Nat.add_sub_cancel_left, Option.getD_some, hcell]
  rfl

end

/-! ## Extracts -/

variable {s : Sheet} {range : CellRange}

/-- A row of an extract is what the sheet has from the first column to the last one taken. -/
theorem getElem?_extract {i : Nat} {cells : List Value} :
    (s.extract range)[i]? = some cells ↔
      ∃ lastRow lastUsed, s.lastRow? = some lastRow ∧
        range.colUpper.or s.lastColumn? = some lastUsed ∧
        range.rowLower.getD s.row + i ≤ min (range.rowUpper.getD lastRow) lastRow ∧
        (between (range.colLower.getD s.column) (min lastUsed lastColumn)).map
          (s.get (range.rowLower.getD s.row + i)) = cells := by
  unfold extract
  rcases s.lastRow? with _ | lastRow
  · simp
  · rcases range.colUpper.or s.lastColumn? with _ | lastUsed
    · simp
    · simp only [List.getElem?_map, getElem?_between, Option.some.injEq, exists_and_left,
        exists_eq_left']
      split
      · rename_i hle
        exact ⟨fun h => ⟨hle, Option.some.inj h⟩, fun h => congrArg some h.2⟩
      · rename_i hgt
        exact iff_of_false nofun fun h => hgt h.1

theorem gridCell?_extract {i j : Nat} {v : Value} :
    gridCell? (s.extract range) i j = some v ↔
      ∃ lastRow lastUsed, s.lastRow? = some lastRow ∧
        range.colUpper.or s.lastColumn? = some lastUsed ∧
        range.rowLower.getD s.row + i ≤ min (range.rowUpper.getD lastRow) lastRow ∧
        range.colLower.getD s.column + j ≤ min lastUsed lastColumn ∧
        s.get (range.rowLower.getD s.row + i) (range.colLower.getD s.column + j) = v := by
  rw [gridCell?_eq_some_iff]
  constructor
  · rintro ⟨cells, hcells, hcell⟩
    obtain ⟨lastRow, lastUsed, hrow, hcol, hi, rfl⟩ := getElem?_extract.mp hcells
    rw [List.getElem?_map, getElem?_between] at hcell
    split at hcell
    · rename_i hj
      exact ⟨lastRow, lastUsed, hrow, hcol, hi, hj, Option.some.inj hcell⟩
    · cases hcell
  · rintro ⟨lastRow, lastUsed, hrow, hcol, hi, hj, rfl⟩
    refine ⟨_, getElem?_extract.mpr ⟨lastRow, lastUsed, hrow, hcol, hi, rfl⟩, ?_⟩
    rw [List.getElem?_map, getElem?_between, if_pos hj]
    rfl

theorem length_extract : (s.extract range).length = s.height range := by
  unfold extract height
  split
  · rw [List.length_map, between, List.length_range']
  · rfl

/-- All rows of an extract are as wide as the columns taken. -/
theorem length_of_mem_extract {cells : List Value} (h : cells ∈ s.extract range) :
    cells.length = (between (range.colLower.getD s.column)
      (min ((range.colUpper.or s.lastColumn?).getD 0) lastColumn)).length := by
  obtain ⟨i, hi⟩ := List.mem_iff_getElem?.mp h
  obtain ⟨lastRow, lastUsed, -, hcol, -, rfl⟩ := getElem?_extract.mp hi
  rw [List.length_map, hcol]
  rfl

/-- No row of an extract lies below the used area. -/
theorem lt_of_lt_length_extract {i : Nat} (h : i < (s.extract range).length) :
    range.rowLower.getD s.row + i < s.row + s.rows.length := by
  obtain ⟨lastRow, -, hrow, -, hle, -⟩ := getElem?_extract.mp (List.getElem?_eq_getElem h)
  exact lt_of_le_lastRow? hrow (Nat.le_trans hle (Nat.min_le_right _ _))

/-- The cells of an extract lie within the bounds. -/
theorem covers_of_gridCell?_extract {i j : Nat} {v : Value}
    (h : gridCell? (s.extract range) i j = some v) :
    range.Covers (range.rowLower.getD s.row + i) (range.colLower.getD s.column + j) := by
  obtain ⟨lastRow, lastUsed, -, hcol, hi, hj, -⟩ := gridCell?_extract.mp h
  have hupper := Nat.le_trans hi (Nat.min_le_left _ _)
  have hused := Nat.le_trans hj (Nat.min_le_left _ _)
  refine ⟨?_, ?_, ?_, ?_⟩
  · intro r hr
    simp [hr]
  · intro r hr
    rwa [hr] at hupper
  · intro c hc
    simp [hc]
  · intro c hc
    rw [hc] at hcol
    exact Option.some.inj hcol ▸ hused

/-- A cell of the used area within the bounds, and not beyond the last column, is in the extract. -/
theorem gridCell?_extract_of_cell (hfits : s.Fits) {i j : Nat} {v : Value}
    (h : gridCell? s.rows i j = some v) (hcovers : range.Covers (s.row + i) (s.column + j))
    (hlast : s.column + j ≤ lastColumn) :
    range.rowLower.getD s.row ≤ s.row + i ∧ range.colLower.getD s.column ≤ s.column + j ∧
      gridCell? (s.extract range) (s.row + i - range.rowLower.getD s.row)
        (s.column + j - range.colLower.getD s.column) = some v := by
  obtain ⟨⟨lastRow, hrow, hi⟩, lastUsed, hused, hj⟩ := within_of_cell hfits h
  have htop : range.rowLower.getD s.row ≤ s.row + i :=
    getD_le hcovers.rowLower (Nat.le_add_right _ _)
  have hleft : range.colLower.getD s.column ≤ s.column + j :=
    getD_le hcovers.colLower (Nat.le_add_right _ _)
  have htaken : range.colUpper.or s.lastColumn? = some (range.colUpper.getD lastUsed) := by
    rw [hused, Option.or_some]
  refine ⟨htop, hleft, gridCell?_extract.mpr ⟨lastRow, _, hrow, htaken, ?_, ?_, ?_⟩⟩
  · rw [Nat.add_sub_cancel' htop]
    exact Nat.le_min.mpr ⟨le_getD hcovers.rowUpper hi, hi⟩
  · rw [Nat.add_sub_cancel' hleft]
    exact Nat.le_min.mpr ⟨le_getD hcovers.colUpper hj, hlast⟩
  · rw [Nat.add_sub_cancel' htop, Nat.add_sub_cancel' hleft]
    exact get_of_cell h

/-- An extract is a rectangle. Its cells are those of the sheet from the lower bounds on, or from
the start of the used area where there is no lower bound, and lie within the bounds; no row lies
below the used area, no column beyond the last one. If the used area ends before the indices do,
each value of the sheet that lies within the bounds and not beyond the last column is in it, at its
place. -/
theorem an_extract_is_exact_and_loses_nothing (s : Sheet) (range : CellRange) :
    let top := range.rowLower.getD s.row
    let left := range.colLower.getD s.column
    let grid := s.extract range
    (∃ width, ∀ cells ∈ grid, cells.length = width) ∧ grid.length = s.height range ∧
      (∀ i < grid.length, top + i < s.row + s.rows.length) ∧
      (∀ i j v, gridCell? grid i j = some v →
        s.get (top + i) (left + j) = v ∧ range.Covers (top + i) (left + j) ∧
          left + j ≤ lastColumn) ∧
      (s.Fits → ∀ i j v, gridCell? s.rows i j = some v → v ≠ .null →
        range.Covers (s.row + i) (s.column + j) → s.column + j ≤ lastColumn →
          top ≤ s.row + i ∧ left ≤ s.column + j ∧
            gridCell? grid (s.row + i - top) (s.column + j - left) = some v) := by
  intro top left grid
  refine ⟨⟨_, fun cells => length_of_mem_extract⟩, length_extract,
    fun i => lt_of_lt_length_extract, ?_, ?_⟩
  · intro i j v h
    obtain ⟨lastRow, lastUsed, -, -, -, hj, hv⟩ := gridCell?_extract.mp h
    exact ⟨hv, covers_of_gridCell?_extract h, Nat.le_trans hj (Nat.min_le_right _ _)⟩
  · intro hfits i j v h _ hcovers hlast
    exact gridCell?_extract_of_cell hfits h hcovers hlast

example : colIndex? "XFD".toList = some lastColumn := rfl

/-- A sheet from `B2` on whose second row is short. -/
def raggedSheet : Sheet :=
  { name := "Sheet1", row := 1, column := 1
    rows := [[.text "a", .text "b"], [.int 1], [.int 3, .int 4]] }

/-- The range `A3:D9` begins left of the sheet and ends below and right of it. -/
theorem a_range_around_the_end_of_a_ragged_sheet :
    let range : CellRange :=
      { rowLower := some 2, rowUpper := some 8, colLower := some 0, colUpper := some 3 }
    raggedSheet.extract range =
        [[.null, .int 1, .null, .null], [.null, .int 3, .int 4, .null]] ∧
      gridCell? (raggedSheet.extract range) 1 2 = some (.int 4) := by
  intro range
  have hcovers : range.Covers 3 2 := by constructor <;> rintro _ ⟨⟩ <;> decide
  obtain ⟨-, -, -, -, hfound⟩ := an_extract_is_exact_and_loses_nothing raggedSheet range
  have hfits : raggedSheet.Fits := ⟨by decide, by decide⟩
  exact ⟨rfl, (hfound hfits 2 1 (.int 4) rfl nofun hcovers (by decide)).2.2⟩

/-- A sheet that begins in the last row that has an index, and goes on. -/
def sheetAtTheEnd : Sheet :=
  { name := "Sheet1", row := indexLimit - 1, rows := [[.text "A"], [.int 1]] }

/-- A sheet far below the first row. -/
def sheetFarDown : Sheet :=
  { name := "Sheet1", row := indexLimit / 4, rows := [[.text "A"], [.int 1]] }

/-- The last row of a sheet that goes past the indices wraps around to 0, so that nothing of it is
taken; and the range from `A1` down to the end of a sheet far below has more rows than there is
room for. -/
theorem sheets_far_down_are_not_taken_whole :
    let whole : CellRange := {}
    let fromTop : CellRange := { rowLower := some 0, colLower := some 0, colUpper := some 1 }
    sheetAtTheEnd.row < indexLimit ∧ gridCell? sheetAtTheEnd.rows 0 0 = some (.text "A") ∧
      whole.Covers sheetAtTheEnd.row 0 ∧ sheetAtTheEnd.extract whole = [] ∧
      rowLimit < sheetFarDown.height fromTop := by
  intro whole fromTop
  have hcovers : whole.Covers sheetAtTheEnd.row 0 := by constructor <;> rintro _ ⟨⟩
  have hrow : sheetAtTheEnd.row = 18446744073709551615 := rfl
  have hlastRow : sheetAtTheEnd.lastRow? = some 0 := by decide
  have hlastColumn : sheetAtTheEnd.lastColumn? = some 0 := by decide
  refine ⟨by decide, rfl, hcovers, ?_, by decide⟩
  simp [extract, whole, between, hrow, hlastRow, hlastColumn]

end Sheet

end GridQuery
