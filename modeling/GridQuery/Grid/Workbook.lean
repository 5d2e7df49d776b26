-- Workbooks: named worksheets in order, and names defined for ranges of them.
import GridQuery.Grid.Sheet

namespace GridQuery

/-- A workbook. -/
structure Workbook where
  sheets : List Sheet := []
  /-- Names with their formulas, in the order of definition. -/
  definedNames : List (String × String) := []

namespace Workbook

/-- Adds a sheet at the end; a sheet of the same name is replaced. -/
def add (w : Workbook) (sheet : Sheet) : Workbook :=
  { w with sheets := w.sheets.filter (fun s => s.name != sheet.name) ++ [sheet] }

/-- Defines a name. -/
def define (w : Workbook) (name formula : String) : Workbook :=
  { w with definedNames := w.definedNames ++ [(name, formula)] }

/-- The names of the sheets, in order. -/
def sheetNames (w : Workbook) : List String := w.sheets.map (·.name)

/-- The sheet of a name. -/
def sheet? (w : Workbook) (name : String) : Option Sheet := w.sheets.find? (·.name == name)

end Workbook

end GridQuery
