-- Column mappings: the column that each record field is read from, where it
-- is not the column named like the field.
import GridQuery.NameMap

namespace GridQuery

/-- Columns by field. -/
abbrev ColumnMappings := NameMap String

namespace ColumnMappings

/-- Some field is mapped to the column. -/
def containsColumn (m : ColumnMappings) (column : String) : Bool :=
  m.entries.any fun (_, c) => c == column

/-- Maps a field to a column unless it has a mapping. -/
def insertAbsent (m : ColumnMappings) (field column : String) : ColumnMappings :=
  if m.contains field then m else m.insert field column

/-- The column a field is read from: the one it is mapped to, or the one of its name. -/
def resolve (m : ColumnMappings) (field : String) : String := (m.get? field).getD field

end ColumnMappings

end GridQuery
