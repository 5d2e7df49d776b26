-- The types of table columns. The type of a column is the least one that
-- holds all of its cells; numbers and dates have a wider type each, and text
-- holds everything.
import GridQuery.Value.Basic

namespace GridQuery

/-- The type of a table column. -/
inductive ColumnType
  | boolean
  | bigint
  | double
  | varchar
  | timestamp
  | date
  | time
  deriving DecidableEq, Repr

namespace ColumnType

/-- The name of the type in statements. -/
def label : ColumnType → String
  | boolean => "BOOLEAN"
  | bigint => "BIGINT"
  | double => "DOUBLE"
  | varchar => "VARCHAR"
  | timestamp => "TIMESTAMP"
  | date => "DATE"
  | time => "TIME"

/-- A whole number that a double counts exactly. -/
def isCount (x : Float) : Bool := Number.isWhole x && x.abs < 9000000000000000

/-- The type of one cell; an empty cell has none. -/
def of? : Value → Option ColumnType
  | .null => none
  | .text s => if s == "" then none else some varchar
  | .bool _ => some boolean
  | .int _ => some bigint
  | .float x => some (if isCount x then bigint else double)
  | .date _ => some date
  | .timestamp _ => some timestamp
  | .time _ => some time

/-- The type of a column whose cells have these types. -/
def common (types : List ColumnType) : ColumnType :=
  if types.isEmpty then varchar
  else if types.all (· == boolean) then boolean
  else if types.all (· == bigint) then bigint
  else if types.all fun t => t == bigint || t == double then double
  else if types.all (· == date) then date
  else if types.all (· == time) then time
  else if types.all fun t => t == date || t == timestamp then timestamp
  else varchar

/-- The type of a column of cells. Empty cells do not count. -/
def detect (types : List (Option ColumnType)) : ColumnType := common (types.filterMap id)

/-- The value as a column of the type stores it. -/
def coerce (t : ColumnType) (v : Value) : Value :=
  if v.isEmpty then .null
  else
    match t, v with
    | bigint, .float x => .int (Number.toInt64 x)
    | double, .int n => .float (Float.ofInt n.toInt)
    | timestamp, .date d => .timestamp (Timestamp.midnight d)
    | varchar, v => .text v.display
    | _, v => v

end ColumnType

end GridQuery
