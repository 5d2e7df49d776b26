-- The values of cells: what a worksheet holds, what a query compares and
-- what a result shows.
import GridQuery.Calendar.Timestamp
import GridQuery.Number.FloatText
import GridQuery.Number.IntText
import GridQuery.Text.Blank

namespace GridQuery

/-- The value of one cell. -/
inductive Value
  /-- An empty cell. -/
  | null
  | bool (flag : Bool)
  /-- A 64-bit integer. -/
  | int (number : Int64)
  /-- A double. -/
  | float (number : Float)
  | text (text : String)
  | date (date : Date)
  | timestamp (moment : Timestamp)
  | time (time : Time)

instance : Inhabited Value := ⟨.null⟩

/-- The kinds of values, without their contents. -/
inductive Kind
  | null
  | bool
  | bigint
  | double
  | text
  | date
  | timestamp
  | time
  deriving DecidableEq, Repr

/-- The name of a kind in messages. -/
def Kind.label : Kind → String
  | .null => "null"
  | .bool => "bool"
  | .bigint => "bigint"
  | .double => "double"
  | .text => "text"
  | .date => "date"
  | .timestamp => "timestamp"
  | .time => "time"

namespace Value

/-- The kind of a value. -/
def kind : Value → Kind
  | null => .null
  | bool _ => .bool
  | int _ => .bigint
  | float _ => .double
  | text _ => .text
  | date _ => .date
  | timestamp _ => .timestamp
  | time _ => .time

/-- The value is that of an empty cell. -/
def isNull : Value → Bool
  | null => true
  | _ => false

/-- Null or the empty text. -/
def isEmpty : Value → Bool
  | null => true
  | text s => s == ""
  | _ => false

/-- An integer or a double. -/
def isNumber : Value → Bool
  | int _ => true
  | float _ => true
  | _ => false

/-- The text of a textual value. -/
def asText? : Value → Option String
  | text s => some s
  | _ => none

/-- A number as a double. -/
def asFloat? : Value → Option Float
  | int n => some (Float.ofInt n.toInt)
  | float x => some x
  | _ => none

/-- The value as text; null is the empty text. -/
def display : Value → String
  | null => ""
  | bool flag => if flag then "true" else "false"
  | int n => Number.int64Text n
  | float x => Number.floatText x
  | text s => s
  | date d => d.text
  | timestamp t => t.text
  | time t => t.text

/-- Two values of one kind with the same content. Doubles are compared as numbers, so NaN
differs from itself and the two zeros are the same. -/
def same : Value → Value → Bool
  | null, null => true
  | bool a, bool b => a == b
  | int a, int b => a == b
  | float a, float b => a == b
  | text a, text b => a == b
  | date a, date b => a == b
  | timestamp a, timestamp b => a == b
  | time a, time b => a == b
  | _, _ => false

/-- Trims a textual value; the others stay as they are. -/
def trim (policy : Text.TrimPolicy) : Value → Value
  | text s => text (policy.apply s)
  | v => v

end Value

end GridQuery
