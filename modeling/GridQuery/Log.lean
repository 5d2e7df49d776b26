-- What the library reports while it works: a line has a level, a topic, a
-- message and further fields.
import GridQuery.Query.Arguments
import GridQuery.Query.Statement

namespace GridQuery

/-- How important a line is. -/
inductive LogLevel
  | debug
  | info
  | warn
  deriving DecidableEq, Repr

/-- The name of a level. -/
def LogLevel.label : LogLevel → String
  | debug => "DEBUG"
  | info => "INFO"
  | warn => "WARN"

/-- A reported event. -/
inductive LogLine
  | opened (source : String)
  | closed (source : String)
  /-- A table was loaded; `table` is its qualified name. -/
  | loaded (table : String) (rows : Nat)
  /-- A query is prepared with these arguments. -/
  | prepared (arguments : String)
  /-- A statement is run. -/
  | executing (statement : String)
  /-- A field is mapped to a column that the table does not have. -/
  | columnMissing (column field table : String)
  | closeFailed (reason : String)
  deriving DecidableEq, Repr

namespace LogLine

/-- The level of a line. -/
def level : LogLine → LogLevel
  | prepared _ => .info
  | columnMissing .. => .warn
  | closeFailed _ => .warn
  | _ => .debug

/-- What the line is about: connections, queries or statements. -/
def topic : LogLine → String
  | opened _ => "database"
  | closed _ => "database"
  | loaded .. => "database"
  | executing _ => "sql"
  | _ => "query"

/-- The message of a line. -/
def message : LogLine → String
  | opened _ => "Opened connection"
  | closed _ => "Closed connection"
  | loaded .. => "Loaded table"
  | prepared arguments => arguments
  | executing statement => statement
  | columnMissing column field table =>
    "'" ++ column ++ "' column that is mapped to the '" ++ field ++
      "' property does not exist in the '" ++ table ++ "' worksheet"
  | closeFailed reason => "Failed to close connection: " ++ reason

/-- The further fields of a line, with their names. -/
def fields : LogLine → List (String × String)
  | opened source => [("source", source)]
  | closed source => [("source", source)]
  | loaded table rows => [("table", table), ("rows", Text.natText rows)]
  | _ => []

end LogLine

end GridQuery
