-- Transformations: functions on the text of a value that run before a record
-- field is converted, and the registry of those in force.
import GridQuery.NameMap
import GridQuery.Text.Escaped
import GridQuery.Text.Search

namespace GridQuery

/-- From the text of a value to the value that replaces it, or the reason of a failure. -/
abbrev Transformation := String → Except String Value

/-- Transformations by the type and the field they are for. -/
abbrev Transformations := NameMap Transformation

namespace Transformations

/-- The name under which the transformation of a field is kept. -/
def key (type field : String) : String := type ++ "." ++ field

/-- Registers a transformation. -/
def register (m : Transformations) (type field : String) (t : Transformation) : Transformations :=
  m.insert (key type field) t

/-- The transformation of a field. -/
def find? (m : Transformations) (type field : String) : Option Transformation :=
  m.get? (key type field)

/-- The registered names as a listing. -/
def listing (m : Transformations) : String :=
  "Transformations([" ++ Text.joinWith ", " (m.names.map Text.escaped) ++ "])"

end Transformations

end GridQuery
