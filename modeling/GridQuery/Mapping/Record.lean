-- Record types: the fields a record declares, and what a record of the type
-- holds after it was filled from a row.
import GridQuery.Mapping.Columns
import GridQuery.Value.Convert

namespace GridQuery

/-- A declared field. -/
structure FieldDef where
  name : String
  type : FieldType
  /-- The column it is read from, if not the one of its name. -/
  column : Option String := none
  /-- What it holds before anything is assigned to it. -/
  start : Value := type.default

/-- A declared record type. -/
structure RecordType where
  /-- What tells the type from all others, also from one of the same name. -/
  id : Nat := 0
  name : String
  fields : List FieldDef := []
  /-- Conversion errors are collected in the record and do not end the query. -/
  collectsErrors : Bool := false
  /-- Columns that no field is read from are collected in the record. -/
  collectsUnmapped : Bool := false

/-- The columns that the type declares for its fields. -/
def RecordType.declaredColumns (r : RecordType) : List (String × String) :=
  r.fields.filterMap fun f => f.column.map (f.name, ·)

/-- A conversion that failed: the row, counted from 1, and the column of the value. -/
structure FieldError where
  row : Nat
  column : String
  cause : ConversionError
  deriving DecidableEq, Repr

/-- The error in words. -/
def FieldError.message (e : FieldError) : String :=
  "Error on row " ++ Text.natText e.row ++ " and column name '" ++ e.column ++ "': " ++
    e.cause.message

/-- A record. -/
structure Record where
  /-- The value of each field, in the order of declaration. -/
  values : List Value
  errors : List FieldError := []
  unmapped : NameMap Value := {}

/-- The record that has all fields at their defaults. -/
def RecordType.blank (r : RecordType) : Record := { values := r.fields.map (·.start) }

end GridQuery
