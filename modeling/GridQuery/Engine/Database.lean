-- The tables of one connection. Tables without a header row have a schema of
-- their own, and names are matched without regard to ASCII case.
import GridQuery.Grid.Table
import GridQuery.Reference.Table

namespace GridQuery

open GridQuery.Text

/-- A table of the database. -/
structure StoredTable where
  header : Bool
  name : String
  table : Table

/-- The tables that were created. -/
structure Database where
  tables : List StoredTable := []

/-- The value with its time of day cut to whole microseconds. -/
def Value.toMicros : Value → Value
  | .timestamp t => .timestamp { t with time := t.time.toMicros }
  | .time t => .time t.toMicros
  | v => v

/-- The value can be stored: no second 60 is written, and no year beyond 9999. -/
def Value.isStorable : Value → Bool
  | .date d => d.year ≤ 9999
  | .timestamp t => t.date.year ≤ 9999 && t.time.clockSecond < 60
  | .time t => t.clockSecond < 60
  | _ => true

namespace Database

/-- The stored table is the one that a reference names. -/
def isNamed (ref : TableRef) (t : StoredTable) : Bool :=
  t.header == ref.header && sameCaseless t.name ref.name

/-- The table that a reference names. -/
def find? (d : Database) (ref : TableRef) : Option Table :=
  (d.tables.find? (isNamed ref)).map (·.table)

/-- Creates a table, unless there is one of that name. -/
def create (d : Database) (ref : TableRef) (table : Table) : Except String Database :=
  if ref.name == "" then .error "zero-length delimited identifier"
  else if (d.find? ref).isSome then
    .error ("Table with name \"" ++ ref.name ++ "\" already exists!")
  else .ok { tables := d.tables ++ [⟨ref.header, ref.name, table⟩] }

/-- Loads a table: it is created empty, then its rows are stored, all or none. The database
that comes back is the one after the attempt. -/
def load (d : Database) (ref : TableRef) (table : Table) : Except String Unit × Database :=
  match d.create ref { table with rows := [] } with
  | .error e => (.error e, d)
  | .ok empty =>
    if table.rows.all fun row => row.all Value.isStorable then
      let stored := { table with rows := table.rows.map (·.map Value.toMicros) }
      match d.create ref stored with
      | .error e => (.error e, empty)
      | .ok full => (.ok (), full)
    else (.error "Could not convert a value to the type of its column", empty)

end Database

end GridQuery
