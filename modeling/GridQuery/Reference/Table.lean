-- The table a statement reads: a worksheet, a range of one, or a named range,
-- with or without a header row.
import GridQuery.Reference.Range
import GridQuery.Sql.Token

namespace GridQuery

open GridQuery.Text

/-- A reference to a source table. -/
structure TableRef where
  worksheet : String
  namedRange : Option String := none
  startRange : Option String := none
  endRange : Option String := none
  /-- The first row names the columns. -/
  header : Bool := true
  deriving DecidableEq, Repr

/-- The schema of the tables that have no header row. -/
def headerlessSchema : String := "noheader"

namespace TableRef

/-- The name of the table: `Sheet1`, `Sheet1$A2:D8` or the named range. -/
def name (t : TableRef) : String :=
  match t.namedRange with
  | some range => range
  | none =>
    match t.startRange, t.endRange with
    | none, none => t.worksheet
    | start, stop =>
      t.worksheet ++ "$" ++ asciiUpper (start.getD "") ++ ":" ++ asciiUpper (stop.getD "")

/-- The table in statement text. -/
def tokens (t : TableRef) : List Sql.Token :=
  if t.header then [.identifier t.name]
  else [.identifier headerlessSchema, .plain ".", .identifier t.name]

/-- The quoted name, with its schema. -/
def qualifiedName (t : TableRef) : String := String.ofList (Sql.textOf t.tokens)

/-- The bounds of the range that is read. -/
def cellRange (t : TableRef) : Except RangeError CellRange :=
  CellRange.between t.startRange t.endRange

end TableRef

end GridQuery
