-- Statements: the clauses of a SELECT around a source table, their text and
-- their parameters.
import GridQuery.Reference.Table
import GridQuery.Sql.Term

namespace GridQuery

open GridQuery.Sql

/-- A function over all rows. -/
inductive Fold
  | sum
  | min
  | max
  deriving DecidableEq, Repr

/-- The function in statement text. -/
def Fold.symbol : Fold → String
  | sum => "SUM"
  | min => "MIN"
  | max => "MAX"

/-- What a statement selects. -/
inductive Selection
  | all
  | columns (names : List String)
  /-- The number of rows. -/
  | count
  | fold (fold : Fold) (term : Term)

/-- The tokens of a select list. -/
def Selection.tokens : Selection → List Token
  | all => plain "*"
  | columns names => separated ", " (names.map fun name => [.identifier name])
  | count => plain "COUNT(*)"
  | fold f term => plain (f.symbol ++ "(") ++ term.tokens ++ plain ")"

/-- A sort key of a statement. -/
structure OrderTerm where
  term : Term
  descending : Bool

/-- The tokens of a sort key. -/
def OrderTerm.tokens (o : OrderTerm) : List Token :=
  o.term.tokens ++ plain (if o.descending then " DESC" else " ASC")

/-- The clauses of a statement. -/
structure Clauses where
  selection : Selection
  distinct : Bool := false
  /-- Conditions that all have to hold. -/
  filters : List Term := []
  order : List OrderTerm := []
  limit : Option Nat := none

namespace Clauses

/-- The WHERE clause. -/
def filterTokens (c : Clauses) : List Token :=
  if c.filters.isEmpty then []
  else plain " WHERE " ++ separated " AND " (c.filters.map Term.tokens)

/-- The ORDER BY clause. -/
def orderTokens (c : Clauses) : List Token :=
  if c.order.isEmpty then []
  else plain " ORDER BY " ++ separated ", " (c.order.map OrderTerm.tokens)

/-- The LIMIT clause. -/
def limitTokens (c : Clauses) : List Token :=
  match c.limit with
  | none => []
  | some n => plain (" LIMIT " ++ Text.natText n)

/-- The tokens of the statement over a table. -/
def tokens (c : Clauses) (table : TableRef) : List Token :=
  plain (if c.distinct then "SELECT DISTINCT " else "SELECT ") ++ c.selection.tokens ++
    plain " FROM " ++ table.tokens ++ c.filterTokens ++ c.orderTokens ++ c.limitTokens

end Clauses

/-- A statement ready to run. -/
structure Statement where
  clauses : Clauses
  table : TableRef
  /-- The source columns that the query refers to, in the order of their first use. -/
  columns : List String
  /-- The statement computes a single value. -/
  scalar : Bool

namespace Statement

/-- The tokens of a statement. -/
def tokens (s : Statement) : List Token := s.clauses.tokens s.table

/-- The text of a statement, with `?` for each parameter. -/
def text (s : Statement) : String := String.ofList (textOf s.tokens)

/-- The parameters, in the order of their placeholders. -/
def parameters (s : Statement) : List Value := parametersOf s.tokens

/-- A parameter in the log: numbers plain, null by name, all else in quotes. -/
def parameterText : Value → String
  | .null => "NULL"
  | .int n => (Value.int n).display
  | .float x => (Value.float x).display
  | v => "'" ++ v.display ++ "'"

/-- The parameters in the log, numbered from `index`. -/
def parameterTexts : Nat → List Value → String
  | _, [] => ""
  | index, v :: rest =>
    " p" ++ Text.natText index ++ " = " ++ parameterText v ++ ";" ++ parameterTexts (index + 1) rest

/-- The statement in the log: its text, then its parameters. -/
def display (s : Statement) : String :=
  if s.parameters.isEmpty then s.text
  else s.text ++ ";" ++ parameterTexts 0 s.parameters

end Statement

end GridQuery
