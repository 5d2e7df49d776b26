-- Queries as they are written: what is read, what is asked of it and what the
-- results are. A query can be extended and run any number of times.
import GridQuery.Mapping.Mapper
import GridQuery.Query.Arguments
import GridQuery.Query.Model

namespace GridQuery

/-- A query. -/
structure Query where
  arguments : QueryArguments
  item : ItemType := .row
  model : QueryModel := {}

namespace Query

/-- Keeps the rows that also meet this condition. -/
def filter (q : Query) (condition : Expr) : Query :=
  { q with model := { q.model with filters := q.model.filters ++ [condition] } }

/-- Sorts by a further key. -/
def orderBy (q : Query) (expr : Expr) (descending : Bool) : Query :=
  { q with model := { q.model with orderBy := q.model.orderBy ++ [⟨expr, descending⟩] } }

/-- Fills only the named fields. -/
def select (q : Query) (fields : List String) : Query :=
  { q with model := { q.model with projection := .fields fields } }

/-- Builds rows from named expressions. -/
def construct (q : Query) (members : List (String × Expr)) : Query :=
  { q with item := .row, model := { q.model with projection := .construct members } }

/-- Adds an operator on the result sequence. -/
def operator (q : Query) (op : ResultOp) : Query :=
  { q with model := { q.model with operators := q.model.operators ++ [op] } }

end Query

end GridQuery
