-- What a query asks for: filters, the shape of its results, their order and
-- the operators on the result sequence.
import GridQuery.Expr.Basic

namespace GridQuery

/-- The shape of each result. -/
inductive Projection
  /-- Whole rows or records. -/
  | identity
  /-- Only the named fields. -/
  | fields (names : List String)
  /-- Rows built from named expressions. -/
  | construct (members : List (String × Expr))

/-- The results are constructed rows. -/
def Projection.isConstruct : Projection → Bool
  | construct _ => true
  | _ => false

/-- A sort key. -/
structure SortKey where
  expr : Expr
  descending : Bool := false

/-- A single value computed over all matching rows. -/
inductive Aggregate
  | count
  | longCount
  | sum (expr : Expr)
  | min (expr : Expr)
  | max (expr : Expr)

/-- An operator that picks one element; with a default it may find none. -/
inductive ElementOp
  | first (orDefault : Bool)
  | last (orDefault : Bool)
  | single (orDefault : Bool)
  deriving DecidableEq, Repr

/-- An operator on the result sequence. -/
inductive ResultOp
  | aggregate (aggregate : Aggregate)
  | element (op : ElementOp)
  | skip (count : Nat)
  | take (count : Nat)
  | reverse
  | distinct

/-- A complete query over one source table. -/
structure QueryModel where
  filters : List Expr := []
  projection : Projection := .identity
  orderBy : List SortKey := []
  operators : List ResultOp := []

end GridQuery
