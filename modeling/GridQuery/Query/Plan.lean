-- Compiling a query: its operators are split up and its clauses written
-- before any source is touched; the table is filled in later.
import GridQuery.Query.Pipeline
import GridQuery.Query.Statement

namespace GridQuery

open GridQuery.Sql

/-- A compiled query that waits for its source table. -/
structure Plan where
  clauses : Clauses
  columns : List String
  aggregate : Option Aggregate
  projection : Projection
  deferred : Deferred
  element : Option ElementOp

namespace Plan

/-- The statement over a table. -/
def render (p : Plan) (table : TableRef) : Statement :=
  { clauses := p.clauses, table, columns := p.columns, scalar := p.aggregate.isSome }

/-- What an aggregate selects, and the columns it uses. -/
def ofAggregate (mappings : ColumnMappings) : Aggregate → Selection × List String
  | .count => (.count, [])
  | .longCount => (.count, [])
  | .sum e => (.fold .sum (e.toTerm mappings), e.columnUses mappings)
  | .min e => (.fold .min (e.toTerm mappings), e.columnUses mappings)
  | .max e => (.fold .max (e.toTerm mappings), e.columnUses mappings)

/-- The select list of the columns that members refer to; without any, all columns. -/
def ofMembers (mappings : ColumnMappings) (members : List (String × Expr)) :
    Selection × List String :=
  let uses := firstUses (members.flatMap fun (_, e) => e.columnUses mappings)
  (if uses.isEmpty then .all else .columns uses, uses)

/-- What a query selects, and the columns that this uses. -/
def select (mappings : ColumnMappings) (aggregate : Option Aggregate) (projection : Projection) :
    Except UnsupportedQuery (Selection × List String) :=
  match aggregate, projection with
  | some a, _ => .ok (ofAggregate mappings a)
  | none, .identity => .ok (.all, [])
  | none, .fields names =>
    if names.isEmpty then .error .noFields
    else
      let columns := firstUses (names.map mappings.resolve)
      .ok (.columns columns, columns)
  | none, .construct members => .ok (ofMembers mappings members)

/-- Compiles a query with the mappings of the moment. -/
def compile (model : QueryModel) (mappings : ColumnMappings) : Except UnsupportedQuery Plan := do
  let pipeline ← Pipeline.compile model.projection.isConstruct model.operators
  let (selection, selected) ← select mappings pipeline.aggregate model.projection
  let sortKeys := if pipeline.aggregate.isSome then [] else model.orderBy
  return {
    clauses := {
      selection
      distinct := pipeline.distinct
      filters := model.filters.map (Expr.toTerm mappings)
      order := sortKeys.map fun key => ⟨key.expr.toTerm mappings, key.descending⟩
      limit := if pipeline.aggregate.isSome then none else pipeline.limit }
    columns := firstUses (selected ++ model.filters.flatMap (Expr.columnUses mappings) ++
      sortKeys.flatMap fun key => key.expr.columnUses mappings)
    aggregate := pipeline.aggregate
    projection := model.projection
    deferred := pipeline.deferred
    element := pipeline.element }

end Plan

end GridQuery
