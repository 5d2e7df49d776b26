-- The ways to take the results of a query: one at a time, all at once, a
-- single element, or a value computed over all rows.
import GridQuery.Session.Execution
import GridQuery.Session.Rows

namespace GridQuery

/-- The stream of an execution's rows. Strict modes are checked here. -/
def Execution.stream (x : Execution) (r : Registry) (q : Query) : Except StrictError RowStream := do
  let context : MappingContext :=
    { columns := x.result.columns
      schema := x.schema
      mappings := r.mappings
      transformations := r.transformations
      strict := q.arguments.options.strict
      projection := x.plan.projection }
  return { rows := x.result.rows
           mapper := ← context.mapper q.item
           trim := q.arguments.options.trim
           skipEmpty := q.arguments.options.skipEmpty
           lease := some x.lease }

/-- The value of an aggregate: the first cell of the first row, or null. -/
def ResultSet.scalar (s : ResultSet) : Value := (s.rows.head?.bind List.head?).getD .null

/-- A count as a 64-bit integer. What is not a number counts as zero. -/
def countOf : Value → Int64
  | .int n => n
  | .float x => Number.toInt64 x
  | _ => 0

namespace SessionM

variable {σ : Type}

/-- Gives up a lease that may have been given up before. -/
def releaseHeld (b : Backend σ) (l : Option Lease) : SessionM σ Unit := l.toList.forM (release b)

/-- Throws the failure of a row. -/
def liftField {α : Type} (x : Except FieldError α) : SessionM σ α := lift (x.mapError Error.field)

/-! ## Sequences -/

/-- The results of a stream: as a sequence that is mapped while it is pulled, or mapped
here. Reversed results are always mapped here. -/
def sequence (b : Backend σ) (m : ColumnMappings) (isLazy : Bool) (d : Deferred)
    (s : RowStream) : SessionM σ Rows := do
  if isLazy && !d.reverse then return .streaming s d.skip d.take
  else
    let (items, _) := (Rows.streaming s 0 none).drain m
    releaseHeld b s.lease
    return .buffered (d.apply (← liftField items))

/-- Runs a query and gives its results as a sequence. -/
def resultsOf (b : Backend σ) (r : Registry) (q : Query) (isLazy : Bool) : SessionM σ Rows := do
  let x ← execute b r q
  let s ← guarding b x.lease (lift ((x.stream r q).mapError Error.strict))
  sequence b r.mappings isLazy x.plan.deferred s

/-- The results of a query, mapped when the query says. -/
def iterate (b : Backend σ) (r : Registry) (q : Query) : SessionM σ Rows :=
  resultsOf b r q q.arguments.options.lazy

/-- Pulls the next result of a sequence. The lease is released when the sequence gives it
up. -/
def pullNext (b : Backend σ) (m : ColumnMappings) (rows : Rows) : SessionM σ (Pull × Rows) := do
  let (pull, after) := rows.next m
  if after.lease?.isNone then releaseHeld b rows.lease?
  return (pull, after)

/-- Gives a sequence up. -/
def drop (b : Backend σ) (rows : Rows) : SessionM σ Unit := releaseHeld b rows.lease?

/-- All results of a query. -/
def toList (b : Backend σ) (r : Registry) (q : Query) : SessionM σ (List Item) := do
  let rows ← iterate b r q
  let (items, _) := rows.drain r.mappings
  releaseHeld b rows.lease?
  liftField items

/-! ## Elements -/

/-- One element of a query's results. -/
def element (b : Backend σ) (r : Registry) (q : Query) (op : ElementOp) :
    SessionM σ (Option Item) := do
  let rows ← resultsOf b r (q.operator (.element op)) true
  let (items, _) := rows.pull r.mappings (op.reach.getD rows.span)
  releaseHeld b rows.lease?
  lift ((op.pick (← liftField items)).mapError Error.sequence)

/-- One element of a query's results, which has to exist. -/
def requiredElement (b : Backend σ) (r : Registry) (q : Query) (op : ElementOp) :
    SessionM σ Item := do
  match ← element b r q op with
  | some item => return item
  | none => throw (.sequence .noElements)

/-! ## Values over all rows -/

/-- The value of an aggregate. -/
def aggregate (b : Backend σ) (r : Registry) (q : Query) (a : Aggregate) : SessionM σ Value := do
  let x ← execute b r (q.operator (.aggregate a))
  release b x.lease
  return x.result.scalar

/-- The number of rows. -/
def longCount (b : Backend σ) (r : Registry) (q : Query) : SessionM σ Int64 :=
  countOf <$> aggregate b r q .longCount

/-- The number of rows as a natural number; a negative answer counts as zero. -/
def count (b : Backend σ) (r : Registry) (q : Query) : SessionM σ Nat :=
  (fun v => (countOf v).toInt.toNat) <$> aggregate b r q .count

/-! ## Without running -/

/-- The statement of a query. -/
def statement (b : Backend σ) (r : Registry) (q : Query) : SessionM σ Statement := do
  let p ← prepare b r q
  release b p.lease
  return p.statement

/-! ## The source -/

/-- The names of the worksheets. -/
def worksheetNames (b : Backend σ) (a : QueryArguments) : SessionM σ (List String) := do
  let l ← lease b a
  during b l (ask b l.connection .worksheetNames)

/-- The names of the ranges that users defined. -/
def namedRanges (b : Backend σ) (a : QueryArguments) : SessionM σ (List String) := do
  let l ← lease b a
  during b l (ask b l.connection .namedRanges)

/-- The columns of the table that the arguments read. -/
def columnNames (b : Backend σ) (a : QueryArguments) : SessionM σ (List String) := do
  let l ← lease b a
  during b l do
    let (worksheet, found) ← lift =<< a.findWorksheet (attempt (ask b l.connection .worksheetNames))
    ask b l.connection (.columnNames (found.tableOn worksheet))

end SessionM

end GridQuery
