-- Running queries: a query is compiled, given a connection and a table, and
-- its statement run. Whatever fails, an owned connection is closed.
import GridQuery.Query.Basic
import GridQuery.Query.Plan
import GridQuery.Session.Lease

namespace GridQuery

/-- A query that is compiled and has its connection and its table. -/
structure Prepared where
  plan : Plan
  statement : Statement
  lease : Lease

/-- A statement that was run. -/
structure Execution where
  plan : Plan
  lease : Lease
  result : ResultSet
  /-- All columns of the table. -/
  schema : List String

/-- The worksheet is to blame: the engine's message names it and the source does not list it. -/
def blamesWorksheet (worksheet cause : String) (available : List String) : Bool :=
  worksheet != "" && Text.contains cause worksheet && !available.contains worksheet

/-- The first column of a statement that the table does not have. -/
def missingColumn? (columns available : List String) : Option String :=
  columns.find? fun column => !available.contains column

/-- The mappings to columns that the table does not have, as lines of the log. -/
def missingColumns (mappings : ColumnMappings) (schema : List String) (table : TableRef) :
    List LogLine :=
  (mappings.entries.filter fun (_, column) => !schema.contains column).map fun (field, column) =>
    .columnMissing column field table.name

namespace SessionM

variable {σ α : Type}

/-- Turns a failure into an error of the query. -/
def lift (x : Except Error α) : SessionM σ α := ExceptT.mk (pure x)

/-- Finds the table of a query on a connection. The worksheet that was found is reported
with the arguments. -/
def findTable (b : Backend σ) (r : Registry) (a : QueryArguments) (l : Lease) :
    SessionM σ TableRef := do
  let (worksheet, found) ← lift =<< a.findWorksheet (attempt (ask b l.connection .worksheetNames))
  report (.prepared (found.describe r))
  return found.tableOn worksheet

/-- Compiles a query and finds its table. A query that does not compile asks for nothing. -/
def prepare (b : Backend σ) (r : Registry) (q : Query) : SessionM σ Prepared := do
  let plan ← lift ((Plan.compile q.model r.mappings).mapError Error.unsupported)
  let l ← lease b q.arguments
  let table ← guarding b l (findTable b r q.arguments l)
  return { plan, statement := plan.render table, lease := l }

/-- The worksheet error that explains a failed statement, if one does. -/
def explainWorksheet (b : Backend σ) (l : Lease) (a : QueryArguments) (s : Statement)
    (cause : String) : SessionM σ (Option Error) := do
  if s.table.worksheet != "" && Text.contains cause s.table.worksheet then
    match ← attempt (ask b l.connection .worksheetNames) with
    | .error _ => return none
    | .ok available =>
      if blamesWorksheet s.table.worksheet cause available then
        return some (.schema (.worksheetNotFound s.table.worksheet a.source available cause))
      else return none
  else return none

/-- The column error that explains a failed statement, if one does. -/
def explainColumn (b : Backend σ) (l : Lease) (s : Statement) : SessionM σ (Option Error) := do
  match ← attempt (ask b l.connection (.columnNames s.table)) with
  | .error _ => return none
  | .ok available =>
    return (missingColumn? s.columns available).map fun column =>
      .schema (.invalidColumn column available)

/-- What to say of a failed statement. Errors of the engine are explained by a worksheet or
a column that is missing, if one is; all others stay as they are. -/
def diagnose (b : Backend σ) (l : Lease) (a : QueryArguments) (s : Statement) (e : Error) :
    SessionM σ Error := do
  match e with
  | .engine cause =>
    match ← explainWorksheet b l a s cause with
    | some explained => return explained
    | none => return (← explainColumn b l s).getD e
  | _ => return e

/-- Runs a statement. A failure is explained. -/
def runStatement (b : Backend σ) (l : Lease) (a : QueryArguments) (s : Statement) :
    SessionM σ ResultSet := do
  match ← attempt (ask b l.connection (.execute s)) with
  | .ok result => return result
  | .error e => throw (← diagnose b l a s e)

/-- Runs the statement of a prepared query and looks at its table. -/
def runPrepared (b : Backend σ) (r : Registry) (a : QueryArguments) (p : Prepared) :
    SessionM σ Execution := do
  report (.executing p.statement.display)
  let result ← runStatement b p.lease a p.statement
  let schema ← ask b p.lease.connection (.columnNames p.statement.table)
  (missingColumns r.mappings schema p.statement.table).forM report
  return { plan := p.plan, lease := p.lease, result, schema }

/-- Compiles and runs a query. -/
def execute (b : Backend σ) (r : Registry) (q : Query) : SessionM σ Execution := do
  let p ← prepare b r q
  guarding b p.lease (runPrepared b r q.arguments p)

end SessionM

end GridQuery
