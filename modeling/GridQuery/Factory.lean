-- Factories of queries over one source. The options of a factory hold for all
-- of its queries; mappings and transformations are shared by all of them, those
-- made before included.
import GridQuery.Session.Run

namespace GridQuery

/-- A factory over a backend with states `σ`. -/
structure Factory (σ : Type) where
  session : Session σ
  /-- The arguments that every query starts from. -/
  template : QueryArguments
  registry : Registry := {}
  /-- The record types whose declared columns were taken over. -/
  registered : List Nat := []

namespace Factory

variable {σ α : Type}

/-- A factory over the source of a name. -/
def ofSource (source : String) (options : Options) (state : σ) : Factory σ :=
  { session := { state }, template := { source, options } }

/-- Reads a field from a column in every query. -/
def addMapping (f : Factory σ) (field column : String) : Factory σ :=
  { f with registry := { f.registry with mappings := f.registry.mappings.insert field column } }

/-- Replaces the values of a field before conversion. -/
def addTransformation (f : Factory σ) (type field : String) (t : Transformation) : Factory σ :=
  { f with registry := { f.registry with
      transformations := f.registry.transformations.register type field t } }

/-- The mappings with the columns that a record type declares; mappings made before win. -/
def declare (m : ColumnMappings) (r : RecordType) : ColumnMappings :=
  r.declaredColumns.foldl (fun m (field, column) => ColumnMappings.insertAbsent m field column) m

/-- Takes over the declared columns of a result type, once per type. -/
def register (f : Factory σ) : ItemType → Factory σ
  | .record r =>
    if f.registered.contains r.id then f
    else
      { f with
        registry := { f.registry with mappings := declare f.registry.mappings r }
        registered := r.id :: f.registered }
  | _ => f

/-- Creates a query. The type is registered only if the arguments are accepted. -/
def create (f : Factory σ) (a : QueryArguments) (item : ItemType) :
    Except Error Query × Factory σ :=
  match a.build with
  | .error e => (.error (.arguments e), f)
  | .ok arguments => (.ok { arguments, item }, f.register item)

/-- Runs a step of the factory's session. -/
def run (f : Factory σ) (x : SessionM σ α) : Except Error α × Factory σ :=
  let (outcome, session) := ExceptT.run x |>.run f.session
  (outcome, { f with session })

/-- Runs a step on arguments that have to be accepted first. -/
def runOn (f : Factory σ) (a : QueryArguments) (x : QueryArguments → SessionM σ α) :
    Except Error α × Factory σ :=
  match a.build with
  | .error e => (.error (.arguments e), f)
  | .ok arguments => f.run (x arguments)

/-- The names of the worksheets. -/
def worksheetNames (b : Backend σ) (f : Factory σ) : Except Error (List String) × Factory σ :=
  f.runOn f.template (SessionM.worksheetNames b)

/-- The names of the ranges that users defined. -/
def namedRanges (b : Backend σ) (f : Factory σ) : Except Error (List String) × Factory σ :=
  f.runOn f.template (SessionM.namedRanges b)

/-- The columns of a worksheet. -/
def columnNames (b : Backend σ) (f : Factory σ) (worksheet : String) :
    Except Error (List String) × Factory σ :=
  f.runOn (f.template.onWorksheet worksheet) (SessionM.columnNames b)

/-- The columns of a named range. -/
def namedRangeColumnNames (b : Backend σ) (f : Factory σ) (name : String) :
    Except Error (List String) × Factory σ :=
  f.runOn (f.template.onNamedRange name) (SessionM.columnNames b)

/-- Closes the connection that is kept open across queries. -/
def close (b : Backend σ) (f : Factory σ) : Except Error Unit × Factory σ :=
  f.run (SessionM.closeKept b)

end Factory

end GridQuery
