-- Mappers turn the raw rows of a statement into results. A mapper is built
-- once per query from the result's columns; strict checks happen then.
import GridQuery.Expr.Evaluate
import GridQuery.Mapping.Record
import GridQuery.Mapping.Row
import GridQuery.Mapping.Transformation
import GridQuery.Query.Model

namespace GridQuery

/-- Which declared names must have a counterpart in the source. -/
inductive StrictMode
  | off
  /-- Every declared field needs a column. -/
  | fields
  /-- Every column needs a declared field. -/
  | columns
  | both
  deriving DecidableEq, Repr

namespace StrictMode

/-- The mode's name in a description of query arguments. -/
def label : StrictMode → String
  | off => "None"
  | fields => "FieldStrict"
  | columns => "ColumnStrict"
  | both => "Both"

/-- Fields are checked. -/
def checksFields (m : StrictMode) : Bool := m == fields || m == both

/-- Columns are checked. -/
def checksColumns (m : StrictMode) : Bool := m == columns || m == both

end StrictMode

/-- A declared name without a counterpart. -/
inductive StrictError
  | fieldNotMapped (field : String)
  | columnNotMapped (column : String)
  deriving DecidableEq, Repr

/-- The error in words. -/
def StrictError.message : StrictError → String
  | fieldNotMapped field => "'" ++ field ++ "' property is not mapped to a column"
  | columnNotMapped column => "'" ++ column ++ "' column is not mapped to a property"

/-- The type of a query's results. -/
inductive ItemType
  | row
  /-- Rows read without a header: cells by position. -/
  | cells
  | record (type : RecordType)

/-- A result. -/
inductive Item
  | row (row : Row)
  | cells (cells : List Value)
  | record (record : Record)

/-- What a mapper is built from. -/
structure MappingContext where
  /-- The columns of the result, in order. -/
  columns : List String
  /-- All columns of the source table. -/
  schema : List String
  mappings : ColumnMappings
  transformations : Transformations
  strict : StrictMode
  projection : Projection

/-- A field that is read from a column of the result. -/
structure Binding where
  /-- The place of the field in the record. -/
  field : Nat
  type : FieldType
  column : String
  /-- The place of the column in the result. -/
  index : Nat
  transformation : Option Transformation

/-- A mapper. -/
inductive Mapper
  | row (columns : List String)
  | cells
  | construct (source : List String) (members : List (String × Expr))
  | record (type : RecordType) (bindings : List Binding) (unmapped : List (Nat × String))

/-! ## Building mappers -/

/-- The projection takes the field into the result. -/
def Projection.takes (p : Projection) (field : String) : Bool :=
  match p with
  | .fields names => names.contains field
  | _ => true

namespace MappingContext

/-- The first declared field that has neither a column of its name nor a mapping. -/
def unmappedField? (c : MappingContext) (type : RecordType) : Option FieldDef :=
  type.fields.find? fun f =>
    c.projection.takes f.name && !c.schema.contains f.name && !c.mappings.contains f.name

/-- The first column that has neither a field of its name nor a mapping to it. -/
def unmappedColumn? (c : MappingContext) (type : RecordType) : Option String :=
  c.schema.find? fun column =>
    !(type.fields.any fun f => f.name == column) &&
      !ColumnMappings.containsColumn c.mappings column

/-- Checks the names that the strict mode asks for. -/
def checkStrict (c : MappingContext) (type : RecordType) : Except StrictError Unit :=
  match if c.strict.checksFields then c.unmappedField? type else none with
  | some f => .error (.fieldNotMapped f.name)
  | none =>
    match if c.strict.checksColumns then c.unmappedColumn? type else none with
    | some column => .error (.columnNotMapped column)
    | none => .ok ()

/-- The binding of the field at a place of the record, if the result has its column. -/
def bind? (c : MappingContext) (type : RecordType) (place : Nat) (f : FieldDef) : Option Binding :=
  if c.projection.takes f.name then
    let column := ColumnMappings.resolve c.mappings f.name
    (firstPosition? column c.columns).map fun index =>
      { field := place, type := f.type, column, index
        transformation := Transformations.find? c.transformations type.name f.name }
  else none

/-- The bindings of a record type, in the order of its fields. -/
def bindings (c : MappingContext) (type : RecordType) : List Binding :=
  type.fields.zipIdx.filterMap fun (f, place) => c.bind? type place f

/-- The columns that no binding reads, with their places. -/
def unboundColumns (c : MappingContext) (bindings : List Binding) : List (Nat × String) :=
  (c.columns.zipIdx.filter fun (_, i) => !(bindings.any fun b => b.index == i)).map Prod.swap

/-- The mapper of a query. -/
def mapper (c : MappingContext) : ItemType → Except StrictError Mapper
  | .cells => .ok .cells
  | .row =>
    match c.projection with
    | .construct members => .ok (.construct c.columns members)
    | _ => .ok (.row c.columns)
  | .record type =>
    match c.checkStrict type with
    | .error e => .error e
    | .ok () =>
      let bindings := c.bindings type
      .ok (.record type bindings (c.unboundColumns bindings))

end MappingContext

/-! ## Mapping rows -/

/-- The value for a field, or why there is none. -/
def Binding.read (b : Binding) (trim : Text.TrimPolicy) (cells : List Value) :
    Except ConversionError Value :=
  let raw := cellAt cells b.index
  let value : Except ConversionError Value :=
    match b.transformation with
    | none => .ok raw
    | some t =>
      match t raw.display with
      | .ok v => .ok v
      | .error text => .error (.transform text)
  match value with
  | .error e => .error e
  | .ok v => (v.convert b.type).map (·.trim trim)

/-- Fills the bound fields one after another. An error is collected, or ends the filling. -/
def fillFields (collect : Bool) (trim : Text.TrimPolicy) (row : Nat) (cells : List Value) :
    List Binding → Record → Except FieldError Record
  | [], record => .ok record
  | b :: rest, record =>
    match b.read trim cells with
    | .ok v =>
      fillFields collect trim row cells rest
        { record with values := record.values.set b.field v }
    | .error cause =>
      let e : FieldError := ⟨row, b.column, cause⟩
      if collect then
        fillFields collect trim row cells rest { record with errors := record.errors ++ [e] }
      else .error e

/-- The cells of the unbound columns by name; of several of one name, the last. -/
def collectCells (trim : Text.TrimPolicy) (cells : List Value) (unmapped : List (Nat × String)) :
    NameMap Value :=
  unmapped.foldl (fun m (i, name) => m.insert name ((cellAt cells i).trim trim)) {}

/-- The value of a column of the result for a member of a constructed row. -/
def sourceCell (source : List String) (cells : List Value) (column : String) : Value :=
  match lastPosition? column source with
  | some i => cellAt cells i
  | none => .null

/-- Maps one row, numbered from 1. Constructed rows resolve fields by the mappings given
here, at the moment of mapping. -/
def Mapper.map (m : Mapper) (mappings : ColumnMappings) (trim : Text.TrimPolicy) (row : Nat)
    (cells : List Value) : Except FieldError Item :=
  match m with
  | .cells => .ok (.cells (cells.map (·.trim trim)))
  | .row columns => .ok (.row (Row.of columns (cells.map (·.trim trim))))
  | .construct source members =>
    .ok (.row (Row.of (members.map (·.1))
      (members.map fun (_, e) => (e.evaluate mappings (sourceCell source cells)).trim trim)))
  | .record type bindings unmapped =>
    match fillFields type.collectsErrors trim row cells bindings type.blank with
    | .error e => .error e
    | .ok filled =>
      if type.collectsUnmapped then
        .ok (.record { filled with unmapped := collectCells trim cells unmapped })
      else .ok (.record filled)

end GridQuery
