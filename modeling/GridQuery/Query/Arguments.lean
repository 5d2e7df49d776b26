-- The arguments of a query: its source, what part of the source it reads, and
-- the options under which it runs. The worksheet behind an index is looked up
-- on the first use and remembered.
import GridQuery.Error
import GridQuery.Reference.Cell
import GridQuery.Reference.Table
import GridQuery.Text.Path

namespace GridQuery

open GridQuery.Text

/-- How many threads the engine may use. -/
inductive Services
  | all
  /-- A single thread. -/
  | minimal
  deriving DecidableEq, Repr

/-- The name of a choice of services in a description of query arguments. -/
def Services.label : Services → String
  | all => "All"
  | minimal => "Minimal"

/-- What a query reads. -/
inductive Target
  /-- The worksheet called `Sheet1`. -/
  | standard
  | worksheet (name : String)
  /-- The worksheet at a place of the workbook, counted from 0. -/
  | position (index : Nat)
  | namedRange (name : String)
  deriving DecidableEq, Repr

namespace Target

/-- The name of the worksheet, if the target has one. -/
def worksheet? : Target → Option String
  | worksheet name => some name
  | _ => none

/-- The place of the worksheet, if the target has one. -/
def position? : Target → Option Nat
  | position index => some index
  | _ => none

/-- The named range, if the target is one. -/
def namedRange? : Target → Option String
  | namedRange name => some name
  | _ => none

end Target

/-- Options that hold for every query of a factory. -/
structure Options where
  strict : StrictMode := .off
  trim : TrimPolicy := .off
  /-- One connection is kept open across queries. -/
  reuse : Bool := false
  /-- Rows are mapped as they are pulled. -/
  lazy : Bool := false
  /-- Rows without a value are left out. -/
  skipEmpty : Bool := false
  /-- Only statements that read are run. -/
  readOnly : Bool := false
  /-- The code page of delimited text; 0 is the reader's own. -/
  codePage : Nat := 0
  services : Services := .all
  deriving DecidableEq, Repr

/-- The arguments of a query. -/
structure QueryArguments where
  source : String
  worksheetName : Option String := none
  /-- The place of a worksheet in the workbook, counted from 0. -/
  worksheetIndex : Option Nat := none
  namedRange : Option String := none
  startRange : Option String := none
  endRange : Option String := none
  noHeader : Bool := false
  options : Options := {}
  /-- The worksheet that was found. -/
  resolved : Option String := none
  deriving DecidableEq, Repr

/-- The mappings and transformations that all queries of a factory share. -/
structure Registry where
  mappings : ColumnMappings := {}
  transformations : Transformations := {}

/-- The worksheet of a query: known, or to be looked up by its place. -/
inductive WorksheetSource
  | known (name : String)
  | position (index : Nat)
  deriving DecidableEq, Repr

/-- The name at a place of the workbook. -/
def worksheetAt (index : Nat) (names : List String) : Except SchemaError String :=
  match names[index]? with
  | some name => .ok name
  | none => .error (.worksheetIndexOutOfRange index names.length)

/-- The source is read as delimited text. -/
def isCsvSource (source : String) : Bool := hasExtension source "csv"

namespace QueryArguments

/-! ## Building -/

/-- Reads the named worksheet. -/
def onWorksheet (a : QueryArguments) (name : String) : QueryArguments :=
  { a with worksheetName := some name, worksheetIndex := none, namedRange := none }

/-- Reads the worksheet at a place of the workbook. -/
def onPosition (a : QueryArguments) (index : Nat) : QueryArguments :=
  { a with worksheetIndex := some index, worksheetName := none, namedRange := none }

/-- Reads a named range. -/
def onNamedRange (a : QueryArguments) (name : String) : QueryArguments :=
  { a with namedRange := some name, worksheetName := none, worksheetIndex := none }

/-- Reads only the cells between two references. -/
def within (a : QueryArguments) (start stop : String) : QueryArguments :=
  { a with startRange := some start, endRange := some stop }

/-- Reads the first row as data, or as the header. -/
def withoutHeader (a : QueryArguments) (flag : Bool) : QueryArguments := { a with noHeader := flag }

/-- The source is delimited text. -/
def isCsv (a : QueryArguments) : Bool := isCsvSource a.source

/-- A range side that is present and is no cell reference. -/
def badSide (side : Option String) : Option String := side.filter fun s => !isCellReference s

/-- Accepts arguments that can be run, or says what is wrong with them first. -/
def build (a : QueryArguments) : Except ArgumentsError QueryArguments :=
  if isBlankText a.source then .error .missingSource
  else
    match badSide a.startRange, badSide a.endRange with
    | some s, _ => .error (.invalidRange "start range" s)
    | none, some s => .error (.invalidRange "end range" s)
    | none, none =>
      if a.isCsv && a.noHeader && (a.startRange.isSome || a.endRange.isSome) then
        .error .headerlessCsvRange
      else .ok a

/-- The arguments for another source. The worksheet has to be found again. -/
def withSource (a : QueryArguments) (source : String) : QueryArguments :=
  { a with source, resolved := none }

/-! ## The worksheet -/

/-- What is read. Where more than one is given, a place comes before a name, and both come before
a named range. -/
def target (a : QueryArguments) : Target :=
  match a.worksheetIndex, a.worksheetName, a.namedRange with
  | some index, _, _ => .position index
  | none, some name, _ => .worksheet name
  | none, none, some name => .namedRange name
  | none, none, none => .standard

/-- What is known of the worksheet without a look at the source. -/
def worksheetSource (a : QueryArguments) : WorksheetSource :=
  match a.resolved with
  | some name => .known name
  | none =>
    if a.isCsv then .known (baseName a.source)
    else
      match a.target with
      | .position index => .position index
      | .worksheet name => .known name
      | .namedRange _ => .known ""
      | .standard => .known "Sheet1"

/-- Finds the worksheet; `ask` lists the names of the source. The arguments that come back
remember what was found. -/
def findWorksheet {m : Type → Type} [Monad m] (a : QueryArguments)
    (ask : m (Except Error (List String))) : m (Except Error (String × QueryArguments)) :=
  match a.worksheetSource with
  | .known name => pure (.ok (name, { a with resolved := some name }))
  | .position index => do
    match ← ask with
    | .error e => return .error e
    | .ok names =>
      match worksheetAt index names with
      | .error e => return .error (.schema e)
      | .ok name => return .ok (name, { a with resolved := some name })

/-- The table that is read, on a worksheet that was found. -/
def tableOn (a : QueryArguments) (worksheet : String) : TableRef :=
  { worksheet
    namedRange := if a.isCsv then none else a.namedRange
    startRange := a.startRange
    endRange := a.endRange
    header := !a.noHeader }

/-! ## Description -/

/-- A flag in a description. -/
def flagText (flag : Bool) : String := if flag then "true" else "false"

/-- The arguments in the log, one entry after another. -/
def entries (a : QueryArguments) (r : Registry) : List String :=
  [ "Source: '" ++ a.source ++ "'"
  , "Worksheet Name: '" ++ ((a.resolved.or a.worksheetName).getD "") ++ "'"
  , "Worksheet Index: '" ++ ((a.worksheetIndex.map natText).getD "") ++ "'"
  , "Named Range: '" ++ a.namedRange.getD "" ++ "'"
  , "Start Range: '" ++ a.startRange.getD "" ++ "'"
  , "End Range: '" ++ a.endRange.getD "" ++ "'"
  , "No Header: " ++ flagText a.noHeader
  , "Column Mappings: '" ++
      joinWith ", " (r.mappings.entries.map fun (field, column) => field ++ " => " ++ column) ++ "'"
  , "Transformations: " ++ natText r.transformations.size
  , "Strict Mapping: " ++ a.options.strict.label
  , "Trim Spaces: " ++ a.options.trim.label
  , "Reuse Connection: " ++ flagText a.options.reuse
  , "Lazy: " ++ flagText a.options.lazy
  , "Skip Empty Rows: " ++ flagText a.options.skipEmpty
  , "Read Only: " ++ flagText a.options.readOnly
  , "Code Page: " ++ natText a.options.codePage
  , "Services: " ++ a.options.services.label ]

/-- The arguments in words. -/
def describe (a : QueryArguments) (r : Registry) : String := joinWith "; " (a.entries r)

end QueryArguments

end GridQuery
