-- Connections to a source. Each has its own database; a table is loaded from
-- the source when it is first asked for and kept until the connection is
-- closed. Any engine will do; the backend is the one with the bundled engine.
import GridQuery.Backend
import GridQuery.Engine.Select
import GridQuery.Source.Basic

namespace GridQuery

/-- What an open connection holds. -/
structure OpenState (δ : Type) where
  source : OpenSource
  database : δ
  /-- The columns of the loaded tables, by qualified name. -/
  loaded : List (String × List String) := []

/-- A connection to one source. -/
structure Connection (δ : Type) where
  sourceName : String
  codePage : Nat
  opened : Option (OpenState δ) := none

/-- Sheet and range that a table reference stands for. -/
structure Extent where
  worksheet : String
  range : CellRange
  deriving DecidableEq, Repr

/-- The extent of a named range. -/
def OpenSource.namedExtent (s : OpenSource) (name : String) : Except Error Extent :=
  match s.definedNames.lookup name with
  | none => .error (.schema (.namedRangeNotFound name s.namedRanges))
  | some formula =>
    match readFormula? formula with
    | none => .error (.spreadsheet (.invalidNamedRange name formula))
    | some (worksheet, range) =>
      match formulaRange range with
      | .error e => .error (.range e)
      | .ok range => .ok ⟨worksheet, range⟩

/-- The extent of a table reference. -/
def OpenSource.extent (s : OpenSource) (t : TableRef) : Except Error Extent :=
  match t.namedRange with
  | some name => s.namedExtent name
  | none =>
    match t.cellRange with
    | .error e => .error (.range e)
    | .ok range => .ok ⟨t.worksheet, range⟩

/-- The table that a reference stands for; none if the source has no such worksheet. -/
def OpenSource.table? (s : OpenSource) (t : TableRef) : Except Error (Option Table) := do
  let extent ← s.extent t
  let sheet ← s.sheet? extent.worksheet
  return sheet.map fun sheet => Table.ofGrid (sheet.extract extent.range) t.header

namespace OpenState

variable {δ : Type}

/-- What a connection holds that was just opened. -/
def start [TableEngine δ] (s : OpenSource) : OpenState δ :=
  { source := s, database := TableEngine.start }

variable [TableEngine δ]

/-- Loads a table unless it is loaded, and gives its columns; none if the source has no such
worksheet. -/
def ensureLoaded (o : OpenState δ) (t : TableRef) :
    Reply (OpenState δ) (Option (List String)) :=
  let key := t.qualifiedName
  match o.loaded.lookup key with
  | some columns => { answer := .ok (some columns), state := o }
  | none =>
    match o.source.table? t with
    | .error e => { answer := .error e, state := o }
    | .ok none => { answer := .ok none, state := o }
    | .ok (some table) =>
      match TableEngine.load o.database t table with
      | (.error cause, database) =>
        { answer := .error ((Error.engine cause).during ("Cannot load table " ++ key))
          state := { o with database } }
      | (.ok (), database) =>
        { answer := .ok (some table.columnNames)
          log := [.loaded key table.rows.length]
          state := { o with database, loaded := (key, table.columnNames) :: o.loaded } }

/-- There is room for the rows of a table that is not loaded yet. -/
def hasRoom (o : OpenState δ) (t : TableRef) : Bool :=
  match o.loaded.lookup t.qualifiedName, o.source.extent t with
  | none, .ok extent =>
    match o.source.sheet? extent.worksheet with
    | .ok (some sheet) => sheet.height extent.range ≤ rowLimit
    | _ => true
  | _, _ => true

/-- The columns of a table. -/
def columnNames (o : OpenState δ) (sourceName : String) (t : TableRef) :
    Reply (OpenState δ) (List String) :=
  let reply := o.ensureLoaded t
  { log := reply.log
    state := reply.state
    answer := do
      match ← reply.answer with
      | some columns => return columns
      | none =>
        throw (.schema (.worksheetNotFound t.worksheet sourceName o.source.sheetNames
          ("Worksheet " ++ t.worksheet ++ " does not exist"))) }

/-- Runs a statement on its table. -/
def execute (o : OpenState δ) (s : Statement) : Reply (OpenState δ) ResultSet :=
  let reply := o.ensureLoaded s.table
  { log := reply.log
    state := reply.state
    answer := do
      let _ ← reply.answer
      (TableEngine.run reply.state.database s).mapError Error.engine }

end OpenState

namespace Connection

variable {δ : Type} [TableEngine δ]

/-- Opens the connection; an open one stays as it is. -/
def openUp (c : Connection δ) (source : Source) : Reply (Connection δ) Unit :=
  if c.opened.isSome then { answer := .ok (), state := c }
  else
    match source.access c.sourceName c.codePage with
    | .error e => { answer := .error e, state := c }
    | .ok s =>
      { answer := .ok ()
        log := [.opened c.sourceName]
        state := { c with opened := some (.start s) } }

/-- Closes the connection, if it is open. -/
def close (c : Connection δ) : Reply (Connection δ) Unit :=
  { answer := .ok ()
    log := if c.opened.isSome then [.closed c.sourceName] else []
    state := { c with opened := none } }

/-- Answers by what an open connection holds. -/
def whenOpen {α : Type} (c : Connection δ) (f : OpenState δ → Reply (OpenState δ) α) :
    Reply (Connection δ) α :=
  match c.opened with
  | none => { answer := .error (.connection .notOpen), state := c }
  | some o =>
    let reply := f o
    { answer := reply.answer, log := reply.log, state := { c with opened := some reply.state } }

/-- Answers a request. -/
def answer (c : Connection δ) (source : Source) :
    (request : Request) → Reply (Connection δ) request.Answer
  | .connect _ => { answer := .ok (), state := c }
  | .openUp => c.openUp source
  | .worksheetNames => c.whenOpen fun o => { answer := .ok o.source.sheetNames, state := o }
  | .namedRanges => c.whenOpen fun o => { answer := .ok o.source.namedRanges, state := o }
  | .columnNames table => c.whenOpen fun o => o.columnNames c.sourceName table
  | .execute statement => c.whenOpen fun o => o.execute statement
  | .close => c.close

end Connection

/-- The bundled engine: a source and the connections to it, by number. -/
structure Engine where
  source : Source
  connections : List (Nat × Connection Database) := []

namespace Engine

/-- The connection of a number; one that was never made is not open. -/
def connection (e : Engine) (number : Nat) : Connection Database :=
  (e.connections.lookup number).getD { sourceName := "", codePage := 0 }

/-- Puts a connection in the place of the one of its number. -/
def store (e : Engine) (number : Nat) (c : Connection Database) : Engine :=
  { e with connections := (number, c) :: e.connections.filter fun (n, _) => n != number }

/-- Answers a request to the connection of a number. -/
def answer (number : Nat) (request : Request) (e : Engine) : Reply Engine request.Answer :=
  let before : Connection Database :=
    match request with
    | .connect a => { sourceName := a.source, codePage := a.options.codePage }
    | _ => e.connection number
  let reply := before.answer e.source request
  { answer := reply.answer, log := reply.log, state := e.store number reply.state }

end Engine

/-- The bundled engine as a backend. -/
def engine : Backend Engine where
  isOpen number e := (e.connection number).opened.isSome
  answer := Engine.answer

end GridQuery
