-- The program behind a source: what it is asked, and what it answers.
-- Connections are numbered from 1 in the order in which they are asked for.
import GridQuery.Log

namespace GridQuery

/-- The result of a statement. -/
structure ResultSet where
  columns : List String := []
  /-- The rows; their lengths may differ from the number of columns. -/
  rows : List (List Value) := []

/-- A request to a connection. -/
inductive Request
  /-- Makes the connection, which is not open yet. -/
  | connect (arguments : QueryArguments)
  | openUp
  | worksheetNames
  | namedRanges
  | columnNames (table : TableRef)
  | execute (statement : Statement)
  | close

/-- What a request is answered with. -/
abbrev Request.Answer : Request → Type
  | connect _ => Unit
  | openUp => Unit
  | worksheetNames => List String
  | namedRanges => List String
  | columnNames _ => List String
  | execute _ => ResultSet
  | close => Unit

/-- An answer, what was reported on the way and the state after it. -/
structure Reply (σ α : Type) where
  answer : Except Error α
  log : List LogLine := []
  state : σ

/-- A backend with states `σ`. -/
structure Backend (σ : Type) where
  /-- The connection of a number is open. -/
  isOpen : Nat → σ → Bool
  /-- Answers a request to the connection of a number. -/
  answer : Nat → (request : Request) → σ → Reply σ request.Answer

/-- A request that was made, and whether it was granted. -/
structure Call where
  connection : Nat
  request : Request
  granted : Bool

/-- What is asked, in words. -/
def Request.label : Request → String
  | connect _ => "connect"
  | openUp => "open"
  | worksheetNames => "worksheet_names"
  | namedRanges => "named_ranges"
  | columnNames _ => "column_names"
  | execute _ => "execute"
  | close => "close"

/-- What a request is about, in words. -/
def Request.subject? : Request → Option String
  | connect arguments => some arguments.source
  | columnNames table => some table.qualifiedName
  | execute statement => some statement.display
  | _ => none

/-- A call in words. -/
def Call.text (c : Call) : String :=
  Text.joinWith " " ([c.request.label, Text.natText c.connection] ++ c.request.subject?.toList)

end GridQuery
