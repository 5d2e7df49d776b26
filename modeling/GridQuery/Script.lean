-- A backend that answers from a script, whatever it is asked. It stands in for
-- an engine where only the requests and their order matter.
import GridQuery.Backend

namespace GridQuery

/-- What the backend answers. -/
structure Script where
  worksheets : List String := []
  namedRanges : List String := []
  /-- Columns by the name of the table; the name `*` stands for all other tables. -/
  columns : List (String × List String) := []
  result : ResultSet := {}
  /-- Failures by the label of the request. -/
  failures : List (String × Error) := []

namespace Script

/-- The columns of a table. -/
def columnsOf (s : Script) (table : String) : List String :=
  ((s.columns.lookup table).or (s.columns.lookup "*")).getD []

/-- The answer to a request that does not fail. -/
def reply (s : Script) : (request : Request) → request.Answer
  | .connect _ => ()
  | .openUp => ()
  | .worksheetNames => s.worksheets
  | .namedRanges => s.namedRanges
  | .columnNames table => s.columnsOf table.name
  | .execute _ => s.result
  | .close => ()

/-- The answer to a request. -/
def answer (s : Script) (request : Request) : Except Error request.Answer :=
  match s.failures.lookup request.label with
  | some e => .error e
  | none => .ok (s.reply request)

end Script

/-- A scripted backend at work. -/
structure ScriptedState where
  script : Script
  /-- The connections that are open. -/
  opened : List Nat := []

namespace ScriptedState

/-- The state after a request: opening counts only if it is granted, closing always. -/
def after (s : ScriptedState) (connection : Nat) (request : Request) (granted : Bool) :
    ScriptedState :=
  match request with
  | .openUp => if granted then { s with opened := connection :: s.opened } else s
  | .close => { s with opened := s.opened.filter (· != connection) }
  | _ => s

/-- Breaks every connection made so far. -/
def breakAll (s : ScriptedState) : ScriptedState := { s with opened := [] }

end ScriptedState

/-- The backend that follows a script. -/
def scripted : Backend ScriptedState where
  isOpen connection s := s.opened.contains connection
  answer connection request s :=
    let answer := s.script.answer request
    { answer, state := s.after connection request answer.isOk }

end GridQuery
