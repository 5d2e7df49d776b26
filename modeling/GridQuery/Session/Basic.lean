-- Sessions: the state behind all queries of one factory, and requests to its
-- backend. Every request is kept on record.
import GridQuery.Backend

namespace GridQuery

/-- The state of a session over a backend with states `σ`. -/
structure Session (σ : Type) where
  /-- The state of the backend. -/
  state : σ
  /-- How many connections were asked for. -/
  connects : Nat := 0
  /-- The connection that is kept open across queries. -/
  persistent : Option Nat := none
  /-- The requests made so far. -/
  calls : List Call := []
  /-- The lines reported so far. -/
  log : List LogLine := []

/-- Steps of a session, which may fail. The state outlives a failure. -/
abbrev SessionM (σ : Type) := ExceptT Error (StateM (Session σ))

namespace SessionM

variable {σ α : Type}

/-- Reports a line. -/
def report (line : LogLine) : SessionM σ Unit :=
  modify fun s => { s with log := s.log ++ [line] }

/-- A step that may fail, as a step that gives the failure back. -/
def attempt (x : SessionM σ α) : SessionM σ (Except Error α) := ExceptT.mk (Except.ok <$> x.run)

/-- Makes a request and keeps it on record. -/
def ask (b : Backend σ) (connection : Nat) (request : Request) : SessionM σ request.Answer := do
  let s ← get
  let reply := b.answer connection request s.state
  set { s with
    state := reply.state
    calls := s.calls ++ [Call.mk connection request reply.answer.isOk]
    log := s.log ++ reply.log }
  match reply.answer with
  | .ok a => return a
  | .error e => throw e

end SessionM

end GridQuery
