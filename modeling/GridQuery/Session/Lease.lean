-- Leases: the hold of one query on an open connection. A query that owns its
-- connection closes it in the end; a shared one stays open for the next.
import GridQuery.Session.Basic

namespace GridQuery

/-- A hold on an open connection. -/
structure Lease where
  connection : Nat
  /-- The connection was opened for this lease alone. -/
  owned : Bool
  deriving DecidableEq, Repr

namespace SessionM

variable {σ α : Type}

/-- Makes the next connection and opens it. -/
def connect (b : Backend σ) (a : QueryArguments) : SessionM σ Nat := do
  let s ← get
  let connection := s.connects + 1
  set { s with connects := connection }
  ask b connection (.connect a)
  ask b connection .openUp
  return connection

/-- The connection kept open across queries, if it is still open. -/
def kept? (b : Backend σ) (s : Session σ) : Option Nat :=
  s.persistent.filter fun connection => b.isOpen connection s.state

/-- Takes hold of an open connection: the kept one where connections are reused, else a
new one. -/
def lease (b : Backend σ) (a : QueryArguments) : SessionM σ Lease := do
  if a.options.reuse then
    match kept? b (← get) with
    | some connection => return ⟨connection, false⟩
    | none =>
      let connection ← connect b a
      modify fun s => { s with persistent := some connection }
      return ⟨connection, false⟩
  else
    return ⟨← connect b a, true⟩

/-- Gives a lease up. An owned connection is closed; a failure to do so is only reported. -/
def release (b : Backend σ) (l : Lease) : SessionM σ Unit := do
  if l.owned then
    match ← attempt (ask b l.connection .close) with
    | .ok _ => return
    | .error e => report (.closeFailed e.message)

/-- Runs a step under a lease, which is given up if the step fails. -/
def guarding (b : Backend σ) (l : Lease) (x : SessionM σ α) : SessionM σ α := do
  match ← attempt x with
  | .ok a => return a
  | .error e =>
    release b l
    throw e

/-- Runs a step under a lease, which is given up afterwards. -/
def during (b : Backend σ) (l : Lease) (x : SessionM σ α) : SessionM σ α := do
  let a ← guarding b l x
  release b l
  return a

/-- Closes the kept connection. It is given up even if closing fails. -/
def closeKept (b : Backend σ) : SessionM σ Unit := do
  let s ← get
  match s.persistent with
  | none => return
  | some connection =>
    set { s with persistent := none }
    ask b connection .close

end SessionM

end GridQuery
