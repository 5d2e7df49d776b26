-- Result sequences. A stream maps raw rows one at a time as they are pulled
-- and gives up its lease at its end; a sequence either pulls from a stream,
-- with rows left out at the front and a bound on their number, or hands out
-- results that were mapped before.
import GridQuery.Mapping.Mapper
import GridQuery.Query.Sequence
import GridQuery.Session.Lease

namespace GridQuery

/-! ## Streams -/

/-- A stream of mapped rows. -/
structure RowStream where
  /-- The raw rows that are left. -/
  rows : List (List Value)
  mapper : Mapper
  trim : Text.TrimPolicy
  skipEmpty : Bool
  /-- How many rows were mapped. -/
  row : Nat := 0
  /-- The lease, until it is given up. -/
  lease : Option Lease

/-- One pull: a result, a failure, or the end. -/
abbrev Pull := Option (Except FieldError Item)

/-- The row has no value. -/
def isBlankRow (cells : List Value) : Bool := cells.all Value.isEmpty

namespace RowStream

/-- Ends the stream. -/
def close (s : RowStream) : RowStream := { s with lease := none }

/-- The rows from the next one on that counts. -/
def pending (s : RowStream) : List (List Value) :=
  if s.skipEmpty then s.rows.dropWhile isBlankRow else s.rows

/-- Maps the next row, with the column mappings of the moment. The stream ends after the
last row and after a failure. -/
def next (m : ColumnMappings) (s : RowStream) : Pull × RowStream :=
  if s.lease.isNone then (none, s)
  else
    match s.pending with
    | [] => (none, { s with rows := [] }.close)
    | cells :: rest =>
      let after := { s with rows := rest, row := s.row + 1 }
      match s.mapper.map m s.trim (s.row + 1) cells with
      | .ok item => (some (.ok item), after)
      | .error e => (some (.error e), after.close)

end RowStream

/-! ## Sequences -/

/-- A sequence of results. -/
inductive Rows
  /-- Results still to be mapped: `skip` more are left out, then at most `bound` are given. -/
  | streaming (stream : RowStream) (skip : Nat) (bound : Option Nat)
  /-- Results that were mapped. -/
  | buffered (items : List Item)

/-- What came of leaving results out. -/
inductive Skipped
  | done
  /-- The stream ended before. -/
  | ended
  | failed (e : FieldError)

/-- Leaves out results at the front. What is returned first is how many are still to be
left out. -/
def RowStream.leaveOut (m : ColumnMappings) : Nat → RowStream → Nat × Skipped × RowStream
  | 0, s => (0, .done, s)
  | n + 1, s =>
    match s.next m with
    | (none, s) => (n + 1, .ended, s)
    | (some (.error e), s) => (n + 1, .failed e, s)
    | (some (.ok _), s) => leaveOut m n s

namespace Rows

/-- The lease that the sequence still holds. -/
def lease? : Rows → Option Lease
  | streaming s _ _ => s.lease
  | buffered _ => none

/-- Gives the next result of a stream, within the bound. -/
def nextWithin (m : ColumnMappings) (s : RowStream) : Option Nat → Pull × Rows
  | some 0 => (none, streaming s.close 0 (some 0))
  | some (n + 1) =>
    let (pull, s) := s.next m
    (pull, streaming s 0 (some n))
  | none =>
    let (pull, s) := s.next m
    (pull, streaming s 0 none)

/-- Gives the next result. -/
def next (m : ColumnMappings) : Rows → Pull × Rows
  | buffered [] => (none, buffered [])
  | buffered (item :: items) => (some (.ok item), buffered items)
  | streaming s skip bound =>
    match s.leaveOut m skip with
    | (_, .done, s) => nextWithin m s bound
    | (left, .ended, s) => (none, streaming s left bound)
    | (left, .failed e, s) => (some (.error e), streaming s left bound)

/-- Gives at most `count` results, up to the end or the first failure. -/
def pull (m : ColumnMappings) : Nat → Rows → Except FieldError (List Item) × Rows
  | 0, r => (.ok [], r)
  | n + 1, r =>
    match r.next m with
    | (none, r) => (.ok [], r)
    | (some (.error e), r) => (.error e, r)
    | (some (.ok item), r) =>
      let (items, r) := pull m n r
      (items.map (item :: ·), r)

/-- A number of pulls that reaches the end. -/
def span : Rows → Nat
  | streaming s _ _ => s.rows.length + 1
  | buffered items => items.length + 1

/-- Gives all results, or the first failure. -/
def drain (m : ColumnMappings) (r : Rows) : Except FieldError (List Item) × Rows :=
  r.pull m r.span

end Rows

end GridQuery
