-- The operators that run on the rows of a statement: reverse, skip and take
-- on a whole sequence, and picking one element.
import GridQuery.Query.Pipeline

namespace GridQuery

/-- Why an element operator has no element to give. -/
inductive SequenceError
  | noElements
  | moreThanOne
  deriving DecidableEq, Repr

/-- The error in words. -/
def SequenceError.message : SequenceError → String
  | noElements => "Sequence contains no elements"
  | moreThanOne => "Sequence contains more than one element"

/-- Applies the deferred operators to a whole sequence. -/
def Deferred.apply {α : Type} (d : Deferred) (items : List α) : List α :=
  let rest := (if d.reverse then items.reverse else items).drop d.skip
  match d.take with
  | some count => rest.take count
  | none => rest

namespace ElementOp

/-- The operator may find no element. -/
def orDefault : ElementOp → Bool
  | first d => d
  | last d => d
  | single d => d

/-- How many elements have to be looked at, if not all. -/
def reach : ElementOp → Option Nat
  | first _ => some 1
  | last _ => none
  | single _ => some 2

/-- Picks the element from the elements that were looked at. -/
def pick {α : Type} (op : ElementOp) (items : List α) : Except SequenceError (Option α) :=
  let chosen : Except SequenceError (Option α) :=
    match op with
    | first _ => .ok items.head?
    | last _ => .ok items.getLast?
    | single _ =>
      match items with
      | [] => .ok none
      | [x] => .ok (some x)
      | _ => .error .moreThanOne
  match chosen with
  | .ok none => if op.orDefault then .ok none else .error .noElements
  | outcome => outcome

end ElementOp

end GridQuery
