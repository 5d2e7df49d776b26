-- Result operators are split into a part that the statement does (distinct
-- rows and a limit) and a part that is done afterwards: reverse, then skip,
-- then take, then an element operator. Operators are taken one at a time.
import GridQuery.Query.Model

namespace GridQuery

/-- Why a query cannot be compiled. -/
inductive UnsupportedQuery
  | afterEnd
  | skipAfterTake
  | reverseAfterSkip
  | lateDistinct
  | distinctConstruct
  | lateAggregate
  | aggregateConstruct
  | noFields
  deriving DecidableEq, Repr

/-- The reason in words. -/
def UnsupportedQuery.reason : UnsupportedQuery → String
  | afterEnd => "no operator may follow an aggregate or an element operator"
  | skipAfterTake => "skip cannot follow a take that runs after skip or reverse"
  | reverseAfterSkip => "reverse must come before skip and take"
  | lateDistinct => "distinct must come before skip, take and reverse"
  | distinctConstruct => "distinct cannot be combined with a constructed projection"
  | lateAggregate => "aggregates cannot follow skip, take, reverse or distinct"
  | aggregateConstruct => "aggregates cannot be combined with a constructed projection"
  | noFields => "a field projection needs at least one field"

/-- The error in words. -/
def UnsupportedQuery.message (e : UnsupportedQuery) : String := "Unsupported query: " ++ e.reason

/-- Operators done after the statement: reverse, then skip, then take. -/
structure Deferred where
  reverse : Bool := false
  skip : Nat := 0
  take : Option Nat := none
  deriving DecidableEq, Repr

/-- Nothing is left to do. -/
def Deferred.isEmpty (d : Deferred) : Bool := !d.reverse && d.skip == 0 && d.take.isNone

/-- The smaller of a bound that may be missing and a count. -/
def minBound (bound : Option Nat) (count : Nat) : Nat := (bound.map (min · count)).getD count

/-- The operators of a query, split up. -/
structure Pipeline where
  aggregate : Option Aggregate := none
  element : Option ElementOp := none
  deferred : Deferred := {}
  limit : Option Nat := none
  distinct : Bool := false

namespace Pipeline

/-- Lowers the limit of the statement to a count. -/
def limitTo (p : Pipeline) (count : Nat) : Pipeline :=
  { p with limit := some (minBound p.limit count) }

/-- Lowers the limit if nothing is done after the statement. -/
def limitIfDirect (p : Pipeline) (count : Nat) : Pipeline :=
  if p.deferred.isEmpty then p.limitTo count else p

/-- Adds an element operator. The first one and two rows decide `first` and `single`. -/
def pushElement (p : Pipeline) (op : ElementOp) : Pipeline :=
  match op with
  | .first _ => { p with element := some op }.limitIfDirect 1
  | .single _ => { p with element := some op }.limitIfDirect 2
  | .last _ => { p with element := some op }

/-- Adds an aggregate, which must see all rows. -/
def pushAggregate (construct : Bool) (p : Pipeline) (aggregate : Aggregate) :
    Except UnsupportedQuery Pipeline :=
  if !p.deferred.isEmpty || p.limit.isSome || p.distinct then .error .lateAggregate
  else if construct then .error .aggregateConstruct
  else .ok { p with aggregate := some aggregate }

/-- Adds a skip. -/
def pushSkip (p : Pipeline) (count : Nat) : Except UnsupportedQuery Pipeline :=
  if p.deferred.take.isSome then .error .skipAfterTake
  else .ok { p with deferred := { p.deferred with skip := p.deferred.skip + count } }

/-- Adds a take: to the statement's limit, unless something is done before it. -/
def pushTake (p : Pipeline) (count : Nat) : Pipeline :=
  if p.deferred.isEmpty then p.limitTo count
  else { p with deferred := { p.deferred with take := some (minBound p.deferred.take count) } }

/-- Adds a reversal; two cancel out. -/
def pushReverse (p : Pipeline) : Except UnsupportedQuery Pipeline :=
  if p.deferred.skip > 0 || p.deferred.take.isSome then .error .reverseAfterSkip
  else .ok { p with deferred := { p.deferred with reverse := !p.deferred.reverse } }

/-- Adds the removal of repeated rows. -/
def pushDistinct (construct : Bool) (p : Pipeline) : Except UnsupportedQuery Pipeline :=
  if !p.deferred.isEmpty || p.limit.isSome then .error .lateDistinct
  else if construct then .error .distinctConstruct
  else .ok { p with distinct := true }

/-- Adds one operator. `construct` tells that the results are constructed rows. -/
def push (construct : Bool) (p : Pipeline) (op : ResultOp) : Except UnsupportedQuery Pipeline :=
  if p.aggregate.isSome || p.element.isSome then .error .afterEnd
  else
    match op with
    | .aggregate aggregate => p.pushAggregate construct aggregate
    | .element op => .ok (p.pushElement op)
    | .skip count => p.pushSkip count
    | .take count => .ok (p.pushTake count)
    | .reverse => p.pushReverse
    | .distinct => p.pushDistinct construct

/-- Splits up a list of operators. -/
def compile (construct : Bool) (ops : List ResultOp) : Except UnsupportedQuery Pipeline :=
  ops.foldlM (push construct) {}

end Pipeline

end GridQuery
