-- What a statement means on a table: filters, then the order, the selected
-- columns, the removal of repeated rows and the limit, or a value computed
-- over all rows.
import GridQuery.Engine.Basic
import GridQuery.Engine.Database

namespace GridQuery.Select

open GridQuery.Sql GridQuery.Text

/-! ## Order -/

/-- Compares two doubles; NaN equals itself and is above all others. -/
def compareDouble (a b : Float) : Ordering :=
  if a.isNaN then if b.isNaN then .eq else .gt
  else if b.isNaN then .lt
  else (compareFloat a b).getD .eq

/-- Compares two values; null compares with nothing. Times of day count to the
microsecond. -/
def compare (a b : Value) : Option Ordering :=
  match a, b with
  | .float x, .float y => some (compareDouble x y)
  | .float x, .int n => some (compareDouble x (Float.ofInt n.toInt))
  | .int n, .float y => some (compareDouble (Float.ofInt n.toInt) y)
  | a, b => a.toMicros.compare b.toMicros

/-- How two sort keys are ordered. Nulls come last in both directions. -/
def compareKeys (descending : Bool) (a b : Value) : Ordering :=
  match a.isNull, b.isNull with
  | true, true => .eq
  | true, false => .gt
  | false, true => .lt
  | false, false =>
    let o := (compare a b).getD .eq
    if descending then o.swap else o

/-- The order of two rows by their lists of sort keys. -/
def compareAll : List (Bool × Value × Value) → Ordering
  | [] => .eq
  | (descending, a, b) :: rest => (compareKeys descending a b).then (compareAll rest)

/-- Two values count as one in a list of distinct rows. -/
def sameValue (a b : Value) : Bool := (a.isNull && b.isNull) || compare a b == some .eq

/-- Two rows count as one. -/
def sameRow (a b : List Value) : Bool :=
  a.length == b.length && (List.zipWith sameValue a b).all id

/-- The rows without those that repeat an earlier one. -/
def distinct : List (List Value) → List (List Value)
  | [] => []
  | row :: rows => row :: (distinct rows).filter fun other => !sameRow row other

/-! ## Columns -/

/-- The place of a column, matched without regard to ASCII case. -/
def place? (columns : List Column) (name : String) : Option Nat :=
  columns.findIdx? fun c => sameCaseless c.name name

/-- The value of a column in a row. -/
def valueOf (columns : List Column) (row : List Value) (name : String) : Value :=
  match place? columns name with
  | some i => cellAt row i
  | none => .null

/-- The value of an expression on a row. -/
def eval (columns : List Column) (row : List Value) (t : Term) : Value :=
  t.eval compare (valueOf columns row)

/-- The type of an expression; the literal null has none. -/
def typeOf (columns : List Column) : Term → Option ColumnType
  | .column name => (columns.find? fun c => sameCaseless c.name name).map (·.type)
  | .parameter (.float _) => some .double
  | .parameter (.text _) => some .varchar
  | .parameter v => ColumnType.of? v
  | .null => none
  | .upper _ => some .varchar
  | .lower _ => some .varchar
  | .concat _ => some .varchar
  | _ => some .boolean

/-! ## Values over all rows -/

/-- The sum of exact integers; beyond 64 bits it is the nearest double. -/
def sumExact (ns : List Int) : Value :=
  let total := ns.foldl (· + ·) 0
  if Number.fitsInt64 total then .int (Int64.ofInt total)
  else
    let size := Number.ofDecimal total.natAbs 0
    .float (if total < 0 then -size else size)

/-- The integer that a value adds to a sum. -/
def addend? : Value → Option Int
  | .int n => some n.toInt
  | .bool flag => some (if flag then 1 else 0)
  | _ => none

/-- The sum of the values of one type. Texts and moments have none. -/
def sum (type : Option ColumnType) (values : List Value) : Except String Value :=
  match type with
  | some .bigint => .ok (if values.isEmpty then .null else sumExact (values.filterMap addend?))
  | some .boolean => .ok (if values.isEmpty then .null else sumExact (values.filterMap addend?))
  | some .double =>
    .ok (if values.isEmpty then .null
      else .float ((values.filterMap Value.asFloat?).foldl (· + ·) 0))
  | none => .ok .null
  | some t =>
    .error ("No function matches the given name and argument types 'sum(" ++ t.label ++ ")'")

/-- The value that is kept when all others that compare as `o` with it are dropped. -/
def extreme (o : Ordering) : List Value → Value
  | [] => .null
  | v :: rest => rest.foldl (fun best v => if compare v best == some o then v else best) v

/-- The value of a function over all rows. Nulls do not count. -/
def fold (f : Fold) (type : Option ColumnType) (values : List Value) : Except String Value :=
  let present := values.filter fun v => !v.isNull
  match f with
  | .sum => sum type present
  | .min => .ok (extreme .lt present)
  | .max => .ok (extreme .gt present)

/-! ## Statements -/

/-- The first name in the clauses that is no column. -/
def unknownName? (columns : List Column) (c : Clauses) : Option String :=
  (identifiersOf (c.selection.tokens ++ c.filterTokens ++ c.orderTokens)).find? fun name =>
    (place? columns name).isNone

/-- Some parameter of the clauses has no counterpart in the engine. -/
def hasForeignParameter (c : Clauses) : Bool :=
  (parametersOf (c.selection.tokens ++ c.filterTokens ++ c.orderTokens)).any fun v => !v.isStorable

/-- The rows for which all conditions are true. -/
def filterRows (columns : List Column) (filters : List Term) (rows : List (List Value)) :
    List (List Value) :=
  rows.filter fun row => filters.all fun t => (eval columns row t).truth == some true

/-- The rows in order; rows with the same keys stay as they are. -/
def sortRows (columns : List Column) (order : List OrderTerm) (rows : List (List Value)) :
    List (List Value) :=
  if order.isEmpty then rows
  else
    let keyed := rows.map fun row => (order.map fun o => eval columns row o.term, row)
    let directions := order.map (·.descending)
    let sorted := keyed.mergeSort fun a b =>
      compareAll (directions.zip (a.1.zip b.1)) != .gt
    sorted.map (·.2)

/-- The selected columns of the rows. -/
def project (columns : List Column) (names : List String) (rows : List (List Value)) :
    ResultSet :=
  let places := names.filterMap (place? columns)
  { columns := places.filterMap fun i => columns[i]?.map (·.name)
    rows := rows.map fun row => places.map (cellAt row) }

/-- The rows without repetitions and within the limit. -/
def cut (c : Clauses) (r : ResultSet) : ResultSet :=
  let rows := if c.distinct then distinct r.rows else r.rows
  { r with rows := (c.limit.map rows.take).getD rows }

/-- The result of the clauses on a table with known columns. -/
def select (t : Table) (c : Clauses) : Except String ResultSet :=
  let rows := filterRows t.columns c.filters t.rows
  match c.selection with
  | .count => .ok ⟨["count_star()"], [[.int (Int64.ofNat rows.length)]]⟩
  | .fold f term => do
    let v ← fold f (typeOf t.columns term) (rows.map fun row => eval t.columns row term)
    return ⟨[f.symbol.toLower], [[v]]⟩
  | .all => .ok (cut c ⟨t.columnNames, sortRows t.columns c.order rows⟩)
  | .columns names => .ok (cut c (project t.columns names (sortRows t.columns c.order rows)))

/-- The result of a statement on a database, or the engine's complaint. -/
def run (d : Database) (s : Statement) : Except String ResultSet :=
  match d.find? s.table with
  | none => .error ("Table with name " ++ s.table.name ++ " does not exist!")
  | some t =>
    match unknownName? t.columns s.clauses with
    | some name =>
      .error ("Referenced column \"" ++ name ++ "\" not found in FROM clause! " ++ s.text)
    | none =>
      if hasForeignParameter s.clauses then
        .error ("Could not convert a parameter of the statement. " ++ s.text)
      else (select t s.clauses).mapError (· ++ " " ++ s.text)

/-- The bundled engine. -/
instance : TableEngine Database where
  start := {}
  load := Database.load
  run := run

end GridQuery.Select
