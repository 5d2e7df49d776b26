-- Expressions over the columns of a row: predicates, sort keys and the
-- members of constructed rows.
import GridQuery.Value.Basic

namespace GridQuery

/-- A comparison. -/
inductive CompareOp
  | eq
  | ne
  | lt
  | le
  | gt
  | ge
  deriving DecidableEq, Repr

/-- The comparison holds for two values that compare in this way. -/
def CompareOp.holds : CompareOp → Ordering → Bool
  | eq, o => o == .eq
  | ne, o => o != .eq
  | lt, o => o == .lt
  | le, o => o != .gt
  | gt, o => o == .gt
  | ge, o => o != .lt

/-- The operator in statement text. -/
def CompareOp.symbol : CompareOp → String
  | eq => "="
  | ne => "<>"
  | lt => "<"
  | le => "<="
  | gt => ">"
  | ge => ">="

/-- Where a part has to occur in a text. -/
inductive TextTest
  | startsWith
  | endsWith
  | contains
  deriving DecidableEq, Repr

/-- An expression over one row. -/
inductive Expr
  /-- A record field, read from the column it is mapped to. -/
  | field (name : String)
  /-- A column by its name. -/
  | column (name : String)
  | literal (value : Value)
  | compare (left : Expr) (op : CompareOp) (right : Expr)
  | and (left right : Expr)
  | or (left right : Expr)
  | not (operand : Expr)
  | isNull (operand : Expr)
  /-- Null or the empty text. -/
  | isNullOrEmpty (operand : Expr)
  | like (operand : Expr) (test : TextTest) (part : String)
  | isIn (operand : Expr) (values : List Value)
  | upper (operand : Expr)
  | lower (operand : Expr)
  | concat (parts : List Expr)

namespace Expr

/-- The operand is not null. -/
def isNotNull (operand : Expr) : Expr := not (isNull operand)

/-- Joins two texts. A concatenation on the left takes the other as its last part. -/
def append (left right : Expr) : Expr :=
  match left with
  | concat parts => concat (parts ++ [right])
  | first => concat [first, right]

end Expr

end GridQuery
