-- The expressions of statements: their tokens, and what they are worth on a
-- row. `Expr.toTerm` compiles a query expression to one.
import GridQuery.Expr.Evaluate
import GridQuery.Sql.Like
import GridQuery.Sql.Token

namespace GridQuery.Sql

/-- An expression of a statement. -/
inductive Term
  | column (name : String)
  | parameter (value : Value)
  | null
  | falsity
  | compare (left : Term) (op : CompareOp) (right : Term)
  | and (left right : Term)
  | or (left right : Term)
  | not (operand : Term)
  | isNull (operand : Term)
  | isNotNull (operand : Term)
  /-- The operand is null or equals the parameter. -/
  | isNullOr (operand : Term) (value : Value)
  | like (operand : Term) (pattern : String)
  /-- The operand is one of the parameters. -/
  | isIn (operand : Term) (values : List Value)
  | upper (operand : Term)
  | lower (operand : Term)
  | concat (parts : List Term)

/-- A single token of plain text. -/
def plain (text : String) : List Token := [.plain text]

/-! ## Tokens -/

namespace Term

mutual

/-- The tokens of an expression. -/
def tokens : Term → List Token
  | column name => [.identifier name]
  | parameter value => [.parameter value]
  | null => plain "NULL"
  | falsity => plain "FALSE"
  | compare left op right =>
    plain "(" ++ tokens left ++ plain (" " ++ op.symbol ++ " ") ++ tokens right ++ plain ")"
  | and left right => plain "(" ++ tokens left ++ plain " AND " ++ tokens right ++ plain ")"
  | or left right => plain "(" ++ tokens left ++ plain " OR " ++ tokens right ++ plain ")"
  | not operand => plain "(NOT " ++ tokens operand ++ plain ")"
  | isNull operand => plain "(" ++ tokens operand ++ plain " IS NULL)"
  | isNotNull operand => plain "(" ++ tokens operand ++ plain " IS NOT NULL)"
  | isNullOr operand value =>
    plain "(" ++ tokens operand ++ plain " IS NULL OR " ++ tokens operand ++ plain " = " ++
      [.parameter value] ++ plain ")"
  | like operand pattern =>
    plain "(" ++ tokens operand ++ plain " LIKE " ++ [.parameter (.text pattern)] ++
      plain " ESCAPE " ++ [.literal "\\"] ++ plain ")"
  | isIn operand values =>
    plain "(" ++ tokens operand ++ plain " IN (" ++
      separated ", " (values.map fun value => [.parameter value]) ++ plain "))"
  | upper operand => plain "UPPER(" ++ tokens operand ++ plain ")"
  | lower operand => plain "LOWER(" ++ tokens operand ++ plain ")"
  | concat parts => plain "CONCAT(" ++ separated ", " (tokensOfEach parts) ++ plain ")"

/-- The tokens of each of several expressions. -/
def tokensOfEach : List Term → List (List Token)
  | [] => []
  | part :: parts => tokens part :: tokensOfEach parts

end

/-! ## Meaning -/

/-- Membership: true if some candidate equals the value, unknown if the value or a
candidate is null, false otherwise. -/
def member (compare : Value → Value → Option Ordering) (v : Value) (candidates : List Value) :
    Truth :=
  if candidates.any fun candidate => compare v candidate == some .eq then some true
  else if v.isNull || candidates.any Value.isNull then none
  else some false

mutual

/-- The value of an expression on the row that `row` reads columns of. Values are compared
by `compare`. -/
def eval (compare : Value → Value → Option Ordering) (row : String → Value) : Term → Value
  | column name => row name
  | parameter value => value
  | null => .null
  | falsity => .bool false
  | .compare left op right =>
    Truth.toValue ((compare (eval compare row left) (eval compare row right)).map op.holds)
  | and left right =>
    ((eval compare row left).truth.and (eval compare row right).truth).toValue
  | or left right =>
    ((eval compare row left).truth.or (eval compare row right).truth).toValue
  | not operand => (eval compare row operand).truth.not.toValue
  | isNull operand => .bool (eval compare row operand).isNull
  | isNotNull operand => .bool (!(eval compare row operand).isNull)
  | isNullOr operand value =>
    (Truth.or (some (eval compare row operand).isNull)
      ((compare (eval compare row operand) value).map CompareOp.eq.holds)).toValue
  | like operand pattern =>
    ((eval compare row operand).testText (likeMatches pattern.toList)).toValue
  | isIn operand values => (member compare (eval compare row operand) values).toValue
  | upper operand => (eval compare row operand).mapText Text.upper
  | lower operand => (eval compare row operand).mapText Text.lower
  | concat parts => .text (evalJoined compare row parts)

/-- The texts of several expressions, joined; null adds nothing. -/
def evalJoined (compare : Value → Value → Option Ordering) (row : String → Value) :
    List Term → String
  | [] => ""
  | part :: parts => (eval compare row part).display ++ evalJoined compare row parts

end

end Term

end GridQuery.Sql

/-! ## Compiling expressions -/

namespace GridQuery.Expr

open GridQuery.Sql

/-- The literal null. -/
def isNullLiteral : Expr → Bool
  | literal .null => true
  | _ => false

/-- A comparison of two compiled sides. Equality with the literal null tests for null. -/
def compareTerm (op : CompareOp) (leftIsNull rightIsNull : Bool) (left right : Term) : Term :=
  match op, leftIsNull, rightIsNull with
  | .eq, _, true => .isNull left
  | .eq, true, false => .isNull right
  | .ne, _, true => .isNotNull left
  | .ne, true, false => .isNotNull right
  | op, _, _ => .compare left op right

mutual

/-- The expression in statement form, with fields resolved to columns. -/
def toTerm (mappings : ColumnMappings) : Expr → Term
  | field name => .column (mappings.resolve name)
  | column name => .column name
  | literal .null => .null
  | literal value => .parameter value
  | compare left op right =>
    compareTerm op left.isNullLiteral right.isNullLiteral (toTerm mappings left)
      (toTerm mappings right)
  | and left right => .and (toTerm mappings left) (toTerm mappings right)
  | or left right => .or (toTerm mappings left) (toTerm mappings right)
  | not operand => .not (toTerm mappings operand)
  | isNull operand => .isNull (toTerm mappings operand)
  | isNullOrEmpty operand => .isNullOr (toTerm mappings operand) (.text "")
  | like operand test part =>
    .like (toTerm mappings operand) (String.ofList (likePattern test part.toList))
  | isIn operand values =>
    if values.isEmpty then .falsity else .isIn (toTerm mappings operand) values
  | upper operand => .upper (toTerm mappings operand)
  | lower operand => .lower (toTerm mappings operand)
  | concat parts => .concat (toTerms mappings parts)

/-- Several expressions in statement form. -/
def toTerms (mappings : ColumnMappings) : List Expr → List Term
  | [] => []
  | part :: parts => toTerm mappings part :: toTerms mappings parts

end

end GridQuery.Expr
