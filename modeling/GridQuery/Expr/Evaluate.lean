-- What an expression is worth on one row.
import GridQuery.Expr.Basic
import GridQuery.Expr.Truth
import GridQuery.Mapping.Columns
import GridQuery.Text.Case
import GridQuery.Text.Search

namespace GridQuery

open GridQuery.Text

/-- The part occurs in the text where the test asks for it. -/
def TextTest.holds (test : TextTest) (part text : List Char) : Bool :=
  match test with
  | startsWith => part.isPrefixOf text
  | endsWith => part.isSuffixOf text
  | contains => occursIn part text

/-- Applies a text function; null stays null. -/
def Value.mapText (f : String → String) : Value → Value
  | .null => .null
  | v => .text (f v.display)

/-- Tests the text of a value; null is unknown. -/
def Value.testText (p : List Char → Bool) : Value → Truth
  | .null => none
  | v => some (p v.display.toList)

/-- The value compares equal to one of the candidates; null is unknown. -/
def Value.among (candidates : List Value) : Value → Truth
  | .null => none
  | v => some (candidates.any fun candidate => v.compare candidate == some .eq)

namespace Expr

mutual

/-- The value of an expression on the row that `row` reads columns of. -/
def evaluate (mappings : ColumnMappings) (row : String → Value) : Expr → Value
  | field name => row (mappings.resolve name)
  | column name => row name
  | literal value => value
  | compare left op right =>
    Truth.toValue
      (((evaluate mappings row left).compare (evaluate mappings row right)).map op.holds)
  | and left right =>
    ((evaluate mappings row left).truth.and (evaluate mappings row right).truth).toValue
  | or left right =>
    ((evaluate mappings row left).truth.or (evaluate mappings row right).truth).toValue
  | not operand => (evaluate mappings row operand).truth.not.toValue
  | isNull operand => .bool (evaluate mappings row operand).isNull
  | isNullOrEmpty operand => .bool (evaluate mappings row operand).isEmpty
  | like operand test part =>
    ((evaluate mappings row operand).testText (test.holds part.toList)).toValue
  | isIn operand values => ((evaluate mappings row operand).among values).toValue
  | upper operand => (evaluate mappings row operand).mapText Text.upper
  | lower operand => (evaluate mappings row operand).mapText Text.lower
  | concat parts => .text (evaluateJoined mappings row parts)

/-- The texts of several expressions, joined. -/
def evaluateJoined (mappings : ColumnMappings) (row : String → Value) : List Expr → String
  | [] => ""
  | part :: parts =>
    (evaluate mappings row part).display ++ evaluateJoined mappings row parts

end

/-! ## The columns an expression reads -/

mutual

/-- Every column reference, from left to right, repetitions included. -/
def columnUses (mappings : ColumnMappings) : Expr → List String
  | field name => [mappings.resolve name]
  | column name => [name]
  | literal _ => []
  | compare left _ right => columnUses mappings left ++ columnUses mappings right
  | and left right => columnUses mappings left ++ columnUses mappings right
  | or left right => columnUses mappings left ++ columnUses mappings right
  | not operand => columnUses mappings operand
  | isNull operand => columnUses mappings operand
  | isNullOrEmpty operand => columnUses mappings operand
  | like operand _ _ => columnUses mappings operand
  | isIn operand _ => columnUses mappings operand
  | upper operand => columnUses mappings operand
  | lower operand => columnUses mappings operand
  | concat parts => columnUsesAll mappings parts

/-- The column references of several expressions. -/
def columnUsesAll (mappings : ColumnMappings) : List Expr → List String
  | [] => []
  | part :: parts => columnUses mappings part ++ columnUsesAll mappings parts

end

end Expr

/-- Each name at its first place in the list. -/
def firstUses : List String → List String
  | [] => []
  | name :: names => name :: (firstUses names).filter (· != name)

end GridQuery
