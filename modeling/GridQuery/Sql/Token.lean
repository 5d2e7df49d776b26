-- The tokens of statement text. A parameter carries the value that its
-- placeholder stands for, so text and parameters cannot fall out of step.
import GridQuery.Sql.Quoted
import GridQuery.Value.Basic

namespace GridQuery.Sql

/-- One piece of statement text. -/
inductive Token
  /-- Keywords, operators, brackets and the spaces around them. -/
  | plain (text : String)
  /-- A quoted name. -/
  | identifier (name : String)
  /-- A quoted literal. -/
  | literal (text : String)
  /-- A placeholder. -/
  | parameter (value : Value)

namespace Token

/-- The characters of a token. -/
def chars : Token → List Char
  | plain text => text.toList
  | identifier name => quoted '"' name.toList
  | literal text => quoted '\'' text.toList
  | parameter _ => ['?']

/-- The value of a placeholder. -/
def value? : Token → Option Value
  | parameter v => some v
  | _ => none

/-- The name of an identifier. -/
def name? : Token → Option String
  | identifier name => some name
  | _ => none

end Token

/-- The text of a list of tokens. -/
def textOf (tokens : List Token) : List Char := tokens.flatMap Token.chars

/-- The values of the placeholders, in order. -/
def parametersOf (tokens : List Token) : List Value := tokens.filterMap Token.value?

/-- The names of the identifiers, in order. -/
def identifiersOf (tokens : List Token) : List String := tokens.filterMap Token.name?

/-- Lists of tokens with `separator` between them. -/
def separated (separator : String) : List (List Token) → List Token
  | [] => []
  | [tokens] => tokens
  | tokens :: rest => tokens ++ Token.plain separator :: separated separator rest

end GridQuery.Sql
