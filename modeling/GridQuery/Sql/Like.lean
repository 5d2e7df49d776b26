-- LIKE patterns: `%` is any run of characters, `_` any one character, and a
-- backslash takes the character after it as it is.
import GridQuery.Expr.Basic

namespace GridQuery.Sql

/-- One part of a pattern. -/
inductive LikePart
  /-- Any run of characters. -/
  | run
  /-- Any one character. -/
  | one
  | exactly (c : Char)
  deriving DecidableEq, Repr

/-- Reads a pattern. A backslash at the end stands for itself. -/
def readPattern : List Char → List LikePart
  | [] => []
  | '\\' :: c :: cs => .exactly c :: readPattern cs
  | '%' :: cs => .run :: readPattern cs
  | '_' :: cs => .one :: readPattern cs
  | c :: cs => .exactly c :: readPattern cs

/-- A text and all that is left of it when characters are taken off its front. -/
def suffixes : List Char → List (List Char)
  | [] => [[]]
  | c :: cs => (c :: cs) :: suffixes cs

/-- The parts match the whole text. -/
def matchesParts : List LikePart → List Char → Bool
  | [], text => text.isEmpty
  | .run :: parts, text => (suffixes text).any (matchesParts parts)
  | .one :: parts, text =>
    match text with
    | [] => false
    | _ :: rest => matchesParts parts rest
  | .exactly c :: parts, text =>
    match text with
    | [] => false
    | d :: rest => c == d && matchesParts parts rest

/-- The pattern matches the whole text. -/
def likeMatches (pattern text : List Char) : Bool := matchesParts (readPattern pattern) text

/-- The text with its wildcards taken as they are. -/
def escapeWildcards : List Char → List Char
  | [] => []
  | c :: cs =>
    if c = '\\' ∨ c = '%' ∨ c = '_' then '\\' :: c :: escapeWildcards cs
    else c :: escapeWildcards cs

/-- The pattern of a text test. -/
def likePattern (test : TextTest) (part : List Char) : List Char :=
  match test with
  | .startsWith => escapeWildcards part ++ ['%']
  | .endsWith => '%' :: escapeWildcards part
  | .contains => '%' :: escapeWildcards part ++ ['%']

end GridQuery.Sql
