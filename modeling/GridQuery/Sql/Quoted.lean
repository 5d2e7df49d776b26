-- Quoted names and literals: the text stands between two quotes, and a quote
-- inside it is written twice.

namespace GridQuery.Sql

/-- Writes every `mark` of a text twice. -/
def doubled (mark : Char) : List Char → List Char
  | [] => []
  | c :: cs => if c = mark then mark :: mark :: doubled mark cs else c :: doubled mark cs

/-- A text between two quotes. -/
def quoted (mark : Char) (cs : List Char) : List Char := mark :: doubled mark cs ++ [mark]

end GridQuery.Sql
