-- Defined names: the formula behind a name, such as `'My Sheet'!$A$1:$C$5`,
-- and which names are shown to users.
import GridQuery.Reference.Range
import GridQuery.Text.Search

namespace GridQuery

open GridQuery.Text

/-- Two quotes are read as one. -/
def unquoteDoubled : List Char → List Char
  | '\'' :: '\'' :: cs => '\'' :: unquoteDoubled cs
  | c :: cs => c :: unquoteDoubled cs
  | [] => []

/-- A worksheet name as a formula writes it: in quotes, or plain. -/
def readSheetName (cs : List Char) : List Char :=
  match cs with
  | '\'' :: rest =>
    if rest.getLast? = some '\'' then unquoteDoubled rest.dropLast else cs
  | _ => cs

/-- Splits a formula into the worksheet and the range it refers to. -/
def readFormula? (formula : String) : Option (String × String) := do
  let (sheet, range) ← cutAtLast '!' (formula.toList.dropWhile (· == '='))
  return (String.ofList (readSheetName sheet), String.ofList (range.filter (· != '$')))

/-- The bounds that a formula's range text stands for: the lower bounds of the part before
the first colon and the upper bounds of the part after it. -/
def formulaRange (range : String) : Except RangeError CellRange :=
  match cutAtFirst ':' range.toList with
  | some (start, stop) => CellRange.between (some (String.ofList start)) (some (String.ofList stop))
  | none => CellRange.between (some range) (some range)

/-- Names that users defined; the ones a spreadsheet program adds are left out. -/
def isUserName (name : String) : Bool :=
  !contains name "FilterDatabase" && !contains name "Print_Area" && !contains name "Print_Titles"

end GridQuery
