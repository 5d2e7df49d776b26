-- Column letters for any integer: only positive ones have any.
import GridQuery.Error
import GridQuery.Reference.Column

namespace GridQuery

/-- The letters of a column number. -/
def columnName (index : Int) : Except ArgumentsError String :=
  if index < 1 then
    .error (.invalidArgument
      ("Column index " ++ Text.intText index ++ " should be a positive integer"))
  else .ok (String.ofList (columnLetters index.toNat))

end GridQuery
