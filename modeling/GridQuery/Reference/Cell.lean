-- Cell references such as `D8`: column letters and a row number from 1.
-- Positions are pairs of a row and a column, both from 0.
import GridQuery.Reference.Column

namespace GridQuery

open GridQuery.Text

/-- Reads a reference of one to three letters and one to seven digits. Row 0 does not exist. -/
def readCell? (cs : List Char) : Option (Nat × Nat) := do
  let letters := cs.takeWhile isAsciiLetter
  let digits := cs.dropWhile isAsciiLetter
  if letters.isEmpty || 3 < letters.length then none
  if digits.isEmpty || 7 < digits.length || !digits.all isAsciiDigit then none
  let column ← columnIndex? letters
  if digitsValue digits = 0 then none
  return (digitsValue digits - 1, column - 1)

/-- The text is a cell reference. -/
def isCellReference (s : String) : Bool := (readCell? s.toList).isSome

/-- The letters of a column counted from 0. Columns from 2^63 on have none. -/
def columnLettersAt (column : Nat) : List Char :=
  if column < 9223372036854775807 then columnLetters (column + 1) else []

/-- The reference of a position. -/
def cellReference (row column : Nat) : String :=
  String.ofList (columnLettersAt column ++ decimal (row + 1))

end GridQuery
