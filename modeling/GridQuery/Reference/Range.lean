-- Cell ranges such as `B2:D8`, `A:C` or `1:10`. A side that is not written,
-- and a side whose number is not an index, is unbounded.
import GridQuery.Reference.Column
import GridQuery.Text.DigitTable

namespace GridQuery

open GridQuery.Text

/-- The bounds of a range, counted from 0. -/
structure CellRange where
  rowLower : Option Nat := none
  rowUpper : Option Nat := none
  colLower : Option Nat := none
  colUpper : Option Nat := none
  deriving DecidableEq, Repr

/-- A text that is not a range, in the form in which it was read. -/
inductive RangeError
  | format (text : String)
  deriving DecidableEq, Repr

/-- The error in words. -/
def RangeError.message : RangeError → String
  | format text => "Invalid range format '" ++ text ++ "'"

/-- The index of a row number. -/
def rowIndex? (digits : List Char) : Option Nat :=
  if digits.isEmpty || !digits.all isAsciiDigit then none
  else
    let n := digitsValue digits
    if n = 0 ∨ indexLimit ≤ n then none else some (n - 1)

/-- The index of column letters. -/
def colIndex? (letters : List Char) : Option Nat := (columnIndex? letters).map (· - 1)

/-- One corner of a range as it is written: letters and digits, either of which may be missing. -/
structure Corner where
  letters : List Char
  digits : List Char

/-- Reads a corner; what follows it is left. -/
def readCorner (cs : List Char) : Corner × List Char :=
  let afterLetters := cs.dropWhile isAsciiCapital
  (⟨cs.takeWhile isAsciiCapital, afterLetters.takeWhile isDecimalDigit⟩,
    afterLetters.dropWhile isDecimalDigit)

/-- The form in which a range is read: without `$` and in capitals. -/
def rangeForm (s : String) : List Char :=
  (s.toList.filter (· != '$')).map Char.toUpper

namespace CellRange

/-- The range of one corner: it bounds both sides. -/
def single (c : Corner) : CellRange :=
  { rowLower := rowIndex? c.digits, rowUpper := rowIndex? c.digits
    colLower := colIndex? c.letters, colUpper := colIndex? c.letters }

/-- The range from one corner to another. -/
def corners (a b : Corner) : CellRange :=
  { rowLower := rowIndex? a.digits, rowUpper := rowIndex? b.digits
    colLower := colIndex? a.letters, colUpper := colIndex? b.letters }

/-- Reads a range: a corner, or two with a colon between them. -/
def read (s : String) : Except RangeError CellRange :=
  match readCorner (rangeForm s) with
  | (a, []) => .ok (single a)
  | (a, c :: rest) =>
    if c = ':' then
      match readCorner rest with
      | (b, []) => .ok (corners a b)
      | _ => .error (.format (String.ofList (rangeForm s)))
    else .error (.format (String.ofList (rangeForm s)))

/-- Reads a range that may be missing; a missing one is unbounded. -/
def readOptional : Option String → Except RangeError CellRange
  | none => .ok {}
  | some s => read s

/-- The range from the lower bounds of a start to the upper bounds of an end. -/
def between (start stop : Option String) : Except RangeError CellRange := do
  let first ← readOptional start
  let last ← readOptional stop
  return { rowLower := first.rowLower, colLower := first.colLower
           rowUpper := last.rowUpper, colUpper := last.colUpper }

end CellRange

end GridQuery
