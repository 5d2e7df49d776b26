-- Decimal digits: a natural number as digits, digits as a natural number,
-- and the text of an integer.
import GridQuery.Text.Ascii

namespace GridQuery.Text

/-- The character of a digit below ten. -/
def digitChar (d : Nat) : Char := Char.ofNat (48 + d % 10)

/-- The value of a digit character. -/
def digitValue (c : Char) : Nat := c.toNat - 48

/-- A number in decimal, without leading zeros; zero is `0`. -/
def decimal (n : Nat) : List Char :=
  if n < 10 then [digitChar n] else decimal (n / 10) ++ [digitChar (n % 10)]
termination_by n
decreasing_by omega

/-- A number in decimal with at least `width` digits. -/
def decimalPadded (width n : Nat) : List Char :=
  List.replicate (width - (decimal n).length) '0' ++ decimal n

/-- The number that a run of digits denotes. -/
def digitsValue (cs : List Char) : Nat :=
  cs.foldl (fun n c => 10 * n + digitValue c) 0

/-- An integer in decimal, with a minus sign if negative. -/
def integer : Int → List Char
  | .ofNat n => decimal n
  | .negSucc n => '-' :: decimal (n + 1)

/-- The text of a natural number. -/
def natText (n : Nat) : String := String.ofList (decimal n)

/-- The text of an integer. -/
def intText (n : Int) : String := String.ofList (integer n)

/-- The longest run of ASCII digits at the start, and what follows it. -/
def spanDigits (cs : List Char) : List Char × List Char :=
  (cs.takeWhile isAsciiDigit, cs.dropWhile isAsciiDigit)

end GridQuery.Text
