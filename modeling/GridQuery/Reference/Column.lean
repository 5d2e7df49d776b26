-- Column letters: `A` is 1, `Z` is 26, `AA` is 27. Every positive number has
-- exactly one spelling.
import GridQuery.Text.Ascii
import GridQuery.Text.Digits

namespace GridQuery

open GridQuery.Text

/-- Indexes of rows and columns are below this bound, which is 2^64. -/
def indexLimit : Nat := 18446744073709551616

/-- The letters of a column number; zero has none. -/
def columnLetters (n : Nat) : List Char :=
  if n = 0 then [] else columnLetters ((n - 1) / 26) ++ [Char.ofNat (65 + (n - 1) % 26)]
termination_by n
decreasing_by omega

/-- The place of a letter in the alphabet, from 1, in either case. -/
def letterValue (c : Char) : Nat := c.toUpper.toNat - 64

/-- Appends letters to a number. The first that leads beyond the indexes ends it. -/
def appendLetters : Nat → List Char → Option Nat
  | n, [] => some n
  | n, c :: cs =>
    let n' := 26 * n + letterValue c
    if n' < indexLimit then appendLetters n' cs else none

/-- The column number that a text spells in letters of either case. -/
def columnIndex? (letters : List Char) : Option Nat :=
  if letters.isEmpty || !letters.all isAsciiLetter then none else appendLetters 0 letters

end GridQuery
