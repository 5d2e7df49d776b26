-- Case in the ASCII range only. Table names, column names and file
-- extensions are matched this way; letters outside ASCII keep their case.

namespace GridQuery.Text

/-- The text with `A` to `Z` written as `a` to `z`. -/
def asciiLower (s : String) : String := String.ofList (s.toList.map Char.toLower)

/-- The text with `a` to `z` written as `A` to `Z`. -/
def asciiUpper (s : String) : String := String.ofList (s.toList.map Char.toUpper)

/-- Two texts are the same up to the case of ASCII letters. -/
def sameCaseless (a b : String) : Bool := asciiLower a == asciiLower b

/-- An ASCII letter of either case. -/
def isAsciiLetter (c : Char) : Bool :=
  ('a' ≤ c && c ≤ 'z') || ('A' ≤ c && c ≤ 'Z')

/-- An ASCII capital. -/
def isAsciiCapital (c : Char) : Bool := 'A' ≤ c && c ≤ 'Z'

/-- An ASCII decimal digit. -/
def isAsciiDigit (c : Char) : Bool := '0' ≤ c && c ≤ '9'

end GridQuery.Text
