-- Doubles as text. They are written with the fewest digits that read back,
-- never with an exponent and without a point on whole numbers. A reader takes
-- a sign, digits with an optional point, an optional exponent, and the words
-- for infinity and for what is no number.
import GridQuery.Number.Binary64
import GridQuery.Number.Shortest
import GridQuery.Text.Digits

namespace GridQuery.Number

open GridQuery.Text

/-- The decimal in positional notation. -/
def Decimal.positional (d : Decimal) : List Char :=
  if 0 ≤ d.exponent then decimal (d.coefficient * Nat.pow 10 d.exponent.toNat)
  else
    let places := (-d.exponent).toNat
    let whole := decimal (d.coefficient / Nat.pow 10 places)
    let part := decimalPadded places (d.coefficient % Nat.pow 10 places)
    match (part.reverse.dropWhile (· == '0')).reverse with
    | [] => whole
    | digits => whole ++ '.' :: digits

/-- The text of a double. -/
def floatText (x : Float) : String :=
  match exact x with
  | .nan => "NaN"
  | .infinite negative => if negative then "-inf" else "inf"
  | .finite negative m e =>
    let magnitude := if m = 0 then ['0'] else (shortest m e).positional
    String.ofList (if negative then '-' :: magnitude else magnitude)

/-- `n · 10 ^ e` rounded to a double. Far out of range the rounding is known
without computing the power. -/
def ofDecimal (n : Nat) (e : Int) : Float :=
  if n = 0 then 0
  else if 310 < (digitCount n : Int) + e then 1.0 / 0.0
  else if (digitCount n : Int) + e < -330 then 0
  else Float.ofScientific n (decide (e < 0)) e.natAbs

/-- Takes a sign off: true for a minus. -/
def takeSign : List Char → Bool × List Char
  | '-' :: cs => (true, cs)
  | '+' :: cs => (false, cs)
  | cs => (false, cs)

/-- The exponent at the end of a number: nothing, or `e`, a sign and digits. -/
def readExponent : List Char → Option Int
  | [] => some 0
  | c :: cs =>
    if c = 'e' ∨ c = 'E' then
      let (negative, digits) := takeSign cs
      if digits.isEmpty || !digits.all isAsciiDigit then none
      else some (signed negative (digitsValue digits))
    else none

/-- An unsigned number: digits with an optional point among, before or after them,
then an optional exponent. -/
def readMagnitude (cs : List Char) : Option Float := do
  let (whole, rest) := spanDigits cs
  let (part, rest) :=
    match rest with
    | '.' :: rest => spanDigits rest
    | rest => ([], rest)
  if whole.isEmpty && part.isEmpty then none
  let exponent ← readExponent rest
  return ofDecimal (digitsValue (whole ++ part)) (exponent - part.length)

/-- The word for infinity, in its short and its long form, or for what is no number. -/
def readWord (cs : List Char) : Option Float :=
  let word := cs.map Char.toLower
  if word = "inf".toList ∨ word = "infinity".toList then some (1.0 / 0.0)
  else if word = "nan".toList then some (0.0 / 0.0)
  else none

/-- Reads a double. White space is not skipped. -/
def readFloat (cs : List Char) : Option Float :=
  let (negative, rest) := takeSign cs
  ((readWord rest).or (readMagnitude rest)).map fun x => if negative then -x else x

end GridQuery.Number
