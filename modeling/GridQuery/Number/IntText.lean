-- Reading 64-bit integers from text, with the cause if a text is refused.
import GridQuery.Number.Binary64
import GridQuery.Text.Digits

namespace GridQuery.Number

open GridQuery.Text

/-- Why a text is not a 64-bit integer. -/
inductive IntFault
  | empty
  | invalidDigit
  | tooLarge
  | tooSmall
  deriving DecidableEq, Repr

/-- Appends digits to a number, the digits counting downward if `negative`.
The first character that is no digit, or that leads out of range, ends it. -/
def appendDigits (negative : Bool) : Int → List Char → Except IntFault Int
  | n, [] => .ok n
  | n, c :: cs =>
    if isAsciiDigit c then
      let n' := 10 * n + signed negative (digitValue c)
      if fitsInt64 n' then appendDigits negative n' cs
      else .error (if negative then .tooSmall else .tooLarge)
    else .error .invalidDigit

/-- Reads an integer: an optional sign and at least one digit. -/
def readInt (cs : List Char) : Except IntFault Int :=
  match cs with
  | [] => .error .empty
  | '+' :: digits => if digits.isEmpty then .error .invalidDigit else appendDigits false 0 digits
  | '-' :: digits => if digits.isEmpty then .error .invalidDigit else appendDigits true 0 digits
  | digits => appendDigits false 0 digits

/-- Reads a 64-bit integer, if the text is one. -/
def readInt64 (cs : List Char) : Option Int64 :=
  match readInt cs with
  | .ok n => some (Int64.ofInt n)
  | .error _ => none

/-- The text of a 64-bit integer. -/
def int64Text (n : Int64) : String := intText n.toInt

end GridQuery.Number
