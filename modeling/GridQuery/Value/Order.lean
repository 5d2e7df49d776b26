-- Comparing values. Null compares with nothing, and values compare only with
-- values of their kind, except that a date stands for its midnight beside a
-- timestamp and an integer for a double beside a double.
import GridQuery.Value.Basic

namespace GridQuery

/-- Compares two doubles as numbers; NaN compares with nothing. -/
def compareFloat (a b : Float) : Option Ordering :=
  if a < b then some .lt
  else if a == b then some .eq
  else if b < a then some .gt
  else none

/-- Compares two texts by their code points. -/
def compareText (a b : String) : Ordering :=
  if a < b then .lt else if a = b then .eq else .gt

namespace Value

/-- How two values compare, if they do. -/
def compare : Value → Value → Option Ordering
  | int a, int b => some (Ord.compare a.toInt b.toInt)
  | text a, text b => some (compareText a b)
  | bool a, bool b => some (Ord.compare a.toNat b.toNat)
  | date a, date b => some (a.compare b)
  | timestamp a, timestamp b => some (a.compare b)
  | date a, timestamp b => some ((Timestamp.midnight a).compare b)
  | timestamp a, date b => some (a.compare (Timestamp.midnight b))
  | time a, time b => some (a.compare b)
  | a, b => do compareFloat (← a.asFloat?) (← b.asFloat?)

end Value

end GridQuery
