-- The fewest decimal digits that read back as a given double. The reals that
-- round to the double form an interval; for one digit, two digits and so on
-- the two decimals next to the exact value are tried, and the first number of
-- digits with one of them in the interval is taken. Of two, the nearer is
-- taken, and the larger if both are as near.

namespace GridQuery.Number

/-- A decimal `coefficient · 10 ^ exponent`. -/
structure Decimal where
  coefficient : Nat
  exponent : Int
  deriving DecidableEq, Repr

/-- The positive reals that round to a double, in units of `2 ^ scale`. -/
structure RoundingInterval where
  /-- The double itself. -/
  value : Nat
  low : Nat
  high : Nat
  /-- The two ends round to the double as well. -/
  closed : Bool
  scale : Int

/-- The interval of `m · 2 ^ e`. Below a power of two the neighbour is half as far. -/
def RoundingInterval.of (m : Nat) (e : Int) : RoundingInterval :=
  { value := 4 * m
    low := if m = Nat.pow 2 52 ∧ -1074 < e then 4 * m - 1 else 4 * m - 2
    high := 4 * m + 2
    closed := m % 2 == 0
    scale := e - 2 }

/-- The numerator and the denominator of `2 ^ scale / 10 ^ exponent`. -/
def unitRatio (scale exponent : Int) : Nat × Nat :=
  (Nat.pow 2 scale.toNat * Nat.pow 10 (-exponent).toNat,
    Nat.pow 2 (-scale).toNat * Nat.pow 10 exponent.toNat)

/-- The decimal `c · 10 ^ exponent` rounds to the double. -/
def RoundingInterval.holds (i : RoundingInterval) (c : Nat) (exponent : Int) : Bool :=
  let (num, den) := unitRatio i.scale exponent
  if i.closed then decide (i.low * num ≤ c * den) && decide (c * den ≤ i.high * num)
  else decide (i.low * num < c * den) && decide (c * den < i.high * num)

/-- The decimal on the grid of `10 ^ exponent` that reads back, if there is one. -/
def RoundingInterval.onGrid (i : RoundingInterval) (exponent : Int) : Option Decimal :=
  let (num, den) := unitRatio i.scale exponent
  let below := i.value * num / den
  match i.holds below exponent, i.holds (below + 1) exponent with
  | false, false => none
  | true, false => some ⟨below, exponent⟩
  | false, true => some ⟨below + 1, exponent⟩
  | true, true =>
    if 2 * (i.value * num) < (2 * below + 1) * den then some ⟨below, exponent⟩
    else some ⟨below + 1, exponent⟩

/-- Tries finer and finer grids, at most `tries` of them. -/
def RoundingInterval.search (i : RoundingInterval) : Nat → Int → Decimal
  | 0, exponent =>
    let (num, den) := unitRatio i.scale exponent
    ⟨i.value * num / den, exponent⟩
  | tries + 1, exponent =>
    match i.onGrid exponent with
    | some d => d
    | none => i.search tries (exponent - 1)

/-- The number of decimal digits of a natural number; zero has one. -/
def digitCount (n : Nat) : Nat :=
  if n < 10 then 1 else digitCount (n / 10) + 1
termination_by n
decreasing_by omega

/-- The exponent of the first decimal digit of the double. -/
def RoundingInterval.leading (i : RoundingInterval) : Int :=
  if 0 ≤ i.scale then (digitCount (i.value * Nat.pow 2 i.scale.toNat) : Int) - 1
  else
    (digitCount (i.value * Nat.pow 10 (-i.scale).toNat / Nat.pow 2 (-i.scale).toNat) : Int) - 1 +
      i.scale

/-- The shortest decimal that reads back as `m · 2 ^ e`, for a positive `m`. -/
def shortest (m : Nat) (e : Int) : Decimal :=
  let i := RoundingInterval.of m e
  i.search 17 i.leading

end GridQuery.Number
