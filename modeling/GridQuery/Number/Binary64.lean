-- Doubles read exactly: each finite one is a natural number times a power
-- of two. Rounding to an integer is done on that exact value.

namespace GridQuery.Number

/-- The exact meaning of a double. -/
inductive Exact
  | nan
  | infinite (negative : Bool)
  /-- `significand · 2 ^ exponent`, negated if `negative`. -/
  | finite (negative : Bool) (significand : Nat) (exponent : Int)
  deriving DecidableEq, Repr

/-- Takes a double apart. -/
def exact (x : Float) : Exact :=
  let bits := x.toBits.toNat
  let negative := decide (Nat.pow 2 63 ≤ bits)
  let biased : Nat := bits / Nat.pow 2 52 % Nat.pow 2 11
  let fraction : Nat := bits % Nat.pow 2 52
  if biased = 2047 then
    if fraction = 0 then .infinite negative else .nan
  else if biased = 0 then .finite negative fraction (-1074)
  else .finite negative (Nat.pow 2 52 + fraction) ((biased : Int) - 1075)

/-- The value is finite. -/
def isFinite (x : Float) : Bool :=
  match exact x with
  | .finite .. => true
  | _ => false

/-- An integer with a sign put to its magnitude. -/
def signed (negative : Bool) (magnitude : Nat) : Int :=
  if negative then -(magnitude : Int) else magnitude

/-- `m · 2 ^ e` without its fraction. -/
def floorScaled (m : Nat) (e : Int) : Nat :=
  if 0 ≤ e then m * Nat.pow 2 e.toNat else m / Nat.pow 2 (-e).toNat

/-- `m · 2 ^ e` to the nearest integer, a half going up. -/
def roundScaled (m : Nat) (e : Int) : Nat :=
  if 0 ≤ e then m * Nat.pow 2 e.toNat
  else (2 * m + Nat.pow 2 (-e).toNat) / (2 * Nat.pow 2 (-e).toNat)

/-- The integer part of a finite double, toward zero. -/
def truncated? (x : Float) : Option Int :=
  match exact x with
  | .finite negative m e => some (signed negative (floorScaled m e))
  | _ => none

/-- The integer nearest to a finite double, halves going away from zero. -/
def nearest? (x : Float) : Option Int :=
  match exact x with
  | .finite negative m e => some (signed negative (roundScaled m e))
  | _ => none

/-- A finite double without a fraction. -/
def isWhole (x : Float) : Bool :=
  match exact x with
  | .finite _ m e => decide (0 ≤ e) || m % Nat.pow 2 (-e).toNat == 0
  | _ => false

/-- What is left of a double when its integer part is taken away. -/
def fraction (x : Float) : Float :=
  x - (if x < 0 then x.ceil else x.floor)

/-- The least 64-bit integer. -/
def leastInt64 : Int := -9223372036854775808

/-- The greatest 64-bit integer. -/
def greatestInt64 : Int := 9223372036854775807

/-- The integer is a 64-bit one. -/
def fitsInt64 (n : Int) : Bool := decide (leastInt64 ≤ n) && decide (n ≤ greatestInt64)

/-- The 64-bit integer nearest to `n`. -/
def clampInt64 (n : Int) : Int64 :=
  Int64.ofInt (max leastInt64 (min greatestInt64 n))

/-- The 64-bit integer nearest to the integer part of a double; NaN gives zero. -/
def toInt64 (x : Float) : Int64 :=
  match exact x with
  | .nan => 0
  | .infinite negative => clampInt64 (if negative then leastInt64 else greatestInt64)
  | .finite negative m e => clampInt64 (signed negative (floorScaled m e))

end GridQuery.Number
