-- Rounding of natural numbers to doubles. A number is cut to its first 53
-- binary digits and the last of them is raised if the rest is more than a half,
-- or a half and the digit is odd.
import GridQuery.Number.FloatText
import GridQuery.Proofs.Doubles
import GridQuery.Proofs.Numerals

namespace GridQuery.Number

open Float.Model Float.Model.UnpackedFloat GridQuery.Text

/-! ## To the nearest, to even between two -/

/-- `m / 2 ^ k` to the nearest natural number, the even one of two that are as near. -/
def roundEven (m k : Nat) : Nat :=
  if 2 * (m % 2 ^ k) < 2 ^ k then m / 2 ^ k
  else if 2 * (m % 2 ^ k) = 2 ^ k then m / 2 ^ k + m / 2 ^ k % 2
  else m / 2 ^ k + 1

theorem roundEven_bounds (m k : Nat) :
    m / 2 ^ k ≤ roundEven m k ∧ roundEven m k ≤ m / 2 ^ k + 1 := by
  unfold roundEven
  split
  · omega
  · split <;> omega

/-- Rounding looks at the ratio alone. -/
theorem roundEven_mul (m k j : Nat) : roundEven (m * 2 ^ j) (k + j) = roundEven m k := by
  have hpos : 0 < 2 ^ j := Nat.two_pow_pos j
  have hquotient : m * 2 ^ j / 2 ^ (k + j) = m / 2 ^ k := by
    rw [Nat.pow_add, Nat.mul_div_mul_right _ _ hpos]
  have hrest : m * 2 ^ j % 2 ^ (k + j) = m % 2 ^ k * 2 ^ j := by
    rw [Nat.pow_add, Nat.mul_mod_mul_right]
  have hless : 2 * (m % 2 ^ k * 2 ^ j) < 2 ^ k * 2 ^ j ↔ 2 * (m % 2 ^ k) < 2 ^ k := by
    rw [← Nat.mul_assoc]
    exact Nat.mul_lt_mul_right hpos
  have hequal : 2 * (m % 2 ^ k * 2 ^ j) = 2 ^ k * 2 ^ j ↔ 2 * (m % 2 ^ k) = 2 ^ k := by
    rw [← Nat.mul_assoc]
    exact Nat.mul_left_inj (Nat.ne_of_gt hpos)
  unfold roundEven
  rw [hquotient, hrest]
  simp only [Nat.pow_add, hless, hequal]

/-! ## Shifting one digit at a time -/

/-- What is left of `m` after `k` shifts: the quotient, whether the rest is a half at least, and
whether it is anything but nothing and a half. -/
structure Leaves (em : ExtendedMantissa) (m k : Nat) : Prop where
  quotient : em.mantissa = m / 2 ^ k
  round : em.roundBit = decide (2 ^ k ≤ 2 * (m % 2 ^ k))
  sticky : em.stickyBit = decide (m % 2 ^ k ≠ 0 ∧ 2 * (m % 2 ^ k) ≠ 2 ^ k)

theorem leaves_start (m : Nat) : Leaves (.ofMantissaAndAccuracy m .exact) m 0 := by
  refine ⟨?_, ?_, ?_⟩
  · simp [ExtendedMantissa.ofMantissaAndAccuracy]
  · simp [ExtendedMantissa.ofMantissaAndAccuracy, Nat.mod_one]
  · simp [ExtendedMantissa.ofMantissaAndAccuracy, Nat.mod_one]

theorem Leaves.shiftRightOne {em : ExtendedMantissa} {m k : Nat} (h : Leaves em m k) :
    Leaves em.shiftRightOne m (k + 1) := by
  have hrest : m % 2 ^ (k + 1) = m % 2 ^ k + 2 ^ k * (m / 2 ^ k % 2) := by
    rw [Nat.pow_succ, Nat.mod_mul]
  have hlt : m % 2 ^ k < 2 ^ k := Nat.mod_lt _ (Nat.two_pow_pos k)
  -- the digit that is shifted out says on which side of a half the rest is
  have hdigit : m / 2 ^ k % 2 = 0 ∨ m / 2 ^ k % 2 = 1 := Nat.mod_two_eq_zero_or_one _
  refine ⟨?_, ?_, ?_⟩
  · change em.mantissa / 2 = _
    rw [h.quotient, Nat.div_div_eq_div_mul, Nat.pow_succ]
  · change (em.mantissa % 2 != 0) = _
    rw [h.quotient, hrest, Nat.pow_succ, Bool.eq_iff_iff, bne_iff_ne, decide_eq_true_eq]
    rcases hdigit with hdigit | hdigit <;> rw [hdigit] <;> omega
  · change (em.roundBit || em.stickyBit) = _
    rw [h.round, h.sticky, hrest, Nat.pow_succ, ← Bool.decide_or, decide_eq_decide]
    rcases hdigit with hdigit | hdigit <;> rw [hdigit] <;> omega

theorem leaves_shiftRight (m k : Nat) :
    Leaves (ExtendedMantissa.ofMantissaAndAccuracy m .exact >>> k) m k := by
  induction k with
  | zero => exact leaves_start m
  | succ k ih => exact ih.shiftRightOne

theorem Leaves.roundedMantissa {em : ExtendedMantissa} {m k : Nat} (h : Leaves em m k) :
    em.roundedMantissa = roundEven m k := by
  obtain ⟨hquotient, hround, hsticky⟩ := h
  have hpos : 0 < 2 ^ k := Nat.two_pow_pos k
  obtain ⟨mantissa, round, sticky⟩ := em
  subst hquotient hround hsticky
  unfold ExtendedMantissa.roundedMantissa roundEven
  rcases Nat.lt_trichotomy (2 * (m % 2 ^ k)) (2 ^ k) with hless | hequal | hmore
  · have hround : ¬ 2 ^ k ≤ 2 * (m % 2 ^ k) := Nat.not_le.mpr hless
    rw [if_pos hless]
    by_cases hnone : m % 2 ^ k = 0
    · simp [hnone, ExtendedMantissa.accuracy, Accuracy.roundToNearestEven]
    · simp [hround, hnone, Nat.ne_of_lt hless, ExtendedMantissa.accuracy,
        Accuracy.roundToNearestEven]
  · simp [hequal, ExtendedMantissa.accuracy, Accuracy.roundToNearestEven]
  · have hround : 2 ^ k ≤ 2 * (m % 2 ^ k) := Nat.le_of_lt hmore
    have hsome : m % 2 ^ k ≠ 0 := by omega
    rw [if_neg (Nat.not_lt.mpr hround), if_neg (Nat.ne_of_gt hmore)]
    simp [hround, hsome, Nat.ne_of_gt hmore, ExtendedMantissa.accuracy,
      Accuracy.roundToNearestEven]

/-! ## The rounding of the model -/

section

variable {s : Sign} {m k : Nat} {e : Int}

theorem shiftToTargetExponent_eq (hk : (max (m.log2 + 1 + e - 53) (-1074) - e).toNat = k) :
    shiftToTargetExponent .binary64 m e .exact =
      (ExtendedMantissa.ofMantissaAndAccuracy m .exact >>> k, e + k) := by
  subst hk
  rfl

theorem div_bounds_of_log2 (h : m.log2 = 52 + k) : 2 ^ 52 ≤ m / 2 ^ k ∧ m / 2 ^ k < 2 ^ 53 := by
  have hpos : 0 < 2 ^ k := Nat.two_pow_pos k
  have hne : m ≠ 0 := by
    rintro rfl
    rw [Nat.log2_zero] at h
    omega
  obtain ⟨hlow, hhigh⟩ := (Nat.log2_eq_iff hne).mp h
  refine ⟨?_, ?_⟩
  · rw [Nat.le_div_iff_mul_le hpos, ← Nat.pow_add]
    exact hlow
  · rw [Nat.div_lt_iff_lt_mul hpos, ← Nat.pow_add]
    have hsum : 53 + k = 52 + k + 1 := by omega
    rwa [hsum]

/-- The number is cut and rounded, and cut again if that carried into a new digit. -/
theorem roundWithAccuracy_of_shifts {j : Nat}
    (hk : (max (m.log2 + 1 + e - 53) (-1074) - e).toNat = k)
    (hj : (max ((roundEven m k).log2 + 1 + (e + k) - 53) (-1074) - (e + k)).toNat = j)
    (hne : roundEven m k / 2 ^ j ≠ 0) :
    roundWithAccuracy .binary64 s m e .exact =
      .finite s (roundEven m k / 2 ^ j) (e + k + j) (Nat.pos_of_ne_zero hne) := by
  have hquotient := (leaves_shiftRight (roundEven m k) j).quotient
  have hcut : roundWithAccuracy .binary64 s m e .exact =
      let em := ExtendedMantissa.ofMantissaAndAccuracy (roundEven m k) .exact >>> j
      if h : em.mantissa = 0 then .zero s
      else .finite s em.mantissa (e + k + j) (Nat.pos_of_ne_zero h) := by
    unfold roundWithAccuracy
    rw [shiftToTargetExponent_eq hk]
    dsimp only
    rw [(leaves_shiftRight m k).roundedMantissa, shiftToTargetExponent_eq hj]
  rw [hcut]
  generalize ExtendedMantissa.ofMantissaAndAccuracy (roundEven m k) .exact >>> j = em at hquotient ⊢
  obtain ⟨mantissa, round, sticky⟩ := em
  dsimp only at hquotient ⊢
  subst hquotient
  exact dif_neg hne

/-- A number of 53 digits or more keeps the first of them, rounded. -/
theorem roundWithAccuracy_eq (h : m.log2 = 52 + k) (he : -1074 ≤ e + k) :
    ∃ q j hq, roundWithAccuracy .binary64 s m e .exact = .finite s q (e + k + (j : Nat)) hq ∧
      2 ^ 52 ≤ q ∧ q < 2 ^ 53 ∧ q * 2 ^ j = roundEven m k := by
  obtain ⟨hlow, hhigh⟩ := div_bounds_of_log2 h
  obtain ⟨hdown, hup⟩ := roundEven_bounds m k
  have hk : (max (m.log2 + 1 + e - 53) (-1074) - e).toNat = k := by omega
  by_cases hcarry : roundEven m k = 2 ^ 53
  · have hlog : (roundEven m k).log2 = 53 := by rw [hcarry, Nat.log2_two_pow]
    have hj : (max ((roundEven m k).log2 + 1 + (e + k) - 53) (-1074) - (e + k)).toNat = 1 := by
      rw [hlog]
      omega
    have hhalf : roundEven m k / 2 ^ 1 = 2 ^ 52 := by rw [hcarry]; rfl
    have hne : roundEven m k / 2 ^ 1 ≠ 0 := by omega
    refine ⟨_, 1, _, roundWithAccuracy_of_shifts hk hj hne, ?_, ?_, ?_⟩ <;> omega
  · have hlog : (roundEven m k).log2 = 52 := log2_eq (by omega) (by omega)
    have hj : (max ((roundEven m k).log2 + 1 + (e + k) - 53) (-1074) - (e + k)).toNat = 0 := by
      rw [hlog]
      omega
    have hwhole : roundEven m k / 2 ^ 0 = roundEven m k := Nat.div_one _
    have hne : roundEven m k / 2 ^ 0 ≠ 0 := by omega
    refine ⟨_, 0, _, roundWithAccuracy_of_shifts hk hj hne, ?_, ?_, ?_⟩ <;> omega

end

/-! ## Natural numbers as doubles -/

/-- A natural number as the nearest double, the even one of two: its first 53 digits, rounded. -/
def nearestDouble (n : Nat) : Nat := roundEven n (n.log2 - 52) * 2 ^ (n.log2 - 52)

theorem log2_mul_two_pow {n : Nat} (hn : n ≠ 0) (j : Nat) : (n * 2 ^ j).log2 = n.log2 + j := by
  have hpos : 0 < 2 ^ j := Nat.two_pow_pos j
  obtain ⟨hlow, hhigh⟩ := (Nat.log2_eq_iff hn).mp rfl
  refine (Nat.log2_eq_iff (Nat.mul_ne_zero hn (Nat.ne_of_gt hpos))).mpr ⟨?_, ?_⟩
  · rw [Nat.pow_add]
    exact Nat.mul_le_mul_right _ hlow
  · have hsum : n.log2 + j + 1 = n.log2 + 1 + j := by omega
    rw [hsum, Nat.pow_add]
    exact Nat.mul_lt_mul_of_pos_right hhigh hpos

theorem ofScientific_eq_round {n : Nat} (hn : n ≠ 0) :
    UnpackedFloat.ofScientific .binary64 n 0 =
      roundWithAccuracy .binary64 .positive (n * 2 ^ 53) (-53) .exact := by
  unfold UnpackedFloat.ofScientific
  have hlow : ¬ (0 : Int) < -(2 ^ 11 + (n.log2 : Int)) := by omega
  rw [dif_neg hn, if_neg (by decide), if_neg hlow, if_pos (Int.le_refl 0)]
  change roundWithAccuracy .binary64 .positive (n <<< 53 * 1) (-53) .exact = _
  rw [Nat.mul_one, Nat.shiftLeft_eq]

/-- A number beyond the doubles that count every integer becomes its nearest double. -/
theorem ofScientific_eq {n : Nat} (h : 2 ^ 53 ≤ n) :
    ∃ q e hq, Float.ofScientific n false 0 = ⟨.pack (.finite .positive q (e : Nat) hq)⟩ ∧
      2 ^ 52 ≤ q ∧ q < 2 ^ 53 ∧ q * 2 ^ e = nearestDouble n := by
  have hn : n ≠ 0 := by omega
  have hlog : 53 ≤ n.log2 := (Nat.le_log2 hn).mpr h
  have hdigits : (n * 2 ^ 53).log2 = 52 + (n.log2 + 1) := by
    rw [log2_mul_two_pow hn]
    omega
  obtain ⟨q, j, hq, hround, hlow, hhigh, hvalue⟩ :=
    roundWithAccuracy_eq (s := .positive) (e := -53) hdigits (by omega)
  have hexponent : (-53 : Int) + (n.log2 + 1 : Nat) + (j : Nat) = (n.log2 - 52 + j : Nat) := by
    omega
  have hsplit : n.log2 + 1 = n.log2 - 52 + 53 := by omega
  rw [hsplit, roundEven_mul] at hvalue
  rw [hexponent] at hround
  refine ⟨q, n.log2 - 52 + j, hq, ?_, hlow, hhigh, ?_⟩
  · have hslow : ¬ (n < 2 ^ 53 ∧ 0 ≤ 22) := by omega
    unfold Float.ofScientific Float.Model.ofScientific
    rw [dif_neg hslow]
    exact congrArg (fun u => Float.ofModel (.pack u)) ((ofScientific_eq_round hn).trans hround)
  · rw [nearestDouble, ← hvalue, Nat.pow_add, Nat.mul_assoc, Nat.mul_comm (2 ^ j)]

theorem roundScaled_ofNat (m e : Nat) : roundScaled m e = m * 2 ^ e := by
  unfold roundScaled
  rw [if_pos (Int.natCast_nonneg e), Int.toNat_natCast]
  rfl

/-- The exponents that leave 53 digits below a power of two. -/
theorem mul_two_pow_lt_iff {q e : Nat} (hlow : 2 ^ 52 ≤ q) (hhigh : q < 2 ^ 53) (bound : Nat) :
    q * 2 ^ e < 2 ^ (53 + bound) ↔ e ≤ bound := by
  constructor
  · intro hlt
    refine Nat.le_of_not_lt fun hlarge => Nat.lt_irrefl (q * 2 ^ e) (Nat.lt_of_lt_of_le hlt ?_)
    calc 2 ^ (53 + bound) ≤ 2 ^ (52 + e) := Nat.pow_le_pow_right (by decide) (by omega)
      _ = 2 ^ 52 * 2 ^ e := Nat.pow_add 2 52 e
      _ ≤ q * 2 ^ e := Nat.mul_le_mul_right _ hlow
  · intro he
    calc q * 2 ^ e < 2 ^ 53 * 2 ^ e := Nat.mul_lt_mul_of_pos_right hhigh (Nat.two_pow_pos e)
      _ ≤ 2 ^ 53 * 2 ^ bound := Nat.mul_le_mul_left _ (Nat.pow_le_pow_right (by decide) he)
      _ = 2 ^ (53 + bound) := (Nat.pow_add 2 53 bound).symm

/-- Digits that are read as a number of that size come to its nearest double, or to an infinite
one from `2 ^ 1024` on. -/
theorem nearest?_ofScientific {n : Nat} (h : 2 ^ 53 ≤ n) :
    nearest? (Float.ofScientific n false 0) =
      if nearestDouble n < 2 ^ 1024 then some (nearestDouble n : Int) else none := by
  obtain ⟨q, e, hq, hfloat, hlow, hhigh, hvalue⟩ := ofScientific_eq h
  have hexact := exact_pack_of_normal (s := .positive) hq hlow hhigh
    (Int.le_trans (by decide) (Int.natCast_nonneg e))
  have hbits : 1024 = 53 + 971 := rfl
  have hexponent : (e : Int) ≤ 971 ↔ e ≤ 971 := Int.ofNat_le
  unfold nearest?
  rw [hfloat, hexact, ← hvalue, hbits]
  simp only [mul_two_pow_lt_iff hlow hhigh, hexponent]
  by_cases he : e ≤ 971
  · simp only [if_pos he, roundScaled_ofNat]
    rfl
  · simp only [if_neg he]

/-- A number is not rounded below a power of two. -/
theorem two_pow_le_nearestDouble {n k : Nat} (hn : 2 ^ 52 ≤ n) (h : 2 ^ k ≤ n) :
    2 ^ k ≤ nearestDouble n := by
  have hne : n ≠ 0 := by omega
  have hlog : 52 ≤ n.log2 := (Nat.le_log2 hne).mpr hn
  have hk : k ≤ n.log2 := (Nat.le_log2 hne).mpr h
  have hdigits : n.log2 = 52 + (n.log2 - 52) := by omega
  have hkept := (div_bounds_of_log2 hdigits).1
  have hround := (roundEven_bounds n (n.log2 - 52)).1
  calc 2 ^ k ≤ 2 ^ n.log2 := Nat.pow_le_pow_right (by decide) hk
    _ = 2 ^ 52 * 2 ^ (n.log2 - 52) := by rw [← Nat.pow_add, ← hdigits]
    _ ≤ nearestDouble n := Nat.mul_le_mul_right _ (Nat.le_trans hkept hround)

/-! ## Digits as doubles -/

theorem digitCount_eq (n : Nat) : digitCount n = (decimal n).length := by
  induction n using decimal.induct with
  | case1 n hlt =>
    unfold digitCount decimal
    rw [if_pos hlt, if_pos hlt]
    rfl
  | case2 n hge ih =>
    unfold digitCount decimal
    rw [if_neg hge, if_neg hge, ih, List.length_append]
    rfl

/-- The number that digits denote comes to its nearest double however many they are. -/
theorem nearest?_ofDecimal {n : Nat} (h : 2 ^ 53 ≤ n) :
    nearest? (ofDecimal n 0) =
      if nearestDouble n < 2 ^ 1024 then some (nearestDouble n : Int) else none := by
  have hn : n ≠ 0 := by omega
  have hlow : ¬ (digitCount n : Int) + 0 < -330 := by omega
  unfold ofDecimal
  rw [if_neg hn, if_neg hlow]
  by_cases hlong : 310 < (digitCount n : Int) + 0
  · -- so many digits are beyond all doubles
    have hsize : 10 ^ 310 ≤ n := by
      refine Nat.le_of_not_lt fun hlt => ?_
      have hlength := length_decimal_le (by decide) hlt
      rw [← digitCount_eq] at hlength
      omega
    have hpow : 2 ^ 1024 ≤ 10 ^ 310 := by decide +kernel
    have hbeyond : ¬ nearestDouble n < 2 ^ 1024 :=
      Nat.not_lt.mpr (two_pow_le_nearestDouble (by omega) (Nat.le_trans hpow hsize))
    rw [if_pos hlong, if_neg hbeyond]
    decide +kernel
  · rw [if_neg hlong]
    exact nearest?_ofScientific h

/-! ## Around `2 ^ 63` -/

/-- Only the numbers up to half a step above `2 ^ 63` have it as their nearest double; those above
have a greater one. -/
theorem nearestDouble_cases {n : Nat} (h : 2 ^ 63 ≤ n) :
    (n ≤ 2 ^ 63 + 1024 ∧ nearestDouble n = 2 ^ 63) ∨
      (2 ^ 63 + 1024 < n ∧ 2 ^ 63 < nearestDouble n) := by
  have hn : n ≠ 0 := by omega
  have hlog : 63 ≤ n.log2 := (Nat.le_log2 hn).mpr h
  obtain ⟨hlow, hhigh⟩ := (Nat.log2_eq_iff hn).mp rfl
  by_cases hbinade : n.log2 = 63
  · unfold nearestDouble roundEven
    rw [hbinade] at hhigh ⊢
    split
    · omega
    · split <;> omega
  · have hlarge : 2 ^ 64 ≤ n := (Nat.le_log2 hn).mp (by omega)
    have hnearest := two_pow_le_nearestDouble (by omega) hlarge
    omega

end GridQuery.Number
