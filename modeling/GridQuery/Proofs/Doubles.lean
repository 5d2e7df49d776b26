-- Doubles and their meaning. What is read from the bits of a double is what the
-- model of floating point takes it apart into, so an operation of the model is
-- known by what it does to numbers with a sign, a significand and an exponent.
import GridQuery.Number.Binary64
import Mathlib.Algebra.Group.Nat.Defs

namespace GridQuery.Number

open Float.Model Float.Model.UnpackedFloat

/-- The sign is a minus. -/
def isMinus : Sign → Bool
  | .negative => true
  | .positive => false

/-- The meaning of a double that was taken apart. -/
def Exact.of : UnpackedFloat → Exact
  | .notANumber => .nan
  | .infinity s => .infinite (isMinus s)
  | .zero s => .finite (isMinus s) 0 (-1074)
  | .finite s m e _ => .finite (isMinus s) m e

section

variable (b : BitVec Format.binary64.numBits)

theorem toNat_unpackMantissa : (unpackMantissa b).toNat = b.toNat % 2 ^ 52 := by
  unfold unpackMantissa
  rw [BitVec.toNat_cast, BitVec.extractLsb_toNat, Nat.shiftRight_zero]
  rfl

theorem toNat_unpackExponent : (unpackExponent b).toNat = b.toNat / 2 ^ 52 % 2 ^ 11 := by
  unfold unpackExponent
  rw [BitVec.toNat_cast, BitVec.extractLsb_toNat, Nat.shiftRight_eq_div_pow]
  rfl

theorem isMinus_unpackSign :
    isMinus (Sign.ofBitVec (unpackSign b)) = decide (2 ^ 63 ≤ b.toNat) := by
  have hbit : (unpackSign b).toNat = b.toNat / 2 ^ 63 % 2 := by
    unfold unpackSign
    rw [BitVec.toNat_cast, BitVec.extractLsb_toNat, Nat.shiftRight_eq_div_pow]
    rfl
  have hlt : b.toNat < 2 ^ 64 := b.isLt
  have hsign : ∀ v : BitVec 1, isMinus (Sign.ofBitVec v) = decide (v.toNat = 1) := by decide
  rw [hsign, hbit, decide_eq_decide]
  omega

/-- The leading one of a significand, which the bits leave out. -/
theorem toNat_one_append : (1#1 ++ unpackMantissa b).toNat = 2 ^ 52 + (unpackMantissa b).toNat := by
  rw [BitVec.toNat_append, ← Nat.shiftLeft_add_eq_or_of_lt (unpackMantissa b).isLt]
  rfl

/-- What the three parts of the bits stand for. -/
theorem of_unpack :
    Exact.of (unpack .binary64 b) =
      if (unpackExponent b).toNat = 2047 then
        if (unpackMantissa b).toNat = 0 then .infinite (isMinus (Sign.ofBitVec (unpackSign b)))
        else .nan
      else if (unpackExponent b).toNat = 0 then
        .finite (isMinus (Sign.ofBitVec (unpackSign b))) (unpackMantissa b).toNat (-1074)
      else
        .finite (isMinus (Sign.ofBitVec (unpackSign b))) (2 ^ 52 + (unpackMantissa b).toNat)
          ((unpackExponent b).toNat - 1075) := by
  have hall : unpackExponent b = -1#11 ↔ (unpackExponent b).toNat = 2047 := BitVec.toNat_inj.symm
  have hnone : unpackExponent b = 0#11 ↔ (unpackExponent b).toNat = 0 := BitVec.toNat_inj.symm
  have hzero : unpackMantissa b = 0#52 ↔ (unpackMantissa b).toNat = 0 := BitVec.toNat_inj.symm
  unfold UnpackedFloat.unpack
  by_cases hinfinite : (unpackExponent b).toNat = 2047
  · rw [if_pos (hall.mpr hinfinite), if_pos hinfinite]
    by_cases hfraction : (unpackMantissa b).toNat = 0
    · rw [if_pos (hzero.mpr hfraction), if_pos hfraction]
      rfl
    · rw [if_neg (mt hzero.mp hfraction), if_neg hfraction]
      rfl
  · rw [if_neg (mt hall.mp hinfinite), if_neg hinfinite]
    by_cases hsmall : (unpackExponent b).toNat = 0
    · rw [if_pos (hnone.mpr hsmall), if_pos hsmall, hsmall]
      by_cases hfraction : (unpackMantissa b).toNat = 0
      · rw [dif_pos (hzero.mpr hfraction), hfraction]
        rfl
      · rw [dif_neg (mt hzero.mp hfraction)]
        rfl
    · rw [if_neg (mt hnone.mp hsmall), if_neg hsmall]
      change Exact.finite _ (1#1 ++ unpackMantissa b).toNat _ = _
      rw [toNat_one_append]
      rfl

/-- A double means what the model of floating point takes it apart into. -/
theorem exact_eq_of_unpack (x : Float) : exact x = .of x.toModel.unpack := by
  unfold Float.Model.unpack
  rw [of_unpack, toNat_unpackExponent, toNat_unpackMantissa, isMinus_unpackSign]
  rfl

end

/-! ## Putting together and taking apart -/

section

variable {s : Sign} {m : Nat} {e : Int} (hm : 0 < m)

theorem unpackSign_packComponents (s : Sign) (e : BitVec 11) (m : BitVec 52) :
    unpackSign (packComponents .binary64 s e m) = s.toBitVec := by
  unfold unpackSign packComponents BitVec.extractLsb
  rw [BitVec.extractLsb'_append_eq_of_le (by decide),
    BitVec.extractLsb'_append_eq_of_le (by decide)]
  cases s <;> rfl

theorem of_unpack_packComponents (s : Sign) (e : BitVec 11) (m : BitVec 52) :
    Exact.of (unpack .binary64 (packComponents .binary64 s e m)) =
      if e.toNat = 2047 then if m.toNat = 0 then .infinite (isMinus s) else .nan
      else if e.toNat = 0 then .finite (isMinus s) m.toNat (-1074)
      else .finite (isMinus s) (2 ^ 52 + m.toNat) (e.toNat - 1075) := by
  have hsign : Sign.ofBitVec s.toBitVec = s := by cases s <;> rfl
  rw [of_unpack, unpackExponent_packComponents, unpackMantissa_packComponents,
    unpackSign_packComponents, hsign]

/-- A number in the form in which doubles hold it: a significand of 53 bits, or the least
exponent. -/
def Settled : UnpackedFloat → Prop
  | .finite _ m e _ =>
    (m < 2 ^ 52 ∧ e = -1074) ∨ (2 ^ 52 ≤ m ∧ m < 2 ^ 53 ∧ -1074 ≤ e ∧ e ≤ 971)
  | _ => True

theorem pack_of_large (he : 972 ≤ e) :
    UnpackedFloat.pack .binary64 (.finite s m e hm) = packedInfinity .binary64 s := by
  unfold UnpackedFloat.pack
  have hbiased : 2 ^ 11 ≤ (e + 1023 + 52).toNat + 1 := by omega
  exact if_pos hbiased

theorem log2_eq (hlow : 2 ^ 52 ≤ m) (hhigh : m < 2 ^ 53) : m.log2 = 52 := by
  rw [Nat.log2_eq_iff (by omega)]
  exact ⟨hlow, hhigh⟩

theorem pack_of_normal (hlow : 2 ^ 52 ≤ m) (hhigh : m < 2 ^ 53) (he : e ≤ 971) :
    UnpackedFloat.pack .binary64 (.finite s m e hm) =
      packComponents .binary64 s (BitVec.ofNat 11 (e + 1075).toNat) (BitVec.ofNat 52 m) := by
  have hbiased : (e + 1023 + 52).toNat = (e + 1075).toNat := by omega
  have hrange : ¬ 2 ^ 11 ≤ (e + 1075).toNat + 1 := by omega
  have hbits : m.log2 + 1 = 53 := by rw [log2_eq hlow hhigh]
  rw [← hbiased] at hrange ⊢
  unfold UnpackedFloat.pack
  exact (if_neg hrange).trans (if_pos hbits)

theorem of_unpack_pack_of_normal (hlow : 2 ^ 52 ≤ m) (hhigh : m < 2 ^ 53) (hleast : -1074 ≤ e)
    (he : e ≤ 971) :
    Exact.of (unpack .binary64 (UnpackedFloat.pack .binary64 (.finite s m e hm))) =
      .finite (isMinus s) m e := by
  rw [pack_of_normal hm hlow hhigh he, of_unpack_packComponents, BitVec.toNat_ofNat,
    BitVec.toNat_ofNat]
  have hbiased : (e + 1075).toNat % 2 ^ 11 = (e + 1075).toNat := Nat.mod_eq_of_lt (by omega)
  rw [hbiased, if_neg (by omega), if_neg (by omega)]
  have hm' : 2 ^ 52 + m % 2 ^ 52 = m := by omega
  have he' : ((e + 1075).toNat : Int) - 1075 = e := by omega
  rw [hm', he']

theorem of_unpack_pack_of_least (hhigh : m < 2 ^ 52) :
    Exact.of (unpack .binary64 (UnpackedFloat.pack .binary64 (.finite s m (-1074) hm))) =
      .finite (isMinus s) m (-1074) := by
  have hbits : ¬ m.log2 + 1 = 53 := by
    have hlog := (Nat.log2_lt (Nat.ne_of_gt hm)).mpr hhigh
    omega
  have hpack : UnpackedFloat.pack .binary64 (.finite s m (-1074) hm) =
      packComponents .binary64 s 0#11 (BitVec.ofNat 52 m) := by
    unfold UnpackedFloat.pack
    exact (if_neg (by decide)).trans (if_neg hbits)
  have hm' : (BitVec.ofNat 52 m).toNat = m := Nat.mod_eq_of_lt hhigh
  rw [hpack, of_unpack_packComponents, hm']
  rfl

/-- Taking a double apart gives this form. -/
theorem settled_unpack (b : BitVec Format.binary64.numBits) : Settled (unpack .binary64 b) := by
  have hexponent : (unpackExponent b).toNat < 2 ^ 11 := (unpackExponent b).isLt
  have hmantissa : (unpackMantissa b).toNat < 2 ^ 52 := (unpackMantissa b).isLt
  unfold UnpackedFloat.unpack
  by_cases hall : unpackExponent b = -1#11
  · rw [if_pos hall]
    by_cases hzero : unpackMantissa b = 0#52
    · rw [if_pos hzero]
      trivial
    · rw [if_neg hzero]
      trivial
  · rw [if_neg hall]
    by_cases hnone : unpackExponent b = 0#11
    · rw [if_pos hnone, hnone]
      by_cases hzero : unpackMantissa b = 0#52
      · rw [dif_pos hzero]
        trivial
      · rw [dif_neg hzero]
        exact .inl ⟨hmantissa, rfl⟩
    · rw [if_neg hnone]
      have hne : (unpackExponent b).toNat ≠ 2047 := fun h => hall (BitVec.eq_of_toNat_eq h)
      have hpos : (unpackExponent b).toNat ≠ 0 := fun h => hnone (BitVec.eq_of_toNat_eq h)
      refine .inr ⟨?_, ?_, ?_, ?_⟩
      · rw [toNat_one_append]
        omega
      · rw [toNat_one_append]
        omega
      · change -1074 ≤ ((unpackExponent b).toNat : Int) - (1023 + 52)
        omega
      · change ((unpackExponent b).toNat : Int) - (1023 + 52) ≤ 971
        omega

theorem Settled.neg {u : UnpackedFloat} (h : Settled u) : Settled u.neg := by
  cases u <;> exact h

theorem Settled.abs {u : UnpackedFloat} (h : Settled u) : Settled u.abs := by
  cases u <;> exact h

/-- A number in that form is read back. -/
theorem of_unpack_pack {u : UnpackedFloat} (h : Settled u) :
    Exact.of (unpack .binary64 (UnpackedFloat.pack .binary64 u)) = .of u := by
  cases u with
  | infinity s => cases s <;> rfl
  | notANumber => rfl
  | zero s => cases s <;> rfl
  | finite s m e hm =>
    rcases h with ⟨hhigh, rfl⟩ | ⟨hlow, hhigh, hleast, he⟩
    · exact of_unpack_pack_of_least hm hhigh
    · exact of_unpack_pack_of_normal hm hlow hhigh hleast he

/-- A number with 53 digits means itself, unless it is too large for a double. -/
theorem exact_pack_of_normal (hlow : 2 ^ 52 ≤ m) (hhigh : m < 2 ^ 53) (hleast : -1074 ≤ e) :
    exact ⟨.pack (.finite s m e hm)⟩ =
      if e ≤ 971 then .finite (isMinus s) m e else .infinite (isMinus s) := by
  rw [exact_eq_of_unpack]
  by_cases he : e ≤ 971
  · rw [if_pos he]
    exact of_unpack_pack_of_normal hm hlow hhigh hleast he
  · rw [if_neg he]
    change Exact.of (unpack .binary64 (UnpackedFloat.pack .binary64 (.finite s m e hm))) = _
    rw [pack_of_large hm (Int.not_le.mp he)]
    exact of_unpack_pack (u := .infinity s) trivial

end

/-! ## Negation -/

/-- The meaning with its sign turned. -/
def Exact.negated : Exact → Exact
  | .nan => .nan
  | .infinite negative => .infinite !negative
  | .finite negative m e => .finite (!negative) m e

theorem of_neg (u : UnpackedFloat) : Exact.of u.neg = (Exact.of u).negated := by
  have hsign (s : Sign) : isMinus (-s) = !isMinus s := by cases s <;> rfl
  cases u with
  | notANumber => rfl
  | infinity s => exact congrArg Exact.infinite (hsign s)
  | zero s => exact congrArg (Exact.finite · 0 (-1074)) (hsign s)
  | finite s m e hm => exact congrArg (Exact.finite · m e) (hsign s)

/-- Negation turns the sign and nothing else. -/
theorem exact_neg (x : Float) : exact (-x) = (exact x).negated := by
  rw [exact_eq_of_unpack, exact_eq_of_unpack, ← of_neg]
  exact of_unpack_pack (settled_unpack x.toBits.toBitVec).neg

theorem nearest?_neg (x : Float) : nearest? (-x) = (nearest? x).map (- ·) := by
  unfold nearest?
  rw [exact_neg]
  rcases exact x with _ | _ | ⟨negative, m, e⟩
  · rfl
  · rfl
  · cases negative <;> simp [Exact.negated, signed]

/-! ## Absolute values -/

/-- The meaning with a plus for its sign. -/
def Exact.magnitude : Exact → Exact
  | .nan => .nan
  | .infinite _ => .infinite false
  | .finite _ m e => .finite false m e

theorem of_abs (u : UnpackedFloat) : Exact.of u.abs = (Exact.of u).magnitude := by
  cases u <;> rfl

/-- The absolute value loses the sign and nothing else. -/
theorem exact_abs (x : Float) : exact x.abs = (exact x).magnitude := by
  rw [exact_eq_of_unpack, exact_eq_of_unpack, ← of_abs]
  exact of_unpack_pack (settled_unpack x.toBits.toBitVec).abs

end GridQuery.Number
