-- Texts of integers, converted. A text that does not fit is read as a double, and
-- the double next to the end of the range counts as in range.
import GridQuery.Proofs.RoundedIntegers
import GridQuery.Proofs.WrittenMoments
import GridQuery.Value.Convert

namespace GridQuery

open GridQuery.Number GridQuery.Text

theorem takeSign_of_isAsciiDigit {c : Char} (hc : isAsciiDigit c = true) (cs : List Char) :
    takeSign (c :: cs) = (false, c :: cs) := by
  unfold takeSign
  split
  · rename_i heq
    rw [(List.cons.inj heq).1] at hc
    exact absurd hc (by decide)
  · rename_i heq
    rw [(List.cons.inj heq).1] at hc
    exact absurd hc (by decide)
  · rfl

/-- A digit begins no word for infinity or for what is no number. -/
theorem readWord_of_isAsciiDigit {c : Char} (hc : isAsciiDigit c = true) (cs : List Char) :
    readWord (c :: cs) = none := by
  have hletter : c.toLower ≠ 'i' ∧ c.toLower ≠ 'n' := by
    have hlt := toNat_lt_of_isAsciiDigit hc
    revert hc
    refine forall_ascii hlt ?_
    decide
  unfold readWord
  simp [hletter]

/-! ## The texts -/

/-- What may stand in front of the digits. -/
inductive SignMark
  | bare
  | plus
  | minus
  deriving DecidableEq, Repr

namespace SignMark

def chars : SignMark → List Char
  | bare => []
  | plus => ['+']
  | minus => ['-']

def isMinus : SignMark → Bool
  | minus => true
  | _ => false

theorem not_isBlank_of_mem_chars (mark : SignMark) : ∀ c ∈ mark.chars, isBlank c = false := by
  cases mark <;> simp [chars, isBlank]

/-- The readers take the sign off what begins with a digit. -/
theorem readInt_append (mark : SignMark) {c : Char} (hc : isAsciiDigit c = true) (cs : List Char) :
    readInt (mark.chars ++ c :: cs) = appendDigits mark.isMinus 0 (c :: cs) := by
  cases mark with
  | bare => exact readInt_of_isAsciiDigit hc cs
  | plus => rfl
  | minus => rfl

theorem takeSign_append (mark : SignMark) {c : Char} (hc : isAsciiDigit c = true)
    (cs : List Char) : takeSign (mark.chars ++ c :: cs) = (mark.isMinus, c :: cs) := by
  cases mark with
  | bare => exact takeSign_of_isAsciiDigit hc cs
  | plus => rfl
  | minus => rfl

end SignMark

/-- A text that denotes an integer: decimal digits after an optional sign, with white space
around. -/
structure IntegerText where
  before : List Char := []
  sign : SignMark := .bare
  digits : List Char
  after : List Char := []
  blank_before : ∀ c ∈ before, isBlank c = true := by exact List.all_eq_true.mp rfl
  digits_ne_nil : digits ≠ [] := by exact List.cons_ne_nil _ _
  digits_digits : ∀ c ∈ digits, isAsciiDigit c = true := by exact List.all_eq_true.mp rfl
  blank_after : ∀ c ∈ after, isBlank c = true := by exact List.all_eq_true.mp rfl

namespace IntegerText

def numeral (t : IntegerText) : List Char := t.sign.chars ++ t.digits

def text (t : IntegerText) : String := String.ofList (t.before ++ t.numeral ++ t.after)

/-- The integer that is denoted. -/
def value (t : IntegerText) : Int := signed t.sign.isMinus (digitsValue t.digits)

variable (t : IntegerText)

/-! ## Reading them -/

theorem not_isBlank_of_mem_numeral {c : Char} (h : c ∈ t.numeral) : isBlank c = false := by
  rcases List.mem_append.mp h with hsign | hdigit
  · exact t.sign.not_isBlank_of_mem_chars c hsign
  · exact not_isBlank_of_isAsciiDigit (t.digits_digits c hdigit)

theorem trim_text : trim t.text.toList = t.numeral := by
  rw [text, String.toList_ofList, trim_blank_around t.blank_before t.blank_after]
  exact trim_eq_self fun c => t.not_isBlank_of_mem_numeral

theorem exists_digits_eq_cons : ∃ c cs, t.digits = c :: cs ∧ isAsciiDigit c = true := by
  obtain ⟨c, cs, hdigits⟩ := List.exists_cons_of_ne_nil t.digits_ne_nil
  exact ⟨c, cs, hdigits, t.digits_digits c (by simp [hdigits])⟩

theorem readInt_numeral : readInt t.numeral = appendDigits t.sign.isMinus 0 t.digits := by
  obtain ⟨c, cs, hdigits, hc⟩ := t.exists_digits_eq_cons
  unfold numeral
  rw [hdigits]
  exact t.sign.readInt_append hc cs

theorem takeSign_numeral : takeSign t.numeral = (t.sign.isMinus, t.digits) := by
  obtain ⟨c, cs, hdigits, hc⟩ := t.exists_digits_eq_cons
  unfold numeral
  rw [hdigits]
  exact t.sign.takeSign_append hc cs

theorem readWord_digits : readWord t.digits = none := by
  obtain ⟨c, cs, hdigits, hc⟩ := t.exists_digits_eq_cons
  rw [hdigits]
  exact readWord_of_isAsciiDigit hc cs

theorem readMagnitude_digits :
    readMagnitude t.digits = some (ofDecimal (digitsValue t.digits) 0) := by
  obtain ⟨htake, hdrop⟩ := @span_append isAsciiDigit t.digits [] t.digits_digits (by simp)
  rw [List.append_nil] at htake hdrop
  unfold readMagnitude spanDigits
  rw [htake, hdrop]
  simp [t.digits_ne_nil, readExponent]

theorem readFloat_numeral :
    readFloat t.numeral = some (if t.sign.isMinus then -ofDecimal (digitsValue t.digits) 0
      else ofDecimal (digitsValue t.digits) 0) := by
  unfold readFloat
  rw [t.takeSign_numeral]
  simp only [t.readWord_digits, t.readMagnitude_digits]
  rfl

/-! ## Converting them -/

theorem readInt64_numeral :
    readInt64 t.numeral = if fitsInt64 t.value then some (Int64.ofInt t.value) else none := by
  unfold readInt64
  rw [t.readInt_numeral, appendDigits_digits t.digits_digits, value]
  by_cases hfits : fitsInt64 (signed t.sign.isMinus (digitsValue t.digits)) = true
  · rw [if_pos hfits, if_pos hfits]
  · rw [if_neg hfits, if_neg hfits]

end IntegerText

/-! ## Doubles beyond the range -/

namespace Value

theorem le_of_not_fits {negative : Bool} {n : Nat} (h : ¬ fitsInt64 (signed negative n) = true) :
    2 ^ 63 ≤ n := by
  rw [fitsInt64_iff, leastInt64, greatestInt64] at h
  cases negative <;> simp only [signed, if_true, Bool.false_eq_true, if_false] at h <;> omega

/-- Beyond the range there is one result. -/
theorem clampInt64_eq {negative : Bool} {m n : Nat} (hm : 2 ^ 63 ≤ m) (hn : 2 ^ 63 ≤ n) :
    clampInt64 (signed negative m) = clampInt64 (signed negative n) := by
  unfold clampInt64 leastInt64 greatestInt64
  apply congrArg Int64.ofInt
  cases negative <;> simp only [signed, if_true, Bool.false_eq_true, if_false] <;> omega

/-- The double next to the end of the range is taken for the last integer in range, and so is each
number that it is nearest to. Numbers farther out are refused. -/
theorem roundFloat_of_beyond (negative : Bool) {n : Nat} (hn : 2 ^ 63 ≤ n) :
    (n ≤ 2 ^ 63 + 1024 →
      roundFloat (if negative then -ofDecimal n 0 else ofDecimal n 0) =
        .ok (clampInt64 (signed negative n))) ∧
      (2 ^ 63 + 1024 < n →
        ∃ e, roundFloat (if negative then -ofDecimal n 0 else ofDecimal n 0) = .error e) := by
  have hread : nearest? (if negative then -ofDecimal n 0 else ofDecimal n 0) =
      if nearestDouble n < 2 ^ 1024 then some (signed negative (nearestDouble n)) else none := by
    have hmagnitude := nearest?_ofDecimal (n := n) (by omega)
    cases negative with
    | false => exact hmagnitude
    | true =>
      simp only [if_true, nearest?_neg, hmagnitude]
      split <;> rfl
  unfold roundFloat
  rw [hread]
  rcases nearestDouble_cases hn with ⟨hnear, hvalue⟩ | ⟨hfar, hvalue⟩
  · refine ⟨fun _ => ?_, fun hbeyond => by omega⟩
    have hbelow : ∀ k, 63 < k → nearestDouble n < 2 ^ k := by
      intro k hk
      rw [hvalue]
      exact Nat.pow_lt_pow_right (by decide) hk
    have hrange : leastInt64 ≤ signed negative (2 ^ 63) ∧
        signed negative (2 ^ 63) ≤ greatestInt64 + 1 := by
      cases negative <;> decide
    rw [if_pos (hbelow 1024 (by decide)), hvalue]
    simp only [if_pos hrange]
    exact congrArg Except.ok (clampInt64_eq (Nat.le_refl _) hn)
  · refine ⟨fun hnear => by omega, fun _ => ?_⟩
    have hrange : ¬ (leastInt64 ≤ signed negative (nearestDouble n) ∧
        signed negative (nearestDouble n) ≤ greatestInt64 + 1) := by
      unfold leastInt64 greatestInt64
      cases negative <;> simp only [signed, if_true, Bool.false_eq_true, if_false] <;> omega
    split
    · exact ⟨_, rfl⟩
    · rename_i m hm
      split at hm
      · cases hm
        exact ⟨_, if_neg hrange⟩
      · cases hm

end Value

/-! ## Converting the texts -/

/-- The conversion gives the integer if it is in the range, and fails otherwise. -/
def Exactly (result : Except ConversionError Int64) (least greatest n : Int) : Prop :=
  if least ≤ n ∧ n ≤ greatest then ∃ k, result = .ok k ∧ k.toInt = n
  else ∃ e, result = .error e

theorem clampInt64_of_fits {n : Int} (h : fitsInt64 n = true) : clampInt64 n = Int64.ofInt n := by
  obtain ⟨hleast, hgreatest⟩ := fitsInt64_iff.mp h
  unfold clampInt64
  rw [Int.min_eq_right hgreatest, Int.max_eq_right hleast]

namespace IntegerText

variable (t : IntegerText)

theorem natAbs_value : t.value.natAbs = digitsValue t.digits := by
  unfold value signed
  split
  · exact Int.natAbs_neg _
  · rfl

/-- What becomes of the text as a 64-bit integer: up to half a step of the doubles beyond the range
it is the nearest integer, and farther out it is refused. -/
theorem toInt64_text :
    (Value.text t.text).toInt64 =
      if t.value.natAbs ≤ 2 ^ 63 + 1024 then .ok (clampInt64 t.value)
      else .error ((Value.text t.text).incompatible .bigint) := by
  unfold Value.toInt64
  simp only [t.trim_text, t.readInt64_numeral, t.readFloat_numeral, t.natAbs_value]
  by_cases hfits : fitsInt64 t.value = true
  · have hnear : digitsValue t.digits ≤ 2 ^ 63 + 1024 := by
      rw [← t.natAbs_value]
      rw [fitsInt64_iff, leastInt64, greatestInt64] at hfits
      omega
    simp only [if_pos hfits, if_pos hnear, clampInt64_of_fits hfits]
  · obtain ⟨hnearest, hrefused⟩ :=
      Value.roundFloat_of_beyond t.sign.isMinus (Value.le_of_not_fits hfits)
    by_cases hnear : digitsValue t.digits ≤ 2 ^ 63 + 1024
    · simp only [if_neg hfits, if_pos hnear, hnearest hnear]
      rfl
    · obtain ⟨e, he⟩ := hrefused (Nat.lt_of_not_le hnear)
      simp only [if_neg hfits, if_neg hnear, he]

/-- As a 32-bit integer it is the integer that it denotes, or it is refused. -/
theorem toInt32_text :
    (Value.text t.text).toInt32 =
      if -2147483648 ≤ t.value ∧ t.value < 2147483648 then .ok (Int64.ofInt t.value)
      else if t.value.natAbs ≤ 2 ^ 63 + 1024 then .error (.outOfRange t.text .integer)
      else .error ((Value.text t.text).incompatible .integer) := by
  unfold Value.toInt32
  rw [t.toInt64_text]
  by_cases hnear : t.value.natAbs ≤ 2 ^ 63 + 1024
  · -- clamping to 64 bits brings nothing into the 32-bit range
    have hsame : (-2147483648 ≤ (clampInt64 t.value).toInt ∧
        (clampInt64 t.value).toInt < 2147483648) ↔
        (-2147483648 ≤ t.value ∧ t.value < 2147483648) := by
      rw [toInt_clampInt64, leastInt64, greatestInt64]
      omega
    by_cases hrange : -2147483648 ≤ t.value ∧ t.value < 2147483648
    · have hfits : fitsInt64 t.value = true := by
        rw [fitsInt64_iff, leastInt64, greatestInt64]
        omega
      rw [if_pos hnear, if_pos hrange]
      refine (if_pos (hsame.mpr hrange)).trans ?_
      rw [clampInt64_of_fits hfits]
    · simp only [if_pos hnear, hsame, if_neg hrange]
      rfl
  · have hrange : ¬ (-2147483648 ≤ t.value ∧ t.value < 2147483648) := by omega
    simp only [if_neg hnear, if_neg hrange]
    rfl

theorem exactly_toInt64_iff :
    Exactly (Value.text t.text).toInt64 leastInt64 greatestInt64 t.value ↔
      (leastInt64 ≤ t.value ∧ t.value ≤ greatestInt64) ∨ 2 ^ 63 + 1024 < t.value.natAbs := by
  unfold Exactly
  rw [t.toInt64_text]
  by_cases hrange : leastInt64 ≤ t.value ∧ t.value ≤ greatestInt64
  · have hnear : t.value.natAbs ≤ 2 ^ 63 + 1024 := by
      rw [leastInt64, greatestInt64] at hrange
      omega
    have hclamp : (clampInt64 t.value).toInt = t.value := by
      rw [toInt_clampInt64]
      omega
    rw [if_pos hrange, if_pos hnear]
    exact iff_of_true ⟨_, rfl, hclamp⟩ (.inl hrange)
  · rw [if_neg hrange]
    by_cases hnear : t.value.natAbs ≤ 2 ^ 63 + 1024
    · rw [if_pos hnear]
      refine iff_of_false ?_ ?_
      · rintro ⟨e, he⟩
        cases he
      · rintro (hfits | hfar)
        · exact hrange hfits
        · omega
    · rw [if_neg hnear]
      exact iff_of_true ⟨_, rfl⟩ (.inr (Nat.lt_of_not_le hnear))

theorem exactly_toInt32 :
    Exactly (Value.text t.text).toInt32 (-2147483648) 2147483647 t.value := by
  unfold Exactly
  rw [t.toInt32_text]
  by_cases hrange : -2147483648 ≤ t.value ∧ t.value < 2147483648
  · rw [if_pos hrange, if_pos (by omega)]
    refine ⟨_, rfl, Int64.toInt_ofInt_of_le ?_ ?_⟩
    · omega
    · omega
  · rw [if_neg hrange, if_neg (by omega)]
    split
    · exact ⟨_, rfl⟩
    · exact ⟨_, rfl⟩

end IntegerText

/-- A text of an integer converts to the nearest 64-bit integer up to `2 ^ 63 + 1024` on either side
and is refused beyond. So it converts exactly unless it denotes an integer out of range that is not
beyond. To a 32-bit integer it always converts exactly. -/
theorem a_text_of_an_integer_converts_to_the_nearest_or_is_refused (t : IntegerText) :
    let v := Value.text t.text
    v.toInt64 = (if t.value.natAbs ≤ 2 ^ 63 + 1024 then .ok (clampInt64 t.value)
        else .error (v.incompatible .bigint)) ∧
      v.toInt32 = (if -2147483648 ≤ t.value ∧ t.value < 2147483648 then .ok (Int64.ofInt t.value)
        else if t.value.natAbs ≤ 2 ^ 63 + 1024 then .error (.outOfRange t.text .integer)
        else .error (v.incompatible .integer)) ∧
      (Exactly v.toInt64 leastInt64 greatestInt64 t.value ↔
        (leastInt64 ≤ t.value ∧ t.value ≤ greatestInt64) ∨ 2 ^ 63 + 1024 < t.value.natAbs) ∧
      Exactly v.toInt32 (-2147483648) 2147483647 t.value :=
  ⟨t.toInt64_text, t.toInt32_text, t.exactly_toInt64_iff, t.exactly_toInt32⟩

/-- Minus twelve, with leading zeros and white space around. -/
def paddedTwelve : IntegerText where
  before := ['\u00a0']
  sign := .minus
  digits := "0012".toList
  after := [' ', '\u3000']

theorem a_padded_integer_converts :
    paddedTwelve.value = -12 ∧ (Value.text paddedTwelve.text).toInt64 = .ok (-12) ∧
      (Value.text paddedTwelve.text).toInt32 = .ok (-12) ∧
      Exactly (Value.text paddedTwelve.text).toInt64 leastInt64 greatestInt64 (-12) := by
  obtain ⟨hlong, hshort, hexactly, -⟩ :=
    a_text_of_an_integer_converts_to_the_nearest_or_is_refused paddedTwelve
  exact ⟨rfl, hlong, hshort, hexactly.mpr (.inl (by decide))⟩

def twoPow63 : IntegerText where
  digits := "9223372036854775808".toList

/-- One more than the greatest 64-bit integer converts to the greatest. -/
theorem an_integer_out_of_range_converts :
    twoPow63.text = "9223372036854775808" ∧ twoPow63.value = greatestInt64 + 1 ∧
      (Value.text "9223372036854775808").toInt64 = .ok 9223372036854775807 ∧
      ¬ Exactly (Value.text twoPow63.text).toInt64 leastInt64 greatestInt64 twoPow63.value := by
  have hlong := twoPow63.toInt64_text
  refine ⟨rfl, rfl, hlong, ?_⟩
  unfold Exactly
  rw [hlong]
  rintro ⟨e, he⟩
  cases he

end GridQuery
