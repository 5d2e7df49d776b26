-- Numerals, written and read. A number is read back from its decimal digits,
-- from digits padded with zeros and, as a 64-bit integer, with its sign.
import GridQuery.Number.IntText
import GridQuery.Text.Blank
import GridQuery.Text.DigitTable
import Mathlib.Algebra.Group.Nat.Defs
import Mathlib.Data.List.Induction
import Mathlib.Data.List.TakeWhile

namespace GridQuery

open GridQuery.Number GridQuery.Text

/-! ## ASCII digits -/

/-- What holds of 128 characters holds of an ASCII character. -/
@[elab_as_elim]
theorem forall_ascii {P : Char → Prop} {c : Char} (hc : c.toNat < 128)
    (h : ∀ n < 128, P (Char.ofNat n)) : P c := by
  have hchar := h c.toNat hc
  rwa [Char.ofNat_toNat] at hchar

theorem toNat_lt_of_isAsciiDigit {c : Char} (h : isAsciiDigit c = true) : c.toNat < 128 := by
  simp only [isAsciiDigit, Bool.and_eq_true, decide_eq_true_eq] at h
  exact Nat.lt_of_le_of_lt (UInt32.le_iff_toNat_le.mp h.2) (by decide)

theorem digit_of_isAsciiDigit {c : Char} (h : isAsciiDigit c = true) :
    c.toUpper = c ∧ isAsciiLetter c = false ∧ isAsciiCapital c = false ∧
      isDecimalDigit c = true ∧ digitValue c < 10 := by
  have hlt := toNat_lt_of_isAsciiDigit h
  revert h
  refine forall_ascii hlt ?_
  decide

theorem map_toUpper_digits {digits : List Char} (h : ∀ c ∈ digits, isAsciiDigit c = true) :
    digits.map Char.toUpper = digits :=
  (List.map_congr_left fun c hc => (digit_of_isAsciiDigit (h c hc)).1).trans (List.map_id digits)

theorem not_isBlank_of_isAsciiDigit {c : Char} (h : isAsciiDigit c = true) : isBlank c = false := by
  have hlt := toNat_lt_of_isAsciiDigit h
  revert h
  refine forall_ascii hlt ?_
  decide

theorem digitChar_spec (d : Nat) :
    isAsciiDigit (digitChar d) = true ∧ digitValue (digitChar d) = d % 10 := by
  have hdigit : ∀ k < 10, isAsciiDigit (Char.ofNat (48 + k)) = true ∧
      digitValue (Char.ofNat (48 + k)) = k := by decide
  exact hdigit (d % 10) (Nat.mod_lt _ (by decide))

/-- A run of characters of one kind before a character of another is found as it is. -/
theorem span_append_of_head? {p : Char → Bool} {run rest : List Char}
    (hrun : ∀ c ∈ run, p c = true) (hrest : ∀ c ∈ rest.head?, p c = false) :
    (run ++ rest).takeWhile p = run ∧ (run ++ rest).dropWhile p = rest := by
  rw [List.takeWhile_append_of_pos hrun, List.dropWhile_append_of_pos hrun]
  rcases rest with _ | ⟨c, rest⟩
  · simp
  · simp [hrest c rfl]

theorem span_append {p : Char → Bool} {run rest : List Char} (hrun : ∀ c ∈ run, p c = true)
    (hrest : ∀ c ∈ rest, p c = false) :
    (run ++ rest).takeWhile p = run ∧ (run ++ rest).dropWhile p = rest := by
  apply span_append_of_head? hrun
  intro c hc
  exact hrest c (List.mem_of_mem_head? hc)

/-! ## Decimals -/

theorem digitsValue_concat (cs : List Char) (c : Char) :
    digitsValue (cs ++ [c]) = 10 * digitsValue cs + digitValue c := by
  simp [digitsValue]

/-- The digits of a number are digits and denote it. -/
theorem decimal_spec (n : Nat) :
    (∀ c ∈ decimal n, isAsciiDigit c = true) ∧ digitsValue (decimal n) = n := by
  induction n using decimal.induct with
  | case1 n hlt =>
    obtain ⟨hlast, hvalue⟩ := digitChar_spec n
    unfold decimal
    rw [if_pos hlt]
    refine ⟨?_, ?_⟩
    · intro c hc
      rw [List.mem_singleton.mp hc]
      exact hlast
    · simpa [digitsValue, hvalue] using hlt
  | case2 n hge ih =>
    obtain ⟨hlast, hvalue⟩ := digitChar_spec (n % 10)
    unfold decimal
    rw [if_neg hge]
    refine ⟨?_, ?_⟩
    · intro c hc
      rcases List.mem_append.mp hc with hc | hc
      · exact ih.1 c hc
      · rw [List.mem_singleton.mp hc]
        exact hlast
    · rw [digitsValue_concat, ih.2, hvalue]
      omega

theorem decimal_ne_nil (n : Nat) : decimal n ≠ [] := by
  unfold decimal
  split <;> simp

theorem digitsValue_lt {cs : List Char} (h : ∀ c ∈ cs, isAsciiDigit c = true) :
    digitsValue cs < 10 ^ cs.length := by
  induction cs using List.reverseRecOn with
  | nil => decide
  | append_singleton cs c ih =>
    have hcs := ih fun d hd => h d (List.mem_append_left _ hd)
    have hc := (digit_of_isAsciiDigit (h c (by simp))).2.2.2.2
    rw [digitsValue_concat, List.length_append, List.length_singleton, Nat.pow_succ]
    omega

/-! ## Padded numerals -/

theorem length_decimal_le {width n : Nat} (hwidth : 0 < width) (h : n < 10 ^ width) :
    (decimal n).length ≤ width := by
  induction n using decimal.induct generalizing width with
  | case1 n hlt =>
    unfold decimal
    rw [if_pos hlt]
    exact hwidth
  | case2 n hge ih =>
    obtain ⟨width, rfl⟩ := Nat.exists_eq_succ_of_ne_zero (Nat.ne_of_gt hwidth)
    have htens : n / 10 < 10 ^ width := Nat.div_lt_of_lt_mul (by rwa [Nat.pow_succ'] at h)
    have hpos : 0 < width := by
      rcases width with _ | width
      · exact absurd h hge
      · exact Nat.succ_pos width
    unfold decimal
    rw [if_neg hge, List.length_append, List.length_singleton]
    exact Nat.succ_le_succ (ih hpos htens)

theorem digitsValue_replicate_append (k : Nat) (cs : List Char) :
    digitsValue (List.replicate k '0' ++ cs) = digitsValue cs := by
  induction k with
  | zero => rfl
  | succ k ih => exact ih

/-- The digits of a padded number are digits and denote it. -/
theorem decimalPadded_spec (width n : Nat) :
    (∀ c ∈ decimalPadded width n, isAsciiDigit c = true) ∧
      digitsValue (decimalPadded width n) = n := by
  obtain ⟨hdigits, hvalue⟩ := decimal_spec n
  refine ⟨?_, ?_⟩
  · intro c hc
    rcases List.mem_append.mp hc with hc | hc
    · rw [List.eq_of_mem_replicate hc]
      decide
    · exact hdigits c hc
  · rw [decimalPadded, digitsValue_replicate_append, hvalue]

theorem decimalPadded_ne_nil (width n : Nat) : decimalPadded width n ≠ [] := by
  simp [decimalPadded, decimal_ne_nil]

theorem length_decimalPadded {width n : Nat} (hwidth : 0 < width) (h : n < 10 ^ width) :
    (decimalPadded width n).length = width := by
  have hlength := length_decimal_le hwidth h
  rw [decimalPadded, List.length_append, List.length_replicate]
  omega

/-! ## Integers -/

theorem fitsInt64_iff {n : Int} : fitsInt64 n = true ↔ leastInt64 ≤ n ∧ n ≤ greatestInt64 := by
  simp [fitsInt64]

theorem appendDigits_concat (negative : Bool) (n : Int) (cs : List Char) (c : Char) :
    appendDigits negative n (cs ++ [c]) =
      (appendDigits negative n cs).bind fun m => appendDigits negative m [c] := by
  induction cs generalizing n with
  | nil => rfl
  | cons d cs ih =>
    simp only [List.cons_append, appendDigits]
    split
    · split
      · rw [ih]
        simp only [appendDigits]
      · rfl
    · rfl

/-- Digits are read as the number that they denote with the sign, if that is a 64-bit integer. -/
theorem appendDigits_digits {negative : Bool} {digits : List Char}
    (h : ∀ c ∈ digits, isAsciiDigit c = true) :
    appendDigits negative 0 digits =
      if fitsInt64 (signed negative (digitsValue digits)) then
        .ok (signed negative (digitsValue digits))
      else .error (if negative then .tooSmall else .tooLarge) := by
  have hsplit (m d : Nat) : 10 * signed negative m + signed negative d =
      signed negative (10 * m + d) := by
    cases negative <;> simp only [signed, if_true, Bool.false_eq_true, if_false] <;> omega
  induction digits using List.reverseRecOn with
  | nil => cases negative <;> rfl
  | append_singleton digits c ih =>
    rw [appendDigits_concat, ih fun d hd => h d (List.mem_append_left _ hd), digitsValue_concat]
    by_cases hbefore : fitsInt64 (signed negative (digitsValue digits)) = true
    · rw [if_pos hbefore]
      simp only [Except.bind, appendDigits, h c (by simp), hsplit, if_true]
    · -- a number beyond the range stays there however it goes on
      have hafter : ¬ fitsInt64 (signed negative (10 * digitsValue digits + digitValue c)) =
          true := by
        rw [fitsInt64_iff, leastInt64, greatestInt64] at hbefore ⊢
        cases negative <;> simp only [signed, if_true, Bool.false_eq_true, if_false] at hbefore ⊢ <;>
          omega
      rw [if_neg hbefore, if_neg hafter]
      rfl

theorem appendDigits_decimal {negative : Bool} {n : Nat}
    (h : fitsInt64 (signed negative n) = true) :
    appendDigits negative 0 (decimal n) = .ok (signed negative n) := by
  obtain ⟨hdigits, hvalue⟩ := decimal_spec n
  rw [appendDigits_digits hdigits, hvalue, if_pos h]

theorem readInt_of_isAsciiDigit {c : Char} (hc : isAsciiDigit c = true) (cs : List Char) :
    readInt (c :: cs) = appendDigits false 0 (c :: cs) := by
  unfold readInt
  split
  · rename_i heq
    cases heq
  · rename_i heq
    rw [(List.cons.inj heq).1] at hc
    exact absurd hc (by decide)
  · rename_i heq
    rw [(List.cons.inj heq).1] at hc
    exact absurd hc (by decide)
  · rfl

/-- An integer is read back from its text, if it is a 64-bit one. -/
theorem readInt_integer {n : Int} (h : fitsInt64 n = true) : readInt (integer n) = .ok n := by
  cases n with
  | ofNat n =>
    have hread : appendDigits false 0 (decimal n) = .ok (signed false n) :=
      appendDigits_decimal h
    have hdigits := (decimal_spec n).1
    change readInt (decimal n) = _
    rcases hcs : decimal n with _ | ⟨c, cs⟩
    · exact absurd hcs (decimal_ne_nil n)
    · rw [hcs] at hread hdigits
      rw [readInt_of_isAsciiDigit (hdigits c List.mem_cons_self), hread]
      rfl
  | negSucc n =>
    have hread : appendDigits true 0 (decimal (n + 1)) = .ok (signed true (n + 1)) :=
      appendDigits_decimal h
    unfold integer readInt
    simp only [List.isEmpty_iff, decimal_ne_nil, if_false, hread]
    rfl

theorem fitsInt64_toInt (n : Int64) : fitsInt64 n.toInt = true :=
  fitsInt64_iff.mpr ⟨n.le_toInt, Int.lt_add_one_iff.mp n.toInt_lt⟩

theorem toInt_clampInt64 (n : Int) :
    (clampInt64 n).toInt = max leastInt64 (min greatestInt64 n) := by
  unfold clampInt64 leastInt64 greatestInt64
  apply Int64.toInt_ofInt_of_le
  · change -9223372036854775808 ≤ _
    omega
  · change _ < 9223372036854775808
    omega

theorem not_isBlank_of_mem_integer {n : Int} {c : Char} (h : c ∈ integer n) :
    isBlank c = false := by
  cases n with
  | ofNat n => exact not_isBlank_of_isAsciiDigit ((decimal_spec n).1 c h)
  | negSucc n =>
    rcases List.mem_cons.mp h with rfl | h
    · decide
    · exact not_isBlank_of_isAsciiDigit ((decimal_spec (n + 1)).1 c h)

theorem readInt64_int64Text (n : Int64) : readInt64 (int64Text n).toList = some n := by
  simp only [readInt64, int64Text, intText, String.toList_ofList,
    readInt_integer (fitsInt64_toInt n), Int64.ofInt_toInt]

end GridQuery
