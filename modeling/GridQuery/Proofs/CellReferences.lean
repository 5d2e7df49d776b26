-- Cell references, written and read. Column letters count in 26s without a
-- zero, row numbers in tens; both are read back as what was written, and a
-- reference is the same cell to the reader of ranges.
import GridQuery.Proofs.RangeTexts
import GridQuery.Reference.Cell

namespace GridQuery

open GridQuery.Text

/-! ## Letters -/

theorem toNat_lt_of_isAsciiLetter {c : Char} (h : isAsciiLetter c = true) : c.toNat < 128 := by
  simp only [isAsciiLetter, Bool.or_eq_true, Bool.and_eq_true, decide_eq_true_eq] at h
  rcases h with ⟨-, h⟩ | ⟨-, h⟩
  · exact Nat.lt_of_le_of_lt (UInt32.le_iff_toNat_le.mp h) (by decide)
  · exact Nat.lt_of_le_of_lt (UInt32.le_iff_toNat_le.mp h) (by decide)

theorem capital_of_isAsciiLetter {c : Char} (h : isAsciiLetter c = true) :
    isAsciiCapital c.toUpper = true ∧ isAsciiLetter c.toUpper = true ∧
      letterValue c.toUpper = letterValue c := by
  have hlt := toNat_lt_of_isAsciiLetter h
  revert h
  refine forall_ascii hlt ?_
  decide

/-- The number that letters spell. -/
def lettersValue (cs : List Char) : Nat :=
  cs.foldl (fun n c => 26 * n + letterValue c) 0

theorem lettersValue_concat (cs : List Char) (c : Char) :
    lettersValue (cs ++ [c]) = 26 * lettersValue cs + letterValue c := by
  simp [lettersValue]

theorem appendLetters_concat (n : Nat) (cs : List Char) (c : Char) :
    appendLetters n (cs ++ [c]) = (appendLetters n cs).bind fun m => appendLetters m [c] := by
  induction cs generalizing n with
  | nil => rfl
  | cons d cs ih =>
    simp only [List.cons_append, appendLetters]
    split
    · rw [ih]
      simp only [appendLetters]
    · rfl

/-- Letters are read as the number that they spell, if that is an index. -/
theorem appendLetters_zero (letters : List Char) :
    appendLetters 0 letters =
      if lettersValue letters < indexLimit then some (lettersValue letters) else none := by
  induction letters using List.reverseRecOn with
  | nil => rfl
  | append_singleton letters c ih =>
    rw [appendLetters_concat, ih, lettersValue_concat]
    by_cases hbefore : lettersValue letters < indexLimit
    · rw [if_pos hbefore]
      rfl
    · -- a number beyond the indexes stays there however it goes on
      have hafter : ¬ 26 * lettersValue letters + letterValue c < indexLimit := by omega
      rw [if_neg hbefore, if_neg hafter]
      rfl

theorem columnIndex?_eq_some_iff {letters : List Char} {n : Nat} :
    columnIndex? letters = some n ↔
      letters ≠ [] ∧ letters.all isAsciiLetter = true ∧ lettersValue letters = n ∧
        n < indexLimit := by
  unfold columnIndex?
  rw [appendLetters_zero]
  rcases letters with _ | ⟨c, letters⟩
  · simp
  · rcases (c :: letters).all isAsciiLetter with _ | _
    · simp
    · simp only [List.isEmpty_cons, Bool.not_true, Bool.or_false, Bool.false_eq_true, if_false,
        Option.ite_none_right_eq_some, Option.some.injEq, ne_eq, reduceCtorEq, not_false_eq_true,
        true_and]
      constructor
      · rintro ⟨hlt, rfl⟩
        exact ⟨rfl, hlt⟩
      · rintro ⟨rfl, hlt⟩
        exact ⟨hlt, rfl⟩

/-- The letters of a column are capitals and spell its number. -/
theorem columnLetters_spec (n : Nat) :
    (∀ c ∈ columnLetters n, isAsciiLetter c = true) ∧ lettersValue (columnLetters n) = n := by
  have hletter : ∀ k < 26, isAsciiLetter (Char.ofNat (65 + k)) = true ∧
      letterValue (Char.ofNat (65 + k)) = k + 1 := by decide
  -- there is no letter for zero, so the last letter is the remainder of the number before
  induction n using columnLetters.induct with
  | case1 =>
    unfold columnLetters
    exact ⟨nofun, rfl⟩
  | case2 n hn ih =>
    obtain ⟨hlast, hvalue⟩ := hletter ((n - 1) % 26) (Nat.mod_lt _ (by decide))
    unfold columnLetters
    rw [if_neg hn]
    refine ⟨?_, ?_⟩
    · intro c hc
      rcases List.mem_append.mp hc with hc | hc
      · exact ih.1 c hc
      · rw [List.mem_singleton.mp hc]
        exact hlast
    · rw [lettersValue_concat, ih.2, hvalue]
      omega

/-! ## References -/

/-- Digits are the index of a row if they are ASCII digits of a number from one that is not beyond
the indexes. -/
theorem rowIndex?_eq_some_iff {digits : List Char} {row : Nat} :
    rowIndex? digits = some row ↔
      digits ≠ [] ∧ digits.all isAsciiDigit = true ∧ digitsValue digits = row + 1 ∧
        row + 1 < indexLimit := by
  unfold rowIndex?
  rcases digits with _ | ⟨c, digits⟩
  · simp
  · rcases (c :: digits).all isAsciiDigit with _ | _
    · simp
    · simp only [List.isEmpty_cons, Bool.not_true, Bool.or_false, Bool.false_eq_true, if_false,
        Option.ite_none_left_eq_some, Option.some.injEq, ne_eq, reduceCtorEq, not_false_eq_true,
        true_and]
      omega

theorem rowIndex?_eq_some_iff_of_short {digits : List Char} {row : Nat}
    (hseven : digits.length ≤ 7) :
    rowIndex? digits = some row ↔
      digits ≠ [] ∧ digits.all isAsciiDigit = true ∧ digitsValue digits = row + 1 := by
  rw [rowIndex?_eq_some_iff]
  constructor
  · rintro ⟨hne, hall, hvalue, -⟩
    exact ⟨hne, hall, hvalue⟩
  · rintro ⟨hne, hall, hvalue⟩
    refine ⟨hne, hall, hvalue, ?_⟩
    have hpow : 10 ^ digits.length ≤ 10 ^ 7 := Nat.pow_le_pow_right (by decide) hseven
    have hlt := digitsValue_lt (List.all_eq_true.mp hall)
    rw [← hvalue]
    exact Nat.lt_of_lt_of_le hlt (Nat.le_trans hpow (by decide))

/-- Letters and digits are a cell if both are an index and not too long. -/
theorem readCell?_eq_some_iff {cs : List Char} {row column : Nat} :
    readCell? cs = some (row, column) ↔
      (cs.takeWhile isAsciiLetter).length ≤ 3 ∧ (cs.dropWhile isAsciiLetter).length ≤ 7 ∧
        colIndex? (cs.takeWhile isAsciiLetter) = some column ∧
          rowIndex? (cs.dropWhile isAsciiLetter) = some row := by
  unfold readCell?
  simp only
  generalize cs.takeWhile isAsciiLetter = letters
  generalize cs.dropWhile isAsciiLetter = digits
  by_cases hthree : letters.length ≤ 3
  · by_cases hseven : digits.length ≤ 7
    · rw [rowIndex?_eq_some_iff_of_short hseven]
      unfold colIndex?
      rcases hcolumn : columnIndex? letters with _ | k
      · simp
      · have hletters : letters ≠ [] := by
          rintro rfl
          cases hcolumn
        have hrow : digitsValue digits = row + 1 ↔
            digitsValue digits ≠ 0 ∧ digitsValue digits - 1 = row := by omega
        simp [hthree, hseven, hletters, hrow]
        tauto
    · simp [hseven, Nat.lt_of_not_le hseven]
  · simp [hthree, Nat.lt_of_not_le hthree]

/-- The reference of a cell is read as the cell, if it is not too long. -/
theorem readCell?_cellReference {row column : Nat} (hletters : columnLettersAt column ≠ [])
    (hthree : (columnLettersAt column).length ≤ 3) (hseven : (decimal (row + 1)).length ≤ 7) :
    readCell? (cellReference row column).toList = some (row, column) := by
  obtain ⟨hdigits, hrow⟩ := decimal_spec (row + 1)
  obtain ⟨hall, hcolumn⟩ := columnLetters_spec (column + 1)
  have hlt : column < 9223372036854775807 := by
    by_contra hge
    exact hletters (if_neg hge)
  have hplain : columnLettersAt column = columnLetters (column + 1) := if_pos hlt
  rw [hplain] at hletters hthree
  obtain ⟨hfront, hback⟩ := span_append hall fun c hc =>
    (digit_of_isAsciiDigit (hdigits c hc)).2.1
  rw [cellReference, String.toList_ofList, hplain, readCell?_eq_some_iff, hfront, hback,
    rowIndex?_eq_some_iff_of_short hseven]
  refine ⟨hthree, hseven, ?_, decimal_ne_nil _, List.all_eq_true.mpr hdigits, hrow⟩
  have hlimit : column + 1 < indexLimit := Nat.lt_trans (Nat.succ_lt_succ hlt) (by decide)
  have hindex : columnIndex? (columnLetters (column + 1)) = some (column + 1) :=
    columnIndex?_eq_some_iff.mpr ⟨hletters, List.all_eq_true.mpr hall, hcolumn, hlimit⟩
  rw [colIndex?, hindex]
  rfl

/-- Column letters mean the same in either case. -/
theorem colIndex?_toUpper {letters : List Char} (h : ∀ c ∈ letters, isAsciiLetter c = true) :
    colIndex? (letters.map Char.toUpper) = colIndex? letters := by
  have hvalue : lettersValue (letters.map Char.toUpper) = lettersValue letters := by
    induction letters using List.reverseRecOn with
    | nil => rfl
    | append_singleton letters c ih =>
      have hletters := ih fun d hd => h d (List.mem_append_left _ hd)
      rw [List.map_append, List.map_singleton, lettersValue_concat, lettersValue_concat, hletters,
        (capital_of_isAsciiLetter (h c (by simp))).2.2]
  have hall : (letters.map Char.toUpper).all isAsciiLetter = letters.all isAsciiLetter := by
    rw [List.all_eq_true.mpr h, List.all_eq_true]
    intro c hc
    obtain ⟨d, hd, rfl⟩ := List.mem_map.mp hc
    exact (capital_of_isAsciiLetter (h d hd)).2.1
  simp only [colIndex?, columnIndex?, appendLetters_zero, hvalue, hall, List.isEmpty_map]

/-- A cell reference is written from one corner, whose letters and digits are the indexes of the
cell. -/
theorem exists_corner_of_readCell? {s : String} {row column : Nat}
    (h : readCell? s.toList = some (row, column)) :
    ∃ c : Corner, c.IsWritten ∧ rangeForm s = c.text ∧ colIndex? c.letters = some column ∧
      rowIndex? c.digits = some row := by
  obtain ⟨-, -, hcolumn, hrow⟩ := readCell?_eq_some_iff.mp h
  have hsplit := List.takeWhile_append_dropWhile (p := isAsciiLetter) (l := s.toList)
  have hletters := List.all_eq_true.mp (List.all_takeWhile (p := isAsciiLetter) (l := s.toList))
  have hdigits := List.all_eq_true.mp (rowIndex?_eq_some_iff.mp hrow).2.1
  generalize s.toList.takeWhile isAsciiLetter = letters at *
  generalize s.toList.dropWhile isAsciiLetter = digits at *
  have hdollar : '$' ∉ s.toList := by
    rw [← hsplit, List.mem_append, not_or]
    exact ⟨fun hc => absurd (hletters _ hc) (by decide),
      fun hc => absurd (hdigits _ hc) (by decide)⟩
  refine ⟨⟨letters.map Char.toUpper, digits⟩, ⟨?_, ?_⟩, ?_, ?_, hrow⟩
  · intro c hc
    obtain ⟨d, hd, rfl⟩ := List.mem_map.mp hc
    exact (capital_of_isAsciiLetter (hletters d hd)).1
  · intro c hc
    exact (digit_of_isAsciiDigit (hdigits c hc)).2.2.2.1
  · rw [rangeForm, filter_bne_of_not_mem hdollar, ← hsplit, List.map_append,
      map_toUpper_digits hdigits]
    rfl
  · exact (colIndex?_toUpper hletters).trans hcolumn

def CellRange.ofCell (row column : Nat) : CellRange :=
  { rowLower := some row, rowUpper := some row, colLower := some column, colUpper := some column }

/-- The reader of ranges takes a cell reference for the one cell. -/
theorem CellRange.read_of_readCell? {s : String} {row column : Nat}
    (h : readCell? s.toList = some (row, column)) :
    CellRange.read s = .ok (.ofCell row column) := by
  obtain ⟨c, hwritten, hform, hcolumn, hrow⟩ := exists_corner_of_readCell? h
  rw [read_of_spells (.one hwritten hform), corners, hcolumn, hrow]
  rfl

end GridQuery
