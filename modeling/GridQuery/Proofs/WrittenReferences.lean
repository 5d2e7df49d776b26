-- The texts that are cell references, and the one of them that each cell is
-- written as. Letters and digits can be told apart, so a reference has one
-- column and one row; what two references of a cell differ in is the case of
-- their letters and the zeros in front of their digits.
import GridQuery.Proofs.ColumnLetters

namespace GridQuery

open GridQuery.Text

/-! ## Digits -/

theorem digitChar_digitValue {c : Char} (h : isAsciiDigit c = true) :
    digitChar (digitValue c) = c := by
  have hlt := toNat_lt_of_isAsciiDigit h
  revert h
  refine forall_ascii hlt ?_
  decide

theorem digitValue_eq_zero_iff {c : Char} (h : isAsciiDigit c = true) :
    digitValue c = 0 ↔ c = '0' := by
  constructor
  · intro hzero
    rw [← digitChar_digitValue h, hzero]
    rfl
  · rintro rfl
    rfl

section

variable {cs : List Char} (h : ∀ c ∈ cs, isAsciiDigit c = true)

include h

theorem digitsValue_eq_zero_iff : digitsValue cs = 0 ↔ ∀ c ∈ cs, c = '0' := by
  induction cs using List.reverseRecOn with
  | nil => simp [digitsValue]
  | append_singleton cs c ih =>
    have hrest := ih fun d hd => h d (List.mem_append_left _ hd)
    have hlast := digitValue_eq_zero_iff (h c (by simp))
    rw [digitsValue_concat, List.forall_mem_append, List.forall_mem_singleton, ← hrest, ← hlast]
    omega

/-- Digits are those of the number that they denote, without the zeros in front. -/
theorem decimal_digitsValue (hpos : 0 < digitsValue cs) :
    decimal (digitsValue cs) = cs.dropWhile (· == '0') := by
  induction cs using List.reverseRecOn with
  | nil => exact absurd hpos (Nat.lt_irrefl 0)
  | append_singleton cs c ih =>
    have hcs : ∀ d ∈ cs, isAsciiDigit d = true := fun d hd => h d (List.mem_append_left _ hd)
    have hc := h c (by simp)
    have hten := (digit_of_isAsciiDigit hc).2.2.2.2
    rw [digitsValue_concat] at hpos ⊢
    rw [List.dropWhile_append]
    rcases Nat.eq_zero_or_pos (digitsValue cs) with hzero | hrest
    · -- nothing but zeros stands before the last digit
      have hzeros : cs.dropWhile (· == '0') = [] := by
        rw [List.dropWhile_eq_nil_iff]
        intro d hd
        rw [(digitsValue_eq_zero_iff hcs).mp hzero d hd]
        rfl
      have hlast : (c == '0') = false := by
        rw [beq_eq_false_iff_ne]
        intro heq
        rw [hzero, (digitValue_eq_zero_iff hc).mpr heq] at hpos
        exact absurd hpos (Nat.lt_irrefl 0)
      rw [hzeros, hzero, Nat.mul_zero, Nat.zero_add, decimal, if_pos hten,
        digitChar_digitValue hc]
      simp [hlast]
    · have hdecimal := ih hcs hrest
      have hne : (cs.dropWhile (· == '0')).isEmpty = false := by
        rw [← hdecimal]
        simpa using decimal_ne_nil (digitsValue cs)
      have htens : (10 * digitsValue cs + digitValue c) / 10 = digitsValue cs := by omega
      have hones : (10 * digitsValue cs + digitValue c) % 10 = digitValue c := by omega
      rw [hne, decimal, if_neg (by omega), htens, hones, hdecimal, digitChar_digitValue hc]
      rfl

end

/-! ## The form of a reference -/

/-- A number has at most three letters up to that of `ZZZ`. -/
theorem length_columnLetters_le_three_iff {n : Nat} :
    (columnLetters n).length ≤ 3 ↔ n ≤ 18278 := by
  have hlast : (columnLetters 18278).length = 3 := by simp [columnLetters]
  have hnext : (columnLetters 18279).length = 4 := by simp [columnLetters]
  constructor
  · intro h
    by_contra hgt
    have hfour := length_columnLetters_le (Nat.lt_of_not_le hgt)
    rw [hnext] at hfour
    omega
  · intro h
    exact hlast ▸ length_columnLetters_le h

/-- One to three letters and one to seven digits, not all of them zero. -/
structure SpellsCell (letters digits : List Char) : Prop where
  some_letter : 1 ≤ letters.length
  three_letters : letters.length ≤ 3
  of_letters : ∀ c ∈ letters, isAsciiLetter c = true
  some_digit : 1 ≤ digits.length
  seven_digits : digits.length ≤ 7
  of_digits : ∀ c ∈ digits, isAsciiDigit c = true
  not_zero : ∃ c ∈ digits, c ≠ '0'

namespace SpellsCell

variable {letters digits : List Char} (h : SpellsCell letters digits)

include h

theorem lettersValue_le : lettersValue letters ≤ 18278 := by
  have hthree := h.three_letters
  rw [← length_columnLetters_le_three_iff, columnLetters_lettersValue h.of_letters, List.length_map]
  exact hthree

theorem lettersValue_pos : 0 < lettersValue letters :=
  GridQuery.lettersValue_pos h.of_letters (List.length_pos_iff.mp h.some_letter)

theorem digitsValue_pos : 0 < digitsValue digits := by
  obtain ⟨c, hc, hne⟩ := h.not_zero
  by_contra hzero
  exact hne ((digitsValue_eq_zero_iff h.of_digits).mp (Nat.eq_zero_of_not_pos hzero) c hc)

/-- Letters and digits are told apart by what they are. -/
theorem split : (letters ++ digits).takeWhile isAsciiLetter = letters ∧
    (letters ++ digits).dropWhile isAsciiLetter = digits :=
  span_append h.of_letters fun c hc => (digit_of_isAsciiDigit (h.of_digits c hc)).2.1

end SpellsCell

/-- A text is a reference of a cell exactly if letters spell its column and digits its row. -/
theorem readCell?_eq_some_iff_spells {cs : List Char} {row column : Nat} :
    readCell? cs = some (row, column) ↔
      ∃ letters digits, cs = letters ++ digits ∧ SpellsCell letters digits ∧
        lettersValue letters = column + 1 ∧ digitsValue digits = row + 1 := by
  rw [readCell?_eq_some_iff]
  constructor
  · rintro ⟨hthree, hseven, hcolumn, hrow⟩
    obtain ⟨n, hindex, rfl⟩ := Option.map_eq_some_iff.mp hcolumn
    obtain ⟨hletter, hletters, hvalue, -⟩ := columnIndex?_eq_some_iff.mp hindex
    obtain ⟨hdigit, hdigits, hrow⟩ := (rowIndex?_eq_some_iff_of_short hseven).mp hrow
    have hspells : SpellsCell (cs.takeWhile isAsciiLetter) (cs.dropWhile isAsciiLetter) := by
      refine ⟨List.length_pos_iff.mpr hletter, hthree, List.all_eq_true.mp hletters,
        List.length_pos_iff.mpr hdigit, hseven, List.all_eq_true.mp hdigits, ?_⟩
      by_contra hzeros
      have hzero := (digitsValue_eq_zero_iff (List.all_eq_true.mp hdigits)).mpr fun c hc => by
        by_contra hne
        exact hzeros ⟨c, hc, hne⟩
      omega
    refine ⟨_, _, List.takeWhile_append_dropWhile.symm, hspells, ?_, hrow⟩
    have hpos := hspells.lettersValue_pos
    omega
  · rintro ⟨letters, digits, rfl, h, hcolumn, hrow⟩
    have hle := h.lettersValue_le
    rw [h.split.1, h.split.2, rowIndex?_eq_some_iff_of_short h.seven_digits]
    have hlimit : column + 1 < indexLimit := by
      unfold indexLimit
      omega
    have hindex : columnIndex? letters = some (column + 1) :=
      columnIndex?_eq_some_iff.mpr ⟨List.length_pos_iff.mp h.some_letter,
        List.all_eq_true.mpr h.of_letters, hcolumn, hlimit⟩
    refine ⟨h.three_letters, h.seven_digits, ?_, List.length_pos_iff.mp h.some_digit,
      List.all_eq_true.mpr h.of_digits, hrow⟩
    rw [colIndex?, hindex]
    rfl

/-! ## Written references -/

theorem toList_cellReference {row column : Nat} (h : column < 9223372036854775807) :
    (cellReference row column).toList = columnLetters (column + 1) ++ decimal (row + 1) := by
  rw [cellReference, String.toList_ofList, columnLettersAt, if_pos h]

/-- Two cells are written differently. -/
theorem cellReference_inj {row column row' column' : Nat} (hc : column < 9223372036854775807)
    (hc' : column' < 9223372036854775807)
    (h : cellReference row column = cellReference row' column') :
    row = row' ∧ column = column' := by
  have hlist := congrArg String.toList h
  rw [toList_cellReference hc, toList_cellReference hc'] at hlist
  have hsplit (row column : Nat) :=
    span_append (columnLetters_spec (column + 1)).1 fun c hc =>
      (digit_of_isAsciiDigit ((decimal_spec (row + 1)).1 c hc)).2.1
  have hletters := congrArg (List.takeWhile isAsciiLetter) hlist
  have hdigits := congrArg (List.dropWhile isAsciiLetter) hlist
  rw [(hsplit row column).1, (hsplit row' column').1] at hletters
  rw [(hsplit row column).2, (hsplit row' column').2] at hdigits
  have hcolumns := congrArg lettersValue hletters
  have hrows := congrArg digitsValue hdigits
  rw [(columnLetters_spec _).2, (columnLetters_spec _).2] at hcolumns
  rw [(decimal_spec _).2, (decimal_spec _).2] at hrows
  exact ⟨Nat.succ.inj hrows, Nat.succ.inj hcolumns⟩

/-- A text without the zeros that its digits begin with. -/
def withoutLeadingZeros (s : String) : String :=
  String.ofList (s.toList.takeWhile isAsciiLetter ++
    (s.toList.dropWhile isAsciiLetter).dropWhile (· == '0'))

/-- A reference in capitals, without zeros in front of its digits, is what its cell is written
as. -/
theorem cellReference_of_readCell? {s : String} {row column : Nat}
    (h : readCell? s.toList = some (row, column)) :
    cellReference row column = withoutLeadingZeros (asciiUpper s) := by
  obtain ⟨letters, digits, hs, hspells, hcolumn, hrow⟩ := readCell?_eq_some_iff_spells.mp h
  have hle := hspells.lettersValue_le
  have hwritten : (cellReference row column).toList =
      letters.map Char.toUpper ++ digits.dropWhile (· == '0') := by
    rw [toList_cellReference (by omega), ← hcolumn, ← hrow,
      columnLetters_lettersValue hspells.of_letters,
      decimal_digitsValue hspells.of_digits hspells.digitsValue_pos]
  have hcapitals : (asciiUpper s).toList = letters.map Char.toUpper ++ digits := by
    rw [asciiUpper, String.toList_ofList, hs, List.map_append,
      map_toUpper_digits hspells.of_digits]
  have hletters : ∀ c ∈ letters.map Char.toUpper, isAsciiLetter c = true := by
    intro c hc
    obtain ⟨d, hd, rfl⟩ := List.mem_map.mp hc
    exact (capital_of_isAsciiLetter (hspells.of_letters d hd)).2.1
  obtain ⟨hfront, hback⟩ := span_append hletters fun c hc =>
    (digit_of_isAsciiDigit (hspells.of_digits c hc)).2.1
  rw [← String.toList_inj, hwritten, withoutLeadingZeros, String.toList_ofList, hcapitals, hfront,
    hback]

/-- A text is a cell reference exactly if it is one to three letters and one to seven digits that
are not all zero. The reference of a cell whose number has no more digits and no more letters is
read as the cell. A text that is read as a cell is the reference of the cell, up to the case of
its letters and the zeros in front of its digits. Different cells have different references. -/
theorem cell_references_are_read_as_they_are_written :
    (∀ s : String, (readCell? s.toList).isSome = true ↔
      ∃ letters digits, s.toList = letters ++ digits ∧ SpellsCell letters digits) ∧
      (∀ row column, row < 9999999 → column < 18278 →
        readCell? (cellReference row column).toList = some (row, column)) ∧
      (∀ (s : String) (row column : Nat), readCell? s.toList = some (row, column) →
        cellReference row column = withoutLeadingZeros (asciiUpper s)) ∧
      (∀ row column row' column', column < 2 ^ 63 - 1 → column' < 2 ^ 63 - 1 →
        cellReference row column = cellReference row' column' →
          row = row' ∧ column = column') := by
  refine ⟨?_, ?_, ?_, ?_⟩
  · intro s
    rw [Option.isSome_iff_exists]
    constructor
    · rintro ⟨⟨row, column⟩, h⟩
      obtain ⟨letters, digits, hs, hspells, -⟩ := readCell?_eq_some_iff_spells.mp h
      exact ⟨letters, digits, hs, hspells⟩
    · rintro ⟨letters, digits, hs, hspells⟩
      have hrow := hspells.digitsValue_pos
      have hcolumn := hspells.lettersValue_pos
      refine ⟨(digitsValue digits - 1, lettersValue letters - 1), ?_⟩
      rw [readCell?_eq_some_iff_spells]
      exact ⟨letters, digits, hs, hspells, by omega, by omega⟩
  · intro row column hrow hcolumn
    have hplain : columnLettersAt column = columnLetters (column + 1) := if_pos (by omega)
    apply readCell?_cellReference
    · rw [hplain]
      exact columnLetters_ne_nil (Nat.succ_pos column)
    · rw [hplain]
      exact length_columnLetters_le_three_iff.mpr hcolumn
    · exact length_decimal_le (by decide) (by omega)
  · intro s row column
    exact cellReference_of_readCell?
  · intro row column row' column' hc hc'
    exact cellReference_inj hc hc'

/-- A reference in mixed case with zeros in front of its digits, the last cell that has a
reference of three letters and seven digits, and two cells that mirror each other. -/
theorem a_reference_with_zeros_and_the_last_short_one :
    (∃ letters digits, "aB007".toList = letters ++ digits ∧ SpellsCell letters digits) ∧
      cellReference 6 27 = "AB7" ∧
      readCell? (cellReference 9999998 18277).toList = some (9999998, 18277) ∧
      cellReference 1 0 ≠ cellReference 0 1 := by
  obtain ⟨haccepted, hread, hwritten, hinj⟩ := cell_references_are_read_as_they_are_written
  have hcell : readCell? "aB007".toList = some (6, 27) := rfl
  refine ⟨(haccepted "aB007").mp rfl, hwritten "aB007" 6 27 hcell,
    hread 9999998 18277 (by decide) (by decide), ?_⟩
  intro h
  exact absurd (hinj 1 0 0 1 (by decide) (by decide) h).1 (by decide)

end GridQuery
