-- Sides of a range that are open. A side is open where nothing is written for
-- it, but also where what is written is no index: a row zero, a row in digits
-- of another script, a row or a column beyond the indexes. Apart from these, a
-- text is refused or read as the range that it spells.
import GridQuery.Proofs.WrittenReferences

namespace GridQuery

open GridQuery.Text

/-! ## Indexes -/

/-- Letters of the column with an index. -/
structure IsColumn (letters : List Char) (k : Nat) : Prop where
  value : lettersValue letters = k + 1
  within : k + 1 < indexLimit

/-- Digits of the row with an index. -/
structure IsRow (digits : List Char) (k : Nat) : Prop where
  of_digits : ∀ d ∈ digits, isAsciiDigit d = true
  value : digitsValue digits = k + 1
  within : k + 1 < indexLimit

theorem colIndex?_eq_some_iff {letters : List Char} {k : Nat}
    (h : ∀ l ∈ letters, isAsciiCapital l = true) :
    colIndex? letters = some k ↔ IsColumn letters k := by
  have hletters : ∀ l ∈ letters, isAsciiLetter l = true := fun l hl =>
    (letter_of_isAsciiCapital (h l hl)).1
  unfold colIndex?
  rw [Option.map_eq_some_iff]
  constructor
  · rintro ⟨n, hn, rfl⟩
    obtain ⟨hne, -, rfl, hlimit⟩ := columnIndex?_eq_some_iff.mp hn
    have hpos := lettersValue_pos hletters hne
    exact ⟨by omega, by omega⟩
  · rintro ⟨hvalue, hlimit⟩
    refine ⟨k + 1, columnIndex?_eq_some_iff.mpr ?_, rfl⟩
    refine ⟨?_, List.all_eq_true.mpr hletters, hvalue, hlimit⟩
    rintro rfl
    cases hvalue

theorem rowIndex?_eq_some_iff_isRow {digits : List Char} {k : Nat} :
    rowIndex? digits = some k ↔ IsRow digits k := by
  rw [rowIndex?_eq_some_iff]
  constructor
  · rintro ⟨-, hall, hvalue, hlimit⟩
    exact ⟨List.all_eq_true.mp hall, hvalue, hlimit⟩
  · rintro ⟨hall, hvalue, hlimit⟩
    refine ⟨?_, List.all_eq_true.mpr hall, hvalue, hlimit⟩
    rintro rfl
    cases hvalue

/-! ## Numbers that are no index -/

/-- A number of the corner is written and stands for no index. -/
inductive Corner.Overlooked (c : Corner) : Prop
  | row_zero : c.digits ≠ [] → (∀ d ∈ c.digits, d = '0') → Overlooked c
  /-- A digit that is not an ASCII digit. -/
  | other_digit (d : Char) : d ∈ c.digits → isAsciiDigit d = false → Overlooked c
  | row_beyond : (∀ d ∈ c.digits, isAsciiDigit d = true) → indexLimit ≤ digitsValue c.digits →
      Overlooked c
  | column_beyond : indexLimit ≤ lettersValue c.letters → Overlooked c

/-- Digits are no row if they are zeros, of another script, or a number that is too large. -/
theorem not_isRow_iff {digits : List Char} :
    (¬ ∃ k, IsRow digits k) ↔
      (∀ d ∈ digits, d = '0') ∨ (∃ d ∈ digits, isAsciiDigit d = false) ∨
        (∀ d ∈ digits, isAsciiDigit d = true) ∧ indexLimit ≤ digitsValue digits := by
  constructor
  · intro hnone
    by_cases hall : ∀ d ∈ digits, isAsciiDigit d = true
    · by_cases hlimit : digitsValue digits < indexLimit
      · rcases Nat.eq_zero_or_pos (digitsValue digits) with hzero | hpos
        · exact .inl ((digitsValue_eq_zero_iff hall).mp hzero)
        · exact absurd ⟨digitsValue digits - 1, hall, by omega, by omega⟩ hnone
      · exact .inr (.inr ⟨hall, Nat.le_of_not_lt hlimit⟩)
    · push Not at hall
      obtain ⟨d, hd, hother⟩ := hall
      exact .inr (.inl ⟨d, hd, Bool.eq_false_iff.mpr hother⟩)
  · rintro (hzero | ⟨d, hd, hother⟩ | ⟨-, hlimit⟩) ⟨k, hall, hvalue, hwithin⟩
    · have hnothing := (digitsValue_eq_zero_iff hall).mpr hzero
      omega
    · rw [hall d hd] at hother
      cases hother
    · omega

/-- Written letters are no column if their number is too large. -/
theorem not_isColumn_iff {letters : List Char} (h : ∀ l ∈ letters, isAsciiCapital l = true)
    (hne : letters ≠ []) : (¬ ∃ k, IsColumn letters k) ↔ indexLimit ≤ lettersValue letters := by
  have hpos := lettersValue_pos (fun l hl => (letter_of_isAsciiCapital (h l hl)).1) hne
  constructor
  · intro hnone
    by_contra hlimit
    exact hnone ⟨lettersValue letters - 1, by omega, by omega⟩
  · rintro hlimit ⟨k, hvalue, hwithin⟩
    omega

theorem Corner.not_overlooked_iff {c : Corner} (h : c.IsWritten) :
    ¬ c.Overlooked ↔
      (c.digits ≠ [] → ∃ k, IsRow c.digits k) ∧ (c.letters ≠ [] → ∃ k, IsColumn c.letters k) := by
  constructor
  · intro hnot
    refine ⟨?_, ?_⟩
    · intro hne
      by_contra hnone
      apply hnot
      rcases not_isRow_iff.mp hnone with hzero | ⟨d, hd, hother⟩ | ⟨hall, hlimit⟩
      · exact .row_zero hne hzero
      · exact .other_digit d hd hother
      · exact .row_beyond hall hlimit
    · intro hne
      by_contra hnone
      exact hnot (.column_beyond ((not_isColumn_iff h.of_letters hne).mp hnone))
  · rintro ⟨hrow, hcolumn⟩ hover
    cases hover with
    | row_zero hne hzero => exact not_isRow_iff.mpr (.inl hzero) (hrow hne)
    | other_digit d hd hother =>
      exact not_isRow_iff.mpr (.inr (.inl ⟨d, hd, hother⟩)) (hrow (List.ne_nil_of_mem hd))
    | row_beyond hall hlimit =>
      have hne : c.digits ≠ [] := by
        intro hnil
        rw [hnil] at hlimit
        exact absurd hlimit (by decide)
      exact not_isRow_iff.mpr (.inr (.inr ⟨hall, hlimit⟩)) (hrow hne)
    | column_beyond hlimit =>
      have hne : c.letters ≠ [] := by
        intro hnil
        rw [hnil] at hlimit
        exact absurd hlimit (by decide)
      exact (not_isColumn_iff h.of_letters hne).mpr hlimit (hcolumn hne)

/-! ## Ranges as they are written -/

/-- A bound is missing exactly if its number is not written, and otherwise is the number's index. -/
structure IsBoundOf (IsIndex : List Char → Nat → Prop) (number : List Char)
    (bound : Option Nat) : Prop where
  missing : bound = none ↔ number = []
  index : ∀ k, bound = some k → IsIndex number k

/-- Each bound of the range is as the corners have it. -/
structure CellRange.IsAsWritten (r : CellRange) (first last : Corner) : Prop where
  rowLower : IsBoundOf IsRow first.digits r.rowLower
  colLower : IsBoundOf IsColumn first.letters r.colLower
  rowUpper : IsBoundOf IsRow last.digits r.rowUpper
  colUpper : IsBoundOf IsColumn last.letters r.colUpper

/-- The text is refused, or its range is as the corners have it that the text is written from. -/
def ReadAsWritten (s : String) : Prop :=
  ∀ r, CellRange.read s = .ok r →
    ∃ first last, Spells (rangeForm s) first last ∧ r.IsAsWritten first last

theorem isBoundOf_iff {IsIndex : List Char → Nat → Prop} {number : List Char}
    {bound : Option Nat} (h : ∀ k, bound = some k ↔ IsIndex number k)
    (hnil : ∀ k, ¬ IsIndex [] k) :
    IsBoundOf IsIndex number bound ↔ (number ≠ [] → ∃ k, IsIndex number k) := by
  constructor
  · intro hbound hne
    obtain ⟨k, hk⟩ := Option.ne_none_iff_exists'.mp (hbound.missing.not.mpr hne)
    exact ⟨k, hbound.index k hk⟩
  · intro hindex
    refine ⟨⟨?_, ?_⟩, fun k => (h k).mp⟩
    · intro hnone
      by_contra hne
      obtain ⟨k, hk⟩ := hindex hne
      rw [(h k).mpr hk] at hnone
      cases hnone
    · rintro rfl
      apply Option.eq_none_iff_forall_ne_some.mpr
      intro k hk
      exact hnil k ((h k).mp hk)

/-- The range from one corner to another is as they have it if they have indexes alone. -/
theorem CellRange.corners_isAsWritten_iff {first last : Corner} (hfirst : first.IsWritten)
    (hlast : last.IsWritten) :
    (CellRange.corners first last).IsAsWritten first last ↔
      ¬ first.Overlooked ∧ ¬ last.Overlooked := by
  have hrow (digits : List Char) :
      IsBoundOf IsRow digits (rowIndex? digits) ↔ (digits ≠ [] → ∃ k, IsRow digits k) := by
    apply isBoundOf_iff fun k => rowIndex?_eq_some_iff_isRow
    intro k h
    cases h.value
  have hcolumn {letters : List Char} (h : ∀ l ∈ letters, isAsciiCapital l = true) :
      IsBoundOf IsColumn letters (colIndex? letters) ↔
        (letters ≠ [] → ∃ k, IsColumn letters k) := by
    apply isBoundOf_iff fun k => colIndex?_eq_some_iff h
    intro k h
    cases h.value
  rw [Corner.not_overlooked_iff hfirst, Corner.not_overlooked_iff hlast, ← hrow, ← hrow,
    ← hcolumn hfirst.of_letters, ← hcolumn hlast.of_letters]
  constructor
  · rintro ⟨hrow, hcolumn, hrow', hcolumn'⟩
    exact ⟨⟨hrow, hcolumn⟩, hrow', hcolumn'⟩
  · rintro ⟨⟨hrow, hcolumn⟩, hrow', hcolumn'⟩
    exact ⟨hrow, hcolumn, hrow', hcolumn'⟩

/-- A text is refused, in the form in which it is read, exactly if it is not written from corners.
Otherwise each bound is there exactly if its number is an index, and is that index. So the range
is as it is written exactly if no number of the text is overlooked: no row that is zero, in digits
of another script or beyond the indexes, and no column beyond them. -/
theorem a_range_is_as_written_unless_a_number_is_no_index (s : String) :
    (∀ e, CellRange.read s = .error e ↔
      e = .format (String.ofList (rangeForm s)) ∧
        ∀ first last, ¬ Spells (rangeForm s) first last) ∧
      (∀ r, CellRange.read s = .ok r ↔
        ∃ first last, Spells (rangeForm s) first last ∧
          (∀ k, r.rowLower = some k ↔ IsRow first.digits k) ∧
          (∀ k, r.colLower = some k ↔ IsColumn first.letters k) ∧
          (∀ k, r.rowUpper = some k ↔ IsRow last.digits k) ∧
          ∀ k, r.colUpper = some k ↔ IsColumn last.letters k) ∧
      (ReadAsWritten s ↔
        ∀ first last, Spells (rangeForm s) first last →
          ¬ first.Overlooked ∧ ¬ last.Overlooked) := by
  refine ⟨fun e => CellRange.read_eq_error_iff, ?_, ?_⟩
  · intro r
    rw [CellRange.read_eq_ok_iff]
    constructor
    · rintro ⟨first, last, hspells, rfl⟩
      obtain ⟨hfirst, hlast⟩ := hspells.written
      exact ⟨first, last, hspells, fun k => rowIndex?_eq_some_iff_isRow,
        fun k => colIndex?_eq_some_iff hfirst.of_letters, fun k => rowIndex?_eq_some_iff_isRow,
        fun k => colIndex?_eq_some_iff hlast.of_letters⟩
    · rintro ⟨first, last, hspells, hrow, hcolumn, hrow', hcolumn'⟩
      obtain ⟨hfirst, hlast⟩ := hspells.written
      refine ⟨first, last, hspells, ?_⟩
      obtain ⟨rowLower, rowUpper, colLower, colUpper⟩ := r
      simp only [CellRange.corners, CellRange.mk.injEq]
      refine ⟨?_, ?_, ?_, ?_⟩
      · exact Option.ext fun k => (hrow k).trans rowIndex?_eq_some_iff_isRow.symm
      · exact Option.ext fun k => (hrow' k).trans rowIndex?_eq_some_iff_isRow.symm
      · exact Option.ext fun k => (hcolumn k).trans (colIndex?_eq_some_iff hfirst.of_letters).symm
      · exact Option.ext fun k => (hcolumn' k).trans (colIndex?_eq_some_iff hlast.of_letters).symm
  · constructor
    · intro h first last hspells
      obtain ⟨first', last', hspells', hwritten⟩ := h _ (CellRange.read_of_spells hspells)
      obtain ⟨rfl, rfl⟩ := hspells.unique hspells'
      obtain ⟨hfirst, hlast⟩ := hspells.written
      exact (CellRange.corners_isAsWritten_iff hfirst hlast).mp hwritten
    · intro h r hread
      obtain ⟨first, last, hspells, rfl⟩ := CellRange.read_eq_ok_iff.mp hread
      obtain ⟨hfirst, hlast⟩ := hspells.written
      exact ⟨first, last, hspells,
        (CellRange.corners_isAsWritten_iff hfirst hlast).mpr (h first last hspells)⟩

/-- A range without a last row is open below, as it is written. -/
theorem a_range_without_a_last_row :
    CellRange.read "$b$2:d" =
        .ok { rowLower := some 1, colLower := some 1, colUpper := some 3 } ∧
      ReadAsWritten "$b$2:d" := by
  obtain ⟨-, -, hiff⟩ := a_range_is_as_written_unless_a_number_is_no_index "$b$2:d"
  have hspells : Spells (rangeForm "$b$2:d") ⟨['B'], ['2']⟩ ⟨['D'], []⟩ :=
    .two (by decide) (by decide) rfl
  refine ⟨rfl, hiff.mpr ?_⟩
  intro first last hspells'
  obtain ⟨rfl, rfl⟩ := hspells.unique hspells'
  rw [Corner.not_overlooked_iff hspells.written.1, Corner.not_overlooked_iff hspells.written.2]
  exact ⟨⟨fun _ => ⟨1, List.all_eq_true.mp rfl, rfl, by decide⟩, fun _ => ⟨1, rfl, by decide⟩⟩,
    fun h => absurd rfl h, fun _ => ⟨3, rfl, by decide⟩⟩

/-- A last row that is written as zero leaves the range open below. -/
theorem a_row_zero_leaves_a_side_open :
    CellRange.read "A1:B0" =
        .ok { rowLower := some 0, colLower := some 0, colUpper := some 1 } ∧
      ¬ ReadAsWritten "A1:B0" := by
  have hspells : Spells (rangeForm "A1:B0") ⟨['A'], ['1']⟩ ⟨['B'], ['0']⟩ :=
    .two (by decide) (by decide) rfl
  refine ⟨rfl, ?_⟩
  intro h
  obtain ⟨first, last, hspells', hwritten⟩ := h _ (CellRange.read_of_spells hspells)
  obtain ⟨rfl, rfl⟩ := hspells.unique hspells'
  exact absurd (hwritten.rowUpper.missing.mp rfl) (List.cons_ne_nil _ _)

end GridQuery
