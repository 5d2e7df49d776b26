-- Ranges that are accepted. Both sides of a range are checked as cell
-- references, and read later as ranges of their own. What was accepted as two
-- cells is read as the range between them, in either case of the letters.
import GridQuery.Proofs.CheckedArguments
import GridQuery.Proofs.FormulaRanges

namespace GridQuery

open GridQuery.Text

/-! ## Case -/

theorem case_of_not_ascii {c : Char} (h : 128 ≤ c.toNat) : c.toUpper = c ∧ c.toLower = c := by
  refine ⟨?_, ?_⟩
  · unfold Char.toUpper
    apply dif_neg
    rintro ⟨-, hz⟩
    have hle : c.toNat ≤ 122 := UInt32.le_iff_toNat_le.mp hz
    omega
  · unfold Char.toLower
    apply dif_neg
    rintro ⟨-, hz⟩
    have hle : c.toNat ≤ 90 := UInt32.le_iff_toNat_le.mp hz
    omega

/-- Letters stay letters in the other case, and digits stay digits. -/
theorem case_spec (c : Char) :
    c.toLower.toUpper = c.toUpper ∧ isAsciiLetter c.toUpper = isAsciiLetter c ∧
      isAsciiDigit c.toUpper = isAsciiDigit c := by
  rcases Nat.lt_or_ge c.toNat 128 with hlt | hge
  · refine forall_ascii hlt ?_
    decide
  · obtain ⟨hupper, hlower⟩ := case_of_not_ascii hge
    rw [hlower, hupper]
    exact ⟨rfl, rfl, rfl⟩

theorem asciiUpper_eq_of_sameCaseless {s t : String} (h : sameCaseless s t = true) :
    asciiUpper s = asciiUpper t := by
  have hupper (s : String) : asciiUpper (asciiLower s) = asciiUpper s := by
    unfold asciiUpper asciiLower
    rw [String.toList_ofList, List.map_map]
    apply congrArg
    apply List.map_congr_left
    intro c _
    exact (case_spec c).1
  rw [← hupper s, ← hupper t, eq_of_beq h]

theorem rowIndex?_toUpper (digits : List Char) :
    rowIndex? (digits.map Char.toUpper) = rowIndex? digits := by
  have hall : (digits.map Char.toUpper).all isAsciiDigit = digits.all isAsciiDigit := by
    rw [List.all_map]
    apply List.all_congr rfl
    intro c
    exact (case_spec c).2.2
  rcases hdigits : digits.all isAsciiDigit with _ | _
  · simp [rowIndex?, hall, hdigits]
  · rw [map_toUpper_digits (List.all_eq_true.mp hdigits)]

/-- A cell reference is the same cell in either case of its letters. -/
theorem readCell?_toUpper (cs : List Char) : readCell? (cs.map Char.toUpper) = readCell? cs := by
  have hletter : isAsciiLetter ∘ Char.toUpper = isAsciiLetter :=
    funext fun c => (case_spec c).2.1
  have hall := List.all_eq_true.mp (List.all_takeWhile (p := isAsciiLetter) (l := cs))
  apply Option.ext
  rintro ⟨row, column⟩
  rw [readCell?_eq_some_iff, readCell?_eq_some_iff, List.takeWhile_map, List.dropWhile_map,
    hletter, List.length_map, List.length_map, colIndex?_toUpper hall, rowIndex?_toUpper]

theorem readCell?_eq_of_sameCaseless {s t : String} (h : sameCaseless s t = true) :
    readCell? s.toList = readCell? t.toList := by
  have hupper := congrArg String.toList (asciiUpper_eq_of_sameCaseless h)
  unfold asciiUpper at hupper
  rw [String.toList_ofList, String.toList_ofList] at hupper
  rw [← readCell?_toUpper, hupper, readCell?_toUpper]

/-! ## Two cells -/

/-- Two cell references with a colon between them are read as the range between the cells. -/
theorem CellRange.read_of_readCells? {s e : String} {r₁ c₁ r₂ c₂ : Nat}
    (hs : readCell? s.toList = some (r₁, c₁)) (he : readCell? e.toList = some (r₂, c₂)) :
    read (s ++ ":" ++ e) = .ok (.ofCells r₁ c₁ r₂ c₂) := by
  obtain ⟨first, hfirst, hform, hcolumn, hrow⟩ := exists_corner_of_readCell? hs
  obtain ⟨last, hlast, hform', hcolumn', hrow'⟩ := exists_corner_of_readCell? he
  have htext : s ++ ":" ++ e = String.ofList (s.toList ++ ':' :: e.toList) := by
    have hcolon : ":".toList = [':'] := rfl
    rw [← String.toList_inj]
    simp [hcolon]
  have hspells : Spells (rangeForm (s ++ ":" ++ e)) first last := by
    apply Spells.two hfirst hlast
    rw [htext, rangeForm_colon, String.ofList_toList, String.ofList_toList, hform, hform']
  rw [read_of_spells hspells, corners, hcolumn, hrow, hcolumn', hrow']
  rfl

/-- Arguments with a range are accepted only if both of its sides are cells. -/
theorem QueryArguments.Checked.exists_cells {a : QueryArguments} {s e : String}
    (h : (a.within s e).Checked) :
    ∃ r₁ c₁ r₂ c₂, readCell? s.toList = some (r₁, c₁) ∧ readCell? e.toList = some (r₂, c₂) := by
  obtain ⟨⟨r₁, c₁⟩, hs⟩ := Option.isSome_iff_exists.mp (show isCellReference s = true from h.start)
  obtain ⟨⟨r₂, c₂⟩, he⟩ := Option.isSome_iff_exists.mp (show isCellReference e = true from h.stop)
  exact ⟨r₁, c₁, r₂, c₂, hs, he⟩

/-- The case of the letters does not matter to what is accepted. -/
theorem QueryArguments.Checked.caseless {a : QueryArguments} {s e s' e' : String}
    (h : (a.within s e).Checked) (hs : sameCaseless s' s = true)
    (he : sameCaseless e' e = true) : (a.within s' e').Checked := by
  have hstart : isCellReference s = true := h.start
  have hstop : isCellReference e = true := h.stop
  refine ⟨h.source, ?_, ?_, ?_⟩
  · change isCellReference s' = true
    rw [isCellReference, readCell?_eq_of_sameCaseless hs]
    exact hstart
  · change isCellReference e' = true
    rw [isCellReference, readCell?_eq_of_sameCaseless he]
    exact hstop
  · intro hcsv hheader
    cases (h.header hcsv hheader).1

/-- A range that is accepted has two cells, and is read as the range between them, from its sides
and from the text of both with a colon between them. In another case of its letters it is
accepted too, under the same name and with the same bounds. -/
theorem an_accepted_range_is_the_range_that_is_read (a : QueryArguments) (s e : String)
    {accepted : QueryArguments} (h : (a.within s e).build = .ok accepted) :
    ∃ r₁ c₁ r₂ c₂, readCell? s.toList = some (r₁, c₁) ∧ readCell? e.toList = some (r₂, c₂) ∧
      (∀ worksheet, (accepted.tableOn worksheet).cellRange =
        .ok { rowLower := some r₁, colLower := some c₁
              rowUpper := some r₂, colUpper := some c₂ }) ∧
      CellRange.read (s ++ ":" ++ e) =
        .ok { rowLower := some r₁, colLower := some c₁
              rowUpper := some r₂, colUpper := some c₂ } ∧
      ∀ s' e', sameCaseless s' s = true → sameCaseless e' e = true →
        ∃ accepted', (a.within s' e').build = .ok accepted' ∧
          ∀ worksheet,
            (accepted'.tableOn worksheet).name = (accepted.tableOn worksheet).name ∧
              (accepted'.tableOn worksheet).cellRange =
                (accepted.tableOn worksheet).cellRange := by
  obtain ⟨rfl, hchecked⟩ := QueryArguments.build_eq_ok_iff.mp h
  obtain ⟨r₁, c₁, r₂, c₂, hs, he⟩ := hchecked.exists_cells
  refine ⟨r₁, c₁, r₂, c₂, hs, he, ?_, CellRange.read_of_readCells? hs he, ?_⟩
  · intro worksheet
    exact CellRange.between_of_readCell? hs he
  · intro s' e' hs' he'
    refine ⟨_, QueryArguments.build_of_checked (hchecked.caseless hs' he'), ?_⟩
    intro worksheet
    refine ⟨?_, ?_⟩
    · simp only [QueryArguments.tableOn, QueryArguments.within, TableRef.name, Option.getD_some,
        asciiUpper_eq_of_sameCaseless hs', asciiUpper_eq_of_sameCaseless he']
      rfl
    · have hread := CellRange.between_of_readCell? ((readCell?_eq_of_sameCaseless hs').trans hs)
        ((readCell?_eq_of_sameCaseless he').trans he)
      exact hread.trans (CellRange.between_of_readCell? hs he).symm

/-- A range in small letters, and the same with capitals. -/
theorem a_range_in_small_letters :
    ∃ accepted accepted' : QueryArguments,
      (({ source := "a.xlsx" } : QueryArguments).within "b2" "xfd10").build = .ok accepted ∧
        (({ source := "a.xlsx" } : QueryArguments).within "B2" "xFd10").build = .ok accepted' ∧
        (accepted.tableOn "Data").name = "Data$B2:XFD10" ∧
        (accepted'.tableOn "Data").name = (accepted.tableOn "Data").name ∧
        (accepted.tableOn "Data").cellRange =
          .ok { rowLower := some 1, colLower := some 1
                rowUpper := some 9, colUpper := some 16383 } := by
  obtain ⟨r₁, c₁, r₂, c₂, hs, he, hread, -, hcaseless⟩ :=
    an_accepted_range_is_the_range_that_is_read { source := "a.xlsx" } "b2" "xfd10" rfl
  obtain ⟨accepted', hbuild, hsame⟩ := hcaseless "B2" "xFd10" (by decide) (by decide)
  obtain ⟨rfl, rfl⟩ := Prod.mk.inj (Option.some.inj hs)
  obtain ⟨rfl, rfl⟩ := Prod.mk.inj (Option.some.inj he)
  exact ⟨_, accepted', rfl, hbuild, rfl, (hsame "Data").1, hread "Data"⟩

end GridQuery
