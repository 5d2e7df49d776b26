-- Ranges behind defined names. A formula's range is cut at its first colon and
-- both parts are read as ranges of their own, so a part behind the colon may
-- have a colon again. What comes out is what a reading of the whole gives,
-- but that three corners with colons between them are not refused.
import GridQuery.Proofs.NamedRanges

namespace GridQuery

open GridQuery.Text

/-! ## Cutting -/

theorem cutAtFirst_of_not_mem {mark : Char} {cs : List Char} (h : mark ∉ cs) :
    cutAtFirst mark cs = none := by
  induction cs with
  | nil => rfl
  | cons c cs ih =>
    rw [List.mem_cons, not_or] at h
    rw [cutAtFirst, if_neg (Ne.symm h.1), ih h.2]
    rfl

/-- The first of two equal marks is the same in both texts. -/
theorem eq_of_mark_append {mark : Char} {before before' after after' : List Char}
    (hbefore : mark ∉ before) (hbefore' : mark ∉ before')
    (h : before ++ mark :: after = before' ++ mark :: after') :
    before = before' ∧ after = after' := by
  have hcut := congrArg (cutAtFirst mark) h
  rw [cutAtFirst_append hbefore, cutAtFirst_append hbefore'] at hcut
  exact Prod.mk.inj (Option.some.inj hcut)

section

variable (cs before after : List Char)

theorem colon_mem_rangeForm_iff : ':' ∈ rangeForm (String.ofList cs) ↔ ':' ∈ cs := by
  unfold rangeForm
  rw [String.toList_ofList, List.mem_map]
  constructor
  · rintro ⟨c, hc, hupper⟩
    obtain rfl := eq_of_toUpper_eq (by decide) hupper
    exact (List.mem_filter.mp hc).1
  · intro h
    exact ⟨':', List.mem_filter.mpr ⟨h, by decide⟩, by decide⟩

theorem rangeForm_colon :
    rangeForm (String.ofList (before ++ ':' :: after)) =
      rangeForm (String.ofList before) ++ ':' :: rangeForm (String.ofList after) := by
  have hcolon : ':'.toUpper = ':' := by decide
  simp [rangeForm, hcolon]

theorem rangeForm_without_dollars :
    rangeForm (String.ofList (cs.filter (· != '$'))) = rangeForm (String.ofList cs) := by
  simp [rangeForm]

end

/-! ## Three corners -/

/-- The text is written from three corners, with colons between them. -/
structure SpellsThree (form : List Char) (first middle last : Corner) : Prop where
  of_first : first.IsWritten
  of_middle : middle.IsWritten
  of_last : last.IsWritten
  form_eq : form = first.text ++ ':' :: (middle.text ++ ':' :: last.text)

/-- Three corners are not one or two. -/
theorem SpellsThree.not_spells {form : List Char} {first middle last first' last' : Corner}
    (h : SpellsThree form first middle last) : ¬ Spells form first' last' := by
  intro hspells
  have hread := readCorner_colon h.of_first (middle.text ++ ':' :: last.text)
  rw [← h.form_eq] at hread
  rcases hspells.readCorner_eq with ⟨hread', -⟩ | hread' <;> rw [hread'] at hread
  · cases (Prod.mk.inj hread).2
  · have htext : last'.text = middle.text ++ ':' :: last.text :=
      (List.cons.inj (Prod.mk.inj hread).2).2
    apply hspells.written.2.colon_not_mem
    rw [htext]
    exact List.mem_append_right _ List.mem_cons_self

/-- Without a colon there is one corner. -/
theorem Spells.of_colon_not_mem {form : List Char} {first last : Corner}
    (h : Spells form first last) (hcolon : ':' ∉ form) :
    last = first ∧ form = first.text := by
  cases h with
  | one _ hform => exact ⟨rfl, hform⟩
  | two _ _ hform =>
    rw [hform] at hcolon
    exact absurd (List.mem_append_right _ List.mem_cons_self) hcolon

/-! ## Formulas -/

theorem CellRange.between_eq_ok_iff {start stop : String} {r : CellRange} :
    between (some start) (some stop) = .ok r ↔
      ∃ f l, read start = .ok f ∧ read stop = .ok l ∧
        r = { rowLower := f.rowLower, colLower := f.colLower
              rowUpper := l.rowUpper, colUpper := l.colUpper } := by
  simp only [between, readOptional]
  rcases read start with e | f
  · constructor
    · intro h
      cases h
    · rintro ⟨f, l, hf, -⟩
      cases hf
  · rcases read stop with e | l
    · constructor
      · intro h
        cases h
      · rintro ⟨f, l, -, hl, -⟩
        cases hl
    · constructor
      · intro h
        exact ⟨f, l, rfl, rfl, (Except.ok.inj h).symm⟩
      · rintro ⟨f', l', hf, hl, rfl⟩
        rw [Except.ok.inj hf, Except.ok.inj hl]
        rfl

section

variable {range : String} {r : CellRange}

theorem formulaRange_of_colon_not_mem (h : ':' ∉ range.toList) :
    formulaRange range = .ok r ↔ CellRange.read range = .ok r := by
  simp only [formulaRange, cutAtFirst_of_not_mem h]
  rw [CellRange.between_eq_ok_iff]
  constructor
  · rintro ⟨f, l, hf, hl, rfl⟩
    obtain rfl := Except.ok.inj (hf.symm.trans hl)
    exact hf
  · intro hr
    exact ⟨r, r, hr, hr, rfl⟩

/-- Of the parts before and after a colon, the first has one corner, the second one or two. -/
theorem formulaRange_of_colon {before after : List Char} (hcolon : ':' ∉ before)
    (htext : range.toList = before ++ ':' :: after) :
    formulaRange range = .ok r ↔
      ∃ first last, first.IsWritten ∧ rangeForm (String.ofList before) = first.text ∧
        (∃ middle, Spells (rangeForm (String.ofList after)) middle last) ∧
        r = .corners first last := by
  simp only [formulaRange, htext, cutAtFirst_append hcolon]
  rw [CellRange.between_eq_ok_iff]
  have hone : ':' ∉ rangeForm (String.ofList before) :=
    (colon_mem_rangeForm_iff before).not.mpr hcolon
  constructor
  · rintro ⟨f, l, hf, hl, rfl⟩
    obtain ⟨first, same, hspells, rfl⟩ := CellRange.read_eq_ok_iff.mp hf
    obtain ⟨middle, last, hspells', rfl⟩ := CellRange.read_eq_ok_iff.mp hl
    exact ⟨first, last, hspells.written.1, (hspells.of_colon_not_mem hone).2,
      ⟨middle, hspells'⟩, rfl⟩
  · rintro ⟨first, last, hfirst, hform, ⟨middle, hspells⟩, rfl⟩
    exact ⟨_, _, CellRange.read_of_spells (.one hfirst hform), CellRange.read_of_spells hspells,
      rfl⟩

/-- A formula's range is read from the first and the last of one, two or three corners. -/
theorem formulaRange_eq_ok_iff :
    formulaRange range = .ok r ↔
      CellRange.read range = .ok r ∨
        ∃ first middle last, SpellsThree (rangeForm range) first middle last ∧
          r = .corners first last := by
  by_cases hmem : ':' ∈ range.toList
  · obtain ⟨before, after, htext, hcolon⟩ := List.eq_append_cons_of_mem hmem
    have hform : rangeForm range =
        rangeForm (String.ofList before) ++ ':' :: rangeForm (String.ofList after) := by
      rw [← rangeForm_colon, ← htext, String.ofList_toList]
    have hone : ':' ∉ rangeForm (String.ofList before) :=
      (colon_mem_rangeForm_iff before).not.mpr hcolon
    rw [formulaRange_of_colon hcolon htext, CellRange.read_eq_ok_iff]
    constructor
    · rintro ⟨first, last, hfirst, hbefore, ⟨middle, hspells⟩, rfl⟩
      cases hspells with
      | one hlast hafter =>
        exact .inl ⟨first, last, .two hfirst hlast (by rw [hform, hbefore, hafter]), rfl⟩
      | two hmiddle hlast hafter =>
        exact .inr ⟨first, middle, last,
          ⟨hfirst, hmiddle, hlast, by rw [hform, hbefore, hafter]⟩, rfl⟩
    · rintro (⟨first, last, hspells, rfl⟩ | ⟨first, middle, last, hthree, rfl⟩)
      · cases hspells with
        | one hfirst hwhole =>
          -- the text has a colon, one corner has none
          apply absurd hfirst.colon_not_mem
          rw [not_not, ← hwhole, hform]
          exact List.mem_append_right _ List.mem_cons_self
        | two hfirst hlast hwhole =>
          obtain ⟨hbefore, hafter⟩ :=
            eq_of_mark_append hone hfirst.colon_not_mem (hform.symm.trans hwhole)
          exact ⟨first, last, hfirst, hbefore, ⟨last, .one hlast hafter⟩, rfl⟩
      · obtain ⟨hbefore, hafter⟩ :=
          eq_of_mark_append hone hthree.of_first.colon_not_mem (hform.symm.trans hthree.form_eq)
        exact ⟨first, last, hthree.of_first, hbefore,
          ⟨middle, .two hthree.of_middle hthree.of_last hafter⟩, rfl⟩
  · rw [formulaRange_of_colon_not_mem hmem, or_iff_left]
    rintro ⟨first, middle, last, hthree, -⟩
    apply hmem
    rw [← colon_mem_rangeForm_iff, String.ofList_toList, hthree.form_eq]
    exact List.mem_append_right _ List.mem_cons_self

end

/-- The range of a defined name whose formula is a worksheet, a mark and a range is what the
range is read as, if it is read, and that from the first to the last of three corners. So the two
readings accept the same, with the same bounds, exactly if there are not three corners. -/
theorem a_formula_is_read_as_its_range_unless_it_has_three_corners (s : OpenSource)
    (t : TableRef) {name : String} (sheet range : String) (hname : t.namedRange = some name)
    (hmark : '!' ∉ range.toList)
    (hformula : s.definedNames.lookup name = some (sheet ++ "!" ++ range)) :
    (∀ r, (s.extent t).map Extent.range = .ok r ↔
      CellRange.read range = .ok r ∨
        ∃ first middle last, SpellsThree (rangeForm range) first middle last ∧
          r = .corners first last) ∧
      ((∀ r, (s.extent t).map Extent.range = .ok r ↔ CellRange.read range = .ok r) ↔
        ¬ ∃ first middle last, SpellsThree (rangeForm range) first middle last) := by
  have hread : readFormula? (sheet ++ "!" ++ range) =
      some (String.ofList (readSheetName (sheet.toList.dropWhile (· == '='))),
        String.ofList (range.toList.filter (· != '$'))) := by
    rw [← readFormula?_append sheet.toList hmark]
    have hbang : "!".toList = ['!'] := rfl
    apply congrArg
    rw [← String.toList_inj]
    simp [hbang]
  have hplain : rangeForm (String.ofList (range.toList.filter (· != '$'))) = rangeForm range := by
    rw [rangeForm_without_dollars, String.ofList_toList]
  have hsame : CellRange.read (String.ofList (range.toList.filter (· != '$'))) =
      CellRange.read range := by
    unfold CellRange.read
    rw [hplain]
  have hextent : ∀ r, (s.extent t).map Extent.range = .ok r ↔
      CellRange.read range = .ok r ∨
        ∃ first middle last, SpellsThree (rangeForm range) first middle last ∧
          r = .corners first last := by
    intro r
    rw [← hplain, ← hsame, ← formulaRange_eq_ok_iff]
    simp only [OpenSource.extent, OpenSource.namedExtent, hname, hformula, hread]
    rcases formulaRange (String.ofList (range.toList.filter (· != '$'))) with e | r' <;>
      simp [Except.map]
  refine ⟨hextent, ?_⟩
  constructor
  · rintro halike ⟨first, middle, last, hthree⟩
    have hok := (hextent (.corners first last)).mpr (.inr ⟨first, middle, last, hthree, rfl⟩)
    obtain ⟨first', last', hspells, -⟩ := CellRange.read_eq_ok_iff.mp ((halike _).mp hok)
    exact hthree.not_spells hspells
  · intro hnone r
    rw [hextent, or_iff_left]
    rintro ⟨first, middle, last, hthree, -⟩
    exact hnone ⟨first, middle, last, hthree⟩

/-- A workbook with a range of three corners and one that is open below. -/
def cornerBook : OpenSource :=
  .workbook
    { sheets := [{ name := "Sheet1", rows := [[.text "a", .text "b", .text "c"]] }]
      definedNames := [("Corners", "Sheet1!A1:B2:C3"), ("Open", "=Sheet1!$A$1:c")] }

/-- A range that is open below is read as it is behind a name. -/
theorem an_open_range_behind_a_name :
    (cornerBook.extent { worksheet := "", namedRange := some "Open" }).map Extent.range =
        .ok { rowLower := some 0, colLower := some 0, colUpper := some 2 } ∧
      CellRange.read "$A$1:c" =
        .ok { rowLower := some 0, colLower := some 0, colUpper := some 2 } := by
  obtain ⟨hextent, -⟩ := a_formula_is_read_as_its_range_unless_it_has_three_corners cornerBook
    { worksheet := "", namedRange := some "Open" } "=Sheet1" "$A$1:c" rfl (by decide) rfl
  have hread : CellRange.read "$A$1:c" =
      .ok { rowLower := some 0, colLower := some 0, colUpper := some 2 } := rfl
  exact ⟨(hextent _).mpr (.inl hread), hread⟩

/-- Three corners are no range, but behind a name they are the range from the first to the last. -/
theorem three_corners_are_read_behind_a_name :
    (cornerBook.extent { worksheet := "", namedRange := some "Corners" }).map Extent.range =
        .ok { rowLower := some 0, colLower := some 0, rowUpper := some 2, colUpper := some 2 } ∧
      CellRange.read "A1:B2:C3" = .error (.format "A1:B2:C3") :=
  ⟨rfl, rfl⟩

end GridQuery
