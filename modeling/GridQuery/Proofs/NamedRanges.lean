-- Defined names whose formula names a worksheet and two cells. The formula is
-- read back as what it was written from, whatever the name of the worksheet, so
-- the named range is the range between the two cells.
import GridQuery.Proofs.CellReferences
import GridQuery.Proofs.LoadedTables

namespace GridQuery

open GridQuery.Text

/-! ## Formulas -/

/-- A cell reference that does not move: `$B$2` for `B2`. -/
def fixedReference (cell : String) : List Char :=
  '$' :: cell.toList.takeWhile isAsciiLetter ++ '$' :: cell.toList.dropWhile isAsciiLetter

/-- The formula of the cells between two, behind any number of equals signs. -/
def rangeFormula (equals : Nat) (worksheet start stop : String) : String :=
  String.ofList (List.replicate equals '=' ++ Sql.quoted '\'' worksheet.toList ++
    '!' :: fixedReference start ++ ':' :: fixedReference stop)

theorem unquoteDoubled_doubled (cs : List Char) : unquoteDoubled (Sql.doubled '\'' cs) = cs := by
  induction cs with
  | nil => rfl
  | cons c cs ih =>
    unfold Sql.doubled
    split
    · rename_i hquote
      rw [hquote, unquoteDoubled, ih]
    · rename_i hplain
      rw [unquoteDoubled, ih]
      exact fun _ h => absurd h hplain

/-- A worksheet name in quotes is read as it is. -/
theorem readSheetName_quoted (cs : List Char) : readSheetName (Sql.quoted '\'' cs) = cs := by
  have hlast : (Sql.doubled '\'' cs ++ ['\'']).getLast? = some '\'' := by simp
  unfold Sql.quoted readSheetName
  simp only [List.cons_append, hlast, if_true, List.dropLast_concat]
  exact unquoteDoubled_doubled cs

theorem cutAtFirst_append {mark : Char} {before : List Char} (h : mark ∉ before)
    (after : List Char) : cutAtFirst mark (before ++ mark :: after) = some (before, after) := by
  induction before with
  | nil => simp [cutAtFirst]
  | cons c before ih =>
    rw [List.mem_cons, not_or] at h
    rw [List.cons_append, cutAtFirst, if_neg (Ne.symm h.1), ih h.2]
    rfl

theorem cutAtLast_append {mark : Char} {after : List Char} (h : mark ∉ after)
    (before : List Char) : cutAtLast mark (before ++ mark :: after) = some (before, after) := by
  have hreverse : (before ++ mark :: after).reverse = after.reverse ++ mark :: before.reverse := by
    simp
  rw [cutAtLast, hreverse, cutAtFirst_append (by simpa using h)]
  simp

/-- The last mark of a formula cuts it into a worksheet, less the equals signs in front, and a
range, less the dollars. -/
theorem readFormula?_append (before : List Char) {range : List Char} (h : '!' ∉ range) :
    readFormula? (String.ofList (before ++ '!' :: range)) =
      some (String.ofList (readSheetName (before.dropWhile (· == '='))),
        String.ofList (range.filter (· != '$'))) := by
  have hequals : (before ++ '!' :: range).dropWhile (· == '=') =
      before.dropWhile (· == '=') ++ '!' :: range := by
    rw [List.dropWhile_append]
    rcases before.dropWhile (· == '=') with _ | ⟨c, cs⟩ <;> rfl
  unfold readFormula?
  rw [String.toList_ofList, hequals, cutAtLast_append h]
  rfl

section

variable {cell : String} (h : isCellReference cell = true)

include h

theorem filter_fixedReference : (fixedReference cell).filter (· != '$') = cell.toList := by
  have hdollar : '$' ∉ cell.toList := not_mem_cellReference h (by decide) (by decide)
  have hmarks : (fixedReference cell).filter (· != '$') =
      (cell.toList.takeWhile isAsciiLetter ++ cell.toList.dropWhile isAsciiLetter).filter
        (· != '$') := by
    rw [fixedReference, List.filter_append, List.filter_append]
    rfl
  rw [hmarks, List.takeWhile_append_dropWhile, filter_bne_of_not_mem hdollar]

theorem not_mem_fixedReference {c : Char} (hdollar : c ≠ '$') (hletter : isAsciiLetter c = false)
    (hdigit : isAsciiDigit c = false) : c ∉ fixedReference cell := by
  have hsplit := List.takeWhile_append_dropWhile (p := isAsciiLetter) (l := cell.toList)
  have hcell := not_mem_cellReference h hletter hdigit
  rw [← hsplit, List.mem_append, not_or] at hcell
  simp [fixedReference, hdollar, hcell.1, hcell.2]

end

/-- A formula is read back as the worksheet and the references it was written from. -/
theorem readFormula?_rangeFormula (equals : Nat) (worksheet : String) {start stop : String}
    (hstart : isCellReference start = true) (hstop : isCellReference stop = true) :
    readFormula? (rangeFormula equals worksheet start stop) =
      some (worksheet, start ++ ":" ++ stop) := by
  -- the name of the worksheet may have marks of its own, but the last one stands behind it
  have hmark : '!' ∉ fixedReference start ++ ':' :: fixedReference stop := by
    have hfirst : '!' ∉ fixedReference start :=
      not_mem_fixedReference hstart (by decide) (by decide) (by decide)
    have hsecond : '!' ∉ fixedReference stop :=
      not_mem_fixedReference hstop (by decide) (by decide) (by decide)
    simp [hfirst, hsecond]
  have hrange : (fixedReference start ++ ':' :: fixedReference stop).filter (· != '$') =
      start.toList ++ ':' :: stop.toList := by
    simp [filter_fixedReference hstart, filter_fixedReference hstop]
  have htext : String.ofList (start.toList ++ ':' :: stop.toList) = start ++ ":" ++ stop := by
    have hcolon : ":".toList = [':'] := rfl
    rw [← String.toList_inj]
    simp [hcolon]
  have hsheet : (List.replicate equals '=' ++ Sql.quoted '\'' worksheet.toList).dropWhile
      (· == '=') = Sql.quoted '\'' worksheet.toList := by
    rw [List.dropWhile_append_of_pos (by simp)]
    rfl
  rw [rangeFormula, List.append_assoc, List.cons_append, readFormula?_append _ hmark, hsheet,
    readSheetName_quoted, hrange, String.ofList_toList, htext]

/-! ## Extents -/

def CellRange.ofCells (r₁ c₁ r₂ c₂ : Nat) : CellRange :=
  { rowLower := some r₁, colLower := some c₁, rowUpper := some r₂, colUpper := some c₂ }

section

variable {start stop : String} {r₁ c₁ r₂ c₂ : Nat}

theorem CellRange.between_of_readCell? (hstart : readCell? start.toList = some (r₁, c₁))
    (hstop : readCell? stop.toList = some (r₂, c₂)) :
    CellRange.between (some start) (some stop) = .ok (.ofCells r₁ c₁ r₂ c₂) := by
  simp only [CellRange.between, CellRange.readOptional, CellRange.read_of_readCell? hstart,
    CellRange.read_of_readCell? hstop]
  rfl

/-- References in a formula are cut apart at the colon. -/
theorem formulaRange_colon (hstart : isCellReference start = true) (stop : String) :
    formulaRange (start ++ ":" ++ stop) = CellRange.between (some start) (some stop) := by
  have htext : (start ++ ":" ++ stop).toList = start.toList ++ ':' :: stop.toList := by
    have hcolon : ":".toList = [':'] := rfl
    simp [hcolon]
  have hmark : ':' ∉ start.toList := not_mem_cellReference hstart (by decide) (by decide)
  simp only [formulaRange, htext, cutAtFirst_append hmark, String.ofList_toList]

/-- A named range is the extent that its formula was written from. -/
theorem OpenSource.namedExtent_rangeFormula {s : OpenSource} {name worksheet : String}
    {equals : Nat} (hstart : readCell? start.toList = some (r₁, c₁))
    (hstop : readCell? stop.toList = some (r₂, c₂))
    (hname : s.definedNames.lookup name = some (rangeFormula equals worksheet start stop)) :
    s.namedExtent name = .ok ⟨worksheet, .ofCells r₁ c₁ r₂ c₂⟩ := by
  have hstart' : isCellReference start = true := by rw [isCellReference, hstart]; rfl
  have hstop' : isCellReference stop = true := by rw [isCellReference, hstop]; rfl
  simp only [namedExtent, hname, readFormula?_rangeFormula equals worksheet hstart' hstop',
    formulaRange_colon hstart', CellRange.between_of_readCell? hstart hstop]

end

/-! ## Tables on a new connection -/

/-- References of one table are shown alike on a new connection, under whatever names. -/
theorem Connection.ready_showsAs_of_table? {δ κ : Type} [TableEngine δ] [DecidableEq κ]
    (view : TableView δ κ) {source : Source} {sourceName : String} {codePage : Nat}
    {s : OpenSource} {t u : TableRef} (h : s.table? t = s.table? u)
    (ht : view.isName (view.key t) = true) (hu : view.isName (view.key u) = true) :
    (ready sourceName codePage s : Connection δ).ShowsAs source t
      (ready sourceName codePage s) u := by
  have hstart : OpenState.Keeps view s [] (.start s : OpenState δ) := .start s
  have hunfound (ht' : s.found? view t = none) (hu' : s.found? view u = none) :
      (ready sourceName codePage s : Connection δ).ShowsAs source t
        (ready sourceName codePage s) u := by
    refine showsAs_of hstart hstart ?_ ?_
    · rw [OpenState.saidOf_concat_same rfl (.inl ht'), OpenState.saidOf_concat_same rfl (.inl hu'),
        h]
    · intro _
      rw [OpenSource.keeper?_concat_same (.inl ht'), OpenSource.keeper?_concat_same (.inl hu')]
      rfl
  rcases htable : s.table? u with e | _ | table
  · exact hunfound (by simp [OpenSource.found?, h, htable]) (by simp [OpenSource.found?, htable])
  · exact hunfound (by simp [OpenSource.found?, h, htable]) (by simp [OpenSource.found?, htable])
  · exact ready_showsAs (OpenSource.found?_eq_some_iff.mpr ⟨rfl, h.trans htable, ht⟩)
      (OpenSource.found?_eq_some_iff.mpr ⟨rfl, htable, hu⟩)

/-- A cell whose reference has at most three letters and seven digits. -/
structure InReach (row column : Nat) : Prop where
  some : columnLettersAt column ≠ []
  letters : (columnLettersAt column).length ≤ 3
  digits : (decimal (row + 1)).length ≤ 7

/-- A named range whose formula names a worksheet and two cells is the range between the cells:
it covers the same cells, its table has the same columns, types and rows, and on a new connection
it is shown as the range is. (A name that is empty cannot be shown.) -/
theorem a_named_range_is_the_range_between_its_cells (source : Source) (sourceName : String)
    (codePage : Nat) (s : OpenSource) (name worksheet : String) (equals : Nat) (header : Bool)
    {r₁ c₁ r₂ c₂ : Nat} (hstart : InReach r₁ c₁) (hstop : InReach r₂ c₂)
    (hname : s.definedNames.lookup name =
      some (rangeFormula equals worksheet (cellReference r₁ c₁) (cellReference r₂ c₂))) :
    let named : TableRef := { worksheet := "", namedRange := some name, header }
    let written : TableRef :=
      { worksheet, startRange := some (cellReference r₁ c₁), endRange := some (cellReference r₂ c₂)
        header }
    let extent : Extent :=
      ⟨worksheet, { rowLower := some r₁, colLower := some c₁
                    rowUpper := some r₂, colUpper := some c₂ }⟩
    s.extent named = .ok extent ∧ s.extent written = .ok extent ∧
      s.table? named = s.table? written ∧
      (name ≠ "" → (Connection.ready sourceName codePage s : Connection Database).ShowsAs source
        named (Connection.ready sourceName codePage s) written) := by
  intro named written extent
  have hfirst := readCell?_cellReference hstart.some hstart.letters hstart.digits
  have hlast := readCell?_cellReference hstop.some hstop.letters hstop.digits
  have hnamed : s.extent named = .ok extent :=
    OpenSource.namedExtent_rangeFormula hfirst hlast hname
  have hwritten : s.extent written = .ok extent := by
    simp only [OpenSource.extent, written, TableRef.cellRange,
      CellRange.between_of_readCell? hfirst hlast]
    rfl
  have htable : s.table? named = s.table? written := by
    unfold OpenSource.table?
    rw [hnamed, hwritten]
  refine ⟨hnamed, hwritten, htable, ?_⟩
  intro hne
  refine Connection.ready_showsAs_of_table? Database.view htable
    (Database.isName_view.mpr hne) (Database.isName_view.mpr ?_)
  intro hempty
  have hlength := congrArg String.length hempty
  simp [written, TableRef.name] at hlength

/-- A workbook with a worksheet that is called `='Q1'!`, and a range of it. -/
def quarterBook : OpenSource :=
  .workbook
    { sheets := [{ name := "='Q1'!", rows := [[.text "a", .text "b"], [.int 1, .int 2]] }]
      definedNames := [("Area", "='=''Q1''!'!$A$1:$B$2")] }

/-- The range is found behind its formula, and shown as the range from `A1` to `B2`. -/
theorem a_range_of_a_worksheet_with_quotes_in_its_name :
    let named : TableRef := { worksheet := "", namedRange := some "Area" }
    let written : TableRef :=
      { worksheet := "='Q1'!", startRange := some "A1", endRange := some "B2" }
    quarterBook.table? named = quarterBook.table? written ∧
      (quarterBook.table? written).toOption.map (Option.map Table.rows) =
        some (some [[.int 1, .int 2]]) ∧
      (Connection.ready "book" 0 quarterBook : Connection Database).ShowsAs (.file none) named
        (Connection.ready "book" 0 quarterBook) written := by
  have hfirst : cellReference 0 0 = "A1" := by
    simp [cellReference, columnLettersAt, columnLetters, decimal, digitChar]
  have hlast : cellReference 1 1 = "B2" := by
    simp [cellReference, columnLettersAt, columnLetters, decimal, digitChar]
  have hreach : InReach 0 0 ∧ InReach 1 1 := by
    refine ⟨⟨?_, ?_, ?_⟩, ⟨?_, ?_, ?_⟩⟩ <;> simp [columnLettersAt, columnLetters, decimal]
  obtain ⟨-, -, htable, hshown⟩ := a_named_range_is_the_range_between_its_cells (.file none) "book"
    0 quarterBook "Area" "='Q1'!" 1 true hreach.1 hreach.2 (by rw [hfirst, hlast]; rfl)
  rw [hfirst, hlast] at htable hshown
  exact ⟨htable, rfl, hshown (by decide)⟩

end GridQuery
