-- The names of tables. A qualified name tells the header mode and the name of
-- a table, but a worksheet, a range of one and a named range can have the same
-- name. Among references of one kind, a name stands for one table.
import GridQuery.Engine.Connection
import GridQuery.Proofs.RangeTexts
import GridQuery.Proofs.StatementText

namespace GridQuery

open GridQuery.Sql GridQuery.Text

/-! ## Qualified names -/

namespace TableRef

theorem readable (t : TableRef) : Readable t.tokens := by
  unfold TableRef.tokens
  split
  · exact .singleton trivial
  · have hschema : Readable [.identifier headerlessSchema] := .singleton trivial
    have hdot : (Token.plain ".").Clean := by decide
    exact hschema.around hdot (.singleton trivial)

/-- A qualified name tells the header mode and the name. -/
theorem qualifiedName_eq_iff {t u : TableRef} :
    t.qualifiedName = u.qualifiedName ↔ t.header = u.header ∧ t.name = u.name := by
  constructor
  · intro h
    have hread := read_textOf t.readable
    unfold qualifiedName at h
    rw [h, read_textOf u.readable] at hread
    have hlexemes := Option.some.inj hread
    unfold tokens at hlexemes
    rcases ht : t.header with _ | _ <;> rcases hu : u.header with _ | _ <;>
      simp [ht, hu, Token.written, Lexeme.emptied] at hlexemes ⊢
    · exact hlexemes.symm
    · exact hlexemes.symm
  · rintro ⟨hheader, hname⟩
    unfold qualifiedName tokens
    rw [hheader, hname]

end TableRef

/-! ## Kinds of references -/

/-- What a reference refers to by its name. -/
inductive TableKind
  | named
  | whole
  /-- The cells between two references, of which one may be missing. -/
  | part
  deriving DecidableEq, Repr

/-- The kind of a reference; none if a bound of its range is no cell reference, which query
arguments do not accept. -/
def TableRef.kind? (t : TableRef) : Option TableKind :=
  match t.namedRange, t.startRange, t.endRange with
  | some _, _, _ => some .named
  | none, none, none => some .whole
  | none, start, stop =>
    if start.all isCellReference && stop.all isCellReference then some .part else none

/-! ## Ranges in names -/

/-- The last of two equal marks is the same in both texts. -/
theorem eq_of_append_mark {α : Type} {mark : α} {before before' after after' : List α}
    (hafter : mark ∉ after) (hafter' : mark ∉ after')
    (h : before ++ mark :: after = before' ++ mark :: after') :
    before = before' ∧ after = after' := by
  rcases List.append_eq_append_iff.mp h with ⟨between, hbefore, hrest⟩ | ⟨between, hbefore, hrest⟩
  · rcases between with _ | ⟨c, cs⟩
    · simp at hbefore hrest
      exact ⟨hbefore.symm, hrest⟩
    · simp only [List.cons_append, List.cons.injEq] at hrest
      exact absurd (by simp [hrest.2]) hafter
  · rcases between with _ | ⟨c, cs⟩
    · simp at hbefore hrest
      exact ⟨hbefore, hrest.symm⟩
    · simp only [List.cons_append, List.cons.injEq] at hrest
      exact absurd (by simp [hrest.2]) hafter'

/-- Only letters become letters when they are written as capitals. -/
theorem eq_of_toUpper_eq {c d : Char} (hd : d.toNat < 'A'.toNat) (h : c.toUpper = d) : c = d := by
  unfold Char.toUpper at h
  split at h
  · rename_i hsmall
    subst h
    have hlower : 97 ≤ c.val.toNat := UInt32.le_iff_toNat_le.mp hsmall.1
    have hupper : c.val.toNat ≤ 122 := UInt32.le_iff_toNat_le.mp hsmall.2
    have hshift : ('A'.val - 'a'.val).toNat = 2 ^ 32 - 32 := by decide
    have hval : (c.val + ('A'.val - 'a'.val)).toNat < 65 := hd
    rw [UInt32.toNat_add, hshift] at hval
    omega
  · exact h

/-- A mark that is neither a letter nor a digit does not occur in a cell reference. -/
theorem not_mem_cellReference {s : String} (hs : isCellReference s = true) {c : Char}
    (hletter : isAsciiLetter c = false) (hdigit : isAsciiDigit c = false) : c ∉ s.toList := by
  have hdigits : (s.toList.dropWhile isAsciiLetter).all isAsciiDigit = true := by
    rcases hall : (s.toList.dropWhile isAsciiLetter).all isAsciiDigit with _ | _
    · simp only [isCellReference, readCell?, hall, Bool.not_false, Bool.or_true, if_true] at hs
      split at hs <;> simp at hs
    · rfl
  have hsplit := List.takeWhile_append_dropWhile (p := isAsciiLetter) (l := s.toList)
  rw [← hsplit]
  intro hin
  rcases List.mem_append.mp hin with h | h
  · have hc := List.all_eq_true.mp List.all_takeWhile c h
    rw [hletter] at hc
    cases hc
  · have hc := List.all_eq_true.mp hdigits c h
    rw [hdigit] at hc
    cases hc

/-- A bound of a range as it stands in a name. -/
def boundText (side : Option String) : List Char := (asciiUpper (side.getD "")).toList

theorem not_mem_boundText {side : Option String} (hs : side.all isCellReference = true) :
    '$' ∉ boundText side ∧ ':' ∉ boundText side := by
  have hmark : ∀ c : Char, c.toNat < 'A'.toNat → isAsciiLetter c = false →
      isAsciiDigit c = false → c ∉ boundText side := by
    intro c hc hletter hdigit hin
    rcases side with _ | s
    · cases hin
    · simp only [boundText, asciiUpper, String.toList_ofList, List.mem_map, Option.getD_some] at hin
      obtain ⟨d, hd, hupper⟩ := hin
      obtain rfl := eq_of_toUpper_eq hc hupper
      exact not_mem_cellReference hs hletter hdigit hd
  exact ⟨hmark _ (by decide) (by decide) (by decide), hmark _ (by decide) (by decide) (by decide)⟩

/-- A bound is read from what stands in a name. -/
theorem readOptional_eq {side side' : Option String} (hs : side.all isCellReference = true)
    (hs' : side'.all isCellReference = true) (h : boundText side = boundText side') :
    CellRange.readOptional side = CellRange.readOptional side' := by
  have hform : ∀ s : String, isCellReference s = true → rangeForm s = boundText (some s) := by
    intro s hcell
    have hdollar : '$' ∉ s.toList := not_mem_cellReference hcell (by decide) (by decide)
    have hplain := filter_bne_of_not_mem hdollar
    simp [rangeForm, hplain, boundText, asciiUpper]
  have hempty : ∀ s : String, isCellReference s = true → boundText (some s) ≠ [] := by
    intro s hcell hnil
    have hs : s.toList = [] := by simpa [boundText, asciiUpper] using hnil
    simp [isCellReference, readCell?, hs] at hcell
  rcases side with _ | s <;> rcases side' with _ | s'
  · rfl
  · exact absurd h.symm (hempty s' hs')
  · exact absurd h (hempty s hs)
  · have hread : rangeForm s = rangeForm s' := by rw [hform s hs, hform s' hs', h]
    simp only [CellRange.readOptional, CellRange.read, hread]

/-! ## Names of one kind -/

namespace TableRef

variable {t : TableRef}

theorem name_of_named (h : t.kind? = some .named) : ∃ n, t.namedRange = some n ∧ t.name = n := by
  unfold kind? at h
  split at h
  · rename_i n hn
    refine ⟨n, hn, ?_⟩
    unfold name
    rw [hn]
  · cases h
  · split at h <;> cases h

theorem name_of_whole (h : t.kind? = some .whole) :
    t.namedRange = none ∧ t.startRange = none ∧ t.endRange = none ∧ t.name = t.worksheet := by
  unfold kind? at h
  split at h
  · cases h
  · rename_i hnamed hstart hstop
    refine ⟨hnamed, hstart, hstop, ?_⟩
    unfold name
    rw [hnamed, hstart, hstop]
  · split at h <;> cases h

theorem name_of_part (h : t.kind? = some .part) :
    t.namedRange = none ∧ t.startRange.all isCellReference = true ∧
      t.endRange.all isCellReference = true ∧
      t.name.toList = t.worksheet.toList ++
        '$' :: (boundText t.startRange ++ ':' :: boundText t.endRange) := by
  unfold kind? at h
  split at h
  · cases h
  · cases h
  · rename_i hnamed _
    split at h
    · rename_i hcells
      obtain ⟨hstart, hstop⟩ := Bool.and_eq_true_iff.mp hcells
      refine ⟨hnamed, hstart, hstop, ?_⟩
      have hdollar : "$".toList = ['$'] := rfl
      have hcolon : ":".toList = [':'] := rfl
      simp [name, boundText, hnamed, hdollar, hcolon]
    · cases h

end TableRef

/-- References of one kind and one name stand for the same cells. -/
theorem OpenSource.extent_eq (s : OpenSource) {t u : TableRef} (hkind : t.kind? = u.kind?)
    (hsome : t.kind?.isSome = true) (hname : t.name = u.name) : s.extent t = s.extent u := by
  obtain ⟨kind, ht⟩ := Option.isSome_iff_exists.mp hsome
  have hu : u.kind? = some kind := hkind.symm.trans ht
  cases kind with
  | named =>
    obtain ⟨n, hn, hform⟩ := TableRef.name_of_named ht
    obtain ⟨n', hn', hform'⟩ := TableRef.name_of_named hu
    obtain rfl : n = n' := by rw [← hform, ← hform', hname]
    simp only [extent, hn, hn']
  | whole =>
    obtain ⟨hnamed, hstart, hstop, hform⟩ := TableRef.name_of_whole ht
    obtain ⟨hnamed', hstart', hstop', hform'⟩ := TableRef.name_of_whole hu
    have hworksheet : t.worksheet = u.worksheet := by rw [← hform, ← hform', hname]
    simp only [extent, TableRef.cellRange, hnamed, hstart, hstop, hnamed', hstart', hstop',
      hworksheet]
  | part =>
    obtain ⟨hnamed, hstart, hstop, hform⟩ := TableRef.name_of_part ht
    obtain ⟨hnamed', hstart', hstop', hform'⟩ := TableRef.name_of_part hu
    have hparts : (t.worksheet.toList ++ '$' :: boundText t.startRange) ++
          ':' :: boundText t.endRange =
        (u.worksheet.toList ++ '$' :: boundText u.startRange) ++ ':' :: boundText u.endRange := by
      simpa using hform.symm.trans ((congrArg String.toList hname).trans hform')
    obtain ⟨hfront, hend⟩ := eq_of_append_mark (not_mem_boundText hstop).2
      (not_mem_boundText hstop').2 hparts
    obtain ⟨hworksheet, hbegin⟩ := eq_of_append_mark (not_mem_boundText hstart).1
      (not_mem_boundText hstart').1 hfront
    simp only [extent, TableRef.cellRange, CellRange.between, hnamed, hnamed',
      String.toList_inj.mp hworksheet, readOptional_eq hstart hstart' hbegin,
      readOptional_eq hstop hstop' hend]

/-- References of one kind and one qualified name stand for the same table. -/
theorem OpenSource.table?_eq (s : OpenSource) {t u : TableRef} (hkind : t.kind? = u.kind?)
    (hsome : t.kind?.isSome = true) (h : t.qualifiedName = u.qualifiedName) :
    s.table? t = s.table? u := by
  obtain ⟨hheader, hname⟩ := TableRef.qualifiedName_eq_iff.mp h
  unfold table?
  rw [s.extent_eq hkind hsome hname, hheader]

end GridQuery
