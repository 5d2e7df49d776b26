-- Column letters and column numbers. Letters are taken off from the right, one
-- for each remainder, and read from the left; the two undo each other. Longer
-- names stand for larger numbers, and of two names of one length the later one
-- in the alphabet does.
import GridQuery.Proofs.CellReferences
import GridQuery.Reference.ColumnName
import Mathlib.Data.List.Shortlex
import Mathlib.Data.Nat.Digits.Defs

namespace GridQuery

open GridQuery.Number GridQuery.Text

/-! ## One letter more -/

/-- The alphabet, from zero. -/
def capitalAt (d : Nat) : Char := Char.ofNat (65 + d)

theorem capitalAt_lt {d e : Nat} (h : d < e) (he : e < 26) : capitalAt d < capitalAt e := by
  have hall : ∀ e < 26, ∀ d < e, capitalAt d < capitalAt e := by decide
  exact hall e he d h

/-- A letter is the capital at its place, in one case or the other. -/
theorem exists_capitalAt {c : Char} (h : isAsciiLetter c = true) :
    ∃ d < 26, c.toUpper = capitalAt d ∧ letterValue c = d + 1 := by
  have hlt := toNat_lt_of_isAsciiLetter h
  revert h
  refine forall_ascii hlt ?_
  decide

/-- The letters of a number are those of the number before its last letter, and that letter. -/
theorem columnLetters_concat (n : Nat) {d : Nat} (hd : d < 26) :
    columnLetters (26 * n + (d + 1)) = columnLetters n ++ [capitalAt d] := by
  have hpred : 26 * n + (d + 1) - 1 = 26 * n + d := by omega
  have hrest : (26 * n + d) / 26 = n := by omega
  have hlast : (26 * n + d) % 26 = d := by omega
  rw [columnLetters, if_neg (by omega), hpred, hrest, hlast]
  rfl

/-- Every number from one has a last letter. -/
theorem exists_last_letter {n : Nat} (h : 0 < n) : ∃ m d, d < 26 ∧ n = 26 * m + (d + 1) :=
  ⟨(n - 1) / 26, (n - 1) % 26, Nat.mod_lt _ (by decide), by omega⟩

/-! ## Letters of numbers, numbers of letters -/

/-- Letters are those of the number that they spell, in capitals. -/
theorem columnLetters_lettersValue {cs : List Char} (h : ∀ c ∈ cs, isAsciiLetter c = true) :
    columnLetters (lettersValue cs) = cs.map Char.toUpper := by
  induction cs using List.reverseRecOn with
  | nil =>
    unfold columnLetters
    rfl
  | append_singleton cs c ih =>
    obtain ⟨d, hd, hupper, hvalue⟩ := exists_capitalAt (h c (by simp))
    rw [lettersValue_concat, hvalue, columnLetters_concat _ hd,
      ih fun e he => h e (List.mem_append_left _ he), List.map_append, List.map_singleton, hupper]

/-- There is no zero among the letters. -/
theorem lettersValue_pos {cs : List Char} (h : ∀ c ∈ cs, isAsciiLetter c = true) (hne : cs ≠ []) :
    0 < lettersValue cs := by
  by_contra hzero
  have hspelled := columnLetters_lettersValue h
  rw [Nat.eq_zero_of_not_pos hzero, columnLetters, if_pos rfl] at hspelled
  exact hne (List.map_eq_nil_iff.mp hspelled.symm)

theorem columnLetters_ne_nil {n : Nat} (h : 0 < n) : columnLetters n ≠ [] := by
  obtain ⟨m, d, hd, rfl⟩ := exists_last_letter h
  rw [columnLetters_concat m hd]
  exact List.append_ne_nil_of_right_ne_nil _ (List.cons_ne_nil _ _)

/-- The letters of a number are read as the number, if it is an index. -/
theorem columnIndex?_columnLetters {n : Nat} (hpos : 0 < n) (hlimit : n < indexLimit) :
    columnIndex? (columnLetters n) = some n := by
  obtain ⟨hletters, hvalue⟩ := columnLetters_spec n
  exact columnIndex?_eq_some_iff.mpr
    ⟨columnLetters_ne_nil hpos, List.all_eq_true.mpr hletters, hvalue, hlimit⟩

/-- Letters are the digits of their number in base 26, with `A` for one and `Z` for 26. -/
theorem lettersValue_eq_ofDigits (cs : List Char) :
    lettersValue cs = Nat.ofDigits 26 (cs.map letterValue).reverse := by
  induction cs using List.reverseRecOn with
  | nil => rfl
  | append_singleton cs c ih =>
    rw [lettersValue_concat, ih, List.map_append, List.reverse_append, List.map_singleton,
      List.reverse_singleton, List.singleton_append, Nat.ofDigits_cons]
    exact Nat.add_comm _ _

theorem columnName_of_pos {i : Int} (h : 1 ≤ i) :
    columnName i = .ok (String.ofList (columnLetters i.toNat)) := by
  unfold columnName
  rw [if_neg (Int.not_lt.mpr h)]

/-! ## Order -/

theorem lex_concat {cs ds : List Char} (h : List.Lex (· < ·) cs ds)
    (hlength : cs.length = ds.length) (c d : Char) :
    List.Lex (· < ·) (cs ++ [c]) (ds ++ [d]) := by
  induction h with
  | nil => cases hlength
  | cons _ ih => exact .cons (ih (Nat.succ.inj hlength))
  | rel hlt => exact .rel hlt

/-- A letter more on each side does not change the order of two different names. -/
theorem shortlex_concat {cs ds : List Char} (h : List.Shortlex (· < ·) cs ds) (c d : Char) :
    List.Shortlex (· < ·) (cs ++ [c]) (ds ++ [d]) := by
  rcases List.shortlex_def.mp h with hlt | ⟨hlength, hlex⟩
  · apply List.Shortlex.of_length_lt
    simpa using hlt
  · exact List.Shortlex.of_lex (by simpa using hlength) (lex_concat hlex hlength c d)

theorem shortlex_of_last (cs : List Char) {c d : Char} (h : c < d) :
    List.Shortlex (· < ·) (cs ++ [c]) (cs ++ [d]) :=
  List.Shortlex.append_left ((List.shortlex_singleton_iff c d).mpr h) cs

/-- The names of columns come in the order of their numbers. -/
theorem shortlex_columnLetters {i j : Nat} (h : i < j) :
    List.Shortlex (· < ·) (columnLetters i) (columnLetters j) := by
  -- by the number before the last letter: it is smaller too, or the last letter decides
  induction j using Nat.strong_induction_on generalizing i with
  | _ j ih =>
    obtain ⟨m, d, hd, rfl⟩ := exists_last_letter (Nat.zero_lt_of_lt h)
    rw [columnLetters_concat m hd]
    rcases Nat.eq_zero_or_pos i with rfl | hpos
    · have hnone : columnLetters 0 = [] := by
        unfold columnLetters
        rfl
      rw [hnone]
      exact List.Shortlex.of_length_lt (by simp)
    · obtain ⟨k, e, he, rfl⟩ := exists_last_letter hpos
      rw [columnLetters_concat k he]
      rcases Nat.lt_or_ge k m with hlt | hge
      · exact shortlex_concat (ih m (by omega) hlt) _ _
      · obtain rfl : k = m := by omega
        exact shortlex_of_last _ (capitalAt_lt (by omega) hd)

/-- A number below another has at most as many letters. -/
theorem length_columnLetters_le {i j : Nat} (h : i ≤ j) :
    (columnLetters i).length ≤ (columnLetters j).length := by
  rcases Nat.eq_or_lt_of_le h with rfl | hlt
  · exact Nat.le_refl _
  · rcases List.shortlex_def.mp (shortlex_columnLetters hlt) with hlt | ⟨hlength, -⟩
    · exact Nat.le_of_lt hlt
    · exact Nat.le_of_eq hlength

/-- Numbers from one have names, others have none. The name of an index is read as the index; a
text is read as a number exactly if it has letters alone, and at least one, the number being what
they are in base 26 with `A` for one and `Z` for 26, in either case, and an index. Its name is the
text in capitals. A smaller number has the earlier name: a shorter one, or one of the same length
that the alphabet has before. -/
theorem column_names_and_numbers_are_inverse_and_in_order :
    (∀ i : Int, (columnName i).isOk = true ↔ 1 ≤ i) ∧
      (∀ i : Int, 1 ≤ i → i ≤ greatestInt64 →
        ∃ name, columnName i = .ok name ∧ columnIndex? name.toList = some i.toNat) ∧
      (∀ (s : String) (n : Nat), columnIndex? s.toList = some n ↔
        s ≠ "" ∧ (∀ c ∈ s.toList, isAsciiLetter c = true) ∧
          Nat.ofDigits 26 (s.toList.map letterValue).reverse = n ∧ n < 2 ^ 64) ∧
      (∀ (s : String) (n : Nat), columnIndex? s.toList = some n →
        columnName n = .ok (asciiUpper s)) ∧
      (∀ i j : Int, 1 ≤ i → i < j →
        ∃ a b, columnName i = .ok a ∧ columnName j = .ok b ∧
          List.Shortlex (· < ·) a.toList b.toList) := by
  refine ⟨?_, ?_, ?_, ?_, ?_⟩
  · intro i
    by_cases hpos : 1 ≤ i
    · rw [columnName_of_pos hpos]
      exact iff_of_true rfl hpos
    · unfold columnName
      rw [if_pos (Int.not_le.mp hpos)]
      exact iff_of_false Bool.false_ne_true hpos
  · intro i hpos hle
    refine ⟨_, columnName_of_pos hpos, ?_⟩
    rw [String.toList_ofList]
    have hlimit : i.toNat < indexLimit := by
      unfold greatestInt64 at hle
      unfold indexLimit
      omega
    exact columnIndex?_columnLetters (by omega) hlimit
  · intro s n
    rw [columnIndex?_eq_some_iff, List.all_eq_true, ← lettersValue_eq_ofDigits]
    have hempty : s.toList ≠ [] ↔ s ≠ "" := by rw [← String.toList_inj.ne]; rfl
    rw [hempty]
    rfl
  · intro s n h
    obtain ⟨hne, hletters, rfl, -⟩ := columnIndex?_eq_some_iff.mp h
    have hall := List.all_eq_true.mp hletters
    have hpos := lettersValue_pos hall hne
    rw [columnName_of_pos (by omega), Int.toNat_natCast, columnLetters_lettersValue hall]
    rfl
  · intro i j hpos hlt
    refine ⟨_, _, columnName_of_pos hpos, columnName_of_pos (by omega), ?_⟩
    rw [String.toList_ofList, String.toList_ofList]
    exact shortlex_columnLetters (by omega)

/-- The last column of a worksheet, the last one that has a name, and two neighbours whose names
differ in length. -/
theorem the_last_columns_and_two_neighbours :
    columnName 16384 = .ok "XFD" ∧
      (∃ name, columnName greatestInt64 = .ok name ∧
        columnIndex? name.toList = some 9223372036854775807) ∧
      ∃ a b, columnName 26 = .ok a ∧ columnName 27 = .ok b ∧
        List.Shortlex (· < ·) a.toList b.toList := by
  obtain ⟨-, hread, -, hname, hordered⟩ := column_names_and_numbers_are_inverse_and_in_order
  have hindex : columnIndex? "xfd".toList = some 16384 := rfl
  exact ⟨hname "xfd" 16384 hindex, hread greatestInt64 (by decide) (by decide),
    hordered 26 27 (by decide) (by decide)⟩

end GridQuery
