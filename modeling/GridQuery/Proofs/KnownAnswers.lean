-- Answers that are known. Null stands for what a row does not say. An
-- expression that does not look for null itself answers null where the row
-- leaves the answer open; any other answer stays when the cells that were
-- missing are filled in.
import GridQuery.Mapping.Mapper
import GridQuery.Proofs.Predicates

namespace GridQuery

/-! ## Filling in -/

/-- The second value is the first one, unless that one is missing. -/
def Value.FilledBy (v w : Value) : Prop := v = .null ∨ v = w

/-- The second truth value is the first one, unless that one is unknown. -/
def Truth.FilledBy (t u : Truth) : Prop := t = none ∨ t = u

theorem Value.FilledBy.eq_of_known {v w : Value} (h : v.FilledBy w) (hv : v ≠ .null) : w = v := by
  rcases h with hnull | rfl
  · exact absurd hnull hv
  · rfl

theorem Truth.FilledBy.eq_some {t u : Truth} {flag : Bool} (h : t.FilledBy u)
    (ht : t = some flag) : u = some flag := by
  rcases h with hnone | rfl
  · rw [ht] at hnone
    cases hnone
  · exact ht

/-! ## Three-valued logic -/

namespace Truth.FilledBy

variable {t t' u u' : Truth}

theorem toValue (h : t.FilledBy t') : t.toValue.FilledBy t'.toValue := by
  rcases h with rfl | rfl
  · exact .inl rfl
  · exact .inr rfl

theorem not (h : t.FilledBy t') : t.not.FilledBy t'.not := by
  rcases h with rfl | rfl
  · exact .inl rfl
  · exact .inr rfl

/-- One side that is false decides, whatever the other side turns out to be. -/
theorem and (ht : t.FilledBy t') (hu : u.FilledBy u') : (t.and u).FilledBy (t'.and u') := by
  have hfalse : ∀ t : Truth, t.and (some false) = some false := by
    intro t
    rcases t with _ | _ | _ <;> rfl
  by_cases hright : u = some false
  · rw [hright, hu.eq_some hright, hfalse, hfalse]
    exact .inr rfl
  · rcases ht with rfl | rfl
    · left
      rcases u with _ | _ | _
      · rfl
      · exact absurd rfl hright
      · rfl
    · rcases hu with rfl | rfl
      · rcases t with _ | _ | _
        · exact .inl rfl
        · exact .inr rfl
        · exact .inl rfl
      · exact .inr rfl

/-- One side that is true decides, whatever the other side turns out to be. -/
theorem or (ht : t.FilledBy t') (hu : u.FilledBy u') : (t.or u).FilledBy (t'.or u') := by
  have htrue : ∀ t : Truth, t.or (some true) = some true := by
    intro t
    rcases t with _ | _ | _ <;> rfl
  by_cases hright : u = some true
  · rw [hright, hu.eq_some hright, htrue, htrue]
    exact .inr rfl
  · rcases ht with rfl | rfl
    · left
      rcases u with _ | _ | _
      · rfl
      · rfl
      · exact absurd rfl hright
    · rcases hu with rfl | rfl
      · rcases t with _ | _ | _
        · exact .inl rfl
        · exact .inl rfl
        · exact .inr rfl
      · exact .inr rfl

end Truth.FilledBy

/-! ## Values -/

namespace Value.FilledBy

variable {v v' w w' : Value}

/-- A value that is no truth value is unknown before it is filled in and after. -/
theorem truth (h : v.FilledBy v') : v.truth.FilledBy v'.truth := by
  rcases h with rfl | rfl
  · exact .inl rfl
  · exact .inr rfl

/-- Two values compare only if both are there. -/
theorem compare (op : CompareOp) (hv : v.FilledBy v') (hw : w.FilledBy w') :
    Truth.FilledBy ((v.compare w).map op.holds) ((v'.compare w').map op.holds) := by
  rcases hv with rfl | rfl
  · left
    simp
  · rcases hw with rfl | rfl
    · left
      simp
    · exact .inr rfl

theorem testText (p : List Char → Bool) (h : v.FilledBy v') :
    (v.testText p).FilledBy (v'.testText p) := by
  rcases h with rfl | rfl
  · exact .inl rfl
  · exact .inr rfl

theorem among (candidates : List Value) (h : v.FilledBy v') :
    (v.among candidates).FilledBy (v'.among candidates) := by
  rcases h with rfl | rfl
  · exact .inl rfl
  · exact .inr rfl

theorem mapText (f : String → String) (h : v.FilledBy v') :
    (v.mapText f).FilledBy (v'.mapText f) := by
  rcases h with rfl | rfl
  · exact .inl rfl
  · exact .inr rfl

end Value.FilledBy

/-- A column has its cell at the same place in both rows. -/
theorem sourceCell_filledBy {cells cells' : List Value}
    (h : ∀ i, (cellAt cells i).FilledBy (cellAt cells' i)) (source : List String)
    (column : String) : (sourceCell source cells column).FilledBy (sourceCell source cells' column) := by
  unfold sourceCell
  split
  · exact h _
  · exact .inl rfl

/-! ## Expressions -/

namespace Expr

/-- The top of the expression has an answer of its own for null: a test for it, or a
concatenation, which takes it for the empty text. -/
def looksForNull : Expr → Bool
  | isNull _ => true
  | isNullOrEmpty _ => true
  | concat _ => true
  | _ => false

/-- What holds of all parts holds of the top and of all parts of each operand. -/
theorem forall_part_iff {P : Expr → Prop} (e : Expr) :
    (∀ part, PartOf part e → P part) ↔
      P e ∧ ∀ o ∈ e.operands, ∀ part, PartOf part o → P part := by
  constructor
  · intro h
    refine ⟨h e .itself, ?_⟩
    intro o ho part hpart
    exact h part (.under ho hpart)
  · rintro ⟨htop, hunder⟩ part hpart
    cases hpart with
    | itself => exact htop
    | under ho hpart => exact hunder _ ho part hpart

variable {m : ColumnMappings} {row row' : String → Value}

/-- What is filled in below the top of an expression at most fills in its answer. -/
theorem filledBy_of_operands {e : Expr} (he : e.looksForNull = false)
    (hrow : ∀ column, (row column).FilledBy (row' column))
    (h : ∀ o ∈ e.operands, (o.evaluate m row).FilledBy (o.evaluate m row')) :
    (e.evaluate m row).FilledBy (e.evaluate m row') := by
  cases e with
  | field name => exact hrow (m.resolve name)
  | column name => exact hrow name
  | literal v => exact .inr rfl
  | compare left op right =>
    simp only [operands, List.forall_mem_cons] at h
    obtain ⟨hleft, hright, -⟩ := h
    simp only [evaluate]
    exact (Value.FilledBy.compare op hleft hright).toValue
  | and left right =>
    simp only [operands, List.forall_mem_cons] at h
    obtain ⟨hleft, hright, -⟩ := h
    simp only [evaluate]
    exact (hleft.truth.and hright.truth).toValue
  | or left right =>
    simp only [operands, List.forall_mem_cons] at h
    obtain ⟨hleft, hright, -⟩ := h
    simp only [evaluate]
    exact (hleft.truth.or hright.truth).toValue
  | not operand =>
    have hoperand := h operand List.mem_cons_self
    simp only [evaluate]
    exact hoperand.truth.not.toValue
  | like operand test part =>
    have hoperand := h operand List.mem_cons_self
    simp only [evaluate]
    exact (hoperand.testText (test.holds part.toList)).toValue
  | isIn operand values =>
    have hoperand := h operand List.mem_cons_self
    simp only [evaluate]
    exact (hoperand.among values).toValue
  | upper operand =>
    have hoperand := h operand List.mem_cons_self
    simp only [evaluate]
    exact hoperand.mapText Text.upper
  | lower operand =>
    have hoperand := h operand List.mem_cons_self
    simp only [evaluate]
    exact hoperand.mapText Text.lower
  | isNull _ => cases he
  | isNullOrEmpty _ => cases he
  | concat _ => cases he

theorem filledBy_of_parts {e : Expr} (hparts : ∀ part, PartOf part e → part.looksForNull = false)
    (hrow : ∀ column, (row column).FilledBy (row' column)) :
    (e.evaluate m row).FilledBy (e.evaluate m row') := by
  induction e using operandsInduction with
  | h e ih =>
    obtain ⟨htop, hunder⟩ := (forall_part_iff e).mp hparts
    apply filledBy_of_operands htop hrow
    intro o ho
    exact ih o ho (hunder o ho)

/-- An expression without tests for null and concatenations keeps its answer, unless that is
null, when missing values of columns are filled in; so does a constructed member when missing
cells of its row are. -/
theorem a_known_answer_stays_when_values_are_filled_in (m : ColumnMappings) (e : Expr)
    (hparts : ∀ part, PartOf part e → part.looksForNull = false) :
    (∀ row row' : String → Value, (∀ column, row column = .null ∨ row column = row' column) →
        e.evaluate m row ≠ .null → e.evaluate m row' = e.evaluate m row) ∧
      ∀ (source : List String) (cells cells' : List Value),
        (∀ i, cellAt cells i = .null ∨ cellAt cells i = cellAt cells' i) →
          e.evaluate m (sourceCell source cells) ≠ .null →
            e.evaluate m (sourceCell source cells') = e.evaluate m (sourceCell source cells) := by
  constructor
  · intro row row' hrow hknown
    exact (filledBy_of_parts hparts hrow).eq_of_known hknown
  · intro source cells cells' hcells hknown
    have hrow := sourceCell_filledBy hcells source
    exact (filledBy_of_parts hparts hrow).eq_of_known hknown

/-- The head is Bob, or the company is not small. -/
def bobsOrLarge : Expr :=
  or (compare (field "Head") .eq (literal (.text "Bob"))) (not (column "Small"))

/-- The head of a large company is filled in, and is not Bob. -/
theorem a_large_company_stays_one_under_a_new_head :
    (∀ part, PartOf part bobsOrLarge → part.looksForNull = false) ∧
      (∀ i, cellAt [.null, .bool false] i = .null ∨
        cellAt [.null, .bool false] i = cellAt [.text "Ann", .bool false] i) ∧
      bobsOrLarge.evaluate {} (sourceCell ["Head", "Small"] [.null, .bool false]) = .bool true ∧
      bobsOrLarge.evaluate {} (sourceCell ["Head", "Small"] [.text "Ann", .bool false]) =
        .bool true := by
  have hparts : ∀ part, PartOf part bobsOrLarge → part.looksForNull = false := by
    rw [bobsOrLarge, forall_part_iff]
    refine ⟨rfl, ?_⟩
    simp [operands, forall_part_iff (compare _ _ _), forall_part_iff (not _),
      forall_part_iff (field _), forall_part_iff (column _), forall_part_iff (literal _),
      looksForNull]
  have hcells : ∀ i, cellAt [.null, .bool false] i = .null ∨
      cellAt [.null, .bool false] i = cellAt [.text "Ann", .bool false] i := by
    intro i
    rcases i with _ | i
    · exact .inl rfl
    · exact .inr rfl
  have hknown : bobsOrLarge.evaluate {} (sourceCell ["Head", "Small"] [.null, .bool false]) =
      .bool true := rfl
  refine ⟨hparts, hcells, hknown, ?_⟩
  have hstays := (a_known_answer_stays_when_values_are_filled_in {} bobsOrLarge hparts).2
    ["Head", "Small"] [.null, .bool false] [.text "Ann", .bool false] hcells
  rw [hknown] at hstays
  apply hstays
  intro hnull
  cases hnull

/-- A test for null is definite, and changes. -/
example : (isNull (column "Head")).evaluate {} (fun _ => .null) = .bool true ∧
    (isNull (column "Head")).evaluate {} (fun _ => .text "Ann") = .bool false := ⟨rfl, rfl⟩

end Expr

end GridQuery
