-- Predicates have two meanings: that of their statement text, which decides
-- what a filter keeps, and that of the client, which decides what a constructed
-- member is. Here is what a statement means in the client's terms, and exactly
-- where the two part ways: at tests for null written as a comparison, at tests
-- for the empty text of other values, and at lists with a null or nothing in them.
import GridQuery.Proofs.LikePatterns
import GridQuery.Proofs.SqlMeaning

namespace GridQuery

open GridQuery.Sql

/-! ## Values -/

@[simp] theorem Value.null_compare (v : Value) : Value.null.compare v = none := by
  cases v <;> rfl

@[simp] theorem Value.compare_null (v : Value) : v.compare .null = none := by
  cases v <;> rfl

theorem Value.truth_eq_some_iff (v : Value) (flag : Bool) :
    v.truth = some flag ↔ v = .bool flag := by
  cases v <;> simp [Value.truth]

@[simp] theorem Value.truth_null : Value.null.truth = none := rfl

@[simp] theorem Truth.truth_toValue (t : Truth) : t.toValue.truth = t := by
  rcases t with _ | flag <;> rfl

theorem Value.eq_null_of_isNull {v : Value} (h : v.isNull = true) : v = .null := by
  cases v <;> first | rfl | cases h

theorem Value.among_eq (candidates : List Value) (v : Value) :
    v.among candidates =
      if v.isNull then none
      else some (candidates.any fun candidate => v.compare candidate == some .eq) := by
  cases v <;> rfl

theorem eq_holds_compareText (a b : String) : CompareOp.eq.holds (compareText a b) = (a == b) := by
  unfold compareText
  by_cases h : a = b
  · subst h
    rw [if_neg (String.lt_irrefl a), if_pos rfl]
    simp [CompareOp.holds]
  · split <;> simp [CompareOp.holds, h]

/-- Null or equal to the empty text, as a statement has it: unknown for values of other kinds,
which are not empty to the client. -/
theorem Value.null_or_eq_empty_iff (v : Value) :
    (Truth.or (some v.isNull) ((v.compare (.text "")).map CompareOp.eq.holds)).toValue =
      .bool v.isEmpty ↔ (!v.isNull && v.asText?.isNone) = false := by
  cases v with
  | null => exact ⟨fun _ => rfl, fun _ => rfl⟩
  | text s =>
    have hcompare : ((text s).compare (.text "")).map CompareOp.eq.holds = some (s == "") :=
      congrArg some (eq_holds_compareText s "")
    rw [hcompare]
    simp only [isNull, isEmpty]
    cases s == "" <;> exact ⟨fun _ => rfl, fun _ => rfl⟩
  | _ =>
    constructor
    · intro h
      cases show Value.null = .bool false from h
    · intro h
      cases h

/-- A list with a null in it, as a statement has it: unknown where the client misses. -/
theorem Value.among_or_unknown_iff (v : Value) (candidates : List Value) :
    ((v.among candidates).or none).toValue = (v.among candidates).toValue ↔
      v.among candidates ≠ some false := by
  rcases v.among candidates with _ | found
  · exact ⟨nofun, fun _ => rfl⟩
  · cases found with
    | false =>
      refine ⟨?_, fun h => absurd rfl h⟩
      intro h
      cases show Value.null = .bool false from h
    | true =>
      constructor
      · intro _ h
        cases h
      · exact fun _ => rfl

namespace Expr

/-! ## The parts of an expression -/

/-- The expressions right below the top of an expression. -/
def operands : Expr → List Expr
  | field _ => []
  | column _ => []
  | literal _ => []
  | compare left _ right => [left, right]
  | and left right => [left, right]
  | or left right => [left, right]
  | not operand => [operand]
  | isNull operand => [operand]
  | isNullOrEmpty operand => [operand]
  | like operand _ _ => [operand]
  | isIn operand _ => [operand]
  | upper operand => [operand]
  | lower operand => [operand]
  | concat parts => parts

/-- An expression with other operands. -/
def mapOperands (f : Expr → Expr) : Expr → Expr
  | compare left op right => compare (f left) op (f right)
  | and left right => and (f left) (f right)
  | or left right => or (f left) (f right)
  | not operand => not (f operand)
  | isNull operand => isNull (f operand)
  | isNullOrEmpty operand => isNullOrEmpty (f operand)
  | like operand test part => like (f operand) test part
  | isIn operand values => isIn (f operand) values
  | upper operand => upper (f operand)
  | lower operand => lower (f operand)
  | concat parts => concat (parts.map f)
  | e => e

@[simp] theorem mapOperands_id (e : Expr) : e.mapOperands id = e := by
  cases e <;> simp [mapOperands]

theorem sizeOf_lt_of_mem_operands {o e : Expr} (h : o ∈ e.operands) : sizeOf o < sizeOf e := by
  cases e with
  | field _ => cases h
  | column _ => cases h
  | literal _ => cases h
  | concat parts =>
    have hlt := List.sizeOf_lt_of_mem (show o ∈ parts from h)
    simp only [concat.sizeOf_spec]
    omega
  | _ =>
    simp only [operands, List.mem_cons, List.not_mem_nil, or_false] at h
    rcases h with rfl | rfl <;> simp +arith

/-- Induction over the operands, however many there are. -/
theorem operandsInduction {P : Expr → Prop} (h : ∀ e, (∀ o ∈ e.operands, P o) → P e) (e : Expr) :
    P e :=
  h e fun o _ => operandsInduction h o
termination_by sizeOf e
decreasing_by exact sizeOf_lt_of_mem_operands ‹_›

/-- The expression or something below its top. -/
inductive PartOf (part : Expr) : Expr → Prop
  | itself : PartOf part part
  | under {operand e : Expr} : operand ∈ e.operands → PartOf part operand → PartOf part e

theorem PartOf.trans {a b c : Expr} (hab : PartOf a b) (hbc : PartOf b c) : PartOf a c := by
  induction hbc with
  | itself => exact hab
  | under hin _ ih => exact .under hin ih

/-! ## Statements in the client's terms -/

/-- What the client would have to evaluate at the top of an expression to give what the
statement gives. Equality with the literal null is a test for null, the test for the empty
text is a comparison with it, a list with a null in it is unknown instead of false, and an
empty list is false. -/
def topForm : Expr → Expr
  | compare left op right =>
    match op, left.isNullLiteral, right.isNullLiteral with
    | .eq, _, true => isNull left
    | .eq, true, false => isNull right
    | .ne, _, true => not (isNull left)
    | .ne, true, false => not (isNull right)
    | op, _, _ => compare left op right
  | isNullOrEmpty operand =>
    or (isNull operand) (compare operand .eq (literal (.text "")))
  | isIn operand values =>
    if values.isEmpty then literal (.bool false)
    else if values.any Value.isNull then or (isIn operand values) (literal .null)
    else isIn operand values
  | e => e

mutual

/-- The same at the top and everywhere below it. -/
def statementForm : Expr → Expr
  | compare left op right => topForm (compare (statementForm left) op (statementForm right))
  | and left right => and (statementForm left) (statementForm right)
  | or left right => or (statementForm left) (statementForm right)
  | not operand => not (statementForm operand)
  | isNull operand => isNull (statementForm operand)
  | isNullOrEmpty operand => topForm (isNullOrEmpty (statementForm operand))
  | like operand test part => like (statementForm operand) test part
  | isIn operand values => topForm (isIn (statementForm operand) values)
  | upper operand => upper (statementForm operand)
  | lower operand => lower (statementForm operand)
  | concat parts => concat (statementForms parts)
  | field name => field name
  | column name => column name
  | literal v => literal v

def statementForms : List Expr → List Expr
  | [] => []
  | part :: parts => statementForm part :: statementForms parts

end

theorem statementForms_eq_map (es : List Expr) : statementForms es = es.map statementForm := by
  induction es with
  | nil => rfl
  | cons e es ih => rw [statementForms, ih, List.map_cons]

theorem topForm_mapOperands_statementForm (e : Expr) :
    (e.mapOperands statementForm).topForm = e.statementForm := by
  cases e with
  | concat parts => simp only [mapOperands, statementForm, topForm, statementForms_eq_map]
  | _ => rfl

theorem isNullLiteral_statementForm (e : Expr) :
    e.statementForm.isNullLiteral = e.isNullLiteral := by
  cases e with
  | compare left op right =>
    simp only [statementForm, topForm]
    split <;> rfl
  | isIn operand values =>
    simp only [statementForm, topForm]
    split
    · rfl
    · split <;> rfl
  | _ => rfl

section

variable (m : ColumnMappings) (row : String → Value)

theorem evalJoined_toTerms {g : Expr → Expr} {parts : List Expr}
    (h : ∀ o ∈ parts, o.statementValue m row = (g o).evaluate m row) :
    Term.evalJoined Value.compare row (toTerms m parts) = evaluateJoined m row (parts.map g) := by
  induction parts with
  | nil => rfl
  | cons part parts ih =>
    obtain ⟨hpart, hparts⟩ := List.forall_mem_cons.mp h
    simp only [toTerms, Term.evalJoined, List.map_cons, evaluateJoined, ih hparts]
    rw [← hpart]
    rfl

/-- A list of candidates in a statement: a null in it is a candidate that may be any value. -/
theorem member_eq (v : Value) (values : List Value) :
    Term.member Value.compare v values =
      if values.any Value.isNull then (v.among values).or none else v.among values := by
  unfold Term.member
  rw [Value.among_eq]
  rcases hv : v.isNull with _ | _
  · generalize (values.any fun candidate => v.compare candidate == some .eq) = found
    generalize values.any Value.isNull = nulls
    cases found <;> cases nulls <;> rfl
  · rw [Value.eq_null_of_isNull hv]
    simp [Truth.or]

/-- If the operands mean what the client's `g` of them means, so does the whole. -/
theorem statementValue_of_operands {g : Expr → Expr} {e : Expr}
    (hnull : ∀ o ∈ e.operands, (g o).isNullLiteral = o.isNullLiteral)
    (h : ∀ o ∈ e.operands, o.statementValue m row = (g o).evaluate m row) :
    e.statementValue m row = (e.mapOperands g).topForm.evaluate m row := by
  cases e with
  | field name => rfl
  | column name => rfl
  | literal v => cases v <;> rfl
  | compare left op right =>
    simp only [operands, List.forall_mem_cons, statementValue] at h hnull
    obtain ⟨hleft, hright, -⟩ := h
    obtain ⟨hleftNull, hrightNull, -⟩ := hnull
    simp only [statementValue, toTerm, mapOperands, topForm, hleftNull, hrightNull]
    cases op <;> cases left.isNullLiteral <;> cases right.isNullLiteral <;>
      simp [compareTerm, Term.eval, evaluate, hleft, hright, Value.truth, Truth.not, Truth.toValue]
  | and left right =>
    simp only [operands, List.forall_mem_cons, statementValue] at h
    simp only [statementValue, toTerm, Term.eval, mapOperands, topForm, evaluate, h]
  | or left right =>
    simp only [operands, List.forall_mem_cons, statementValue] at h
    simp only [statementValue, toTerm, Term.eval, mapOperands, topForm, evaluate, h]
  | not operand =>
    simp only [operands, List.forall_mem_cons, statementValue] at h
    simp only [statementValue, toTerm, Term.eval, mapOperands, topForm, evaluate, h]
  | isNull operand =>
    simp only [operands, List.forall_mem_cons, statementValue] at h
    simp only [statementValue, toTerm, Term.eval, mapOperands, topForm, evaluate, h]
  | isNullOrEmpty operand =>
    simp only [operands, List.forall_mem_cons, statementValue] at h
    simp only [statementValue, toTerm, Term.eval, mapOperands, topForm, evaluate, h,
      Truth.truth_toValue]
    rfl
  | like operand test part =>
    simp only [operands, List.forall_mem_cons, statementValue] at h
    simp only [statementValue, toTerm, Term.eval, mapOperands, topForm, evaluate, h,
      String.toList_ofList, funext (likeMatches_likePattern test part.toList)]
  | isIn operand values =>
    simp only [operands, List.forall_mem_cons, statementValue] at h
    simp only [statementValue, toTerm, mapOperands, topForm]
    rcases hempty : values.isEmpty with _ | _
    · simp only [Bool.false_eq_true, if_false, Term.eval, h, member_eq]
      split
      · simp only [evaluate, Truth.truth_toValue]
        rfl
      · rfl
    · rfl
  | upper operand =>
    simp only [operands, List.forall_mem_cons, statementValue] at h
    simp only [statementValue, toTerm, Term.eval, mapOperands, topForm, evaluate, h]
  | lower operand =>
    simp only [operands, List.forall_mem_cons, statementValue] at h
    simp only [statementValue, toTerm, Term.eval, mapOperands, topForm, evaluate, h]
  | concat parts =>
    simp only [statementValue, toTerm, Term.eval, mapOperands, topForm, evaluate]
    exact congrArg Value.text (evalJoined_toTerms m row h)

/-- What a statement means in the client's terms. -/
theorem statementValue_eq (e : Expr) : e.statementValue m row = e.statementForm.evaluate m row := by
  induction e using operandsInduction with
  | h e ih =>
    rw [← topForm_mapOperands_statementForm]
    exact statementValue_of_operands m row (fun o _ => isNullLiteral_statementForm o) ih

/-! ## Where the two part ways -/

/-- The statement and the client part ways at the top of an expression: it compares with the
literal null, tests a value other than null and text for the empty text, misses a list with a
null in it, or looks for null in an empty list. -/
def diverges : Expr → Bool
  | compare left op right => op.nullTest?.isSome && (left.isNullLiteral || right.isNullLiteral)
  | isNullOrEmpty operand =>
    let v := operand.evaluate m row
    !v.isNull && v.asText?.isNone
  | isIn operand values =>
    let v := operand.evaluate m row
    if values.isEmpty then v.isNull
    else values.any Value.isNull && v.among values == some false
  | _ => false

/-- A comparison with the literal null is unknown to the client and known to the statement. -/
theorem evaluate_topForm_compare_iff (left right : Expr) (op : CompareOp) :
    (compare left op right).topForm.evaluate m row = (compare left op right).evaluate m row ↔
      (compare left op right).diverges m row = false := by
  rcases hdiverges : (compare left op right).diverges m row with _ | _
  · simp only [diverges, Bool.and_eq_false_iff, Bool.or_eq_false_iff] at hdiverges
    have hsame : (compare left op right).topForm = compare left op right := by
      rcases hdiverges with htest | ⟨hleft, hright⟩
      · cases op <;> first | rfl | cases htest
      · simp only [topForm, hleft, hright]
    rw [hsame]
    exact ⟨fun _ => rfl, fun _ => rfl⟩
  · simp only [diverges, Bool.and_eq_true, Bool.or_eq_true] at hdiverges
    obtain ⟨htest, hnull⟩ := hdiverges
    have hknown : ∃ flag, (compare left op right).topForm.evaluate m row = .bool flag := by
      simp only [topForm]
      rcases hright : right.isNullLiteral with _ | _
      · have hleft : left.isNullLiteral = true := by simpa [hright] using hnull
        rw [hleft]
        cases op <;> first | exact ⟨_, rfl⟩ | cases htest
      · cases op <;> first | exact ⟨_, rfl⟩ | cases htest
    have hunknown : (compare left op right).evaluate m row = .null := by
      rcases hnull with h | h <;> rw [eq_of_isNullLiteral h] <;> simp [evaluate, Truth.toValue]
    obtain ⟨flag, hflag⟩ := hknown
    rw [hflag, hunknown]
    simp only [reduceCtorEq]

theorem evaluate_topForm_iff (e : Expr) :
    e.topForm.evaluate m row = e.evaluate m row ↔ e.diverges m row = false := by
  cases e with
  | compare left op right => exact evaluate_topForm_compare_iff m row left right op
  | isNullOrEmpty operand =>
    simp only [topForm, evaluate, diverges, Truth.truth_toValue]
    exact Value.null_or_eq_empty_iff _
  | isIn operand values =>
    simp only [topForm, diverges]
    rcases values with _ | ⟨first, rest⟩
    · simp only [List.isEmpty_nil, if_true, evaluate, Value.among_eq, List.any_nil]
      rcases (operand.evaluate m row).isNull with _ | _
      · exact ⟨fun _ => rfl, fun _ => rfl⟩
      · refine iff_of_false (fun h => ?_) Bool.noConfusion
        cases h
    · simp only [List.isEmpty_cons, Bool.false_eq_true, if_false]
      rcases (first :: rest).any Value.isNull with _ | _
      · simp
      · have hiff := (operand.evaluate m row).among_or_unknown_iff (first :: rest)
        simpa [evaluate] using hiff
  | _ => simp [topForm, diverges]

/-- If the operands mean the same to both, the whole does unless it diverges. -/
theorem agrees_iff_of_operands {e : Expr}
    (h : ∀ o ∈ e.operands, o.statementValue m row = o.evaluate m row) :
    e.statementValue m row = e.evaluate m row ↔ e.diverges m row = false := by
  have htop := statementValue_of_operands m row (g := id) (fun _ _ => rfl) h
  rw [htop, mapOperands_id, evaluate_topForm_iff]

/-- Every part means the same to both exactly if no part diverges. -/
theorem parts_agree_iff (e : Expr) :
    (∀ part, PartOf part e → part.statementValue m row = part.evaluate m row) ↔
      ∀ part, PartOf part e → part.diverges m row = false := by
  constructor
  · intro h part hpart
    refine (agrees_iff_of_operands m row ?_).mp (h part hpart)
    intro o ho
    exact h o (PartOf.trans (.under ho .itself) hpart)
  · induction e using operandsInduction with
    | h e ih =>
      intro h part hpart
      have hunder : ∀ o ∈ e.operands, ∀ part, PartOf part o →
          part.statementValue m row = part.evaluate m row := by
        intro o ho
        exact ih o ho fun part hp => h part (.under ho hp)
      cases hpart with
      | itself =>
        exact (agrees_iff_of_operands m row fun o ho => hunder o ho o .itself).mpr (h _ .itself)
      | under ho hp => exact hunder _ ho _ hp

/-! ## Filters and constructed members -/

/-- A filter keeps the rows for which its condition is true. -/
def Kept (e : Expr) : Prop := (e.statementValue m row).truth = some true

theorem kept_iff (e : Expr) : e.Kept m row ↔ e.statementValue m row = .bool true :=
  Value.truth_eq_some_iff _ _

theorem kept_not_iff (e : Expr) : (not e).Kept m row ↔ e.statementValue m row = .bool false := by
  have hvalue : (not e).statementValue m row = (e.statementValue m row).truth.not.toValue := rfl
  rw [Kept, hvalue, Truth.truth_toValue, ← Value.truth_eq_some_iff]
  rcases (e.statementValue m row).truth with _ | flag
  · exact ⟨nofun, nofun⟩
  · cases flag <;> simp [Truth.not]

end

/-- The text and the parameters of an expression mean what the client makes of its statement
form. All parts of an expression mean the same to both exactly if none of them diverges, and
then a filter keeps a row if a constructed member is true there, and its negation if the member
is false. -/
theorem a_predicate_means_the_same_unless_a_part_diverges (m : ColumnMappings)
    (row : String → Value) (e : Expr) :
    worthOf row (String.ofList (textOf (e.toTerm m).tokens)) (parametersOf (e.toTerm m).tokens) =
        some (e.statementValue m row) ∧
      e.statementValue m row = e.statementForm.evaluate m row ∧
      ((∀ part, PartOf part e → part.statementValue m row = part.evaluate m row) ↔
        ∀ part, PartOf part e → part.diverges m row = false) ∧
      ((∀ part, PartOf part e → part.diverges m row = false) →
        (e.Kept m row ↔ e.evaluate m row = .bool true) ∧
          ((not e).Kept m row ↔ e.evaluate m row = .bool false)) := by
  refine ⟨worthOf_tokens row (e.toTerm m), statementValue_eq m row e, parts_agree_iff m row e, ?_⟩
  intro h
  have hsame := (parts_agree_iff m row e).mpr h e .itself
  rw [kept_iff, kept_not_iff, hsame]
  exact ⟨Iff.rfl, Iff.rfl⟩

/-- A test for the empty text, and its negation, on a row with an empty text. -/
theorem a_test_for_empty_text_means_the_same :
    ((isNullOrEmpty (column "B")).Kept {} (fun _ => .text "") ↔
        (isNullOrEmpty (column "B")).evaluate {} (fun _ => .text "") = .bool true) ∧
      ((not (isNullOrEmpty (column "B"))).Kept {} (fun _ => .text "") ↔
        (isNullOrEmpty (column "B")).evaluate {} (fun _ => .text "") = .bool false) := by
  refine (a_predicate_means_the_same_unless_a_part_diverges {} (fun _ => .text "") _).2.2.2 ?_
  intro part hpart
  cases hpart with
  | itself => rfl
  | under ho hp =>
    obtain rfl := List.mem_singleton.mp ho
    cases hp with
    | itself => rfl
    | under ho _ => cases ho

/-- A filter by equality with null keeps a row where the member is not true, and a filter by a
missed list with a null drops a row where the member is false. -/
theorem a_null_parts_filters_from_members :
    (compare (column "B") .eq (literal .null)).Kept {} (fun _ => .null) ∧
      (compare (column "B") .eq (literal .null)).evaluate {} (fun _ => .null) = .null ∧
      ¬ (not (isIn (column "B") [.int 1, .null])).Kept {} (fun _ => .int 2) ∧
      (isIn (column "B") [.int 1, .null]).evaluate {} (fun _ => .int 2) = .bool false := by
  refine ⟨rfl, rfl, ?_, rfl⟩
  rw [kept_not_iff]
  intro h
  cases show Value.null = .bool false from h

end Expr

end GridQuery
