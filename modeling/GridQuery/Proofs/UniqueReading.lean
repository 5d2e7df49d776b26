-- Expressions are read from their text and their parameters in one way. Two
-- expressions of the same text have the same statement form; and the
-- expressions of one statement form differ only in ways of writing that the
-- statement form does not keep.
import GridQuery.Proofs.LikePatterns
import GridQuery.Proofs.SqlMeaning

namespace GridQuery.Sql.Term

/-- A term is known by its text and its parameters. -/
theorem eq_of_text {t u : Term}
    (htext : String.ofList (textOf t.tokens) = String.ofList (textOf u.tokens))
    (hparameters : parametersOf t.tokens = parametersOf u.tokens) : t = u := by
  have hread := read_textOf t.readable
  rw [htext, read_textOf u.readable] at hread
  have hwritten : t.written = u.written := by
    unfold written
    rw [← fill_tokens t.tokens, ← fill_tokens u.tokens, ← Option.some.inj hread, hparameters]
  have ht := parse_written t (t.written.length + 1) [] (Nat.lt_succ_self _)
  have hu := parse_written u (u.written.length + 1) [] (Nat.lt_succ_self _)
  rw [hwritten, hu] at ht
  exact (congrArg Prod.fst (Option.some.inj ht)).symm

end GridQuery.Sql.Term

namespace GridQuery.Sql

/-! ## Reading text tests -/

/-- The character that a part of a pattern stands for. -/
def LikePart.char? : LikePart → Option Char
  | .exactly c => some c
  | _ => none

/-- The text test of a pattern, and the text that is looked for. -/
def testOf (pattern : List LikePart) : TextTest × List Char :=
  match pattern with
  | .run :: rest =>
    (if rest.getLast? = some .run then .contains else .endsWith, rest.filterMap LikePart.char?)
  | parts => (.startsWith, parts.filterMap LikePart.char?)

/-- A text test is read back from its pattern. That every text starts with the empty text is
read as that it ends with it. -/
theorem testOf_likePattern (test : TextTest) (part : List Char) :
    testOf (readPattern (likePattern test part)) =
      if test = .startsWith ∧ part = [] then (.endsWith, []) else (test, part) := by
  have hchars : (part.map LikePart.exactly).filterMap LikePart.char? = part := by
    simp [List.filterMap_map, Function.comp_def, LikePart.char?]
  cases test with
  | startsWith =>
    simp only [likePattern, readPattern_escapeWildcards, readPattern]
    rcases part with _ | ⟨c, cs⟩
    · rfl
    · simp only [List.map_cons, List.filterMap_cons, LikePart.char?, List.cons.injEq, true_and]
        at hchars
      simp [testOf, LikePart.char?, hchars]
  | endsWith =>
    have hread := readPattern_escapeWildcards part []
    rw [List.append_nil] at hread
    simp [likePattern, readPattern, hread, testOf, hchars]
  | contains =>
    simp only [likePattern, List.cons_append, readPattern, readPattern_escapeWildcards]
    simp [testOf, hchars, LikePart.char?]

end GridQuery.Sql

namespace GridQuery.Expr

open GridQuery.Sql

/-! ## Ways of writing one expression -/

/-- The two expressions are the same but for ways of writing that have one statement form. -/
inductive Alike (m : ColumnMappings) : Expr → Expr → Prop
  | refl (e : Expr) : Alike m e e
  | symm {a b : Expr} : Alike m a b → Alike m b a
  | trans {a b c : Expr} : Alike m a b → Alike m b c → Alike m a c
  /-- A field is the column that it resolves to. -/
  | field (name : String) : Alike m (field name) (column (m.resolve name))
  | equalsNull (x : Expr) : Alike m (compare x .eq (literal .null)) (isNull x)
  | nullEquals (x : Expr) : Alike m (compare (literal .null) .eq x) (isNull x)
  | differsFromNull (x : Expr) :
    Alike m (compare x .ne (literal .null)) (compare (literal .null) .ne x)
  /-- Nothing is in an empty list. -/
  | emptyList (x y : Expr) : Alike m (isIn x []) (isIn y [])
  | emptyPart (x : Expr) : Alike m (like x .startsWith "") (like x .endsWith "")
  -- anywhere in the tree
  | compare {a a' b b' : Expr} (op : CompareOp) :
    Alike m a a' → Alike m b b' → Alike m (compare a op b) (compare a' op b')
  | and {a a' b b' : Expr} : Alike m a a' → Alike m b b' → Alike m (and a b) (and a' b')
  | or {a a' b b' : Expr} : Alike m a a' → Alike m b b' → Alike m (or a b) (or a' b')
  | not {a a' : Expr} : Alike m a a' → Alike m (not a) (not a')
  | isNull {a a' : Expr} : Alike m a a' → Alike m (isNull a) (isNull a')
  | isNullOrEmpty {a a' : Expr} : Alike m a a' → Alike m (isNullOrEmpty a) (isNullOrEmpty a')
  | like {a a' : Expr} (test : TextTest) (part : String) :
    Alike m a a' → Alike m (like a test part) (like a' test part)
  | isIn {a a' : Expr} (values : List Value) :
    Alike m a a' → Alike m (isIn a values) (isIn a' values)
  | upper {a a' : Expr} : Alike m a a' → Alike m (upper a) (upper a')
  | lower {a a' : Expr} : Alike m a a' → Alike m (lower a) (lower a')
  | concat {a a' : Expr} (before after : List Expr) :
    Alike m a a' → Alike m (concat (before ++ a :: after)) (concat (before ++ a' :: after))

variable (m : ColumnMappings)

/-- A comparison tests for null by the statement form of its sides alone. -/
theorem isNullLiteral_iff (e : Expr) : e.isNullLiteral = true ↔ e.toTerm m = .null := by
  cases e with
  | literal v => cases v <;> simp [isNullLiteral, toTerm]
  | compare left op right =>
    simp only [isNullLiteral, toTerm, Bool.false_eq_true, false_iff]
    unfold compareTerm
    intro h
    split at h <;> cases h
  | isIn operand values =>
    simp only [isNullLiteral, toTerm, Bool.false_eq_true, false_iff]
    intro h
    split at h <;> cases h
  | _ => simp [isNullLiteral, toTerm]

theorem isNullLiteral_congr {a b : Expr} (h : a.toTerm m = b.toTerm m) :
    a.isNullLiteral = b.isNullLiteral := by
  rw [Bool.eq_iff_iff, isNullLiteral_iff m, isNullLiteral_iff m, h]

theorem toTerms_eq (es : List Expr) : toTerms m es = es.map (toTerm m) := by
  induction es with
  | nil => rfl
  | cons e es ih => rw [toTerms, ih, List.map_cons]

variable {m}

/-- Ways of writing one expression have one statement form. -/
theorem Alike.toTerm_eq {a b : Expr} (h : Alike m a b) : a.toTerm m = b.toTerm m := by
  induction h with
  | refl _ => rfl
  | symm _ ih => exact ih.symm
  | trans _ _ ih ih' => exact ih.trans ih'
  | field name => rfl
  | equalsNull x => simp [toTerm, isNullLiteral, compareTerm]
  | nullEquals x =>
    unfold toTerm
    rcases hx : x.isNullLiteral with _ | _
    · rfl
    · rw [eq_of_isNullLiteral hx]
      rfl
  | differsFromNull x =>
    simp only [toTerm]
    rcases hx : x.isNullLiteral with _ | _
    · rfl
    · rw [eq_of_isNullLiteral hx]
      rfl
  | emptyList x y => rfl
  | emptyPart x => rfl
  | compare op _ _ iha ihb =>
    simp only [toTerm, isNullLiteral_congr m iha, isNullLiteral_congr m ihb, iha, ihb]
  | and _ _ iha ihb => simp only [toTerm, iha, ihb]
  | or _ _ iha ihb => simp only [toTerm, iha, ihb]
  | not _ ih => simp only [toTerm, ih]
  | isNull _ ih => simp only [toTerm, ih]
  | isNullOrEmpty _ ih => simp only [toTerm, ih]
  | like test part _ ih => simp only [toTerm, ih]
  | isIn values _ ih => simp only [toTerm, ih]
  | upper _ ih => simp only [toTerm, ih]
  | lower _ ih => simp only [toTerm, ih]
  | concat before after _ ih => simp [toTerm, toTerms_eq, ih]

/-! ## The expression of a statement form -/

mutual

/-- One expression of a statement form. -/
def ofTerm : Term → Expr
  | .column name => column name
  | .parameter v => literal v
  | .null => literal .null
  | .falsity => isIn (literal .null) []
  | .compare left op right => compare (ofTerm left) op (ofTerm right)
  | .and left right => and (ofTerm left) (ofTerm right)
  | .or left right => or (ofTerm left) (ofTerm right)
  | .not operand => not (ofTerm operand)
  | .isNull operand => isNull (ofTerm operand)
  | .isNotNull operand => compare (ofTerm operand) .ne (literal .null)
  | .isNullOr operand _ => isNullOrEmpty (ofTerm operand)
  | .like operand pattern =>
    let (test, part) := testOf (readPattern pattern.toList)
    like (ofTerm operand) test (String.ofList part)
  | .isIn operand values => isIn (ofTerm operand) values
  | .upper operand => upper (ofTerm operand)
  | .lower operand => lower (ofTerm operand)
  | .concat parts => concat (ofTerms parts)

def ofTerms : List Term → List Expr
  | [] => []
  | part :: parts => ofTerm part :: ofTerms parts

end

theorem Alike.concat_forall₂ {as bs : List Expr} (h : List.Forall₂ (Alike m) as bs)
    (before : List Expr) :
    Alike m (Expr.concat (before ++ as)) (Expr.concat (before ++ bs)) := by
  induction h generalizing before with
  | nil => exact .refl _
  | @cons a b as bs hab _ ih =>
    have hrest := ih (before ++ [b])
    simp only [List.append_assoc, List.singleton_append] at hrest
    exact .trans (.concat before as hab) hrest

theorem alike_ofTerm_compare {left right : Expr} (op : CompareOp)
    (hleft : Alike m left (ofTerm (left.toTerm m)))
    (hright : Alike m right (ofTerm (right.toTerm m))) :
    Alike m (Expr.compare left op right) (ofTerm ((Expr.compare left op right).toTerm m)) := by
  simp only [toTerm]
  unfold compareTerm
  split
  · rename_i hnull
    rw [eq_of_isNullLiteral hnull]
    exact .trans (.equalsNull left) (.isNull hleft)
  · rename_i hnull _
    rw [eq_of_isNullLiteral hnull]
    exact .trans (.nullEquals right) (.isNull hright)
  · rename_i hnull
    rw [eq_of_isNullLiteral hnull]
    exact .compare .ne hleft (.refl _)
  · rename_i hnull _
    rw [eq_of_isNullLiteral hnull]
    exact .trans (.symm (.differsFromNull right)) (.compare .ne hright (.refl _))
  · exact .compare _ hleft hright

variable (m)

mutual

/-- Every expression is a way of writing the expression of its statement form. -/
theorem alike_ofTerm (e : Expr) : Alike m e (ofTerm (e.toTerm m)) := by
  match e with
  | field name => exact .field name
  | column _ => exact .refl _
  | literal v => cases v <;> exact .refl _
  | compare left op right =>
    exact alike_ofTerm_compare op (alike_ofTerm left) (alike_ofTerm right)
  | and left right => exact .and (alike_ofTerm left) (alike_ofTerm right)
  | or left right => exact .or (alike_ofTerm left) (alike_ofTerm right)
  | not operand => exact .not (alike_ofTerm operand)
  | isNull operand => exact .isNull (alike_ofTerm operand)
  | isNullOrEmpty operand => exact .isNullOrEmpty (alike_ofTerm operand)
  | like operand test part =>
    have hoperand := Alike.like test part (alike_ofTerm operand)
    simp only [toTerm, ofTerm, String.toList_ofList, testOf_likePattern]
    split
    · rename_i hempty
      obtain ⟨rfl, hpart⟩ := hempty
      obtain rfl : part = "" := String.toList_inj.mp hpart
      exact .trans hoperand (.emptyPart _)
    · rw [String.ofList_toList]
      exact hoperand
  | isIn operand values =>
    unfold toTerm
    split
    · rename_i hempty
      obtain rfl := List.isEmpty_iff.mp hempty
      exact .emptyList _ _
    · exact .isIn values (alike_ofTerm operand)
  | upper operand => exact .upper (alike_ofTerm operand)
  | lower operand => exact .lower (alike_ofTerm operand)
  | concat parts => exact .concat_forall₂ (alike_ofTerms parts) []

theorem alike_ofTerms (es : List Expr) : List.Forall₂ (Alike m) es (ofTerms (toTerms m es)) := by
  match es with
  | [] => exact .nil
  | e :: es => exact .cons (alike_ofTerm e) (alike_ofTerms es)

end

/-- Two expressions have the same text and the same parameters exactly if they are ways of
writing one expression: a field for its column, a comparison with the literal null for a test,
either side of it, any empty list, and a test that a text starts or ends with nothing. -/
theorem an_expression_is_read_in_one_way (a b : Expr) :
    (String.ofList (textOf (a.toTerm m).tokens) = String.ofList (textOf (b.toTerm m).tokens) ∧
      parametersOf (a.toTerm m).tokens = parametersOf (b.toTerm m).tokens) ↔ Alike m a b := by
  constructor
  · rintro ⟨htext, hparameters⟩
    have hterm : a.toTerm m = b.toTerm m := Term.eq_of_text htext hparameters
    have hb := alike_ofTerm m b
    rw [← hterm] at hb
    exact .trans (alike_ofTerm m a) (.symm hb)
  · intro h
    rw [h.toTerm_eq]
    exact ⟨rfl, rfl⟩

end GridQuery.Expr
