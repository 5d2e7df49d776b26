-- What the text of a condition and its parameters mean, by the rules of SQL
-- alone. The text is read from left to right; brackets and names of functions
-- say how it goes on. The text of a term is read back as the term, so it is
-- worth on a row what the term is.
import GridQuery.Proofs.StatementText

namespace GridQuery.Sql

/-! ## Reading conditions -/

/-- Takes characters outside quotes off the front. -/
def dropMarks : List Char → List Lexeme → Option (List Lexeme)
  | [], ls => some ls
  | c :: cs, .mark d :: ls => if c = d then dropMarks cs ls else none
  | _ :: _, _ => none

def skip (text : String) (ls : List Lexeme) : Option (List Lexeme) := dropMarks text.toList ls

/-- The two texts differ before either of them ends. -/
def differs : List Char → List Char → Bool
  | c :: cs, d :: ds => c != d || differs cs ds
  | _, _ => false

theorem skip_marks (text : String) (ls : List Lexeme) : skip text (marks text ++ ls) = some ls := by
  unfold skip marks
  induction text.toList with
  | nil => rfl
  | cons c cs ih => simpa [dropMarks] using ih

theorem skip_other {text other : String} (h : differs text.toList other.toList) (ls : List Lexeme) :
    skip text (marks other ++ ls) = none := by
  unfold skip marks
  generalize text.toList = cs, other.toList = ds at h
  induction cs, ds using differs.induct with
  | case1 c cs d ds ih =>
    simp only [List.map_cons, List.cons_append, dropMarks]
    split
    case isTrue hcd =>
      simp only [differs, hcd, bne_self_eq_false, Bool.false_or] at h
      exact ih h
    case isFalse => rfl
  | case2 cs ds hshort => simp [differs] at h

/-- Values with commas between them, up to the two brackets that end a list. -/
def readValues : List Lexeme → Option (List Value × List Lexeme)
  | .value v :: .mark ',' :: .mark ' ' :: ls =>
    (readValues ls).map fun (vs, rest) => (v :: vs, rest)
  | .value v :: .mark ')' :: .mark ')' :: ls => some ([v], ls)
  | _ => none

theorem readValues_written {vs : List Value} {rest : List Lexeme} (hvs : vs ≠ []) :
    readValues ((marks ", ").intercalate (vs.map fun v => [.value v]) ++ (marks "))" ++ rest)) =
      some (vs, rest) := by
  induction vs with
  | nil => exact absurd rfl hvs
  | cons v vs ih =>
    rcases vs with _ | ⟨w, ws⟩
    · simp [readValues, marks]
    · have hrest := ih (by simp)
      simp only [List.map_cons] at hrest ⊢
      rw [List.intercalate_cons_cons]
      simpa [readValues, marks] using hrest

end GridQuery.Sql

namespace GridQuery.Sql.Term

/-! ## Reading terms -/

/-- A term with its values in place. -/
def written (t : Term) : List Lexeme := t.tokens.flatMap Token.written

/-- What stands between two operands, and what it makes of them. -/
def connectives : List (String × (Term → Term → Term)) :=
  (" AND ", .and) :: (" OR ", .or) ::
    [CompareOp.eq, .ne, .lt, .le, .gt, .ge].map fun op =>
      (" " ++ op.symbol ++ " ", fun x y => .compare x op y)

/-- What stands before an operand and a bracket, and what it makes of the operand. -/
def functions : List (String × (Term → Term)) :=
  [("UPPER(", upper), ("LOWER(", lower), ("(NOT ", not)]

open Classical in
/-- Goes on behind a bracket and its first operand. A test for null or a value has the operand on
either side of its OR. -/
noncomputable def parseTail (operand : List Lexeme → Option (Term × List Lexeme)) (x : Term)
    (ls : List Lexeme) : Option (Term × List Lexeme) :=
  (skip " IS NULL)" ls).map (.isNull x, ·) <|>
  (skip " IS NOT NULL)" ls).map (.isNotNull x, ·) <|>
  (do
    let (y, ls) ← operand (← skip " IS NULL OR " ls)
    match ← skip " = " ls with
    | .value v :: ls => if y = x then return (.isNullOr x v, ← skip ")" ls) else none
    | _ => none) <|>
  (do
    match ← skip " LIKE " ls with
    | .value (.text pattern) :: ls =>
      match ← skip " ESCAPE " ls with
      | .quoted .text "\\" :: ls => return (.like x pattern, ← skip ")" ls)
      | _ => none
    | _ => none) <|>
  (skip " IN ())" ls).map (.isIn x [], ·) <|>
  (do
    let (vs, ls) ← readValues (← skip " IN (" ls)
    return (.isIn x vs, ls)) <|>
  connectives.findSome? fun (text, connect) => do
    let (y, ls) ← operand (← skip text ls)
    return (connect x y, ← skip ")" ls)

/-- Reads a term that begins outside quotes; `term` reads one within it, `terms` the parts of a
text. -/
noncomputable def parseMarks (term : List Lexeme → Option (Term × List Lexeme))
    (terms : List Lexeme → Option (List Term × List Lexeme)) (ls : List Lexeme) :
    Option (Term × List Lexeme) :=
  (skip "NULL" ls).map (.null, ·) <|>
  (skip "FALSE" ls).map (.falsity, ·) <|>
  (functions.findSome? fun (name, apply) => do
    let (x, ls) ← term (← skip name ls)
    return (apply x, ← skip ")" ls)) <|>
  (skip "CONCAT()" ls).map (.concat [], ·) <|>
  (do
    let (xs, ls) ← terms (← skip "CONCAT(" ls)
    return (.concat xs, ls)) <|>
  (do
    let (x, ls) ← term (← skip "(" ls)
    parseTail term x ls)

mutual

/-- Reads a term, and gives what follows it. `fuel` bounds the depth. -/
noncomputable def parse : Nat → List Lexeme → Option (Term × List Lexeme)
  | 0, _ => none
  | _ + 1, .quoted .name name :: ls => some (.column name, ls)
  | _ + 1, .value v :: ls => some (.parameter v, ls)
  | fuel + 1, ls => parseMarks (parse fuel) (parseEach fuel) ls

/-- Terms with commas between them, up to a bracket. -/
noncomputable def parseEach : Nat → List Lexeme → Option (List Term × List Lexeme)
  | 0, _ => none
  | fuel + 1, ls => do
    let (x, ls) ← parse fuel ls
    (skip ")" ls).map ([x], ·) <|>
    (do
      let (xs, ls) ← parseEach fuel (← skip ", " ls)
      return (x :: xs, ls))

end

/-! ## Reading what was written -/

theorem tokensOfEach_eq (parts : List Term) : tokensOfEach parts = parts.map tokens := by
  induction parts with
  | nil => rfl
  | cons part parts ih => rw [tokensOfEach, ih, List.map_cons]

/-- No term begins like a negation or a closing bracket. -/
theorem skip_written (t : Term) (rest : List Lexeme) :
    skip "NOT " (t.written ++ rest) = none ∧ skip ")" (t.written ++ rest) = none := by
  cases t <;> exact ⟨rfl, rfl⟩

/-- The terms of a list, with commas between them. -/
def writtenList (ts : List Term) : List Lexeme := (marks ", ").intercalate (ts.map written)

theorem writtenList_cons_cons (t u : Term) (ts : List Term) :
    writtenList (t :: u :: ts) = t.written ++ (marks ", " ++ writtenList (u :: ts)) := by
  unfold writtenList
  rw [List.map_cons, List.map_cons, List.intercalate_cons_cons, List.append_assoc]

theorem skip_writtenList (t : Term) (ts : List Term) (rest : List Lexeme) :
    skip ")" (writtenList (t :: ts) ++ rest) = none := by
  rcases ts with _ | ⟨u, ts⟩
  · simpa [writtenList] using (skip_written t rest).2
  · rw [writtenList_cons_cons, List.append_assoc]
    exact (skip_written t _).2

section

variable {fuel : Nat} {t x y : Term} {ls rest tail : List Lexeme}

theorem parse_marks {text : String} (htext : text.toList ≠ []) (ls : List Lexeme) :
    parse (fuel + 1) (marks text ++ ls) =
      parseMarks (parse fuel) (parseEach fuel) (marks text ++ ls) := by
  unfold marks
  rcases hchars : text.toList with _ | ⟨c, cs⟩
  · exact absurd hchars htext
  · rfl

/-! ### Functions -/

section

variable {name : String} {apply : Term → Term}

theorem written_of_function (h : (name, apply) ∈ functions) (x : Term) :
    (apply x).written = marks name ++ (x.written ++ marks ")") := by
  simp only [functions, List.mem_cons, Prod.mk.injEq, List.not_mem_nil, or_false] at h
  rcases h with ⟨rfl, rfl⟩ | ⟨rfl, rfl⟩ | ⟨rfl, rfl⟩ <;>
    simp only [written, tokens, List.flatMap_append, written_plain, List.append_assoc]

theorem length_of_function (h : (name, apply) ∈ functions)
    (hlen : (apply x).written.length < fuel + 1) : x.written.length < fuel := by
  rw [written_of_function h] at hlen
  simp [marks] at hlen
  omega

theorem parse_of_function (h : (name, apply) ∈ functions)
    (hx : parse fuel (x.written ++ (marks ")" ++ rest)) = some (x, marks ")" ++ rest)) :
    parse (fuel + 1) ((apply x).written ++ rest) = some (apply x, rest) := by
  rw [written_of_function h, List.append_assoc, List.append_assoc]
  simp only [functions, List.mem_cons, Prod.mk.injEq, List.not_mem_nil, or_false] at h
  rcases h with ⟨rfl, rfl⟩ | ⟨rfl, rfl⟩ | ⟨rfl, rfl⟩ <;>
    rw [parse_marks (by decide)] <;>
    simp [parseMarks, functions, skip_marks, skip_other, differs, hx]

end

theorem parse_concat {xs : List Term} (hclose : skip ")" ls = none)
    (hxs : parseEach fuel ls = some (xs, rest)) :
    parse (fuel + 1) (marks "CONCAT(" ++ ls) = some (.concat xs, rest) := by
  have hempty : skip "CONCAT()" (marks "CONCAT(" ++ ls) = none := hclose
  rw [parse_marks (by decide)]
  simp [parseMarks, functions, skip_marks, skip_other, differs, hempty, hxs]

/-! ### Brackets -/

/-- The first operand of a bracket is shorter than the whole. -/
theorem length_of_bracket (hform : t.written = marks "(" ++ (x.written ++ tail))
    (hlen : t.written.length < fuel + 1) : x.written.length < fuel := by
  rw [hform] at hlen
  simp [marks] at hlen
  omega

/-- A bracket is read by what follows its first operand. -/
theorem parse_of_bracket (hform : t.written = marks "(" ++ (x.written ++ tail))
    (hx : parse fuel (x.written ++ (tail ++ rest)) = some (x, tail ++ rest))
    (htail : parseTail (parse fuel) x (tail ++ rest) = some (t, rest)) :
    parse (fuel + 1) (t.written ++ rest) = some (t, rest) := by
  rw [hform, List.append_assoc, List.append_assoc]
  have hnot : skip "(NOT " (marks "(" ++ (x.written ++ (tail ++ rest))) = none :=
    (skip_written x _).1
  rw [parse_marks (by decide)]
  simp [parseMarks, functions, skip_marks, skip_other, differs, hnot, hx, htail]

/-! ### Connectives -/

section

variable {text : String} {connect : Term → Term → Term}

theorem compare_mem_connectives (op : CompareOp) :
    (" " ++ op.symbol ++ " ", fun x y => compare x op y) ∈ connectives := by
  cases op <;> simp [connectives, CompareOp.symbol]

theorem written_of_connective (h : (text, connect) ∈ connectives) (x y : Term) :
    (connect x y).written =
      marks "(" ++ (x.written ++ (marks text ++ (y.written ++ marks ")"))) := by
  simp only [connectives, List.mem_cons, List.mem_map, Prod.mk.injEq] at h
  rcases h with ⟨rfl, rfl⟩ | ⟨rfl, rfl⟩ | ⟨op, -, rfl, rfl⟩ <;>
    simp only [written, tokens, List.flatMap_append, written_plain, List.append_assoc]

theorem length_of_connective (h : (text, connect) ∈ connectives)
    (hlen : (connect x y).written.length < fuel + 1) :
    x.written.length < fuel ∧ y.written.length < fuel := by
  rw [written_of_connective h] at hlen
  simp [marks] at hlen
  omega

theorem parse_of_connective (h : (text, connect) ∈ connectives)
    (hx : parse fuel (x.written ++ (marks text ++ (y.written ++ (marks ")" ++ rest)))) =
      some (x, marks text ++ (y.written ++ (marks ")" ++ rest))))
    (hy : parse fuel (y.written ++ (marks ")" ++ rest)) = some (y, marks ")" ++ rest)) :
    parse (fuel + 1) ((connect x y).written ++ rest) = some (connect x y, rest) := by
  have hform := written_of_connective h x y
  refine parse_of_bracket hform (by simpa using hx) ?_
  simp only [List.append_assoc]
  simp only [connectives, List.mem_cons, List.mem_map, Prod.mk.injEq] at h
  rcases h with ⟨rfl, rfl⟩ | ⟨rfl, rfl⟩ | ⟨op, -, rfl, rfl⟩
  · simp [parseTail, skip_marks, skip_other, differs, hy, connectives]
  · simp [parseTail, skip_marks, skip_other, differs, hy, connectives]
  · cases op <;>
      simp [parseTail, skip_marks, skip_other, differs, hy, connectives, CompareOp.symbol]

end

/-! ### Lists of values -/

/-- A list of values in place, with what stands before and behind it. -/
def writtenValues (vs : List Value) : List Lexeme :=
  marks " IN (" ++ ((marks ", ").intercalate (vs.map fun v => [.value v]) ++ marks "))")

theorem parseTail_isIn (operand : List Lexeme → Option (Term × List Lexeme)) (vs : List Value) :
    parseTail operand x (writtenValues vs ++ rest) = some (.isIn x vs, rest) := by
  unfold writtenValues
  rw [List.append_assoc, List.append_assoc]
  rcases vs with _ | ⟨v, vs⟩
  · simp [parseTail, skip, marks, dropMarks]
  · have hvalues : readValues ((marks ", ").intercalate ((v :: vs).map fun v => [.value v]) ++
        (marks "))" ++ rest)) = some (v :: vs, rest) := readValues_written (List.cons_ne_nil v vs)
    have hopen : skip " IN ())" (marks " IN (" ++ ((marks ", ").intercalate
        ((v :: vs).map fun v => [.value v]) ++ (marks "))" ++ rest))) = none := by
      cases vs <;> rfl
    simp only [parseTail, hopen, skip_marks, Option.bind_eq_bind, Option.bind_some, hvalues]
    simp [skip_other, differs]

end

mutual

/-- A term in place is read back, whatever follows it. -/
theorem parse_written (t : Term) (fuel : Nat) (rest : List Lexeme) (h : t.written.length < fuel) :
    parse fuel (t.written ++ rest) = some (t, rest) := by
  obtain ⟨fuel, rfl⟩ : ∃ k, fuel = k + 1 := ⟨fuel - 1, by omega⟩
  match t with
  | column _ => rfl
  | parameter _ => rfl
  | null => rfl
  | falsity => rfl
  | compare left op right =>
    have hop := compare_mem_connectives op
    have hlen := length_of_connective hop h
    exact parse_of_connective hop (parse_written left fuel _ hlen.1)
      (parse_written right fuel _ hlen.2)
  | and left right =>
    have hand : (" AND ", Term.and) ∈ connectives := List.mem_cons_self
    have hlen := length_of_connective hand h
    exact parse_of_connective hand (parse_written left fuel _ hlen.1)
      (parse_written right fuel _ hlen.2)
  | or left right =>
    have hor : (" OR ", Term.or) ∈ connectives := List.mem_cons_of_mem _ List.mem_cons_self
    have hlen := length_of_connective hor h
    exact parse_of_connective hor (parse_written left fuel _ hlen.1)
      (parse_written right fuel _ hlen.2)
  | not operand =>
    have hnot : ("(NOT ", Term.not) ∈ functions := by simp [functions]
    exact parse_of_function hnot (parse_written operand fuel _ (length_of_function hnot h))
  | upper operand =>
    have hupper : ("UPPER(", Term.upper) ∈ functions := by simp [functions]
    exact parse_of_function hupper (parse_written operand fuel _ (length_of_function hupper h))
  | lower operand =>
    have hlower : ("LOWER(", Term.lower) ∈ functions := by simp [functions]
    exact parse_of_function hlower (parse_written operand fuel _ (length_of_function hlower h))
  | isNull operand =>
    have hform : (isNull operand).written =
        marks "(" ++ (operand.written ++ marks " IS NULL)") := by
      simp only [written, tokens, List.flatMap_append, written_plain, List.append_assoc]
    refine parse_of_bracket hform (parse_written operand fuel _ (length_of_bracket hform h)) ?_
    simp [parseTail, skip_marks]
  | isNotNull operand =>
    have hform : (isNotNull operand).written =
        marks "(" ++ (operand.written ++ marks " IS NOT NULL)") := by
      simp only [written, tokens, List.flatMap_append, written_plain, List.append_assoc]
    refine parse_of_bracket hform (parse_written operand fuel _ (length_of_bracket hform h)) ?_
    simp [parseTail, skip_marks, skip_other, differs]
  | isNullOr operand value =>
    have hform : (isNullOr operand value).written = marks "(" ++ (operand.written ++
        (marks " IS NULL OR " ++ (operand.written ++
          (marks " = " ++ .value value :: marks ")")))) := by
      simp [written, tokens, Token.written]
    have hlen := length_of_bracket hform h
    have hsecond := parse_written operand fuel (marks " = " ++ .value value :: (marks ")" ++ rest))
      hlen
    refine parse_of_bracket hform (parse_written operand fuel _ hlen) ?_
    simp only [List.append_assoc, List.cons_append]
    simp [parseTail, skip_marks, skip_other, differs, hsecond]
  | like operand pattern =>
    have hform : (like operand pattern).written = marks "(" ++ (operand.written ++
        (marks " LIKE " ++ .value (.text pattern) :: (marks " ESCAPE " ++
          .quoted .text "\\" :: marks ")"))) := by
      simp [written, tokens, Token.written]
    refine parse_of_bracket hform (parse_written operand fuel _ (length_of_bracket hform h)) ?_
    simp only [List.append_assoc, List.cons_append]
    simp [parseTail, skip_marks, skip_other, differs]
  | isIn operand values =>
    have hform : (isIn operand values).written =
        marks "(" ++ (operand.written ++ writtenValues values) := by
      simp [written, tokens, writtenValues, written_separated, Function.comp_def, Token.written]
    exact parse_of_bracket hform (parse_written operand fuel _ (length_of_bracket hform h))
      (parseTail_isIn _ values)
  | concat parts =>
    have hform : (concat parts).written = marks "CONCAT(" ++ (writtenList parts ++ marks ")") := by
      have hparts : parts.map written = parts.map fun t => t.tokens.flatMap Token.written := rfl
      simp [written, tokens, written_separated, tokensOfEach_eq, writtenList, hparts,
        Function.comp_def]
    rcases parts with _ | ⟨part, parts⟩
    · rfl
    · have hlen : (writtenList (part :: parts)).length + 1 < fuel := by
        rw [hform] at h
        simp [marks] at h
        omega
      have hparts := parseEach_written (part :: parts) (List.cons_ne_nil _ _) fuel rest hlen
      rw [hform, List.append_assoc, List.append_assoc]
      exact parse_concat (skip_writtenList part parts _) hparts

theorem parseEach_written (ts : List Term) (hne : ts ≠ []) (fuel : Nat) (rest : List Lexeme)
    (h : (writtenList ts).length + 1 < fuel) :
    parseEach fuel (writtenList ts ++ (marks ")" ++ rest)) = some (ts, rest) := by
  obtain ⟨fuel, rfl⟩ : ∃ k, fuel = k + 1 := ⟨fuel - 1, by omega⟩
  match ts with
  | [] => exact absurd rfl hne
  | [t] =>
    have hform : writtenList [t] = t.written := List.intercalate_singleton
    rw [hform] at h ⊢
    have ht := parse_written t fuel (marks ")" ++ rest) (by omega)
    simp [parseEach, ht, skip_marks]
  | t :: u :: ts =>
    rw [writtenList_cons_cons] at h ⊢
    have hlen : t.written.length < fuel ∧ (writtenList (u :: ts)).length + 1 < fuel := by
      simp [marks] at h
      omega
    have hrest := parseEach_written (u :: ts) (List.cons_ne_nil _ _) fuel rest hlen.2
    have ht := parse_written t fuel
      (marks ", " ++ (writtenList (u :: ts) ++ (marks ")" ++ rest))) hlen.1
    rw [List.append_assoc, List.append_assoc]
    simp [parseEach, ht, skip_marks, skip_other, differs, hrest]

end

end GridQuery.Sql.Term

namespace GridQuery.Sql

/-! ## What a text is worth -/

/-- What the text of a condition with its parameters is worth on a row. -/
noncomputable def worthOf (row : String → Value) (text : String) (parameters : List Value) :
    Option Value := do
  let ls := fill (← read text) parameters
  match Term.parse (ls.length + 1) ls with
  | some (t, []) => some (t.eval Value.compare row)
  | _ => none

/-- The text of a term and its parameters are worth what the term is. -/
theorem worthOf_tokens (row : String → Value) (t : Term) :
    worthOf row (String.ofList (textOf t.tokens)) (parametersOf t.tokens) =
      some (t.eval Value.compare row) := by
  have hfill : fill ((t.tokens.flatMap Token.written).map Lexeme.emptied) (parametersOf t.tokens) =
      t.written := fill_tokens t.tokens
  have hparse := Term.parse_written t (t.written.length + 1) [] (Nat.lt_succ_self _)
  rw [List.append_nil] at hparse
  unfold worthOf
  rw [read_textOf t.readable]
  simp only [Option.bind_eq_bind, Option.bind_some, hfill, hparse]

end GridQuery.Sql

namespace GridQuery.Expr

open GridQuery.Sql

/-- What an expression is worth on a row once it is compiled for a statement. -/
def statementValue (m : ColumnMappings) (row : String → Value) (e : Expr) : Value :=
  (e.toTerm m).eval Value.compare row

end GridQuery.Expr
