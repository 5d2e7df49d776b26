-- The text of a statement does not depend on the values in a query. The
-- values are masked: every literal but null, every text that is looked for and
-- every element of a list. A query and its masked form compile alike, to
-- statements that differ in their parameters alone; so do any two queries that
-- are the same once they are masked.
import GridQuery.Proofs.PushDown

namespace GridQuery

open GridQuery.Sql

/-! ## Masking -/

namespace Expr

mutual

/-- The expression with one value in the place of all that could be given instead of its
literals, the texts that it looks for and the elements of its lists. Null stays null, and lists
keep their lengths. -/
def masked : Expr → Expr
  | field name => field name
  | column name => column name
  | literal .null => literal .null
  | literal _ => literal (.bool false)
  | compare left op right => compare (masked left) op (masked right)
  | and left right => and (masked left) (masked right)
  | or left right => or (masked left) (masked right)
  | not operand => not (masked operand)
  | isNull operand => isNull (masked operand)
  | isNullOrEmpty operand => isNullOrEmpty (masked operand)
  | like operand test _ => like (masked operand) test ""
  | isIn operand values => isIn (masked operand) (values.map fun _ => .null)
  | upper operand => upper (masked operand)
  | lower operand => lower (masked operand)
  | concat parts => concat (maskedEach parts)

def maskedEach : List Expr → List Expr
  | [] => []
  | part :: parts => masked part :: maskedEach parts

end

end Expr

def Aggregate.masked : Aggregate → Aggregate
  | count => count
  | longCount => longCount
  | sum e => sum e.masked
  | min e => min e.masked
  | max e => max e.masked

def Projection.masked : Projection → Projection
  | identity => identity
  | fields names => fields names
  | construct members => construct (members.map fun member => (member.1, member.2.masked))

def SortKey.masked (key : SortKey) : SortKey := { key with expr := key.expr.masked }

def ResultOp.masked : ResultOp → ResultOp
  | aggregate a => aggregate a.masked
  | op => op

/-- The query with its values masked, wherever they stand. -/
def QueryModel.masked (q : QueryModel) : QueryModel where
  filters := q.filters.map Expr.masked
  projection := q.projection.masked
  orderBy := q.orderBy.map SortKey.masked
  operators := q.operators.map ResultOp.masked

/-! ## Tokens -/

namespace Sql

/-- A placeholder without its value. -/
def Token.masked : Token → Token
  | parameter _ => parameter .null
  | t => t

theorem Token.chars_masked (t : Token) : t.masked.chars = t.chars := by
  cases t <;> rfl

theorem textOf_masked (ts : List Token) : textOf (ts.map Token.masked) = textOf ts := by
  unfold textOf
  rw [List.flatMap_map]
  simp only [Token.chars_masked]

theorem parametersOf_masked (ts : List Token) :
    parametersOf (ts.map Token.masked) = (parametersOf ts).map fun _ => .null := by
  unfold parametersOf
  rw [List.filterMap_map, List.map_filterMap]
  congr 1
  funext t
  cases t <;> rfl

@[simp] theorem masked_plain (text : String) : (plain text).map Token.masked = plain text := rfl

@[simp] theorem masked_separated (separator : String) (parts : List (List Token)) :
    (separated separator parts).map Token.masked =
      separated separator (parts.map (·.map Token.masked)) := by
  induction parts with
  | nil => rfl
  | cons ts parts ih =>
    rcases parts with _ | ⟨us, rest⟩
    · rfl
    · simp only [separated, List.map_cons, List.map_append] at ih ⊢
      rw [ih]
      rfl

end Sql

/-! ## Expressions -/

namespace Expr

/-- Whether a comparison is a test for null does not depend on the values. -/
theorem isNullLiteral_masked (e : Expr) : e.masked.isNullLiteral = e.isNullLiteral := by
  cases e with
  | literal v => cases v <;> rfl
  | _ => rfl

variable (m : ColumnMappings)

mutual

/-- The tokens of an expression differ from those of its masked form in their values alone. -/
theorem tokens_masked (e : Expr) :
    (e.masked.toTerm m).tokens.map Token.masked = (e.toTerm m).tokens.map Token.masked := by
  match e with
  | field _ => rfl
  | column _ => rfl
  | literal v => cases v <;> rfl
  | compare left op right =>
    have hleft := tokens_masked left
    have hright := tokens_masked right
    simp only [masked, toTerm, isNullLiteral_masked]
    unfold compareTerm
    split <;> simp [Term.tokens, hleft, hright]
  | and left right =>
    simp [masked, toTerm, Term.tokens, tokens_masked left, tokens_masked right]
  | or left right =>
    simp [masked, toTerm, Term.tokens, tokens_masked left, tokens_masked right]
  | not operand => simp [masked, toTerm, Term.tokens, tokens_masked operand]
  | isNull operand => simp [masked, toTerm, Term.tokens, tokens_masked operand]
  | isNullOrEmpty operand => simp [masked, toTerm, Term.tokens, tokens_masked operand]
  | like operand test part =>
    simp [masked, toTerm, Term.tokens, Token.masked, tokens_masked operand]
  | isIn operand values =>
    simp only [masked, toTerm, List.isEmpty_map]
    split
    · rfl
    · simp [Term.tokens, Token.masked, Function.comp_def, tokens_masked operand]
  | upper operand => simp [masked, toTerm, Term.tokens, tokens_masked operand]
  | lower operand => simp [masked, toTerm, Term.tokens, tokens_masked operand]
  | concat parts => simp [masked, toTerm, Term.tokens, tokens_maskedEach parts]

theorem tokens_maskedEach (es : List Expr) :
    (Term.tokensOfEach (toTerms m (maskedEach es))).map (·.map Token.masked) =
      (Term.tokensOfEach (toTerms m es)).map (·.map Token.masked) := by
  match es with
  | [] => rfl
  | e :: es =>
    simp [maskedEach, toTerms, Term.tokensOfEach, tokens_masked e, tokens_maskedEach es]

end

mutual

theorem columnUses_masked (e : Expr) : e.masked.columnUses m = e.columnUses m := by
  match e with
  | field _ | column _ => rfl
  | literal v => cases v <;> rfl
  | compare left _ right | and left right | or left right =>
    simp only [masked, columnUses, columnUses_masked left, columnUses_masked right]
  | not operand | isNull operand | isNullOrEmpty operand | like operand _ _ | isIn operand _
  | upper operand | lower operand => simp only [masked, columnUses, columnUses_masked operand]
  | concat parts => simp only [masked, columnUses, columnUsesAll_masked parts]

theorem columnUsesAll_masked (es : List Expr) :
    columnUsesAll m (maskedEach es) = columnUsesAll m es := by
  match es with
  | [] => rfl
  | e :: es =>
    simp only [maskedEach, columnUsesAll, columnUses_masked e, columnUsesAll_masked es]

end

end Expr

/-! ## Result operators -/

namespace Pipeline

/-- The pipeline with the values in its aggregate masked. -/
def masked (p : Pipeline) : Pipeline := { p with aggregate := p.aggregate.map Aggregate.masked }

section

variable (p : Pipeline)

@[simp] theorem masked_element : p.masked.element = p.element := rfl

@[simp] theorem masked_deferred : p.masked.deferred = p.deferred := rfl

@[simp] theorem masked_limit : p.masked.limit = p.limit := rfl

@[simp] theorem masked_distinct : p.masked.distinct = p.distinct := rfl

@[simp] theorem isSome_masked_aggregate : p.masked.aggregate.isSome = p.aggregate.isSome :=
  Option.isSome_map

end

theorem limitIfDirect_masked (p : Pipeline) (n : Nat) :
    p.masked.limitIfDirect n = (p.limitIfDirect n).masked := by
  unfold limitIfDirect
  rw [masked_deferred]
  split <;> rfl

theorem pushElement_masked (p : Pipeline) (op : ElementOp) :
    p.masked.pushElement op = (p.pushElement op).masked := by
  cases op with
  | first d => exact limitIfDirect_masked { p with element := some (.first d) } 1
  | last d => rfl
  | single d => exact limitIfDirect_masked { p with element := some (.single d) } 2

theorem pushTake_masked (p : Pipeline) (n : Nat) : p.masked.pushTake n = (p.pushTake n).masked := by
  unfold pushTake
  rw [masked_deferred]
  split <;> rfl

/-- An operator is accepted or refused whatever the values in it and before it are. -/
theorem push_masked (construct : Bool) (p : Pipeline) (op : ResultOp) :
    push construct p.masked op.masked = (push construct p op).map masked := by
  unfold push
  rw [isSome_masked_aggregate, masked_element]
  split
  · rfl
  · cases op with
    | aggregate a =>
      by_cases hlate : (!p.deferred.isEmpty || p.limit.isSome || p.distinct) = true
      · simp [ResultOp.masked, pushAggregate, hlate, Except.map]
      · by_cases hconstruct : construct = true
        · simp [ResultOp.masked, pushAggregate, hlate, hconstruct, Except.map]
        · simp [ResultOp.masked, pushAggregate, hlate, hconstruct, Except.map, masked]
    | element op => exact congrArg Except.ok (pushElement_masked p op)
    | skip count =>
      by_cases htake : p.deferred.take.isSome = true
      · simp [ResultOp.masked, pushSkip, htake, Except.map]
      · simp [ResultOp.masked, pushSkip, htake, Except.map, masked]
    | take count => exact congrArg Except.ok (pushTake_masked p count)
    | reverse =>
      by_cases hlate : (decide (p.deferred.skip > 0) || p.deferred.take.isSome) = true
      · simp [ResultOp.masked, pushReverse, hlate, Except.map]
      · simp [ResultOp.masked, pushReverse, hlate, Except.map, masked]
    | distinct =>
      by_cases hlate : (!p.deferred.isEmpty || p.limit.isSome) = true
      · simp [ResultOp.masked, pushDistinct, hlate, Except.map]
      · by_cases hconstruct : construct = true
        · simp [ResultOp.masked, pushDistinct, hlate, hconstruct, Except.map]
        · simp [ResultOp.masked, pushDistinct, hlate, hconstruct, Except.map, masked]

/-- So is a list of operators, one after another. -/
theorem compile_masked (construct : Bool) (ops : List ResultOp) :
    compile construct (ops.map ResultOp.masked) = (compile construct ops).map masked := by
  suffices hall : ∀ p : Pipeline, (ops.map ResultOp.masked).foldlM (push construct) p.masked =
      (ops.foldlM (push construct) p).map masked from hall {}
  induction ops with
  | nil =>
    intro p
    rfl
  | cons op ops ih =>
    intro p
    rw [List.map_cons, List.foldlM_cons, List.foldlM_cons, push_masked]
    rcases push construct p op with e | q
    · rfl
    · exact ih q

end Pipeline

/-! ## Clauses -/

namespace Clauses

/-- A clause of several parts, left out if there are none, with its values masked. -/
theorem masked_clause {α : Type} (keyword separator : String) (f : α → List Token) (xs : List α) :
    (if xs.isEmpty then [] else plain keyword ++ separated separator (xs.map f)).map Token.masked =
      let parts := xs.map fun x => (f x).map Token.masked
      if parts.isEmpty then [] else plain keyword ++ separated separator parts := by
  rcases xs with _ | ⟨x, xs⟩
  · rfl
  · simp only [List.isEmpty_cons, List.map_cons, Bool.false_eq_true, if_false, List.map_append,
      masked_plain, masked_separated, List.map_map]
    rfl

/-- Clauses whose parts have the same tokens without the values, have them over every table. -/
theorem masked_tokens_eq {c c' : Clauses} (hdistinct : c.distinct = c'.distinct)
    (hselection : c.selection.tokens.map Token.masked = c'.selection.tokens.map Token.masked)
    (hfilters : (c.filters.map fun t => t.tokens.map Token.masked) =
      c'.filters.map fun t => t.tokens.map Token.masked)
    (horder : (c.order.map fun o => o.tokens.map Token.masked) =
      c'.order.map fun o => o.tokens.map Token.masked)
    (hlimit : c.limit = c'.limit) (table : TableRef) :
    (c.tokens table).map Token.masked = (c'.tokens table).map Token.masked := by
  have hwhere : c.filterTokens.map Token.masked = c'.filterTokens.map Token.masked := by
    unfold filterTokens
    rw [masked_clause, masked_clause, hfilters]
  have hby : c.orderTokens.map Token.masked = c'.orderTokens.map Token.masked := by
    unfold orderTokens
    rw [masked_clause, masked_clause, horder]
  have hend : c.limitTokens = c'.limitTokens := by
    unfold limitTokens
    rw [hlimit]
  simp only [tokens, List.map_append, hdistinct, hselection, hwhere, hby, hend]

end Clauses

/-! ## Statements -/

/-- What is left of a statement when its parameters are only counted. -/
structure Outline where
  text : String
  columns : List String
  table : TableRef
  scalar : Bool
  parameterCount : Nat

def Statement.outline (s : Statement) : Outline where
  text := s.text
  columns := s.columns
  table := s.table
  scalar := s.scalar
  parameterCount := s.parameters.length

namespace Plan

/-- The outline of the statement over each table. -/
def outline (p : Plan) (table : TableRef) : Outline := (p.render table).outline

theorem outline_eq {p p' : Plan} (hcolumns : p.columns = p'.columns)
    (hscalar : p.aggregate.isSome = p'.aggregate.isSome)
    (htokens : ∀ table, (p.clauses.tokens table).map Token.masked =
      (p'.clauses.tokens table).map Token.masked) : p.outline = p'.outline := by
  funext table
  have htext : textOf (p.clauses.tokens table) = textOf (p'.clauses.tokens table) := by
    rw [← textOf_masked, htokens, textOf_masked]
  have hcount : (parametersOf (p.clauses.tokens table)).length =
      (parametersOf (p'.clauses.tokens table)).length := by
    have hlength := congrArg (fun ts => (parametersOf ts).length) (htokens table)
    simpa [parametersOf_masked] using hlength
  simp only [outline, Statement.outline, render, Statement.text, Statement.parameters,
    Statement.tokens, htext, hcount, hcolumns, hscalar]

/-- What a select list says without its values, and the columns that it uses. -/
def listed (s : Selection × List String) : List Token × List String :=
  (s.1.tokens.map Token.masked, s.2)

/-- The select list of a masked query differs from that of the query in its values alone. -/
theorem select_masked (m : ColumnMappings) (aggregate : Option Aggregate)
    (projection : Projection) :
    (select m (aggregate.map Aggregate.masked) projection.masked).map listed =
      (select m aggregate projection).map listed := by
  rcases aggregate with _ | a
  · cases projection with
    | identity => rfl
    | fields names => rfl
    | construct members =>
      have huses : (members.map fun member => (member.1, member.2.masked)).flatMap
          (fun member => member.2.columnUses m) =
          members.flatMap fun member => member.2.columnUses m := by
        rw [List.flatMap_map]
        simp only [Expr.columnUses_masked]
      simp only [Projection.masked, select, Option.map_none, ofMembers, huses]
  · cases a <;>
      simp [select, ofAggregate, Aggregate.masked, listed, Except.map, Selection.tokens,
        Expr.tokens_masked, Expr.columnUses_masked]

/-- The tokens of compiled expressions without the values are those of the masked ones. -/
theorem termTokens_masked (m : ColumnMappings) (es : List Expr) :
    (((es.map Expr.masked).map (Expr.toTerm m)).map fun t => t.tokens.map Token.masked) =
      (es.map (Expr.toTerm m)).map fun t => t.tokens.map Token.masked := by
  simp only [List.map_map, Function.comp_def, Expr.tokens_masked]

theorem orderTokens_masked (m : ColumnMappings) (keys : List SortKey) :
    (((keys.map SortKey.masked).map fun key =>
        OrderTerm.mk (key.expr.toTerm m) key.descending).map fun o => o.tokens.map Token.masked) =
      (keys.map fun key => OrderTerm.mk (key.expr.toTerm m) key.descending).map fun o =>
        o.tokens.map Token.masked := by
  simp only [List.map_map, Function.comp_def, SortKey.masked, OrderTerm.tokens, List.map_append,
    Expr.tokens_masked]

theorem listed_eq {s s' : Selection × List String} (h : listed s = listed s') :
    s.1.tokens.map Token.masked = s'.1.tokens.map Token.masked ∧ s.2 = s'.2 :=
  Prod.mk.inj h

/-- A query and its masked form are both refused, for the same reason, or compile to the same
outline. -/
theorem outline_compile_masked (q : QueryModel) (m : ColumnMappings) :
    (compile q.masked m).map outline = (compile q m).map outline := by
  have hconstruct : q.masked.projection.isConstruct = q.projection.isConstruct := by
    unfold QueryModel.masked
    cases q.projection <;> rfl
  have hoperators : q.masked.operators = q.operators.map ResultOp.masked := rfl
  unfold compile
  rw [hconstruct, hoperators, Pipeline.compile_masked]
  rcases Pipeline.compile q.projection.isConstruct q.operators with e | p
  · rfl
  -- both have the same pipeline, so the select list alone can still be refused
  have hselect := select_masked m p.aggregate q.projection
  have hprojection : q.masked.projection = q.projection.masked := rfl
  have haggregate : p.masked.aggregate = p.aggregate.map Aggregate.masked := rfl
  have hkeys : (if (p.aggregate.map Aggregate.masked).isSome then [] else q.masked.orderBy) =
      (if p.aggregate.isSome then [] else q.orderBy).map SortKey.masked := by
    rw [Option.isSome_map]
    split <;> rfl
  simp only [Except.map, bind, Except.bind, pure, Except.pure, hprojection, haggregate, hkeys]
  rcases hs : select m (p.aggregate.map Aggregate.masked) q.projection.masked with e | s <;>
    rcases hs' : select m p.aggregate q.projection with e' | s' <;>
    rw [hs, hs'] at hselect
  · rw [Except.error.inj hselect]
  · cases hselect
  · cases hselect
  · obtain ⟨htokens, hcolumns⟩ := listed_eq (Except.ok.inj hselect)
    refine congrArg Except.ok (outline_eq ?_ Option.isSome_map ?_)
    · simp only [hcolumns, QueryModel.masked, List.flatMap_map, SortKey.masked,
        Expr.columnUses_masked]
    · intro table
      apply Clauses.masked_tokens_eq
      · rfl
      · exact htokens
      · exact termTokens_masked m q.filters
      · exact orderTokens_masked m _
      · simp only [Option.isSome_map, Pipeline.masked_limit]

/-- Two queries that are the same once their values are masked are both refused, for the same
reason, or both compile. Their statements then have the same text, the same columns, the same
table, the same number of parameters, and are both scalar or both not. -/
theorem no_value_changes_the_statement_around_it {q q' : QueryModel}
    (hsame : q.masked = q'.masked) (m : ColumnMappings) :
    (∃ e, compile q m = .error e ∧ compile q' m = .error e) ∨
      ∃ plan plan', compile q m = .ok plan ∧ compile q' m = .ok plan' ∧
        ∀ table,
          (plan.render table).text = (plan'.render table).text ∧
          (plan.render table).columns = (plan'.render table).columns ∧
          (plan.render table).table = (plan'.render table).table ∧
          (plan.render table).scalar = (plan'.render table).scalar ∧
          (plan.render table).parameters.length = (plan'.render table).parameters.length := by
  have houtlines : (compile q m).map outline = (compile q' m).map outline := by
    rw [← outline_compile_masked q m, hsame, outline_compile_masked]
  rcases hq : compile q m with e | plan <;> rcases hq' : compile q' m with e' | plan' <;>
    rw [hq, hq'] at houtlines
  · left
    rw [Except.error.inj houtlines]
    exact ⟨e', rfl, rfl⟩
  · cases houtlines
  · cases houtlines
  · right
    refine ⟨plan, plan', rfl, rfl, ?_⟩
    intro table
    have houtline : (plan.render table).outline = (plan'.render table).outline :=
      congrFun (Except.ok.inj houtlines) table
    exact ⟨congrArg Outline.text houtline, congrArg Outline.columns houtline,
      congrArg Outline.table houtline, congrArg Outline.scalar houtline,
      congrArg Outline.parameterCount houtline⟩

/-- A search by name, by the beginning of the name of a head and among some ranks, with a note
in each result. -/
def searchQuery (name : Value) (beginning : String) (ranks : List Value) (note : Value) :
    QueryModel where
  filters := [.or (.compare (.field "Name") .eq (.literal name))
    (.and (.like (.column "Head") .startsWith beginning) (.isIn (.column "Rank") ranks))]
  projection := .construct [("Name", .upper (.field "Name")), ("Note", .literal note)]
  orderBy := [⟨.concat [.field "Name", .literal note], true⟩]
  operators := [.take 5]

/-- A name that reads like the rest of a statement is a parameter like any other. -/
theorem a_name_that_reads_like_a_condition_is_a_parameter :
    let q := searchQuery (.text "x' OR 'a' = 'a") "%\"" [.int 1, .null] (.bool true)
    let q' := searchQuery (.int 7) "" [.text "?", .int 2] (.text "")
    q.masked = q'.masked ∧
      ∃ plan plan', compile q {} = .ok plan ∧ compile q' {} = .ok plan' ∧
        ∀ table, (plan.render table).text = (plan'.render table).text ∧
          (plan.render table).parameters.length = (plan'.render table).parameters.length := by
  intro q q'
  have hsame : q.masked = q'.masked := rfl
  refine ⟨hsame, ?_⟩
  rcases no_value_changes_the_statement_around_it hsame {} with
    ⟨e, he, -⟩ | ⟨plan, plan', hplan, hplan', hall⟩
  · cases he
  · refine ⟨plan, plan', hplan, hplan', ?_⟩
    intro table
    obtain ⟨htext, -, -, -, hcount⟩ := hall table
    exact ⟨htext, hcount⟩

end Plan

end GridQuery
