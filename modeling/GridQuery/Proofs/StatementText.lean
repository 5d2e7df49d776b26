-- The text of a statement and its parameters. Whatever characters stand in the
-- names of columns, worksheets and ranges, the text is read back as the query
-- that was written, and its placeholders are in step with the parameters.
import GridQuery.Proofs.InPlace
import GridQuery.Proofs.PushDown

namespace GridQuery

open GridQuery.Sql

/-! ## Every statement can be read -/

namespace Sql.Term

mutual

theorem readable (t : Term) : Readable t.tokens := by
  match t with
  | column _ => exact .singleton trivial
  | parameter _ => exact .singleton trivial
  | null => exact .singleton (by decide)
  | falsity => exact .singleton (by decide)
  | compare left op right =>
    have hsymbol : (Token.plain (" " ++ op.symbol ++ " ")).Clean := by cases op <;> decide
    exact .append_plain (.around (.plain_append (by decide) (readable left)) hsymbol
      (readable right)) (by decide)
  | and left right =>
    exact .append_plain (.around (.plain_append (by decide) (readable left)) (by decide)
      (readable right)) (by decide)
  | or left right =>
    exact .append_plain (.around (.plain_append (by decide) (readable left)) (by decide)
      (readable right)) (by decide)
  | not operand => exact .append_plain (.plain_append (by decide) (readable operand)) (by decide)
  | isNull operand =>
    exact .append_plain (.plain_append (by decide) (readable operand)) (by decide)
  | isNotNull operand =>
    exact .append_plain (.plain_append (by decide) (readable operand)) (by decide)
  | isNullOr operand value =>
    have hnull : Readable (plain "(" ++ operand.tokens ++ plain " IS NULL OR " ++ operand.tokens) :=
      .around (.plain_append (by decide) (readable operand)) (by decide) (readable operand)
    exact .append_plain (.around hnull (by decide) (.singleton trivial)) (by decide)
  | like operand pattern =>
    have hlike : Readable
        (plain "(" ++ operand.tokens ++ plain " LIKE " ++ [.parameter (.text pattern)]) :=
      .around (.plain_append (by decide) (readable operand)) (by decide) (.singleton trivial)
    exact .append_plain (.around hlike (by decide) (.singleton trivial)) (by decide)
  | isIn operand values =>
    have hvalues : Readable (separated ", " (values.map fun value => [.parameter value])) := by
      refine .separated (by decide) ?_
      intro ts hts
      obtain ⟨v, -, rfl⟩ := List.mem_map.mp hts
      exact .singleton trivial
    exact .append_plain (.around (.plain_append (by decide) (readable operand)) (by decide)
      hvalues) (by decide)
  | upper operand => exact .append_plain (.plain_append (by decide) (readable operand)) (by decide)
  | lower operand => exact .append_plain (.plain_append (by decide) (readable operand)) (by decide)
  | concat parts =>
    have hparts : Readable (separated ", " (tokensOfEach parts)) :=
      .separated (by decide) (readable_each parts)
    exact .append_plain (.plain_append (by decide) hparts) (by decide)

theorem readable_each (parts : List Term) : ∀ ts ∈ tokensOfEach parts, Readable ts := by
  match parts with
  | [] => exact nofun
  | part :: parts =>
    intro ts hts
    rcases List.mem_cons.mp hts with rfl | hrest
    · exact readable part
    · exact readable_each parts ts hrest

end

end Sql.Term

/-- The digits of a number are clean. -/
theorem isMark_of_mem_decimal {n : Nat} {c : Char} (h : c ∈ Text.decimal n) :
    Lexeme.isMark c = true := by
  have hdigit : ∀ d < 10, Lexeme.isMark (Char.ofNat (48 + d)) = true := by decide
  induction n using Text.decimal.induct with
  | case1 n hlt =>
    unfold Text.decimal at h
    simp only [hlt, if_true, List.mem_singleton] at h
    exact h ▸ hdigit (n % 10) (Nat.mod_lt _ (by decide))
  | case2 n hle ih =>
    unfold Text.decimal at h
    simp only [hle, if_false, List.mem_append, List.mem_singleton] at h
    rcases h with h | rfl
    · exact ih h
    · exact hdigit (n % 10 % 10) (Nat.mod_lt _ (by decide))

theorem clean_limit (n : Nat) : (Token.plain (" LIMIT " ++ Text.natText n)).Clean := by
  have hkeyword : (Token.plain " LIMIT ").Clean := by decide
  have hdigits : (Text.natText n).toList.all Lexeme.isMark = true := by
    simp only [Text.natText, String.toList_ofList, List.all_eq_true]
    exact fun c hc => isMark_of_mem_decimal hc
  refine ⟨by simp, ?_⟩
  rw [String.toList_append, List.all_append, hkeyword.2, hdigits]
  rfl

theorem Selection.readable (s : Selection) : Readable s.tokens := by
  cases s with
  | all => exact .singleton (by decide)
  | columns names =>
    refine .separated (by decide) ?_
    intro ts hts
    obtain ⟨name, -, rfl⟩ := List.mem_map.mp hts
    exact .singleton trivial
  | count => exact .singleton (by decide)
  | fold f term =>
    have hname : (Token.plain (f.symbol ++ "(")).Clean := by cases f <;> decide
    exact .append_plain (.plain_append hname term.readable) (by decide)

theorem OrderTerm.readable (o : OrderTerm) : Readable o.tokens := by
  have hend : (Token.plain (if o.descending then " DESC" else " ASC")).Clean := by
    split <;> decide
  exact .append_plain o.term.readable hend

namespace Clauses

/-- A clause that is left out, or begins with a keyword. -/
theorem readable_append_clause {α : Type} {ts : List Token} (ht : Readable ts)
    {keyword separator : String} (hk : (Token.plain keyword).Clean)
    (hs : (Token.plain separator).Clean) (f : α → List Token) (hf : ∀ x, Readable (f x))
    (xs : List α) :
    Readable
      (ts ++ if xs.isEmpty then [] else plain keyword ++ separated separator (xs.map f)) := by
  split
  · rwa [List.append_nil]
  · rw [← List.append_assoc]
    refine .around ht hk (.separated hs ?_)
    intro us hus
    obtain ⟨x, -, rfl⟩ := List.mem_map.mp hus
    exact hf x

/-- The tokens of every statement can be told apart. -/
theorem readable (c : Clauses) (table : TableRef) : Readable (c.tokens table) := by
  have hselect : (Token.plain (if c.distinct then "SELECT DISTINCT " else "SELECT ")).Clean := by
    split <;> decide
  have htable : Readable table.tokens := by
    unfold TableRef.tokens
    split
    · exact .singleton trivial
    · have hschema : Readable [.identifier headerlessSchema] := .singleton trivial
      have hdot : (Token.plain ".").Clean := by decide
      exact hschema.around hdot (.singleton trivial)
  have hfrom := (Readable.plain_append hselect c.selection.readable).around
    (show (Token.plain " FROM ").Clean by decide) htable
  have hfilters := readable_append_clause hfrom (show (Token.plain " WHERE ").Clean by decide)
    (show (Token.plain " AND ").Clean by decide) Term.tokens Term.readable c.filters
  have horder := readable_append_clause hfilters (show (Token.plain " ORDER BY ").Clean by decide)
    (show (Token.plain ", ").Clean by decide) OrderTerm.tokens OrderTerm.readable c.order
  unfold tokens limitTokens
  rcases c.limit with _ | n
  · rw [List.append_nil]
    exact horder
  · exact .append_plain horder (clean_limit _)

end Clauses

/-! ## Compiled expressions in place -/

namespace Expr

mutual

/-- The tokens of a compiled expression are the expression in place. -/
theorem written_toTerm (m : ColumnMappings) (e : Expr) :
    (e.toTerm m).tokens.flatMap Token.written = e.written m := by
  match e with
  | field _ => rfl
  | column _ => rfl
  | literal v =>
    cases v with
    | null => exact written_plain _
    | _ => rfl
  | compare left op right =>
    have hleft := written_toTerm m left
    have hright := written_toTerm m right
    unfold toTerm written compareTerm
    cases op <;> cases left.isNullLiteral <;> cases right.isNullLiteral <;>
      simp [CompareOp.nullTest?, Term.tokens, hleft, hright]
  | and left right =>
    simp [toTerm, written, Term.tokens, written_toTerm m left, written_toTerm m right]
  | or left right =>
    simp [toTerm, written, Term.tokens, written_toTerm m left, written_toTerm m right]
  | not operand => simp [toTerm, written, Term.tokens, written_toTerm m operand]
  | isNull operand => simp [toTerm, written, Term.tokens, written_toTerm m operand]
  | isNullOrEmpty operand =>
    simp [toTerm, written, Term.tokens, Token.written, written_toTerm m operand]
  | like operand test part =>
    simp [toTerm, written, Term.tokens, Token.written, written_toTerm m operand]
  | isIn operand values =>
    unfold toTerm written
    split
    · exact written_plain _
    · simp [Term.tokens, written_separated, Function.comp_def, Token.written,
        written_toTerm m operand]
  | upper operand => simp [toTerm, written, Term.tokens, written_toTerm m operand]
  | lower operand => simp [toTerm, written, Term.tokens, written_toTerm m operand]
  | concat parts =>
    simp [toTerm, written, Term.tokens, written_separated, written_toTerms m parts]

theorem written_toTerms (m : ColumnMappings) (es : List Expr) :
    (Term.tokensOfEach (toTerms m es)).map (·.flatMap Token.written) = writtenEach m es := by
  match es with
  | [] => rfl
  | e :: es =>
    simp [toTerms, writtenEach, Term.tokensOfEach, written_toTerm m e, written_toTerms m es]

end

end Expr

/-! ## Queries in place -/

namespace Aggregate

/-- The expression whose values are folded. -/
def argument? : Aggregate → Option Expr
  | count => none
  | longCount => none
  | sum e => some e
  | min e => some e
  | max e => some e

def written (m : ColumnMappings) : Aggregate → List Lexeme
  | count => marks "COUNT(*)"
  | longCount => marks "COUNT(*)"
  | sum e => marks "SUM(" ++ e.written m ++ marks ")"
  | min e => marks "MIN(" ++ e.written m ++ marks ")"
  | max e => marks "MAX(" ++ e.written m ++ marks ")"

end Aggregate

/-- The columns that a projection names, each once. -/
def Projection.columns (m : ColumnMappings) : Projection → List String
  | identity => []
  | fields names => firstUses (names.map m.resolve)
  | construct members => firstUses (members.flatMap fun member => member.2.columnUses m)

/-- A list of columns; an empty one stands for all columns. -/
def columnList : List String → List Lexeme
  | [] => marks "*"
  | name :: names => (marks ", ").intercalate ((name :: names).map fun n => [.quoted .name n])

/-- A clause of several parts, left out if there are none. -/
def clauseOf (keyword separator : String) (parts : List (List Lexeme)) : List Lexeme :=
  if parts.isEmpty then [] else marks keyword ++ (marks separator).intercalate parts

namespace TableRef

/-- The schema, if there is no header row, and the table. -/
def names (t : TableRef) : List String := (if t.header then [] else [headerlessSchema]) ++ [t.name]

def written (t : TableRef) : List Lexeme :=
  (marks ".").intercalate (t.names.map fun name => [.quoted .name name])

end TableRef

def SortKey.written (m : ColumnMappings) (key : SortKey) : List Lexeme :=
  key.expr.written m ++ marks (if key.descending then " DESC" else " ASC")

namespace QueryModel

/-- The sort keys of the statement. An aggregate needs none. -/
def sortKeys (q : QueryModel) : List SortKey :=
  if (aggregateOf q.operators).isSome then [] else q.orderBy

/-- The select list with its values in place. -/
def selectList (m : ColumnMappings) (q : QueryModel) : List Lexeme :=
  match aggregateOf q.operators with
  | some a => a.written m
  | none => columnList (q.projection.columns m)

/-- A query over a table, with its values in place. -/
def written (m : ColumnMappings) (q : QueryModel) (distinct : Bool) (limit : Option Nat)
    (table : TableRef) : List Lexeme :=
  marks (if distinct then "SELECT DISTINCT " else "SELECT ") ++ q.selectList m ++ marks " FROM " ++
    table.written ++ clauseOf " WHERE " " AND " (q.filters.map (Expr.written m)) ++
    clauseOf " ORDER BY " ", " (q.sortKeys.map (SortKey.written m)) ++
    limit.toList.flatMap fun n => marks (" LIMIT " ++ Text.natText n)

/-- The values on a walk over the select list, the filters and the sort keys. -/
def valuesMet (m : ColumnMappings) (q : QueryModel) : List Value :=
  ((aggregateOf q.operators).bind Aggregate.argument?).toList.flatMap (Expr.valuesMet m) ++
    q.filters.flatMap (Expr.valuesMet m) ++ q.sortKeys.flatMap fun key => key.expr.valuesMet m

/-- The columns of the select list. -/
def selectedColumns (m : ColumnMappings) (q : QueryModel) : List String :=
  match aggregateOf q.operators with
  | some a => a.argument?.toList.flatMap (Expr.columnsMet m)
  | none => q.projection.columns m

end QueryModel

/-! ## What a query in place holds -/

section

variable {α : Type} {f : Lexeme → List α} (h : Lexeme.Blind f)

include h

theorem flatMap_names {separator : String} (names : List String) :
    ((marks separator).intercalate (names.map fun n => [Lexeme.quoted .name n])).flatMap f =
      names.flatMap fun n => f (.quoted .name n) := by
  simp [flatMap_intercalate (h.marks _), List.flatMap_map]

theorem flatMap_columnList (names : List String) :
    (columnList names).flatMap f = names.flatMap fun n => f (.quoted .name n) := by
  rcases names with _ | ⟨name, names⟩
  · exact h.marks _
  · exact flatMap_names h _

theorem flatMap_clauseOf (keyword separator : String) (parts : List (List Lexeme)) :
    (clauseOf keyword separator parts).flatMap f = parts.flatMap (·.flatMap f) := by
  rcases parts with _ | ⟨part, parts⟩
  · rfl
  · simp [clauseOf, flatMap_intercalate (h.marks _), h.marks]

theorem flatMap_aggregate (m : ColumnMappings) (a : Aggregate) :
    (a.written m).flatMap f = a.argument?.toList.flatMap fun e => (e.written m).flatMap f := by
  cases a <;> simp [Aggregate.written, Aggregate.argument?, h.marks]

theorem flatMap_query (m : ColumnMappings) (q : QueryModel) (distinct : Bool)
    (limit : Option Nat) (table : TableRef) :
    (q.written m distinct limit table).flatMap f =
      (q.selectList m).flatMap f ++ (table.names.flatMap fun n => f (.quoted .name n)) ++
        (q.filters.flatMap fun e => (e.written m).flatMap f) ++
        q.sortKeys.flatMap fun key => (key.expr.written m).flatMap f := by
  have hlimit :
      (limit.toList.flatMap fun n => marks (" LIMIT " ++ Text.natText n)).flatMap f = [] := by
    cases limit <;> simp [h.marks]
  have horder : ∀ key : SortKey, (key.written m).flatMap f = (key.expr.written m).flatMap f := by
    intro key
    simp [SortKey.written, h.marks]
  simp only [QueryModel.written, TableRef.written, List.flatMap_append, h.marks, flatMap_names h,
    flatMap_clauseOf h, hlimit, List.flatMap_map, horder, List.nil_append, List.append_nil]

end

/-! ## Compiled queries in place -/

namespace Plan

theorem written_columns (names : List String) :
    (Selection.columns names).tokens.flatMap Token.written =
      (marks ", ").intercalate (names.map fun n => [.quoted .name n]) := by
  simp [Selection.tokens, written_separated, Function.comp_def, Token.written]

/-- The select list of a compiled query is that of the query in place. -/
theorem written_of_select {m : ColumnMappings} {q : QueryModel} {selection : Selection}
    {columns : List String}
    (h : select m (aggregateOf q.operators) q.projection = .ok (selection, columns)) :
    selection.tokens.flatMap Token.written = q.selectList m := by
  unfold QueryModel.selectList
  rcases ha : aggregateOf q.operators with _ | a
  · rw [ha] at h
    rcases hp : q.projection with _ | names | members
    · rw [hp] at h
      cases h
      exact written_plain _
    · rw [hp] at h
      rcases names with _ | ⟨name, names⟩
      · cases h
      · cases h
        exact written_columns _
    · rw [hp] at h
      cases h
      simp only [Projection.columns]
      generalize firstUses (members.flatMap fun member => member.2.columnUses m) = names
      rcases names with _ | ⟨name, names⟩
      · exact written_plain _
      · exact written_columns _
  · rw [ha] at h
    have hselection : selection = (ofAggregate m a).1 := by
      simp only [select, Except.ok.injEq] at h
      rw [h]
    rw [hselection]
    cases a with
    | count => exact written_plain _
    | longCount => exact written_plain _
    | _ =>
      simp [Aggregate.written, Selection.tokens, Fold.symbol, Expr.written_toTerm, ofAggregate]

/-- The clauses of a compiled query are those of the query. -/
theorem clauses_of_compile {m : ColumnMappings} {q : QueryModel} {plan : Plan}
    (h : compile q m = .ok plan) :
    plan.clauses.filters = q.filters.map (Expr.toTerm m) ∧
      plan.clauses.order = q.sortKeys.map (fun key => ⟨key.expr.toTerm m, key.descending⟩) ∧
      plan.clauses.selection.tokens.flatMap Token.written = q.selectList m := by
  obtain ⟨p, selection, selected, hp, hs, rfl⟩ := parts_of_compile h
  have ha := Pipeline.aggregate_of_compile hp
  rw [ha] at hs
  refine ⟨rfl, ?_, written_of_select hs⟩
  simp only [assemble, QueryModel.sortKeys, ha]

/-- The tokens of a compiled query are the query in place. -/
theorem written_of_compile {m : ColumnMappings} {q : QueryModel} {plan : Plan}
    (h : compile q m = .ok plan) (table : TableRef) :
    (plan.clauses.tokens table).flatMap Token.written =
      q.written m plan.clauses.distinct plan.clauses.limit table := by
  obtain ⟨hfilters, horder, hselect⟩ := clauses_of_compile h
  have hclause : ∀ {α : Type} (keyword separator : String) (g : α → List Token) (xs : List α),
      (if xs.isEmpty then [] else plain keyword ++ separated separator (xs.map g)).flatMap
        Token.written =
      clauseOf keyword separator (xs.map fun x => (g x).flatMap Token.written) := by
    intro α keyword separator g xs
    cases xs with
    | nil => rfl
    | cons x xs => simp [clauseOf, written_separated, Function.comp_def]
  have htable : table.tokens.flatMap Token.written = table.written := by
    unfold TableRef.tokens TableRef.written TableRef.names
    split
    · simp [Token.written]
    · simp [Token.written, List.intercalate_cons_cons, marks]
  have hlimit : plan.clauses.limitTokens.flatMap Token.written =
      plan.clauses.limit.toList.flatMap fun n => marks (" LIMIT " ++ Text.natText n) := by
    unfold Clauses.limitTokens
    rcases plan.clauses.limit with _ | n
    · rfl
    · simp
  have hwhere := hclause " WHERE " " AND " Term.tokens plan.clauses.filters
  have hkeys := hclause " ORDER BY " ", " OrderTerm.tokens plan.clauses.order
  simp only [Clauses.tokens, Clauses.filterTokens, Clauses.orderTokens, List.flatMap_append,
    written_plain, hselect, htable, hlimit, hwhere, hkeys, QueryModel.written]
  rw [hfilters, horder]
  simp only [List.map_map, Function.comp_def, Expr.written_toTerm, OrderTerm.tokens,
    List.flatMap_append, written_plain]
  rfl

end Plan

/-! ## Text and parameters in step -/

theorem Lexeme.blind_value : Lexeme.Blind fun l => l.value?.toList := ⟨fun _ => rfl, fun _ => rfl⟩

theorem Lexeme.blind_name : Lexeme.Blind fun l => l.name?.toList := ⟨fun _ => rfl, fun _ => rfl⟩

theorem Expr.values_written (m : ColumnMappings) (e : Expr) :
    ((e.written m).flatMap fun l => l.value?.toList) = e.valuesMet m :=
  flatMap_written Lexeme.blind_value m e

theorem Expr.names_written (m : ColumnMappings) (e : Expr) :
    ((e.written m).flatMap fun l => l.name?.toList) = e.columnsMet m :=
  flatMap_written Lexeme.blind_name m e

namespace QueryModel

theorem values_written (m : ColumnMappings) (q : QueryModel) (distinct : Bool)
    (limit : Option Nat) (table : TableRef) :
    (q.written m distinct limit table).filterMap Lexeme.value? = q.valuesMet m := by
  have hselect : ((q.selectList m).flatMap fun l => l.value?.toList) =
      ((aggregateOf q.operators).bind Aggregate.argument?).toList.flatMap (Expr.valuesMet m) := by
    unfold selectList
    rcases aggregateOf q.operators with _ | a
    · simp [flatMap_columnList Lexeme.blind_value]
    · simp [flatMap_aggregate Lexeme.blind_value, Expr.values_written]
  rw [List.filterMap_eq_flatMap_toList, flatMap_query Lexeme.blind_value, hselect]
  simp [valuesMet, Expr.values_written]

theorem names_selectList (m : ColumnMappings) (q : QueryModel) :
    ((q.selectList m).flatMap fun l => l.name?.toList) = q.selectedColumns m := by
  unfold selectList selectedColumns
  rcases aggregateOf q.operators with _ | a
  · simp [flatMap_columnList Lexeme.blind_name]
  · simp [flatMap_aggregate Lexeme.blind_name, Expr.names_written]

theorem names_written (m : ColumnMappings) (q : QueryModel) (distinct : Bool)
    (limit : Option Nat) (table : TableRef) :
    (q.written m distinct limit table).filterMap Lexeme.name? =
      q.selectedColumns m ++ table.names ++ q.filters.flatMap (Expr.columnsMet m) ++
        q.sortKeys.flatMap fun key => key.expr.columnsMet m := by
  rw [List.filterMap_eq_flatMap_toList, flatMap_query Lexeme.blind_name, names_selectList]
  simp [Expr.names_written]

end QueryModel

/-- The text of a compiled query is read back without an open quote, over every table and with
every name. It has as many placeholders as parameters, and with the parameters in their places
it is the query in place. The parameters are the values on a walk over the select list, the
filters and the sort keys; the quoted names are the selected columns, the table, and the
columns on a walk over the filters and the sort keys. -/
theorem statement_text_reads_back_as_the_query (q : QueryModel) (m : ColumnMappings) (plan : Plan)
    (h : Plan.compile q m = .ok plan) (table : TableRef) :
    ∃ lexemes,
      read (plan.render table).text = some lexemes ∧
      (lexemes.filter Lexeme.isPlaceholder).length = (plan.render table).parameters.length ∧
      fill lexemes (plan.render table).parameters =
        q.written m plan.clauses.distinct plan.clauses.limit table ∧
      (plan.render table).parameters = q.valuesMet m ∧
      lexemes.filterMap Lexeme.name? =
        q.selectedColumns m ++ table.names ++ q.filters.flatMap (Expr.columnsMet m) ++
          q.sortKeys.flatMap fun key => key.expr.columnsMet m := by
  have hwritten := Plan.written_of_compile h table
  have hread := read_textOf (plan.clauses.readable table)
  have hnone : ∀ l ∈ q.written m plan.clauses.distinct plan.clauses.limit table,
      l.isPlaceholder = false := by
    intro l hl
    rw [← hwritten] at hl
    exact not_placeholder_of_mem_written hl
  have hparameters : (plan.render table).parameters =
      (q.written m plan.clauses.distinct plan.clauses.limit table).filterMap Lexeme.value? := by
    rw [← hwritten, values_written]
    rfl
  rw [hwritten] at hread
  refine ⟨_, hread, ?_, ?_, ?_, ?_⟩
  · rw [length_placeholders_emptied hnone, hparameters]
  · rw [hparameters]
    exact fill_emptied hnone
  · rw [hparameters, q.values_written]
  · rw [names_emptied, q.names_written]

/-- A column and a worksheet whose names hold quotes, a placeholder and a condition. -/
theorem names_with_quotes_are_read_as_names :
    ∃ plan lexemes,
      Plan.compile
        { filters := [.compare (.column "a\" = ? OR 'b' = 'b") .eq (.literal (.text "c"))] } {} =
          .ok plan ∧
      read (plan.render { worksheet := "d\"?" }).text = some lexemes ∧
      (plan.render { worksheet := "d\"?" }).parameters = [.text "c"] ∧
      lexemes.filterMap Lexeme.name? = ["d\"?", "a\" = ? OR 'b' = 'b"] := by
  obtain ⟨lexemes, hread, -, -, hparameters, hnames⟩ :=
    statement_text_reads_back_as_the_query
      { filters := [.compare (.column "a\" = ? OR 'b' = 'b") .eq (.literal (.text "c"))] } {} _ rfl
      { worksheet := "d\"?" }
  exact ⟨_, lexemes, rfl, hread, hparameters, hnames⟩

end GridQuery
