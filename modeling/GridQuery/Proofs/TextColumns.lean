-- The columns in the text of a statement. A reader goes over what is found in
-- the text and tells a name from what stands before it: behind `FROM`, or behind
-- the dot of a schema, it belongs to the table, and anywhere else it is a column.
import GridQuery.Proofs.StatementText

namespace GridQuery

open GridQuery.Sql

/-! ## Telling columns from the table -/

/-- The characters right before a name, the last one first, tell that it belongs to the table: it
stands behind `FROM`, or behind the dot that follows a schema. -/
def namesTable (before : List Char) : Bool :=
  "FROM ".toList.reverse.isPrefixOf before || ['.'].isPrefixOf before

/-- The names in a text that do not belong to its table, with the characters before them. -/
def columnsAfter : List Char → List Lexeme → List String
  | _, [] => []
  | before, .mark c :: ls => columnsAfter (c :: before) ls
  | before, .quoted .name name :: ls =>
    if namesTable before then columnsAfter [] ls else name :: columnsAfter [] ls
  | _, _ :: ls => columnsAfter [] ls

/-- The names of columns in a text. -/
def columnsIn (ls : List Lexeme) : List String := columnsAfter [] ls

theorem columnsAfter_marks (cs before : List Char) (ls : List Lexeme) :
    columnsAfter before (cs.map .mark ++ ls) = columnsAfter (cs.reverse ++ before) ls := by
  induction cs generalizing before with
  | nil => rfl
  | cons c cs ih =>
    rw [List.map_cons, List.cons_append, columnsAfter, ih, List.reverse_cons, List.append_assoc]
    rfl

namespace Sql

/-- What a reader finds in the text of tokens. -/
def lexemesOf (ts : List Token) : List Lexeme := (ts.flatMap Token.written).map Lexeme.emptied

theorem lexemesOf_append (ts us : List Token) :
    lexemesOf (ts ++ us) = lexemesOf ts ++ lexemesOf us := by
  simp [lexemesOf]

theorem lexemesOf_plain (text : String) : lexemesOf (plain text) = text.toList.map .mark := by
  simp [lexemesOf, marks, Lexeme.emptied, Function.comp_def]

/-- Behind the token a name is the name of a column. -/
def Token.LeadsToColumn : Token → Prop
  | plain text => ∀ before, namesTable (text.toList.reverse ++ before) = false
  | _ => True

/-- Among the tokens and behind them names are names of columns. -/
def LeadToColumns (ts : List Token) : Prop := ∀ t ∈ ts, t.LeadsToColumn

namespace LeadToColumns

theorem nil : LeadToColumns [] := fun _ ht => nomatch ht

theorem singleton {t : Token} (h : t.LeadsToColumn) : LeadToColumns [t] :=
  List.forall_mem_singleton.mpr h

theorem append {ts us : List Token} (ht : LeadToColumns ts) (hu : LeadToColumns us) :
    LeadToColumns (ts ++ us) :=
  List.forall_mem_append.mpr ⟨ht, hu⟩

theorem plain_append {text : String} {ts : List Token} (h : (Token.plain text).LeadsToColumn)
    (ht : LeadToColumns ts) : LeadToColumns (plain text ++ ts) :=
  append (singleton h) ht

theorem append_plain {ts : List Token} {text : String} (ht : LeadToColumns ts)
    (h : (Token.plain text).LeadsToColumn) : LeadToColumns (ts ++ plain text) :=
  append ht (singleton h)

/-- Tokens before and behind a text. -/
theorem around {ts us : List Token} {text : String} (ht : LeadToColumns ts)
    (h : (Token.plain text).LeadsToColumn) (hu : LeadToColumns us) :
    LeadToColumns (ts ++ plain text ++ us) :=
  append (append_plain ht h) hu

theorem separated {separator : String} (h : (Token.plain separator).LeadsToColumn)
    {parts : List (List Token)} (hparts : ∀ ts ∈ parts, LeadToColumns ts) :
    LeadToColumns (separated separator parts) := by
  induction parts with
  | nil => exact nil
  | cons ts parts ih =>
    obtain ⟨hfirst, hrest⟩ := List.forall_mem_cons.mp hparts
    rcases parts with _ | ⟨us, rest⟩
    · exact hfirst
    · simpa [plain, Sql.separated] using around hfirst h (ih hrest)

/-- What a reader of columns makes of such tokens: their names, and it stays ready for columns. -/
theorem columnsAfter_tokens {ts : List Token} (h : LeadToColumns ts) (before : List Char)
    (hbefore : namesTable before = false) (ls : List Lexeme) :
    ∃ after, namesTable after = false ∧
      columnsAfter before (lexemesOf ts ++ ls) = identifiersOf ts ++ columnsAfter after ls := by
  induction ts generalizing before with
  | nil => exact ⟨before, hbefore, rfl⟩
  | cons t ts ih =>
    obtain ⟨hfirst, hrest⟩ := List.forall_mem_cons.mp h
    rw [← List.singleton_append, lexemesOf_append, List.append_assoc]
    -- text outside quotes adds to what stands before the next name, all else starts it anew
    cases t with
    | plain text =>
      obtain ⟨after, hafter, hread⟩ := ih hrest _ (hfirst before)
      refine ⟨after, hafter, ?_⟩
      rw [show [Token.plain text] = plain text from rfl, lexemesOf_plain, columnsAfter_marks, hread]
      rfl
    | identifier name =>
      obtain ⟨after, hafter, hread⟩ := ih hrest [] rfl
      refine ⟨after, hafter, ?_⟩
      change (if namesTable before then _ else name :: columnsAfter [] (lexemesOf ts ++ ls)) = _
      rw [hbefore, if_neg Bool.false_ne_true, hread]
      rfl
    | literal _ | parameter _ => exact ih hrest [] rfl

end LeadToColumns

namespace Term

mutual

theorem leadToColumns (t : Term) : LeadToColumns t.tokens := by
  match t with
  | column _ | parameter _ => exact .singleton trivial
  | null | falsity => exact .singleton fun _ => rfl
  | compare left op right =>
    have hsymbol : (Token.plain (" " ++ op.symbol ++ " ")).LeadsToColumn := by
      cases op <;> exact fun _ => rfl
    exact .append_plain (.around (.plain_append (fun _ => rfl) (leadToColumns left)) hsymbol
      (leadToColumns right)) fun _ => rfl
  | and left right | or left right =>
    exact .append_plain (.around (.plain_append (fun _ => rfl) (leadToColumns left))
      (fun _ => rfl) (leadToColumns right)) fun _ => rfl
  | not operand | isNull operand | isNotNull operand | upper operand | lower operand =>
    exact .append_plain (.plain_append (fun _ => rfl) (leadToColumns operand)) fun _ => rfl
  | isNullOr operand value =>
    have hnull : LeadToColumns
        (plain "(" ++ operand.tokens ++ plain " IS NULL OR " ++ operand.tokens) :=
      .around (.plain_append (fun _ => rfl) (leadToColumns operand)) (fun _ => rfl)
        (leadToColumns operand)
    exact .append_plain (.around hnull (fun _ => rfl) (.singleton trivial)) fun _ => rfl
  | like operand pattern =>
    have hlike : LeadToColumns
        (plain "(" ++ operand.tokens ++ plain " LIKE " ++ [.parameter (.text pattern)]) :=
      .around (.plain_append (fun _ => rfl) (leadToColumns operand)) (fun _ => rfl)
        (.singleton trivial)
    exact .append_plain (.around hlike (fun _ => rfl) (.singleton trivial)) fun _ => rfl
  | isIn operand values =>
    have hvalues : LeadToColumns (separated ", " (values.map fun value => [.parameter value])) := by
      refine .separated (fun _ => rfl) ?_
      intro ts hts
      obtain ⟨v, -, rfl⟩ := List.mem_map.mp hts
      exact .singleton trivial
    exact .append_plain (.around (.plain_append (fun _ => rfl) (leadToColumns operand))
      (fun _ => rfl) hvalues) fun _ => rfl
  | concat parts =>
    exact .append_plain (.plain_append (fun _ => rfl)
      (.separated (fun _ => rfl) (leadToColumns_each parts))) fun _ => rfl

theorem leadToColumns_each (parts : List Term) : ∀ ts ∈ tokensOfEach parts, LeadToColumns ts := by
  match parts with
  | [] => exact nofun
  | part :: parts =>
    exact List.forall_mem_cons.mpr ⟨leadToColumns part, leadToColumns_each parts⟩

end

end Term

/-! ### Names of tokens -/

theorem identifiersOf_append (ts us : List Token) :
    identifiersOf (ts ++ us) = identifiersOf ts ++ identifiersOf us :=
  List.filterMap_append

theorem identifiersOf_separated (separator : String) (parts : List (List Token)) :
    identifiersOf (separated separator parts) = parts.flatMap identifiersOf := by
  induction parts with
  | nil => rfl
  | cons ts parts ih =>
    rcases parts with _ | ⟨us, rest⟩
    · simp [separated]
    · change identifiersOf (ts ++ (plain separator ++ separated separator (us :: rest))) = _
      rw [identifiersOf_append, identifiersOf_append, ih]
      rfl

/-- The names among tokens are those of the tokens in place. -/
theorem identifiersOf_eq_written (ts : List Token) :
    identifiersOf ts = (ts.flatMap Token.written).flatMap fun l => l.name?.toList := by
  induction ts with
  | nil => rfl
  | cons t ts ih =>
    rw [List.flatMap_cons, List.flatMap_append, ← ih]
    cases t with
    | plain text =>
      have hnone : (Token.plain text).written.flatMap (fun l => l.name?.toList) = [] :=
        Lexeme.blind_name.marks text
      rw [hnone]
      rfl
    | identifier _ | literal _ | parameter _ => rfl

end Sql

open Sql

namespace Clauses

/-- A clause that is left out, or begins with a keyword. -/
theorem identifiersOf_clause {α : Type} (keyword separator : String) (f : α → List Token)
    (xs : List α) :
    identifiersOf (if xs.isEmpty then [] else plain keyword ++ separated separator (xs.map f)) =
      xs.flatMap fun x => identifiersOf (f x) := by
  rcases xs with _ | ⟨x, xs⟩
  · rfl
  · have hparts := identifiersOf_separated separator ((x :: xs).map f)
    rw [List.flatMap_map] at hparts
    exact hparts

theorem leadToColumns_clause {α : Type} {keyword separator : String}
    (hk : (Token.plain keyword).LeadsToColumn) (hs : (Token.plain separator).LeadsToColumn)
    {f : α → List Token} (hf : ∀ x, LeadToColumns (f x)) (xs : List α) :
    LeadToColumns
      (if xs.isEmpty then [] else plain keyword ++ separated separator (xs.map f)) := by
  split
  · exact .nil
  · refine .plain_append hk (.separated hs ?_)
    intro ts hts
    obtain ⟨x, -, rfl⟩ := List.mem_map.mp hts
    exact hf x

end Clauses

theorem Selection.leadToColumns (s : Selection) : LeadToColumns s.tokens := by
  cases s with
  | all | count => exact .singleton fun _ => rfl
  | columns names =>
    refine .separated (fun _ => rfl) ?_
    intro ts hts
    obtain ⟨name, -, rfl⟩ := List.mem_map.mp hts
    exact .singleton trivial
  | fold f term =>
    have hname : (Token.plain (f.symbol ++ "(")).LeadsToColumn := by
      cases f <;> exact fun _ => rfl
    exact .append_plain (.plain_append hname term.leadToColumns) fun _ => rfl

theorem OrderTerm.leadToColumns (o : OrderTerm) : LeadToColumns o.tokens := by
  have hend : (Token.plain (if o.descending then " DESC" else " ASC")).LeadsToColumn := by
    split <;> exact fun _ => rfl
  exact .append_plain o.term.leadToColumns hend

/-- The name of the table is left out, with its schema. -/
theorem columnsAfter_table (table : TableRef) (before : List Char) (ls : List Lexeme) :
    columnsAfter before (lexemesOf (plain " FROM " ++ table.tokens) ++ ls) =
      columnsAfter [] ls := by
  unfold TableRef.tokens
  split <;> rfl

theorem columnsAfter_limit (c : Clauses) (before : List Char) :
    columnsAfter before (lexemesOf c.limitTokens) = [] := by
  unfold Clauses.limitTokens
  rcases c.limit with _ | n
  · rfl
  · have hmarks := columnsAfter_marks (" LIMIT " ++ Text.natText n).toList before []
    rw [List.append_nil, ← lexemesOf_plain] at hmarks
    exact hmarks

/-- A reader finds in the text of clauses the columns of the select list, of the conditions and of
the sort keys. -/
theorem Clauses.columnsIn_tokens (c : Clauses) (table : TableRef) :
    columnsIn (lexemesOf (c.tokens table)) =
      identifiersOf c.selection.tokens ++ identifiersOf c.filterTokens ++
        identifiersOf c.orderTokens := by
  have hfront : LeadToColumns
      (plain (if c.distinct then "SELECT DISTINCT " else "SELECT ") ++ c.selection.tokens) := by
    refine .plain_append ?_ c.selection.leadToColumns
    split <;> exact fun _ => rfl
  have hback : LeadToColumns (c.filterTokens ++ c.orderTokens) :=
    .append (leadToColumns_clause (fun _ => rfl) (fun _ => rfl) Term.leadToColumns c.filters)
      (leadToColumns_clause (fun _ => rfl) (fun _ => rfl) OrderTerm.leadToColumns c.order)
  -- the name of the table is read between two parts that lead to columns only
  have htokens : c.tokens table =
      (plain (if c.distinct then "SELECT DISTINCT " else "SELECT ") ++ c.selection.tokens) ++
        ((plain " FROM " ++ table.tokens) ++
          ((c.filterTokens ++ c.orderTokens) ++ c.limitTokens)) := by
    simp only [tokens, List.append_assoc]
  obtain ⟨before, -, hselect⟩ := hfront.columnsAfter_tokens [] rfl
    (lexemesOf ((plain " FROM " ++ table.tokens) ++
      ((c.filterTokens ++ c.orderTokens) ++ c.limitTokens)))
  obtain ⟨after, -, hrest⟩ := hback.columnsAfter_tokens [] rfl
    (lexemesOf c.limitTokens)
  rw [columnsIn, htokens, lexemesOf_append, hselect, lexemesOf_append, columnsAfter_table,
    lexemesOf_append, hrest, columnsAfter_limit, List.append_nil, identifiersOf_append,
    identifiersOf_append, ← List.append_assoc]
  rfl

theorem Expr.identifiersOf_toTerm (m : ColumnMappings) (e : Expr) :
    identifiersOf (e.toTerm m).tokens = e.columnsMet m := by
  rw [identifiersOf_eq_written, written_toTerm, names_written]

/-- The columns that a walk over the select list, the filters and the sort keys meets. -/
def QueryModel.columnsMet (m : ColumnMappings) (q : QueryModel) : List String :=
  q.selectedColumns m ++ q.filters.flatMap (Expr.columnsMet m) ++
    q.sortKeys.flatMap fun key => key.expr.columnsMet m

/-- The columns in the text of a compiled query are those on a walk over the query. -/
theorem Plan.columnsIn_of_compile {m : ColumnMappings} {q : QueryModel} {plan : Plan}
    (h : compile q m = .ok plan) (table : TableRef) :
    columnsIn (lexemesOf (plan.clauses.tokens table)) = q.columnsMet m := by
  obtain ⟨hfilters, horder, hselect⟩ := clauses_of_compile h
  have hfront : identifiersOf plan.clauses.selection.tokens = q.selectedColumns m := by
    rw [identifiersOf_eq_written, hselect, q.names_selectList]
  have hwhere : identifiersOf plan.clauses.filterTokens =
      q.filters.flatMap (Expr.columnsMet m) := by
    rw [Clauses.filterTokens, Clauses.identifiersOf_clause, hfilters, List.flatMap_map]
    simp only [Expr.identifiersOf_toTerm]
  have hby : identifiersOf plan.clauses.orderTokens =
      q.sortKeys.flatMap fun key => key.expr.columnsMet m := by
    have hkey : ∀ o : OrderTerm, identifiersOf o.tokens = identifiersOf o.term.tokens := by
      intro o
      rw [OrderTerm.tokens, identifiersOf_append]
      exact List.append_nil _
    rw [Clauses.orderTokens, Clauses.identifiersOf_clause, horder, List.flatMap_map]
    simp only [hkey, Expr.identifiersOf_toTerm]
  rw [Clauses.columnsIn_tokens, hfront, hwhere, hby]
  rfl

end GridQuery
