-- Statements that fail, and what is said of them. An error of the engine is
-- laid at a worksheet or a column only if the source was asked and does not
-- have it, and the column is one that the query refers to; every other error
-- stays as it is.
import GridQuery.Proofs.HeldSequences
import GridQuery.Proofs.LikePatterns
import GridQuery.Proofs.Predicates
import GridQuery.Proofs.ReferencedColumns
import GridQuery.Script

namespace GridQuery

/-! ## References of a query -/

namespace Expr

/-- The column that a reference is resolved to. -/
def columnAt? (m : ColumnMappings) : Expr → Option String
  | field name => some (m.resolve name)
  | column name => some name
  | _ => none

variable {m : ColumnMappings} {name : String}

theorem columnUsesAll_eq_flatMap (es : List Expr) :
    columnUsesAll m es = es.flatMap (columnUses m) := by
  induction es with
  | nil => rfl
  | cons e es ih => rw [columnUsesAll, List.flatMap_cons, ih]

theorem columnUses_eq (e : Expr) :
    e.columnUses m = (e.columnAt? m).toList ++ e.operands.flatMap (columnUses m) := by
  cases e with
  | concat parts => exact columnUsesAll_eq_flatMap parts
  | _ => simp [columnUses, columnAt?, operands]

/-- An expression uses the columns of its references, however deep they stand. -/
theorem mem_columnUses_iff {e : Expr} :
    name ∈ e.columnUses m ↔ ∃ part, PartOf part e ∧ part.columnAt? m = some name := by
  constructor
  · induction e using operandsInduction with
    | h e ih =>
      intro h
      rw [columnUses_eq, List.mem_append] at h
      rcases h with htop | hunder
      · exact ⟨e, .itself, Option.mem_toList.mp htop⟩
      · obtain ⟨operand, hoperand, huses⟩ := List.mem_flatMap.mp hunder
        obtain ⟨part, hpart, hcolumn⟩ := ih operand hoperand huses
        exact ⟨part, .under hoperand hpart, hcolumn⟩
  · rintro ⟨part, hpart, hcolumn⟩
    induction hpart with
    | itself =>
      rw [columnUses_eq, List.mem_append]
      exact .inl (Option.mem_toList.mpr hcolumn)
    | under hoperand _ ih =>
      rw [columnUses_eq, List.mem_append]
      exact .inr (List.mem_flatMap.mpr ⟨_, hoperand, ih⟩)

end Expr

namespace QueryModel

/-- The fields that a statement selects. An aggregate selects none. -/
def selectedFields (q : QueryModel) : List String :=
  match aggregateOf q.operators, q.projection with
  | none, .fields names => names
  | _, _ => []

/-- The expressions that a statement selects by: the argument of an aggregate or the members of
constructed rows. -/
def selectedExpressions (q : QueryModel) : List Expr :=
  match aggregateOf q.operators, q.projection with
  | some a, _ => a.argument?.toList
  | none, .construct members => members.map Prod.snd
  | none, _ => []

/-- The expressions that a statement selects by, its filters and its sort keys. -/
def expressions (q : QueryModel) : List Expr :=
  q.selectedExpressions ++ q.filters ++ q.sortKeys.map SortKey.expr

/-- The query resolves a reference to the column: a field that it selects, or a field or a column
that stands somewhere in its expressions. -/
inductive RefersTo (m : ColumnMappings) (q : QueryModel) (column : String) : Prop
  | selected {name : String} : name ∈ q.selectedFields → m.resolve name = column →
      RefersTo m q column
  | within {e part : Expr} : e ∈ q.expressions → Expr.PartOf part e →
      part.columnAt? m = some column → RefersTo m q column

variable {m : ColumnMappings} {q : QueryModel} {column : String}

theorem refersTo_iff :
    q.RefersTo m column ↔ column ∈ q.selectedFields.map m.resolve ∨
      column ∈ q.expressions.flatMap (Expr.columnUses m) := by
  simp only [List.mem_map, List.mem_flatMap, Expr.mem_columnUses_iff]
  constructor
  · rintro (⟨hname, hcolumn⟩ | ⟨he, hpart, hcolumn⟩)
    · exact .inl ⟨_, hname, hcolumn⟩
    · exact .inr ⟨_, he, _, hpart, hcolumn⟩
  · rintro (⟨name, hname, hcolumn⟩ | ⟨e, he, part, hpart, hcolumn⟩)
    · exact .selected hname hcolumn
    · exact .within he hpart hcolumn

/-- The references of a query are those of its expressions and the fields that it selects. -/
theorem mem_references_iff :
    column ∈ (q.references m).map Reference.column ↔ q.RefersTo m column := by
  rw [refersTo_iff]
  unfold references selectReferences selectedFields expressions selectedExpressions
  simp only [List.map_append, List.map_flatMap, Expr.columns_references, List.flatMap_append,
    List.flatMap_map, List.mem_append]
  rcases aggregateOf q.operators with _ | a
  · rcases q.projection with _ | names | members
    · simp [Projection.columns]
    · simp [Projection.columns, mem_firstUses, or_assoc]
    · simp only [Projection.columns, List.map_map, Function.comp_def, List.map_id', mem_firstUses,
        List.map_nil, List.not_mem_nil, false_or, List.flatMap_map]
  · simp [List.map_flatMap, Expr.columns_references]

end QueryModel

/-- A statement lists the columns that its query refers to. -/
theorem Plan.mem_columns_iff {m : ColumnMappings} {q : QueryModel} {plan : Plan}
    (h : Plan.compile q m = .ok plan) {column : String} :
    column ∈ plan.columns ↔ q.RefersTo m column := by
  rw [Plan.columns_of_compile h, mem_firstUses]
  exact QueryModel.mem_references_iff

/-! ## What is missing -/

/-- The first of some names that is not available. -/
def FirstMissing (names available : List String) (missing : String) : Prop :=
  missing ∉ available ∧
    ∃ before after, names = before ++ missing :: after ∧ ∀ name ∈ before, name ∈ available

theorem FirstMissing.not_available {names available : List String} {missing : String}
    (h : FirstMissing names available missing) : ¬ ∀ name ∈ names, name ∈ available := by
  obtain ⟨hmissing, before, after, rfl, -⟩ := h
  intro hall
  exact hmissing (hall missing (by simp))

theorem missingColumn?_eq_some_iff {columns available : List String} {column : String} :
    missingColumn? columns available = some column ↔ FirstMissing columns available column := by
  unfold missingColumn? FirstMissing
  rw [List.find?_eq_some_iff_append]
  simp

theorem missingColumn?_eq_none_iff {columns available : List String} :
    missingColumn? columns available = none ↔ ∀ column ∈ columns, column ∈ available := by
  unfold missingColumn?
  rw [List.find?_eq_none]
  simp

namespace Statement

/-- The text names the worksheet of the statement. -/
def NamesWorksheet (st : Statement) (text : String) : Prop :=
  st.table.worksheet ≠ "" ∧ st.table.worksheet.toList <:+: text.toList

instance (st : Statement) (text : String) : Decidable (st.NamesWorksheet text) :=
  inferInstanceAs (Decidable (_ ∧ _))

theorem namesWorksheet_iff {st : Statement} {text : String} :
    (st.table.worksheet != "" && Text.contains text st.table.worksheet) = true ↔
      st.NamesWorksheet text := by
  rw [Bool.and_eq_true, bne_iff_ne, Text.contains, Text.occursIn_iff_infix]
  rfl

/-- The text names the worksheet of the statement, and the worksheets that were listed do not
have it. -/
structure LacksWorksheet (st : Statement) (text : String) (listed : Except Error (List String))
    (available : List String) : Prop where
  named : st.NamesWorksheet text
  listed : listed = .ok available
  missing : st.table.worksheet ∉ available

end Statement

/-! ## Diagnosis -/

/-- What a source answers when it is asked for its worksheets and for the columns of a table. -/
structure Findings where
  worksheets : Except Error (List String)
  columns : Except Error (List String)

/-- What is found out about a statement that failed with a text. The worksheets are asked for
before the columns, and only if the text names the worksheet of the statement. -/
def Backend.findings {σ : Type} (b : Backend σ) (n : Nat) (st : Statement) (text : String)
    (state : σ) : Findings :=
  let names := b.answer n .worksheetNames state
  { worksheets := names.answer
    columns := (b.answer n (.columnNames st.table)
      (if st.NamesWorksheet text then names.state else state)).answer }

/-- What is said of an error of the engine with a text, by what was found out. -/
inductive Explains (st : Statement) (source text : String) (f : Findings) : Error → Prop
  | worksheet {available : List String} : st.LacksWorksheet text f.worksheets available →
      Explains st source text f
        (.schema (.worksheetNotFound st.table.worksheet source available text))
  | column {available : List String} {column : String} :
      (∀ names, ¬ st.LacksWorksheet text f.worksheets names) → f.columns = .ok available →
      FirstMissing st.columns available column →
      Explains st source text f (.schema (.invalidColumn column available))
  | itself : (∀ names, ¬ st.LacksWorksheet text f.worksheets names) →
      (∀ available, f.columns = .ok available → ∀ column ∈ st.columns, column ∈ available) →
      Explains st source text f (.engine text)

namespace Explains

variable {st : Statement} {source text : String} {f : Findings} {returned : Error}

/-- A worksheet is blamed exactly if it is lacking. -/
theorem worksheetNotFound_iff (h : Explains st source text f returned)
    {worksheet origin said : String} {available : List String} :
    returned = .schema (.worksheetNotFound worksheet origin available said) ↔
      worksheet = st.table.worksheet ∧ origin = source ∧ said = text ∧
        st.LacksWorksheet text f.worksheets available := by
  constructor
  · intro hreturned
    cases h with
    | worksheet hlacks =>
      cases hreturned
      exact ⟨rfl, rfl, rfl, hlacks⟩
    | column _ _ _ => cases hreturned
    | itself _ _ => cases hreturned
  · rintro ⟨rfl, rfl, rfl, hlacks⟩
    cases h with
    | worksheet hlacks' =>
      cases hlacks.listed.symm.trans hlacks'.listed
      rfl
    | column hno _ _ => exact absurd hlacks (hno _)
    | itself hno _ => exact absurd hlacks (hno _)

/-- A column is blamed exactly if no worksheet is lacking and the column is the first one that is
missing. -/
theorem invalidColumn_iff (h : Explains st source text f returned) {column : String}
    {available : List String} :
    returned = .schema (.invalidColumn column available) ↔
      (∀ names, ¬ st.LacksWorksheet text f.worksheets names) ∧ f.columns = .ok available ∧
        FirstMissing st.columns available column := by
  constructor
  · intro hreturned
    cases h with
    | worksheet _ => cases hreturned
    | column hno hlisted hfirst =>
      cases hreturned
      exact ⟨hno, hlisted, hfirst⟩
    | itself _ _ => cases hreturned
  · rintro ⟨hno, hlisted, hfirst⟩
    cases h with
    | worksheet hlacks => exact absurd hlacks (hno _)
    | column _ hlisted' hfirst' =>
      cases hlisted.symm.trans hlisted'
      cases (missingColumn?_eq_some_iff.mpr hfirst).symm.trans
        (missingColumn?_eq_some_iff.mpr hfirst')
      rfl
    | itself _ hall => exact absurd (hall available hlisted) hfirst.not_available

/-- Where nothing is missing, the error stays as it is. -/
theorem eq_engine (h : Explains st source text f returned)
    (hno : ∀ names, ¬ st.LacksWorksheet text f.worksheets names)
    (hall : ∀ available, f.columns = .ok available → ∀ column ∈ st.columns, column ∈ available) :
    returned = .engine text := by
  cases h with
  | worksheet hlacks => exact absurd hlacks (hno _)
  | column _ hlisted hfirst => exact absurd (hall _ hlisted) hfirst.not_available
  | itself _ _ => rfl

end Explains

namespace SessionM

variable {σ : Type} {b : Backend σ} {l : Lease} {a : QueryArguments} {st : Statement}
  {text : String}

theorem runOn_explainWorksheet_of_lacking {s : Session σ} {available : List String}
    (h : st.LacksWorksheet text (b.answer l.connection .worksheetNames s.state).answer available) :
    (explainWorksheet b l a st text).runOn s =
      (.ok (some (.schema (.worksheetNotFound st.table.worksheet a.source available text))),
        s.asked b l.connection .worksheetNames) := by
  have hnamed := Statement.namesWorksheet_iff.mpr h.named
  have hblamed : blamesWorksheet st.table.worksheet text available = true := by
    rw [blamesWorksheet, hnamed]
    simpa using h.missing
  unfold explainWorksheet
  rw [if_pos hnamed, runOn_bind_attempt_ask, h.listed]
  simp only [hblamed]
  rfl

theorem runOn_explainWorksheet_of_not_lacking {s : Session σ}
    (h : ∀ available,
      ¬ st.LacksWorksheet text (b.answer l.connection .worksheetNames s.state).answer available) :
    (explainWorksheet b l a st text).runOn s =
      (.ok none, if st.NamesWorksheet text then s.asked b l.connection .worksheetNames else s) := by
  unfold explainWorksheet
  by_cases hnamed : st.NamesWorksheet text
  · rw [if_pos (Statement.namesWorksheet_iff.mpr hnamed), if_pos hnamed, runOn_bind_attempt_ask]
    rcases hlisted : (b.answer l.connection .worksheetNames s.state).answer with e | available
    · rfl
    · have hpresent : st.table.worksheet ∈ available := by
        by_contra hmissing
        exact h available ⟨hnamed, hlisted, hmissing⟩
      have hblamed : blamesWorksheet st.table.worksheet text available = false := by
        simp [blamesWorksheet, hpresent]
      simp only [hblamed]
      rfl
  · rw [if_neg (mt Statement.namesWorksheet_iff.mp hnamed), if_neg hnamed]
    rfl

theorem runOn_explainColumn (s : Session σ) :
    (explainColumn b l st).runOn s =
      (.ok (match (b.answer l.connection (.columnNames st.table) s.state).answer with
        | .error _ => none
        | .ok available => (missingColumn? st.columns available).map fun column =>
          .schema (.invalidColumn column available)),
        s.asked b l.connection (.columnNames st.table)) := by
  unfold explainColumn
  rw [runOn_bind_attempt_ask]
  rcases (b.answer l.connection (.columnNames st.table) s.state).answer with e | available <;> rfl

/-- An error of the engine is explained by what the source answers. -/
theorem runOn_diagnose (b : Backend σ) (l : Lease) (a : QueryArguments) (st : Statement)
    (text : String) (s : Session σ) :
    ∃ returned t, (diagnose b l a st (.engine text)).runOn s = (.ok returned, t) ∧
      Explains st a.source text (b.findings l.connection st text s.state) returned := by
  unfold diagnose
  by_cases hlacks : ∃ available,
      st.LacksWorksheet text (b.answer l.connection .worksheetNames s.state).answer available
  · obtain ⟨available, hlacks⟩ := hlacks
    exact ⟨_, _, runOn_bind _ (runOn_explainWorksheet_of_lacking hlacks), .worksheet hlacks⟩
  · have hno := not_exists.mp hlacks
    simp only
    rw [runOn_bind _ (runOn_explainWorksheet_of_not_lacking hno)]
    generalize hafter : (if st.NamesWorksheet text then s.asked b l.connection .worksheetNames
      else s) = after
    rw [runOn_bind _ (runOn_explainColumn after)]
    have hcolumns : (b.findings l.connection st text s.state).columns =
        (b.answer l.connection (.columnNames st.table) after.state).answer := by
      rw [← hafter]
      unfold Backend.findings
      split <;> rfl
    refine ⟨_, _, rfl, ?_⟩
    rw [← hcolumns]
    rcases hlisted : (b.findings l.connection st text s.state).columns with e | available
    · refine .itself hno ?_
      rw [hlisted]
      exact fun _ h => nomatch h
    · rcases hfirst : missingColumn? st.columns available with _ | column
      · simp only [hfirst]
        refine .itself hno ?_
        rw [hlisted]
        rintro _ ⟨⟩
        exact missingColumn?_eq_none_iff.mp hfirst
      · simp only [hfirst]
        exact .column hno hlisted (missingColumn?_eq_some_iff.mp hfirst)

/-- Errors of other kinds are returned as they are. -/
theorem runOn_diagnose_of_not_engine {cause : Error} (h : ∀ text, cause ≠ .engine text)
    (s : Session σ) : (diagnose b l a st cause).runOn s = (.ok cause, s) := by
  cases cause with
  | engine text => exact absurd rfl (h text)
  | _ => rfl

/-- A statement that is refused fails with what is said of the refusal. -/
theorem runOn_runStatement_of_refused {s t : Session σ} {cause returned : Error}
    (hrefused : (b.answer l.connection (.execute st) s.state).answer = .error cause)
    (hsaid : (diagnose b l a st cause).runOn (s.asked b l.connection (.execute st)) =
      (.ok returned, t)) :
    (runStatement b l a st).runOn s = (.error returned, t) := by
  unfold runStatement
  rw [runOn_bind_attempt_ask, hrefused]
  exact runOn_bind _ hsaid

end SessionM

/-! ## Queries whose statement is refused -/

/-- The statement of a prepared query is its plan over the table that was found. -/
theorem SessionM.statement_of_prepare {σ : Type} {b : Backend σ} {r : Registry} {q : Query}
    {s t : Session σ} {p : Prepared} (h : (prepare b r q).runOn s = (.ok p, t)) :
    ∃ table, p.statement = p.plan.render table := by
  obtain ⟨_, _, _, h⟩ := of_runOn_bind h
  obtain ⟨_, _, _, h⟩ := of_runOn_bind h
  obtain ⟨table, _, _, h⟩ := of_runOn_bind h
  cases h
  exact ⟨table, rfl⟩

/-- A query that is prepared, and whose statement is then refused. -/
structure Refusal {σ : Type} (b : Backend σ) (r : Registry) (q : Query) (s : Session σ) where
  prepared : Prepared
  session : Session σ
  cause : Error
  prepares : (SessionM.prepare b r q).runOn s = (.ok prepared, session)
  refused : (b.answer prepared.lease.connection (.execute prepared.statement)
    session.state).answer = .error cause

namespace Refusal

open SessionM

variable {σ : Type} {b : Backend σ} {r : Registry} {q : Query} {s : Session σ}
  (f : Refusal b r q s)

/-- The statement that was refused. -/
def statement : Statement := f.prepared.statement

/-- What is found out after the refusal. -/
def findings (text : String) : Findings :=
  b.findings f.prepared.lease.connection f.statement text
    (b.answer f.prepared.lease.connection (.execute f.statement) f.session.state).state

/-- The query fails with what is said of the refusal of its statement. -/
theorem runOn_execute :
    ∃ returned t, (execute b r q).runOn s = (.error returned, t) ∧
      ((∀ text, f.cause ≠ .engine text) → returned = f.cause) ∧
      ∀ text, f.cause = .engine text →
        Explains f.statement q.arguments.source text (f.findings text) returned := by
  let reported : Session σ :=
    { f.session with log := f.session.log ++ [.executing f.statement.display] }
  let asked := reported.asked b f.prepared.lease.connection (.execute f.statement)
  have hfails {returned : Error} {t : Session σ}
      (hsaid : (diagnose b f.prepared.lease q.arguments f.statement f.cause).runOn asked =
        (.ok returned, t)) : ∃ u, (execute b r q).runOn s = (.error returned, u) := by
    obtain ⟨u, hu⟩ := runOn_release b f.prepared.lease t
    have hreport : (report (.executing f.statement.display)).runOn f.session =
        (.ok (), reported) := rfl
    have hrun : (runPrepared b r q.arguments f.prepared).runOn f.session =
        (.error returned, t) := by
      unfold runPrepared
      exact (runOn_bind _ hreport).trans
        (runOn_bind_error _ (runOn_runStatement_of_refused f.refused hsaid))
    refine ⟨u, ?_⟩
    unfold execute
    exact (runOn_bind _ f.prepares).trans (runOn_guarding_error hrun hu)
  by_cases hengine : ∃ text, f.cause = .engine text
  · obtain ⟨text, hcause⟩ := hengine
    obtain ⟨returned, t, hsaid, hexplains⟩ :=
      runOn_diagnose b f.prepared.lease q.arguments f.statement text asked
    rw [← hcause] at hsaid
    obtain ⟨u, hu⟩ := hfails hsaid
    refine ⟨returned, u, hu, fun hother => absurd hcause (hother text), ?_⟩
    intro text' hcause'
    cases hcause.symm.trans hcause'
    exact hexplains
  · have hother := not_exists.mp hengine
    obtain ⟨u, hu⟩ := hfails (runOn_diagnose_of_not_engine hother asked)
    exact ⟨f.cause, u, hu, fun _ => rfl, fun text hcause => absurd hcause (hother text)⟩

/-- The statement lists the columns that its query refers to. -/
theorem mem_columns_iff {column : String} :
    column ∈ f.statement.columns ↔ q.model.RefersTo r.mappings column := by
  obtain ⟨table, hstatement⟩ := statement_of_prepare f.prepares
  rw [statement, hstatement]
  exact Plan.mem_columns_iff (plan_of_prepare f.prepares)

end Refusal

/-- A query whose statement is refused fails. Errors that are not the engine's are returned as
they are. An error of the engine becomes a missing worksheet exactly if its text has the name of
the statement's worksheet and the source lists other worksheets only; else a missing column exactly
if the table's columns are given and lack a column of the statement, which is then the first such
column; else it is returned as it is. The columns of the statement are those that the query
refers to. -/
theorem a_failed_statement_is_blamed_on_nothing_that_is_there {σ : Type} (b : Backend σ)
    (w : World σ) (a : Action) (q : Query) (ha : a.ran? = some q)
    (f : Refusal b w.factory.registry q w.factory.session) :
    ∃ returned t, (w.work b a).runOn w.factory.session = (.error returned, t) ∧
      ((∀ text, f.cause ≠ .engine text) → returned = f.cause) ∧
      (∀ text, f.cause = .engine text →
        let lacking := f.statement.LacksWorksheet text (f.findings text).worksheets
        let columns := (f.findings text).columns
        (∀ worksheet source available said,
          returned = .schema (.worksheetNotFound worksheet source available said) ↔
            worksheet = f.statement.table.worksheet ∧ source = q.arguments.source ∧
              said = text ∧ lacking available) ∧
        (∀ column available,
          returned = .schema (.invalidColumn column available) ↔
            (∀ names, ¬ lacking names) ∧ columns = .ok available ∧
              FirstMissing f.statement.columns available column) ∧
        ((∀ names, ¬ lacking names) →
          (∀ available, columns = .ok available →
            ∀ column ∈ f.statement.columns, column ∈ available) →
          returned = f.cause)) ∧
      ∀ column, column ∈ f.statement.columns ↔
        q.model.RefersTo w.factory.registry.mappings column := by
  obtain ⟨returned, t, hrun, hother, hengine⟩ := f.runOn_execute
  refine ⟨returned, t, w.work_of_unexecuted ha hrun, hother, ?_, fun column => f.mem_columns_iff⟩
  intro text hcause
  have hexplains := hengine text hcause
  refine ⟨?_, ?_, ?_⟩
  · intro worksheet source available said
    exact hexplains.worksheetNotFound_iff
  · intro column available
    exact hexplains.invalidColumn_iff
  · intro hno hall
    rw [hcause]
    exact hexplains.eq_engine hno hall

/-- A source that refuses all statements. -/
def refusing (worksheets : List String) : ScriptedState where
  script :=
    { worksheets
      columns := [("*", ["Name"])]
      failures := [("execute", .engine "Sheet1 has no Nmae")] }

def misspelt : Query :=
  { arguments := { source := "book" }, model := { filters := [.isNull (.column "Nmae")] } }

def refusedBook (worksheets : List String) : World ScriptedState :=
  .start "book" {} (refusing worksheets)

/-- The same refusal of a source that has the worksheet, and of one that has not. -/
theorem a_misspelt_column_and_a_missing_worksheet :
    (∃ t, ((refusedBook ["Sheet1"]).work scripted (.toList misspelt)).runOn
        (refusedBook ["Sheet1"]).factory.session =
      (.error (.schema (.invalidColumn "Nmae" ["Name"])), t)) ∧
    ∃ t, ((refusedBook ["Costs"]).work scripted (.toList misspelt)).runOn
        (refusedBook ["Costs"]).factory.session =
      (.error (.schema (.worksheetNotFound "Sheet1" "book" ["Costs"] "Sheet1 has no Nmae")), t) := by
  constructor
  · obtain ⟨returned, t, hrun, -, hengine, -⟩ :=
      a_failed_statement_is_blamed_on_nothing_that_is_there scripted (refusedBook ["Sheet1"])
        (.toList misspelt) misspelt rfl ⟨_, _, .engine "Sheet1 has no Nmae", rfl, rfl⟩
    obtain ⟨-, hcolumn, -⟩ := hengine _ rfl
    have hreturned := (hcolumn "Nmae" ["Name"]).mpr ?_
    · exact ⟨t, hreturned ▸ hrun⟩
    · refine ⟨?_, rfl, by decide, [], [], rfl, by simp⟩
      rintro names ⟨-, ⟨⟩, hmissing⟩
      exact hmissing (by decide)
  · obtain ⟨returned, t, hrun, -, hengine, -⟩ :=
      a_failed_statement_is_blamed_on_nothing_that_is_there scripted (refusedBook ["Costs"])
        (.toList misspelt) misspelt rfl ⟨_, _, .engine "Sheet1 has no Nmae", rfl, rfl⟩
    obtain ⟨hworksheet, -, -⟩ := hengine _ rfl
    have hreturned := (hworksheet "Sheet1" "book" ["Costs"] "Sheet1 has no Nmae").mpr ?_
    · exact ⟨t, hreturned ▸ hrun⟩
    · exact ⟨rfl, rfl, rfl, ⟨by decide, by decide⟩, rfl, by decide⟩

end GridQuery
