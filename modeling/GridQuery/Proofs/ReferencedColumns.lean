-- The columns that a statement lists and those in its text. The list is
-- collected apart from the text: every reference of the query counts, while the
-- text leaves out what is tested against an empty list. The list is exact if
-- each such reference comes in step with the text.
import GridQuery.Proofs.SelectedColumns
import GridQuery.Proofs.TextColumns

namespace GridQuery

open GridQuery.Sql

/-! ## Names at their first places -/

/-- The names of a list, each once, in the order of their first places in the list. -/
structure FirstSeen (names firsts : List String) : Prop where
  mem_iff : ∀ name, name ∈ firsts ↔ name ∈ names
  in_order : firsts.Pairwise fun a b => names.idxOf a < names.idxOf b

theorem firstSeen_firstUses (names : List String) : FirstSeen names (firstUses names) := by
  refine ⟨fun _ => mem_firstUses, ?_⟩
  induction names with
  | nil => exact .nil
  | cons first names ih =>
    have hlater : ∀ b ∈ (firstUses names).filter (· != first),
        (first :: names).idxOf b = names.idxOf b + 1 := by
      intro b hb
      have hne : first ≠ b := by
        rintro rfl
        simp at hb
      exact List.idxOf_cons_ne _ hne
    refine List.pairwise_cons.mpr ⟨?_, ?_⟩
    · intro b hb
      rw [hlater b hb, List.idxOf_cons_self]
      exact Nat.succ_pos _
    · refine (ih.filter _).imp_of_mem ?_
      intro a b ha hb hab
      rw [hlater a ha, hlater b hb]
      exact Nat.succ_lt_succ hab

/-- There is one such list. -/
theorem firstSeen_iff {names firsts : List String} :
    FirstSeen names firsts ↔ firsts = firstUses names := by
  constructor
  · intro h
    have hfirst := firstSeen_firstUses names
    have hnodup : firsts.Nodup := h.in_order.imp fun hlt heq => by
      rw [heq] at hlt
      exact Nat.lt_irrefl _ hlt
    have hperm : firsts.Perm (firstUses names) :=
      (List.perm_ext_iff_of_nodup hnodup (nodup_firstUses names)).mpr fun name =>
        (h.mem_iff name).trans (hfirst.mem_iff name).symm
    refine hperm.eq_of_pairwise ?_ h.in_order hfirst.in_order
    intro a b _ _ hab hba
    exact absurd hab (Nat.lt_asymm hba)
  · rintro rfl
    exact firstSeen_firstUses names

theorem firstUses_filter (p : String → Bool) (names : List String) :
    firstUses (names.filter p) = (firstUses names).filter p := by
  induction names with
  | nil => rfl
  | cons first names ih =>
    by_cases hp : p first = true
    · simp only [List.filter_cons_of_pos hp, firstUses, ih, List.filter_filter]
      congr 2
      funext name
      exact Bool.and_comm _ _
    · simp only [List.filter_cons_of_neg hp, firstUses, ih, List.filter_filter]
      apply List.filter_congr
      intro name _
      by_cases hname : name = first
      · simp [hname, hp]
      · simp [hname]

theorem firstUses_append (names others : List String) :
    firstUses (names ++ others) =
      firstUses names ++ (firstUses others).filter fun name => decide (name ∉ names) := by
  induction names with
  | nil => simp [firstUses]
  | cons first names ih =>
    simp only [List.cons_append, firstUses, ih, List.filter_append, List.filter_filter]
    congr 2
    apply List.filter_congr
    intro name _
    by_cases hname : name = first <;> simp [hname]

theorem firstUses_append_congr {names names' others others' : List String}
    (hnames : firstUses names = firstUses names') (hothers : firstUses others = firstUses others') :
    firstUses (names ++ others) = firstUses (names' ++ others') := by
  have hmem : ∀ name, name ∈ names ↔ name ∈ names' := by
    intro name
    rw [← mem_firstUses, hnames, mem_firstUses]
  rw [firstUses_append, firstUses_append, hnames, hothers]
  simp only [hmem]

theorem firstUses_flatMap_congr {α : Type} {f g : α → List String} {xs : List α}
    (h : ∀ x, firstUses (f x) = firstUses (g x)) :
    firstUses (xs.flatMap f) = firstUses (xs.flatMap g) := by
  induction xs with
  | nil => rfl
  | cons x xs ih =>
    rw [List.flatMap_cons, List.flatMap_cons]
    exact firstUses_append_congr (h x) ih

/-! ## References in step with the text -/

/-- A reference to a column, and whether the text has the name of the column there. -/
structure Reference where
  column : String
  isWritten : Bool := true

/-- The columns of the references that the text has. -/
def writtenColumns (rs : List Reference) : List String :=
  (rs.filter Reference.isWritten).map Reference.column

theorem writtenColumns_cons (r : Reference) (rs : List Reference) :
    writtenColumns (r :: rs) =
      if r.isWritten then r.column :: writtenColumns rs else writtenColumns rs := by
  unfold writtenColumns
  by_cases hw : r.isWritten = true
  · rw [List.filter_cons_of_pos hw, List.map_cons, if_pos hw]
  · rw [List.filter_cons_of_neg hw, if_neg hw]

/-- Behind the columns seen so far, each reference is one that the text has, or it is to a column
that was seen, or to the one that comes next as a new column in the text. -/
def InStep (seen : List String) : List Reference → Prop
  | [] => True
  | r :: rs =>
    (r.isWritten = true ∨ r.column ∈ seen ∨
      (writtenColumns rs).find? (fun name => decide (name ∉ seen)) = some r.column) ∧
    InStep (r.column :: seen) rs

instance decidableInStep : (seen : List String) → (rs : List Reference) → Decidable (InStep seen rs)
  | _, [] => .isTrue trivial
  | seen, r :: rs =>
    have := decidableInStep (r.column :: seen) rs
    inferInstanceAs (Decidable (_ ∧ _))

/-- The names that were not seen before, at their first places. -/
def firstUsesAfter (seen names : List String) : List String :=
  firstUses (names.filter fun name => decide (name ∉ seen))

section

variable {name : String} {seen names : List String}

theorem firstUsesAfter_cons_of_mem (h : name ∈ seen) :
    firstUsesAfter seen (name :: names) = firstUsesAfter seen names := by
  simp [firstUsesAfter, h]

theorem firstUsesAfter_seen (h : name ∈ seen) :
    firstUsesAfter (name :: seen) names = firstUsesAfter seen names := by
  unfold firstUsesAfter
  congr 2
  funext other
  by_cases hother : other = name <;> simp [hother, h]

theorem filter_firstUsesAfter :
    (firstUsesAfter seen names).filter (· != name) = firstUsesAfter (name :: seen) names := by
  unfold firstUsesAfter
  rw [← firstUses_filter, List.filter_filter]
  congr 2
  funext other
  by_cases hother : other = name <;> simp [hother]

theorem firstUsesAfter_cons_of_not_mem (h : name ∉ seen) :
    firstUsesAfter seen (name :: names) = name :: firstUsesAfter (name :: seen) names := by
  rw [← filter_firstUsesAfter]
  simp [firstUsesAfter, firstUses, h]

theorem head?_firstUses : (firstUses names).head? = names.head? := by
  cases names <;> rfl

theorem head?_firstUsesAfter :
    (firstUsesAfter seen names).head? = names.find? fun name => decide (name ∉ seen) := by
  rw [firstUsesAfter, head?_firstUses, List.head?_filter]

/-- What comes first is followed by what is new behind it. -/
theorem firstUsesAfter_of_head? (h : (firstUsesAfter seen names).head? = some name) :
    firstUsesAfter seen names = name :: firstUsesAfter (name :: seen) names := by
  rw [← filter_firstUsesAfter]
  unfold firstUsesAfter at h ⊢
  generalize names.filter _ = news at h ⊢
  rcases news with _ | ⟨first, news⟩
  · cases h
  · obtain rfl := Option.some.inj h
    simp [firstUses, List.filter_filter]

end

theorem inStep_of_written {rs : List Reference} (h : ∀ r ∈ rs, r.isWritten = true)
    (seen : List String) : InStep seen rs := by
  induction rs generalizing seen with
  | nil => trivial
  | cons r rs ih =>
    obtain ⟨hfirst, hrest⟩ := List.forall_mem_cons.mp h
    exact ⟨.inl hfirst, ih hrest _⟩

/-- All references and those that the text has are to the same columns in the same order exactly
if they are in step. -/
theorem firstUsesAfter_eq_iff (rs : List Reference) (seen : List String) :
    firstUsesAfter seen (rs.map Reference.column) = firstUsesAfter seen (writtenColumns rs) ↔
      InStep seen rs := by
  induction rs generalizing seen with
  | nil => exact iff_of_true rfl trivial
  | cons r rs ih =>
    rw [InStep, ← ih, List.map_cons, writtenColumns_cons]
    by_cases hseen : r.column ∈ seen
    · -- a column that was seen adds to neither list
      have hwritten :
          firstUsesAfter seen (if r.isWritten then r.column :: writtenColumns rs
            else writtenColumns rs) = firstUsesAfter seen (writtenColumns rs) := by
        split
        · exact firstUsesAfter_cons_of_mem hseen
        · rfl
      rw [firstUsesAfter_cons_of_mem hseen, hwritten, firstUsesAfter_seen hseen,
        firstUsesAfter_seen hseen]
      simp [hseen]
    · rw [firstUsesAfter_cons_of_not_mem hseen]
      by_cases hw : r.isWritten = true
      · rw [if_pos hw, firstUsesAfter_cons_of_not_mem hseen]
        simp [hw]
      · -- the list of the text has to begin with the column all the same
        rw [if_neg hw, ← head?_firstUsesAfter]
        simp only [hw, hseen, false_or, Bool.false_eq_true]
        constructor
        · intro h
          have hhead : (firstUsesAfter seen (writtenColumns rs)).head? = some r.column := by
            rw [← h]
            rfl
          rw [firstUsesAfter_of_head? hhead] at h
          exact ⟨hhead, List.tail_eq_of_cons_eq h⟩
        · rintro ⟨hhead, hrest⟩
          rw [firstUsesAfter_of_head? hhead, hrest]

/-- A column that the text has only behind another new one is out of step. -/
example : ¬ InStep [] [⟨"A", false⟩, ⟨"B", true⟩, ⟨"A", true⟩] := by decide

/-! ## The references of a query -/

namespace Expr

mutual

/-- The references of an expression, from left to right. The text has those all but for what is
tested against an empty list. -/
def references (m : ColumnMappings) : Expr → List Reference
  | field name => [⟨m.resolve name, true⟩]
  | column name => [⟨name, true⟩]
  | literal _ => []
  | compare left _ right => references m left ++ references m right
  | and left right => references m left ++ references m right
  | or left right => references m left ++ references m right
  | not operand => references m operand
  | isNull operand => references m operand
  | isNullOrEmpty operand => references m operand
  | like operand _ _ => references m operand
  | isIn operand values =>
    if values.isEmpty then (columnUses m operand).map fun name => ⟨name, false⟩
    else references m operand
  | upper operand => references m operand
  | lower operand => references m operand
  | concat parts => referencesOfEach m parts

def referencesOfEach (m : ColumnMappings) : List Expr → List Reference
  | [] => []
  | part :: parts => references m part ++ referencesOfEach m parts

end

variable (m : ColumnMappings)

mutual

theorem columns_references (e : Expr) : (e.references m).map Reference.column = e.columnUses m := by
  match e with
  | field _ | column _ | literal _ => rfl
  | compare left _ right | and left right | or left right =>
    simp only [references, columnUses, List.map_append, columns_references left,
      columns_references right]
  | not operand | isNull operand | isNullOrEmpty operand | like operand _ _ | upper operand
  | lower operand => simp only [references, columnUses, columns_references operand]
  | isIn operand values =>
    simp only [references, columnUses]
    split
    · simp [Function.comp_def]
    · exact columns_references operand
  | concat parts => simp only [references, columnUses, columns_referencesOfEach parts]

theorem columns_referencesOfEach (es : List Expr) :
    (referencesOfEach m es).map Reference.column = columnUsesAll m es := by
  match es with
  | [] => rfl
  | e :: es =>
    simp only [referencesOfEach, columnUsesAll, List.map_append, columns_references e,
      columns_referencesOfEach es]

end

end Expr

@[simp] theorem writtenColumns_append (rs ss : List Reference) :
    writtenColumns (rs ++ ss) = writtenColumns rs ++ writtenColumns ss := by
  simp [writtenColumns]

theorem writtenColumns_unwritten (names : List String) :
    writtenColumns (names.map fun name => ⟨name, false⟩) = [] := by
  simp [writtenColumns, List.filter_map, Function.comp_def]

theorem writtenColumns_written (names : List String) :
    writtenColumns (names.map fun name => ⟨name, true⟩) = names := by
  simp [writtenColumns, List.filter_map, Function.comp_def]

namespace Expr

variable (m : ColumnMappings)

mutual

/-- A walk over an expression meets the columns of the references that the text has, that of a
test for empty text a second time. -/
theorem firstUses_columnsMet (e : Expr) :
    firstUses (e.columnsMet m) = firstUses (writtenColumns (e.references m)) := by
  unfold columnsMet
  match e with
  | field _ | column _ => rfl
  | literal v => cases v <;> rfl
  | compare left _ right | and left right | or left right =>
    simp only [walk, references, writtenColumns_append]
    exact firstUses_append_congr (firstUses_columnsMet left) (firstUses_columnsMet right)
  | not operand | isNull operand | upper operand | lower operand =>
    exact firstUses_columnsMet operand
  | isNullOrEmpty operand =>
    simp only [walk, references, List.append_nil]
    rw [firstUses_append, ← firstUses_columnsMet operand]
    simp [columnsMet, mem_firstUses]
  | like operand _ _ =>
    simp only [walk, references, List.append_nil]
    exact firstUses_columnsMet operand
  | isIn operand values =>
    simp only [walk, references]
    split
    · rw [writtenColumns_unwritten]
    · rw [List.flatMap_eq_nil_iff.mpr fun _ _ => rfl, List.append_nil]
      exact firstUses_columnsMet operand
  | concat parts => exact firstUses_walkEach parts

theorem firstUses_walkEach (es : List Expr) :
    firstUses (walkEach m ([·]) (fun _ => []) es) =
      firstUses (writtenColumns (referencesOfEach m es)) := by
  match es with
  | [] => rfl
  | e :: es =>
    simp only [walkEach, referencesOfEach, writtenColumns_append]
    exact firstUses_append_congr (firstUses_columnsMet e) (firstUses_walkEach es)

end

end Expr

/-- The references of a select list. Without an aggregate it is a list of names. -/
def selectReferences (m : ColumnMappings) (aggregate : Option Aggregate)
    (projection : Projection) : List Reference :=
  match aggregate with
  | some a => a.argument?.toList.flatMap (Expr.references m)
  | none => (projection.columns m).map fun name => ⟨name, true⟩

namespace QueryModel

/-- The references of the select list, the filters and the sort keys. -/
def references (m : ColumnMappings) (q : QueryModel) : List Reference :=
  selectReferences m (aggregateOf q.operators) q.projection ++
    q.filters.flatMap (Expr.references m) ++ q.sortKeys.flatMap fun key => key.expr.references m

end QueryModel

theorem writtenColumns_flatMap {α : Type} (f : α → List Reference) (xs : List α) :
    writtenColumns (xs.flatMap f) = xs.flatMap fun x => writtenColumns (f x) := by
  induction xs with
  | nil => rfl
  | cons x xs ih => rw [List.flatMap_cons, List.flatMap_cons, writtenColumns_append, ih]

theorem QueryModel.firstUses_columnsMet (m : ColumnMappings) (q : QueryModel) :
    firstUses (q.columnsMet m) = firstUses (writtenColumns (q.references m)) := by
  unfold columnsMet references selectedColumns selectReferences
  simp only [writtenColumns_append, writtenColumns_flatMap]
  refine firstUses_append_congr (firstUses_append_congr ?_ ?_) ?_
  · rcases aggregateOf q.operators with _ | a
    · simp only [writtenColumns_written]
    · simp only [writtenColumns_flatMap]
      exact firstUses_flatMap_congr (Expr.firstUses_columnsMet m)
  · exact firstUses_flatMap_congr (Expr.firstUses_columnsMet m)
  · exact firstUses_flatMap_congr fun key => Expr.firstUses_columnsMet m key.expr

namespace Plan

theorem columns_of_select {m : ColumnMappings} {aggregate : Option Aggregate}
    {projection : Projection} {selection : Selection} {selected : List String}
    (h : select m aggregate projection = .ok (selection, selected)) :
    selected = (selectReferences m aggregate projection).map Reference.column := by
  rcases aggregate with _ | a
  · have hcolumns : selected = projection.columns m := by
      cases projection with
      | identity | construct members =>
        cases h
        rfl
      | fields names =>
        rcases names with _ | ⟨name, names⟩
        · cases h
        · cases h
          rfl
    simp [hcolumns, selectReferences, Function.comp_def]
  · have hselected : selected = (ofAggregate m a).2 := by
      simp only [select, Except.ok.injEq] at h
      rw [h]
    rw [hselected]
    cases a <;> simp [ofAggregate, selectReferences, Aggregate.argument?, Expr.columns_references]

/-- A statement lists the columns of all references at their first places. -/
theorem columns_of_compile {m : ColumnMappings} {q : QueryModel} {plan : Plan}
    (h : compile q m = .ok plan) :
    plan.columns = firstUses ((q.references m).map Reference.column) := by
  obtain ⟨p, selection, selected, hp, hs, rfl⟩ := parts_of_compile h
  have ha := Pipeline.aggregate_of_compile hp
  rw [ha] at hs
  simp only [assemble, columns_of_select hs, QueryModel.references, QueryModel.sortKeys, ha,
    List.map_append, List.map_flatMap, Expr.columns_references]

end Plan

/-- In the text of a compiled query, read back, the columns can be told from the table. The list
of columns has none of them twice and misses none. It is the columns of the text at their first
places exactly if all references of the query are in step with the text, so always if nothing is
tested against an empty list. -/
theorem the_columns_are_those_of_the_text_if_references_are_in_step (q : QueryModel)
    (m : ColumnMappings) (plan : Plan) (h : Plan.compile q m = .ok plan) (table : TableRef) :
    ∃ lexemes, read (plan.render table).text = some lexemes ∧
      (plan.render table).columns.Nodup ∧
      (∀ name ∈ columnsIn lexemes, name ∈ (plan.render table).columns) ∧
      (FirstSeen (columnsIn lexemes) (plan.render table).columns ↔
        InStep [] (q.references m)) ∧
      ((∀ r ∈ q.references m, r.isWritten = true) →
        FirstSeen (columnsIn lexemes) (plan.render table).columns) := by
  have hcolumns : (plan.render table).columns =
      firstUses ((q.references m).map Reference.column) := Plan.columns_of_compile h
  have hread : read (plan.render table).text = some (lexemesOf (plan.clauses.tokens table)) :=
    read_textOf (plan.clauses.readable table)
  have hexact : FirstSeen (columnsIn (lexemesOf (plan.clauses.tokens table)))
      (plan.render table).columns ↔ InStep [] (q.references m) := by
    have hafter : ∀ names, firstUsesAfter [] names = firstUses names := by
      intro names
      simp [firstUsesAfter]
    rw [firstSeen_iff, Plan.columnsIn_of_compile h, q.firstUses_columnsMet m, hcolumns,
      ← firstUsesAfter_eq_iff, hafter, hafter]
  refine ⟨_, hread, ?_, ?_, hexact, ?_⟩
  · rw [hcolumns]
    exact nodup_firstUses _
  · intro name hname
    rw [Plan.columnsIn_of_compile h, ← mem_firstUses, q.firstUses_columnsMet m, mem_firstUses,
      writtenColumns] at hname
    obtain ⟨r, hr, rfl⟩ := List.mem_map.mp hname
    rw [hcolumns, mem_firstUses]
    exact List.mem_map_of_mem (List.mem_of_mem_filter hr)
  · intro hwritten
    exact hexact.mpr (inStep_of_written hwritten [])

/-- A column that is tested against an empty list, and then is the first one in the text, is listed
where the text has it. -/
theorem a_column_of_an_empty_list_that_the_text_names_too :
    ∃ plan lexemes,
      Plan.compile
        { filters := [.isIn (.column "A") [], .compare (.column "A") .gt (.literal (.int 1))]
          orderBy := [⟨.field "b", true⟩] } {} = .ok plan ∧
      read (plan.render { worksheet := "S", header := false }).text = some lexemes ∧
      (plan.render { worksheet := "S", header := false }).columns = ["A", "b"] ∧
      FirstSeen (columnsIn lexemes) ["A", "b"] := by
  obtain ⟨lexemes, hread, -, -, hexact, -⟩ :=
    the_columns_are_those_of_the_text_if_references_are_in_step
      { filters := [.isIn (.column "A") [], .compare (.column "A") .gt (.literal (.int 1))]
        orderBy := [⟨.field "b", true⟩] } {} _ rfl { worksheet := "S", header := false }
  exact ⟨_, lexemes, rfl, hread, rfl, hexact.mpr (by decide)⟩

/-- A column that is only tested against an empty list is listed, and the text does not have it. -/
theorem a_column_of_an_empty_list_is_not_in_the_text :
    ∃ plan lexemes,
      Plan.compile { filters := [.isIn (.column "A") []] } {} = .ok plan ∧
      (plan.render { worksheet := "Sheet1" }).text = "SELECT * FROM \"Sheet1\" WHERE FALSE" ∧
      read (plan.render { worksheet := "Sheet1" }).text = some lexemes ∧
      columnsIn lexemes = [] ∧
      (plan.render { worksheet := "Sheet1" }).columns = ["A"] ∧
      ¬ FirstSeen (columnsIn lexemes) ["A"] := by
  refine ⟨_, _, rfl, rfl, rfl, rfl, rfl, ?_⟩
  intro h
  have hmem := (h.mem_iff "A").mp List.mem_cons_self
  cases hmem

end GridQuery
