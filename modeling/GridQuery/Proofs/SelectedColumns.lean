-- Rows that are constructed from a part of the columns. A query that
-- constructs its rows selects only the columns that the members refer to;
-- whoever reads the rows cannot tell.
import GridQuery.Proofs.ColumnPlaces
import GridQuery.Proofs.StatementText

namespace GridQuery

/-! ## Names at their first places -/

theorem mem_firstUses {name : String} {names : List String} :
    name ∈ firstUses names ↔ name ∈ names := by
  induction names with
  | nil => rfl
  | cons first names ih =>
    by_cases hfirst : name = first <;> simp [firstUses, ih, hfirst]

theorem nodup_firstUses (names : List String) : (firstUses names).Nodup := by
  induction names with
  | nil => exact .nil
  | cons first names ih =>
    refine List.nodup_cons.mpr ⟨?_, ih.filter _⟩
    simp

/-! ## What an expression reads -/

namespace Expr

variable {m : ColumnMappings} {row row' : String → Value}

mutual

/-- An expression is worth the same on two rows that agree on the columns that it refers to. -/
theorem evaluate_eq_of_agree (e : Expr) (h : ∀ column ∈ e.columnUses m, row column = row' column) :
    e.evaluate m row = e.evaluate m row' := by
  match e with
  | field _ | column _ => exact h _ (List.mem_singleton_self _)
  | literal _ => rfl
  | compare left _ right | and left right | or left right =>
    obtain ⟨hleft, hright⟩ := List.forall_mem_append.mp h
    simp only [evaluate, evaluate_eq_of_agree left hleft, evaluate_eq_of_agree right hright]
  | not operand | isNull operand | isNullOrEmpty operand | like operand _ _ | isIn operand _
  | upper operand | lower operand => simp only [evaluate, evaluate_eq_of_agree operand h]
  | concat parts => exact congrArg Value.text (evaluateJoined_eq_of_agree parts h)

theorem evaluateJoined_eq_of_agree (parts : List Expr)
    (h : ∀ column ∈ columnUsesAll m parts, row column = row' column) :
    evaluateJoined m row parts = evaluateJoined m row' parts := by
  match parts with
  | [] => rfl
  | part :: parts =>
    obtain ⟨hpart, hparts⟩ := List.forall_mem_append.mp h
    simp only [evaluateJoined, evaluate_eq_of_agree part hpart,
      evaluateJoined_eq_of_agree parts hparts]

end

end Expr

/-! ## Select lists -/

/-- The values of some columns of a row. -/
def cellsOf (columns : List String) (row : List Value) (names : List String) : List Value :=
  names.map fun name => cellAt row (columns.idxOf name)

/-- What a select list gives of a row, under its columns. There is nothing of a row in a value
that is computed over all rows, and nothing to select in a column that the row does not have. -/
def Selection.rowOf? (columns : List String) (row : List Value) :
    Selection → Option (List String × List Value)
  | all => some (columns, row)
  | Selection.columns names =>
    if ∀ name ∈ names, name ∈ columns then some (names, cellsOf columns row names) else none
  | _ => none

section

variable {columns : List String} {row : List Value}

theorem sourceCell_eq_cellAt (hcolumns : columns.Nodup) {name : String} (h : name ∈ columns) :
    sourceCell columns row name = cellAt row (columns.idxOf name) := by
  unfold sourceCell
  rw [lastPosition?_eq_firstPosition? name hcolumns]
  rcases firstPosition?_spec name columns with ⟨i, hi, -⟩ | ⟨-, hnot⟩
  · rw [hi, idxOf_of_firstPosition? hi]
  · exact absurd h hnot

/-- A column that was selected has the same cell in what was selected. -/
theorem sourceCell_cellsOf (hcolumns : columns.Nodup) {names : List String}
    (hnames : names.Nodup) {name : String} (h : name ∈ names) (hmem : name ∈ columns) :
    sourceCell names (cellsOf columns row names) name = sourceCell columns row name := by
  rw [sourceCell_eq_cellAt hnames h, sourceCell_eq_cellAt hcolumns hmem]
  simp [cellAt, cellsOf, List.getElem?_idxOf h]

end

/-! ## Constructed rows -/

section

variable {mappings : ColumnMappings} {members : List (String × Expr)}

theorem mem_columns_construct {column : String} :
    column ∈ (Projection.construct members).columns mappings ↔
      ∃ member ∈ members, column ∈ member.2.columnUses mappings := by
  simp only [Projection.columns, mem_firstUses, List.mem_flatMap]

theorem mem_of_mem_columns_construct {columns : List String}
    (hsource : ∀ member ∈ members, ∀ column ∈ member.2.columnUses mappings, column ∈ columns) :
    ∀ column ∈ (Projection.construct members).columns mappings, column ∈ columns := by
  intro column hcolumn
  obtain ⟨member, hmember, huses⟩ := mem_columns_construct.mp hcolumn
  exact hsource member hmember column huses

/-- Rows that agree on the columns that the members refer to construct the same row. -/
theorem map_construct_eq_of_agree {source source' : List String} {cells cells' : List Value}
    (h : ∀ column ∈ (Projection.construct members).columns mappings,
      sourceCell source cells column = sourceCell source' cells' column)
    (trim : Text.TrimPolicy) (number : Nat) :
    (Mapper.construct source members).map mappings trim number cells =
      (Mapper.construct source' members).map mappings trim number cells' := by
  have hmembers : (members.map fun member =>
        (member.2.evaluate mappings (sourceCell source cells)).trim trim) =
      members.map fun member =>
        (member.2.evaluate mappings (sourceCell source' cells')).trim trim := by
    refine List.map_congr_left fun member hmember => ?_
    rw [Expr.evaluate_eq_of_agree member.2 fun column hcolumn =>
      h column (mem_columns_construct.mpr ⟨member, hmember, hcolumn⟩)]
  simp only [Mapper.map, hmembers]

/-- The columns that the members refer to are as good a source as all columns. -/
theorem map_construct_cellsOf {columns : List String} (hcolumns : columns.Nodup)
    (hsource : ∀ column ∈ (Projection.construct members).columns mappings, column ∈ columns)
    (trim : Text.TrimPolicy) (number : Nat) (row : List Value) :
    (Mapper.construct ((Projection.construct members).columns mappings) members).map mappings trim
        number (cellsOf columns row ((Projection.construct members).columns mappings)) =
      (Mapper.construct columns members).map mappings trim number row :=
  map_construct_eq_of_agree (fun column hcolumn => sourceCell_cellsOf hcolumns
    (nodup_firstUses _) hcolumn (hsource column hcolumn)) trim number

end

/-! ## Compiled queries -/

/-- A query of constructed rows takes no operator that looks at all rows. -/
theorem Pipeline.aggregate_eq_none_of_push {p q : Pipeline} {op : ResultOp}
    (hp : p.aggregate = none) (h : p.push true op = .ok q) : q.aggregate = none := by
  unfold push at h
  split at h
  · cases h
  · cases op with
    | aggregate a =>
      simp only [pushAggregate] at h
      split at h <;> cases h
    | element op =>
      cases h
      simpa using hp
    | skip count =>
      simp only [pushSkip] at h
      split at h <;> cases h
      exact hp
    | take count =>
      cases h
      simpa using hp
    | reverse =>
      simp only [pushReverse] at h
      split at h <;> cases h
      exact hp
    | distinct =>
      simp only [pushDistinct] at h
      split at h <;> cases h

theorem Pipeline.aggregate_eq_none_of_compile {ops : List ResultOp} {p : Pipeline}
    (h : compile true ops = .ok p) : p.aggregate = none := by
  suffices hall : ∀ q : Pipeline, q.aggregate = none →
      ops.foldlM (push true) q = .ok p → p.aggregate = none from hall {} rfl h
  clear h
  induction ops with
  | nil =>
    intro q hq h
    cases h
    exact hq
  | cons op ops ih =>
    intro q hq h
    rw [List.foldlM_cons] at h
    rcases hpush : q.push true op with e | r
    · rw [hpush] at h
      cases h
    · rw [hpush] at h
      exact ih r (aggregate_eq_none_of_push hq hpush) h

/-- What a query of constructed rows selects. -/
theorem Plan.selection_of_construct {model : QueryModel} {mappings : ColumnMappings} {plan : Plan}
    {members : List (String × Expr)} (hcompile : compile model mappings = .ok plan)
    (hmembers : model.projection = .construct members) :
    plan.projection = .construct members ∧
      plan.clauses.selection = match (Projection.construct members).columns mappings with
        | [] => .all
        | names => .columns names := by
  obtain ⟨p, selection, selected, hp, hselect, rfl⟩ := parts_of_compile hcompile
  rw [hmembers] at hp hselect
  rw [Pipeline.aggregate_eq_none_of_compile hp] at hselect
  have hselection : selection = (ofMembers mappings members).1 := by
    cases hselect
    rfl
  refine ⟨hmembers, hselection.trans ?_⟩
  simp only [ofMembers, Projection.columns]
  generalize firstUses (members.flatMap fun member => member.2.columnUses mappings) = names
  rcases names with _ | ⟨name, names⟩ <;> rfl

/-- A query of constructed rows selects the columns that its members refer to, in the order in
which they first do, or all columns if there are none. From what it selects of a row it constructs
the same row as from the whole row, since an expression is worth the same wherever the columns that
it refers to are the same. -/
theorem the_columns_that_members_refer_to_construct_the_same_row {model : QueryModel}
    {mappings : ColumnMappings} {plan : Plan} {members : List (String × Expr)}
    (hcompile : Plan.compile model mappings = .ok plan)
    (hmembers : model.projection = .construct members) {columns : List String}
    (hcolumns : columns.Nodup)
    (hsource : ∀ member ∈ members, ∀ column ∈ member.2.columnUses mappings, column ∈ columns) :
    (plan.clauses.selection = match (Projection.construct members).columns mappings with
        | [] => .all
        | names => .columns names) ∧
      (∀ (e : Expr) (row row' : String → Value),
        (∀ column ∈ firstUses (e.columnUses mappings), row column = row' column) →
          e.evaluate mappings row = e.evaluate mappings row') ∧
      ∀ (c : MappingContext) (trim : Text.TrimPolicy) (number : Nat) (row : List Value),
        c.projection = plan.projection → ∃ selected cells narrow wide built,
          plan.clauses.selection.rowOf? columns row = some (selected, cells) ∧
            ({ c with columns := selected } : MappingContext).mapper .row = .ok narrow ∧
            ({ c with columns } : MappingContext).mapper .row = .ok wide ∧
            narrow.map mappings trim number cells = .ok (.row built) ∧
            wide.map mappings trim number row = .ok (.row built) := by
  obtain ⟨hprojection, hselection⟩ := Plan.selection_of_construct hcompile hmembers
  refine ⟨hselection, fun e row row' hagree => ?_, fun c trim number row hc => ?_⟩
  · exact Expr.evaluate_eq_of_agree e fun column hcolumn =>
      hagree column (mem_firstUses.mpr hcolumn)
  have hmapper (source : List String) : ({ c with columns := source } : MappingContext).mapper
      .row = .ok (.construct source members) := by
    simp only [MappingContext.mapper, hc, hprojection]
  have hreferred := mem_of_mem_columns_construct hsource
  rcases hnames : (Projection.construct members).columns mappings with _ | ⟨name, names⟩
  · rw [hnames] at hselection
    rw [hselection]
    exact ⟨columns, row, _, _, _, rfl, hmapper columns, hmapper columns, rfl, rfl⟩
  · have hrow := map_construct_cellsOf hcolumns hreferred trim number row
    rw [hnames] at hselection hreferred hrow
    rw [hselection]
    refine ⟨name :: names, cellsOf columns row (name :: names), _, _, _, if_pos hreferred,
      hmapper _, hmapper columns, hrow, rfl⟩

/-- Who is where: `name` is read from the column `Name`. -/
def whereabouts : MappingContext where
  columns := ["City", "Phone", "Name"]
  schema := ["City", "Phone", "Name"]
  mappings := ColumnMappings.insertAbsent {} "name" "Name"
  transformations := {}
  strict := .off
  projection := .construct [("who", .upper (.field "name")),
    ("place", .concat [.column "City", .literal (.text "!")])]

/-- Two of the three columns are selected, the last one first. -/
theorem whereabouts_need_no_phone :
    ∃ plan, Plan.compile { projection := whereabouts.projection } whereabouts.mappings = .ok plan ∧
      plan.clauses.selection.rowOf? whereabouts.columns [.text "Oslo", .null, .text "Ann"] =
          some (["Name", "City"], [.text "Ann", .text "Oslo"]) ∧
        ∃ narrow wide built,
          { whereabouts with columns := ["Name", "City"] }.mapper .row = .ok narrow ∧
            whereabouts.mapper .row = .ok wide ∧
            narrow.map whereabouts.mappings .both 1 [.text "Ann", .text "Oslo"] =
              .ok (.row built) ∧
            wide.map whereabouts.mappings .both 1 [.text "Oslo", .null, .text "Ann"] =
              .ok (.row built) := by
  refine ⟨_, rfl, rfl, ?_⟩
  obtain ⟨-, -, hrows⟩ := @the_columns_that_members_refer_to_construct_the_same_row
    { projection := whereabouts.projection } whereabouts.mappings _ _ rfl rfl
    whereabouts.columns (by decide) (by decide)
  obtain ⟨selected, cells, narrow, wide, built, hrow, hresult⟩ :=
    hrows whereabouts .both 1 [.text "Oslo", .null, .text "Ann"] rfl
  cases hrow
  exact ⟨narrow, wide, built, hresult⟩

end GridQuery
