-- Records that are filled from a part of the columns. A query that selects
-- some fields by name reads only their columns; each of them holds what it
-- would hold if the whole row was read, and the others keep their defaults.
import GridQuery.Proofs.FilledRecords
import GridQuery.Proofs.SelectedColumns

namespace GridQuery

/-! ## The columns of the selected fields -/

/-- The columns that the fields are read from, in the order of their first use. -/
def ColumnMappings.columnsOf (m : ColumnMappings) (names : List String) : List String :=
  firstUses (names.map m.resolve)

/-- What a query that selects fields by name selects, if it computes no value over all rows. -/
theorem Plan.selection_of_fields {model : QueryModel} {mappings : ColumnMappings} {plan : Plan}
    {names : List String} (hcompile : compile model mappings = .ok plan)
    (hfields : model.projection = .fields names) (haggregate : plan.aggregate = none) :
    plan.projection = .fields names ∧
      plan.clauses.selection = .columns (mappings.columnsOf names) := by
  obtain ⟨p, selection, selected, -, hselect, rfl⟩ := parts_of_compile hcompile
  have hnone : p.aggregate = none := haggregate
  rw [hnone, hfields] at hselect
  refine ⟨hfields, ?_⟩
  unfold select at hselect
  simp only at hselect
  split at hselect
  · cases hselect
  · cases hselect
    rfl

namespace ColumnMappings

variable {m : ColumnMappings} {names : List String}

theorem resolve_mem_columnsOf {name : String} (h : name ∈ names) :
    m.resolve name ∈ m.columnsOf names :=
  mem_firstUses.mpr (List.mem_map.mpr ⟨name, h, rfl⟩)

theorem mem_of_mem_columnsOf {columns : List String}
    (hsource : ∀ name ∈ names, m.resolve name ∈ columns) :
    ∀ column ∈ m.columnsOf names, column ∈ columns := by
  intro column hcolumn
  obtain ⟨name, hname, rfl⟩ := List.mem_map.mp (mem_firstUses.mp hcolumn)
  exact hsource name hname

end ColumnMappings

/-! ## Fields of the narrow and of the whole row -/

namespace MappingContext

/-- The context in which a record is filled from the columns of some of its fields. -/
def narrowed (c : MappingContext) (names : List String) : MappingContext :=
  { c with columns := c.mappings.columnsOf names, projection := .fields names }

/-- The context in which a record is filled from whole rows, whether or not all names match. -/
def whole (c : MappingContext) (columns : List String) : MappingContext :=
  { c with columns, projection := .identity, strict := .off }

section

variable {c : MappingContext} {r : RecordType} {names columns : List String}
  (trim : Text.TrimPolicy) (number : Nat) (row : List Value) {f : FieldDef}

/-- A cell that was selected converts as it does in the whole row. -/
theorem convertCell_narrowed {column : String} (h : column ∈ c.mappings.columnsOf names) :
    (c.narrowed names).convertCell r trim (cellsOf columns row (c.mappings.columnsOf names)) f
        column =
      (c.whole columns).convertCell r trim row f column := by
  have hcell : (cellsOf columns row (c.mappings.columnsOf names))[
      (c.mappings.columnsOf names).idxOf column]?.getD .null =
        row[columns.idxOf column]?.getD .null := by
    simp [cellsOf, cellAt, List.getElem?_idxOf h]
  unfold convertCell narrowed whole
  simp only [hcell]

/-- What comes of a field in the narrow row: what comes of it in the whole row if it was selected,
and nothing otherwise. -/
theorem outcome?_narrowed (hsource : ∀ name ∈ names, c.mappings.resolve name ∈ columns) :
    (c.narrowed names).outcome? r trim number (cellsOf columns row (c.mappings.columnsOf names)) f =
      if f.name ∈ names then (c.whole columns).outcome? r trim number row f else none := by
  by_cases hf : f.name ∈ names
  · have hnarrow : (c.narrowed names).sourceOf? f = some (c.mappings.resolve f.name) := by
      unfold sourceOf?
      exact if_pos ⟨List.contains_iff_mem.mpr hf, ColumnMappings.resolve_mem_columnsOf hf⟩
    have hwhole : (c.whole columns).sourceOf? f = some (c.mappings.resolve f.name) := by
      unfold sourceOf?
      exact if_pos ⟨rfl, hsource f.name hf⟩
    unfold outcome?
    rw [if_pos hf, hnarrow, hwhole, Option.map_some, Option.map_some,
      convertCell_narrowed trim row (ColumnMappings.resolve_mem_columnsOf hf)]
  · have hnarrow : (c.narrowed names).sourceOf? f = none := by
      unfold sourceOf?
      refine if_neg fun htakes => hf ?_
      exact List.contains_iff_mem.mp htakes.1
    unfold outcome?
    rw [if_neg hf, hnarrow, Option.map_none]

/-- Selected fields settle on what they settle on in the whole row, the others on their
defaults. -/
theorem filledValues_narrowed (hsource : ∀ name ∈ names, c.mappings.resolve name ∈ columns) :
    (c.narrowed names).filledValues r trim number
        (cellsOf columns row (c.mappings.columnsOf names)) =
      r.fields.map fun f => if f.name ∈ names then
        settledValue f.start ((c.whole columns).outcome? r trim number row f) else f.start := by
  unfold filledValues
  refine List.map_congr_left fun f _ => ?_
  rw [outcome?_narrowed trim number row hsource]
  split
  · rfl
  · rfl

/-- The failures are those of the selected fields. -/
theorem failures_narrowed (hsource : ∀ name ∈ names, c.mappings.resolve name ∈ columns) :
    (c.narrowed names).failures r trim number (cellsOf columns row (c.mappings.columnsOf names)) =
      (r.fields.filter (·.name ∈ names)).filterMap fun f =>
        failure? ((c.whole columns).outcome? r trim number row f) := by
  unfold failures
  rw [List.filterMap_filter]
  refine List.filterMap_congr fun f _ => ?_
  rw [outcome?_narrowed trim number row hsource]
  by_cases hf : f.name ∈ names
  · simp [hf]
  · simp [hf, failure?]

end

end MappingContext

/-! ## Records of selected fields -/

section

variable {c : MappingContext} {r : RecordType} {names columns : List String}
  (hsource : ∀ name ∈ names, c.mappings.resolve name ∈ columns) (m : ColumnMappings)
  (trim : Text.TrimPolicy) (number : Nat) (row : List Value) (left : List (Nat × String))

include hsource

theorem map_narrowed_cases :
    ((r.collectsErrors = true ∨ ((r.fields.filter (·.name ∈ names)).filterMap fun f =>
          failure? ((c.whole columns).outcome? r trim number row f)) = []) ∧ ∃ n,
        (Mapper.record r ((c.narrowed names).bindings r) left).map m trim number
            (cellsOf columns row (c.mappings.columnsOf names)) = .ok (.record n) ∧
          n.values = (r.fields.map fun f => if f.name ∈ names then
            settledValue f.start ((c.whole columns).outcome? r trim number row f) else f.start) ∧
          n.errors = (r.fields.filter (·.name ∈ names)).filterMap fun f =>
            failure? ((c.whole columns).outcome? r trim number row f)) ∨
      (r.collectsErrors = false ∧ ∃ e,
        ((r.fields.filter (·.name ∈ names)).filterMap fun f =>
            failure? ((c.whole columns).outcome? r trim number row f)).head? = some e ∧
          (Mapper.record r ((c.narrowed names).bindings r) left).map m trim number
            (cellsOf columns row (c.mappings.columnsOf names)) = .error e) := by
  have hcases := map_record_cases (c.narrowed names) r trim number
    (cellsOf columns row (c.mappings.columnsOf names)) m left
  rwa [MappingContext.filledValues_narrowed trim number row hsource,
    MappingContext.failures_narrowed trim number row hsource] at hcases

/-- A row that is mapped as a whole is mapped from the selected columns, to the same values. -/
theorem map_narrowed_of_map_whole {left' : List (Nat × String)} {w : Record}
    (hmap : (Mapper.record r ((c.whole columns).bindings r) left').map m trim number row =
      .ok (.record w)) :
    ∃ n, (Mapper.record r ((c.narrowed names).bindings r) left).map m trim number
        (cellsOf columns row (c.mappings.columnsOf names)) = .ok (.record n) ∧
      ∀ (place : Nat) (f : FieldDef), r.fields[place]? = some f →
        n.values[place]? = if f.name ∈ names then w.values[place]? else some f.start := by
  rcases map_record_cases (c.whole columns) r trim number row m left' with
    ⟨hfine, w', hw, hwide, -⟩ | ⟨-, e, -, he⟩
  · cases hmap.symm.trans hw
    rcases map_narrowed_cases hsource m trim number row left with
      ⟨-, n, hn, hvalues, -⟩ | ⟨hcollects, e, hfirst, -⟩
    · refine ⟨n, hn, fun place f hplace => ?_⟩
      rw [hvalues, hwide, MappingContext.filledValues, List.getElem?_map, List.getElem?_map,
        hplace]
      by_cases hf : f.name ∈ names
      · simp only [hf, if_true, Option.map_some]
      · simp only [hf, if_false, Option.map_some]
    · -- a failure of a selected field is a failure of the whole row
      obtain ⟨f, hf, hfailure⟩ := List.mem_filterMap.mp (List.mem_of_head? hfirst)
      have hnone := hfine.resolve_left (by simp [hcollects])
      have hwhole := List.filterMap_eq_nil_iff.mp hnone f (List.mem_of_mem_filter hf)
      cases hwhole.symm.trans hfailure
  · cases hmap.symm.trans he

/-- Without a collector a row fails exactly if a selected field does. -/
theorem map_narrowed_fails_iff (hcollects : r.collectsErrors = false) :
    (∃ e, (Mapper.record r ((c.narrowed names).bindings r) left).map m trim number
        (cellsOf columns row (c.mappings.columnsOf names)) = .error e) ↔
      ∃ f ∈ r.fields, f.name ∈ names ∧
        ∃ e, (c.whole columns).outcome? r trim number row f = some (.error e) := by
  rcases map_narrowed_cases (r := r) hsource m trim number row left with
    ⟨hfine, n, hn, -, -⟩ | ⟨-, e, hfirst, he⟩
  · have hnone := hfine.resolve_left (by simp [hcollects])
    refine ⟨?_, ?_⟩
    · rintro ⟨e, he⟩
      cases hn.symm.trans he
    · rintro ⟨f, hf, hname, e, he⟩
      have hwhole := List.filterMap_eq_nil_iff.mp hnone f
        (List.mem_filter.mpr ⟨hf, decide_eq_true hname⟩)
      cases (failure?_eq_some_iff.mpr he).symm.trans hwhole
  · refine ⟨fun _ => ?_, fun _ => ⟨e, he⟩⟩
    obtain ⟨f, hf, hfailure⟩ := List.mem_filterMap.mp (List.mem_of_head? hfirst)
    obtain ⟨hmem, hname⟩ := List.mem_filter.mp hf
    exact ⟨f, hmem, of_decide_eq_true hname, e, failure?_eq_some_iff.mp hfailure⟩

end

/-- A query that selects fields by name selects the columns that they are read from, each once. In
the record that is filled from these columns, each selected field holds what it holds in the record
that is filled from the whole row, and every other field its default. With a collector the record
lists the failures that the selected fields have in the whole row, in the order of the fields;
without one a row fails exactly if a selected field does. -/
theorem selected_fields_hold_what_they_hold_of_the_whole_row {model : QueryModel}
    {mappings : ColumnMappings} {plan : Plan} {names : List String}
    (hcompile : Plan.compile model mappings = .ok plan)
    (hfields : model.projection = .fields names) (haggregate : plan.aggregate = none)
    {columns : List String} (hsource : ∀ name ∈ names, mappings.resolve name ∈ columns)
    {c : MappingContext} (hmappings : c.mappings = mappings)
    (hprojection : c.projection = plan.projection) {r : RecordType}
    (hstrict : c.checkStrict r = .ok ()) :
    ∃ selected narrow wide, plan.clauses.selection = .columns selected ∧
      selected = firstUses (names.map mappings.resolve) ∧
      ({ c with columns := selected } : MappingContext).mapper (.record r) = .ok narrow ∧
      (c.whole columns).mapper (.record r) = .ok wide ∧
      ∀ (m : ColumnMappings) (trim : Text.TrimPolicy) (number : Nat) (row : List Value),
        let outcome := (c.whole columns).outcome? r trim number row
        ∃ cells, plan.clauses.selection.rowOf? columns row = some (selected, cells) ∧
          (∀ n, narrow.map m trim number cells = .ok (.record n) →
            n.values = r.fields.map fun f =>
              if f.name ∈ names then settledValue f.start (outcome f) else f.start) ∧
          (∀ w, wide.map m trim number row = .ok (.record w) →
            ∃ n, narrow.map m trim number cells = .ok (.record n) ∧
              ∀ (place : Nat) (f : FieldDef), r.fields[place]? = some f →
                n.values[place]? = if f.name ∈ names then w.values[place]? else some f.start) ∧
          (r.collectsErrors = true → ∃ n w,
            narrow.map m trim number cells = .ok (.record n) ∧
            wide.map m trim number row = .ok (.record w) ∧
            w.errors = r.fields.filterMap (fun f => failure? (outcome f)) ∧
            n.errors = (r.fields.filter (·.name ∈ names)).filterMap fun f =>
              failure? (outcome f)) ∧
          (r.collectsErrors = false → ((∃ e, narrow.map m trim number cells = .error e) ↔
            ∃ f ∈ r.fields, f.name ∈ names ∧ ∃ e, outcome f = some (.error e))) := by
  obtain ⟨hplan, hselection⟩ := Plan.selection_of_fields hcompile hfields haggregate
  subst hmappings
  have hnarrow : ({ c with columns := c.mappings.columnsOf names } : MappingContext) =
      c.narrowed names := by
    unfold MappingContext.narrowed
    rw [← hplan, ← hprojection]
  have hnarrowStrict : (c.narrowed names).checkStrict r = .ok () := by
    rw [← hnarrow]
    exact hstrict
  have hrow (row : List Value) : plan.clauses.selection.rowOf? columns row =
      some (c.mappings.columnsOf names, cellsOf columns row (c.mappings.columnsOf names)) := by
    rw [hselection]
    exact if_pos (ColumnMappings.mem_of_mem_columnsOf hsource)
  refine ⟨_, _, _, hselection, rfl, by rw [hnarrow]; exact mapper_record hnarrowStrict,
    mapper_record rfl, ?_⟩
  intro m trim number row outcome
  refine ⟨_, hrow row, ?_⟩
  refine ⟨?_, ?_, ?_, ?_⟩
  · intro n hmap
    rcases map_narrowed_cases hsource m trim number row _ with
      ⟨-, n', hn, hvalues, -⟩ | ⟨-, e, -, he⟩
    · cases hmap.symm.trans hn
      exact hvalues
    · cases hmap.symm.trans he
  · intro w hmap
    exact map_narrowed_of_map_whole hsource m trim number row _ hmap
  · intro hcollects
    rcases map_narrowed_cases hsource m trim number row _ with
      ⟨-, n, hn, -, herrors⟩ | ⟨hfalse, -⟩
    · rcases map_record_cases (c.whole columns) r trim number row m _ with
        ⟨-, w, hw, -, hwide⟩ | ⟨hfalse, -⟩
      · exact ⟨n, w, hn, hw, hwide, herrors⟩
      · cases hcollects.symm.trans hfalse
    · cases hcollects.symm.trans hfalse
  · intro hcollects
    exact map_narrowed_fails_iff hsource m trim number row _ hcollects

/-- Orders with a price. `quantity` and `count` are both read from `Qty`, and no field is called
`count`. -/
def pricedOrders : MappingContext where
  columns := ["label", "Qty"]
  schema := ["price", "Qty", "label"]
  mappings := ColumnMappings.insertAbsent (ColumnMappings.insertAbsent {} "quantity" "Qty")
    "count" "Qty"
  transformations := Transformations.register {} "Order" "label" .upper
  strict := .fields
  projection := .fields ["label", "count", "quantity", "label"]

/-- Two columns are selected, in another order than the fields. The price is no number, which
nobody asked for; that the quantity is none is noted. -/
theorem an_order_without_its_price :
    ∃ plan, Plan.compile { projection := pricedOrders.projection } pricedOrders.mappings =
        .ok plan ∧ plan.aggregate = none ∧
      pricedOrders.checkStrict { name := "Order", fields := orderFields, collectsErrors := true } =
        .ok () ∧
      ∃ narrow n, pricedOrders.mapper (.record
          { name := "Order", fields := orderFields, collectsErrors := true }) = .ok narrow ∧
        plan.clauses.selection.rowOf? ["price", "Qty", "label"]
            [.text "cheap", .text "many", .text " pen "] =
          some (["label", "Qty"], [.text " pen ", .text "many"]) ∧
        narrow.map {} .both 4 [.text " pen ", .text "many"] = .ok (.record n) ∧
        n.values = [.int 1, .text "PEN", .null] ∧
        n.errors = [⟨4, "Qty", .incompatible "many" .text .bigint⟩] := by
  refine ⟨_, rfl, rfl, rfl, ?_⟩
  obtain ⟨selected, narrow, wide, hselection, rfl, hnarrow, -, hrows⟩ :=
    @selected_fields_hold_what_they_hold_of_the_whole_row
      { projection := pricedOrders.projection } pricedOrders.mappings _ _ rfl rfl rfl
      ["price", "Qty", "label"] (by decide) pricedOrders rfl rfl
      { name := "Order", fields := orderFields, collectsErrors := true } rfl
  obtain ⟨cells, hcells, hvalues, -, hcollected, -⟩ :=
    hrows {} .both 4 [.text "cheap", .text "many", .text " pen "]
  obtain ⟨n, w, hn, -, -, herrors⟩ := hcollected rfl
  cases hcells
  exact ⟨narrow, n, hnarrow, rfl, hn, (hvalues n hn).trans rfl, herrors.trans rfl⟩

end GridQuery
