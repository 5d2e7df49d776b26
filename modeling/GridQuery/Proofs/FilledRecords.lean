-- What a record holds after it was filled from a row. Each field is decided on
-- its own: it holds what its cell converts to, or else its default. Failures
-- are listed in the order of the fields; without a collector the first one is
-- the failure of the row.
import GridQuery.Mapping.Mapper
import GridQuery.Proofs.ColumnPlaces

namespace GridQuery

/-! ## Fields on their own -/

namespace MappingContext

variable (c : MappingContext) (r : RecordType)

/-- The column that a field is read from, if the projection takes the field and the result has
the column. -/
def sourceOf? (f : FieldDef) : Option String :=
  let column := ColumnMappings.resolve c.mappings f.name
  if c.projection.takes f.name = true ∧ column ∈ c.columns then some column else none

/-- The value that a field is given from a column of a row, or why it is given none. -/
def convertCell (trim : Text.TrimPolicy) (cells : List Value) (f : FieldDef) (column : String) :
    Except ConversionError Value := do
  let raw := cells[c.columns.idxOf column]?.getD .null
  let replaced ←
    match Transformations.find? c.transformations r.name f.name with
    | none => pure raw
    | some transform => (transform raw.display).mapError ConversionError.transform
  let converted ← replaced.convert f.type
  return converted.trim trim

/-- What comes of a field in a numbered row; nothing if it is read from no column. -/
def outcome? (trim : Text.TrimPolicy) (row : Nat) (cells : List Value) (f : FieldDef) :
    Option (Except FieldError Value) :=
  (c.sourceOf? f).map fun column =>
    (c.convertCell r trim cells f column).mapError fun cause => ⟨row, column, cause⟩

end MappingContext

/-- The value of a field after its outcome: the one it was given, or the one it had. -/
def settledValue (start : Value) : Option (Except FieldError Value) → Value
  | some (.ok v) => v
  | _ => start

/-- The failure of a field. -/
def failure? : Option (Except FieldError Value) → Option FieldError
  | some (.error e) => some e
  | _ => none

theorem failure?_eq_some_iff {outcome : Option (Except FieldError Value)} {e : FieldError} :
    failure? outcome = some e ↔ outcome = some (.error e) := by
  rcases outcome with _ | _ | v
  · simp [failure?]
  · simp [failure?]
  · simp [failure?]

namespace MappingContext

variable (c : MappingContext) (r : RecordType) (trim : Text.TrimPolicy) (row : Nat)
  (cells : List Value)

/-- The values of a record's fields: what their cells convert to, and defaults. -/
def filledValues : List Value :=
  r.fields.map fun f => settledValue f.start (c.outcome? r trim row cells f)

/-- The failures of a record's fields, in the order of the fields. -/
def failures : List FieldError :=
  r.fields.filterMap fun f => failure? (c.outcome? r trim row cells f)

end MappingContext

/-- The record with the failures of its fields, if they are collected, else the first of them. -/
def Record.settled (collect : Bool) (failures : List FieldError) (filled : Record) :
    Except FieldError Record :=
  match collect, failures with
  | true, failures => .ok { filled with errors := filled.errors ++ failures }
  | false, [] => .ok filled
  | false, e :: _ => .error e

/-! ## Filling -/

section

variable {c : MappingContext} {r : RecordType} {trim : Text.TrimPolicy} {row : Nat}
  {cells : List Value}

theorem read_eq_convertCell {b : Binding} {f : FieldDef} {column : String}
    (hindex : c.columns.idxOf column = b.index) (htype : f.type = b.type)
    (htransform : Transformations.find? c.transformations r.name f.name = b.transformation) :
    b.read trim cells = c.convertCell r trim cells f column := by
  unfold Binding.read MappingContext.convertCell cellAt
  rw [hindex, htype, htransform]
  rcases b.transformation with _ | transform
  · rcases (cells[b.index]?.getD Value.null).convert b.type with e | v <;> rfl
  · simp only
    rcases transform (cells[b.index]?.getD Value.null).display with e | v
    · rfl
    · simp only [Except.mapError, bind, Except.bind]
      rcases v.convert b.type with e | v <;> rfl

variable (c r trim row cells) in
/-- A field has a binding if it has a source, and the binding reads what comes of the field. -/
theorem outcome?_of_bind? (place : Nat) (f : FieldDef) :
    (c.bind? r place f = none ∧ c.outcome? r trim row cells f = none) ∨
      ∃ b, c.bind? r place f = some b ∧ b.field = place ∧
        c.outcome? r trim row cells f =
          some ((b.read trim cells).mapError fun cause => ⟨row, b.column, cause⟩) := by
  unfold MappingContext.bind? MappingContext.outcome? MappingContext.sourceOf?
  by_cases htakes : c.projection.takes f.name = true
  · rcases firstPosition?_spec (ColumnMappings.resolve c.mappings f.name) c.columns with
      ⟨i, hi, hat⟩ | ⟨hnone, hnot⟩
    · right
      have hmem := List.mem_of_getElem? hat
      simp only [htakes, hi, hmem, if_true, and_self, Option.map_some]
      refine ⟨_, rfl, rfl, ?_⟩
      rw [read_eq_convertCell (idxOf_of_firstPosition? hi) rfl rfl]
    · left
      simp [htakes, hnone, hnot]
  · left
    simp [htakes]

/-- Fields are filled from left to right, each in its own place. -/
theorem fillFields_eq (collect : Bool) (fields : List FieldDef) (done start : List Value)
    (hlength : start.length = fields.length) (errors : List FieldError)
    (unmapped : NameMap Value) :
    fillFields collect trim row cells
        ((fields.zipIdx done.length).filterMap fun (f, place) => c.bind? r place f)
        { values := done ++ start, errors, unmapped } =
      Record.settled collect
        (fields.filterMap fun f => failure? (c.outcome? r trim row cells f))
        { values := done ++
            List.zipWith (fun f v => settledValue v (c.outcome? r trim row cells f)) fields start
          errors, unmapped } := by
  induction fields generalizing done start errors with
  | nil =>
    obtain rfl := List.length_eq_zero_iff.mp hlength
    cases collect <;> simp [fillFields, Record.settled]
  | cons f fields ih =>
    obtain ⟨v, start, rfl⟩ := List.exists_cons_of_length_eq_add_one hlength
    have hrest : start.length = fields.length := Nat.succ.inj hlength
    -- the value that the field settles on joins those that are done
    have hnext := fun (w : Value) (errors : List FieldError) =>
      ih (done ++ [w]) start hrest errors
    simp only [List.length_append, List.length_singleton, List.append_assoc,
      List.singleton_append] at hnext
    rw [List.zipIdx_cons, List.filterMap_cons, List.filterMap_cons, List.zipWith_cons_cons]
    rcases outcome?_of_bind? c r trim row cells done.length f with
      ⟨hbind, houtcome⟩ | ⟨b, hbind, hplace, houtcome⟩
    · simp only [hbind, houtcome, failure?, settledValue]
      exact hnext v errors
    · simp only [hbind, houtcome, fillFields]
      rcases b.read trim cells with cause | w
      · cases collect with
        | true =>
          simp only [if_true, Except.mapError, failure?, settledValue, hnext]
          simp [Record.settled]
        | false => rfl
      · have hset : (done ++ v :: start).set b.field w = done ++ w :: start := by
          simp [hplace]
        simp only [hset, Except.mapError, failure?, settledValue]
        exact hnext w errors

theorem fillFields_bindings :
    fillFields r.collectsErrors trim row cells (c.bindings r) r.blank =
      Record.settled r.collectsErrors (c.failures r trim row cells)
        { values := c.filledValues r trim row cells } := by
  have hvalues : List.zipWith (fun f v => settledValue v (c.outcome? r trim row cells f)) r.fields
      (r.fields.map (·.start)) = c.filledValues r trim row cells := by
    simp [MappingContext.filledValues, List.zipWith_map_right]
  rw [← hvalues]
  exact fillFields_eq r.collectsErrors r.fields [] (r.fields.map (·.start))
    (List.length_map _) [] {}

/-- A row is mapped to the record that its fields settle on. -/
theorem map_record (mappings : ColumnMappings) (unmapped : List (Nat × String)) :
    (Mapper.record r (c.bindings r) unmapped).map mappings trim row cells =
      (Record.settled r.collectsErrors (c.failures r trim row cells)
          { values := c.filledValues r trim row cells }).map fun filled =>
        .record (if r.collectsUnmapped then
          { filled with unmapped := collectCells trim cells unmapped } else filled) := by
  simp only [Mapper.map, fillFields_bindings]
  rcases Record.settled r.collectsErrors (c.failures r trim row cells) _ with e | filled
  · rfl
  · cases r.collectsUnmapped <;> rfl

variable (c r trim row cells) in
/-- Either a row is mapped, to what its fields settle on and their failures, or no failures are
collected and the first is the failure of the row. -/
theorem map_record_cases (mappings : ColumnMappings) (unmapped : List (Nat × String)) :
    ((r.collectsErrors = true ∨ c.failures r trim row cells = []) ∧ ∃ record,
        (Mapper.record r (c.bindings r) unmapped).map mappings trim row cells =
          .ok (.record record) ∧
        record.values = c.filledValues r trim row cells ∧
        record.errors = c.failures r trim row cells) ∨
      (r.collectsErrors = false ∧ ∃ e, (c.failures r trim row cells).head? = some e ∧
        (Mapper.record r (c.bindings r) unmapped).map mappings trim row cells = .error e) := by
  rw [map_record]
  rcases hcollects : r.collectsErrors with _ | _
  · rcases c.failures r trim row cells with _ | ⟨e, rest⟩
    · refine .inl ⟨.inr rfl, _, rfl, ?_, ?_⟩
      · cases r.collectsUnmapped <;> rfl
      · cases r.collectsUnmapped <;> rfl
    · exact .inr ⟨rfl, e, rfl, rfl⟩
  · refine .inl ⟨.inl rfl, _, rfl, ?_, ?_⟩
    · cases r.collectsUnmapped <;> rfl
    · cases r.collectsUnmapped <;> rfl

end

/-- The mapper of a record type that passes the strict checks. -/
theorem mapper_record {c : MappingContext} {r : RecordType} (hstrict : c.checkStrict r = .ok ()) :
    c.mapper (.record r) =
      .ok (.record r (c.bindings r) (c.unboundColumns (c.bindings r))) := by
  simp only [MappingContext.mapper, hstrict]

/-- Every field of a record holds what its cell converts to or, if it has no source or does not
convert, its default. With a collector no row fails, and the record lists the failures of its
fields in their order; without one a row fails exactly if some field does, as the first of them. -/
theorem each_field_holds_its_converted_cell_or_its_default (c : MappingContext) (r : RecordType)
    (hstrict : c.checkStrict r = .ok ()) :
    ∃ mapper, c.mapper (.record r) = .ok mapper ∧
      ∀ (mappings : ColumnMappings) (trim : Text.TrimPolicy) (row : Nat) (cells : List Value),
        (r.collectsErrors = true → ∃ record,
          mapper.map mappings trim row cells = .ok (.record record) ∧
            record.values = c.filledValues r trim row cells ∧
            record.errors = c.failures r trim row cells) ∧
        (r.collectsErrors = false → c.failures r trim row cells = [] → ∃ record,
          mapper.map mappings trim row cells = .ok (.record record) ∧
            record.values = c.filledValues r trim row cells ∧ record.errors = []) ∧
        (r.collectsErrors = false → ∀ e, mapper.map mappings trim row cells = .error e ↔
          (c.failures r trim row cells).head? = some e) := by
  refine ⟨_, mapper_record hstrict, fun mappings trim row cells => ?_⟩
  rw [map_record]
  refine ⟨?_, ?_, ?_⟩
  · intro hcollects
    rw [hcollects]
    refine ⟨_, rfl, ?_, ?_⟩
    · cases r.collectsUnmapped <;> rfl
    · cases r.collectsUnmapped <;> rfl
  · intro hcollects hnone
    rw [hcollects, hnone]
    refine ⟨_, rfl, ?_, ?_⟩
    · cases r.collectsUnmapped <;> rfl
    · cases r.collectsUnmapped <;> rfl
  · intro hcollects e
    rw [hcollects]
    rcases c.failures r trim row cells with _ | ⟨first, rest⟩
    · simp [Record.settled, Except.map]
    · simp [Record.settled, Except.map]

/-- The text in ASCII capitals. -/
def Transformation.upper : Transformation := fun s => .ok (.text (Text.asciiUpper s))

/-- Orders: the quantity is read from `Qty`, the label in capitals, and the price from a column
that the result does not have. -/
def orderFields : List FieldDef :=
  [{ name := "quantity", type := { base := .bigint }, start := .int 1 },
    { name := "label", type := { base := .text } },
    { name := "price", type := { base := .double, optional := true } }]

def orderColumns : MappingContext where
  columns := ["label", "Qty"]
  schema := ["label", "Qty"]
  mappings := ColumnMappings.insertAbsent {} "quantity" "Qty"
  transformations := Transformations.register {} "Order" "label" .upper
  strict := .off
  projection := .identity

/-- In the fourth row the quantity is no number: it keeps its default, and the label after it is
filled all the same. -/
theorem a_field_that_fails_leaves_the_next_one_alone :
    orderColumns.checkStrict { name := "Order", fields := orderFields, collectsErrors := true } =
        .ok () ∧
      ∃ mapper, orderColumns.mapper (.record
          { name := "Order", fields := orderFields, collectsErrors := true }) = .ok mapper ∧
        ∃ record, mapper.map {} .both 4 [.text " pen ", .text "many"] = .ok (.record record) ∧
          record.values = [.int 1, .text "PEN", .null] ∧
          record.errors = [⟨4, "Qty", .incompatible "many" .text .bigint⟩] := by
  refine ⟨rfl, ?_⟩
  obtain ⟨mapper, hmapper, hmap⟩ := each_field_holds_its_converted_cell_or_its_default orderColumns
    { name := "Order", fields := orderFields, collectsErrors := true } rfl
  obtain ⟨record, hrecord, hvalues, herrors⟩ :=
    (hmap {} .both 4 [.text " pen ", .text "many"]).1 rfl
  exact ⟨mapper, hmapper, record, hrecord, hvalues.trans rfl, herrors.trans rfl⟩

end GridQuery
