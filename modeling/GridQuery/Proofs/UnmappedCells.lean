-- The cells that a record collects beside its fields. A column of the result
-- is read by a field or its cell is collected, and never both, whatever becomes
-- of the fields.
import GridQuery.Proofs.FilledRecords
import Mathlib.Data.List.Induction

namespace GridQuery

/-! ## Collecting -/

section

variable {trim : Text.TrimPolicy} {cells : List Value}

/-- Of columns with names of their own, each cell is found under its name. -/
theorem get?_collectCells {unmapped : List (Nat × String)}
    (hnodup : (unmapped.map (·.2)).Nodup) {key : String} {v : Value} :
    (collectCells trim cells unmapped).get? key = some v ↔
      ∃ i, (i, key) ∈ unmapped ∧ v = (cellAt cells i).trim trim := by
  induction unmapped using List.reverseRecOn with
  | nil => simp [collectCells]
  | append_singleton unmapped last ih =>
    obtain ⟨j, name⟩ := last
    simp only [List.map_append, List.map_cons, List.map_nil, List.nodup_append,
      List.mem_singleton] at hnodup
    obtain ⟨hbefore, -, hnew⟩ := hnodup
    have hinsert : collectCells trim cells (unmapped ++ [(j, name)]) =
        (collectCells trim cells unmapped).insert name ((cellAt cells j).trim trim) := by
      simp [collectCells]
    rw [hinsert, NameMap.get?_insert]
    by_cases hkey : key = name
    · subst hkey
      rw [if_pos rfl]
      refine ⟨fun h => ⟨j, by simp, (Option.some.inj h).symm⟩, ?_⟩
      rintro ⟨i, hi, rfl⟩
      rcases List.mem_append.mp hi with hi | hi
      · exact absurd rfl (hnew key (List.mem_map.mpr ⟨(i, key), hi, rfl⟩) key rfl)
      · rw [(Prod.mk.inj (List.mem_singleton.mp hi)).1]
    · rw [if_neg hkey, ih hbefore]
      simp [hkey]

end

/-! ## The columns of bindings -/

section

variable {c : MappingContext} {r : RecordType}

/-- Some field of the record is read from the column. -/
def MappingContext.IsBound (c : MappingContext) (r : RecordType) (column : String) : Prop :=
  ∃ f ∈ r.fields, ColumnMappings.resolve c.mappings f.name = column

theorem exists_binding_iff (hprojection : c.projection = .identity) (i : Nat) :
    (∃ b ∈ c.bindings r, b.index = i) ↔
      ∃ f ∈ r.fields,
        firstPosition? (ColumnMappings.resolve c.mappings f.name) c.columns = some i := by
  have htakes (f : FieldDef) : c.projection.takes f.name = true := by
    rw [hprojection]
    rfl
  refine ⟨?_, ?_⟩
  · rintro ⟨b, hb, rfl⟩
    obtain ⟨place, f, hf, hbind⟩ := MappingContext.mem_bindings_iff.mp hb
    refine ⟨f, List.mem_of_getElem? hf, ?_⟩
    rw [← MappingContext.index_bind? (r := r) (n := place) (htakes f), hbind]
    rfl
  · rintro ⟨f, hf, hi⟩
    obtain ⟨place, hplace⟩ := List.mem_iff_getElem?.mp hf
    rw [← MappingContext.index_bind? (r := r) (n := place) (htakes f)] at hi
    obtain ⟨b, hbind, rfl⟩ := Option.map_eq_some_iff.mp hi
    exact ⟨b, MappingContext.mem_bindings_iff.mpr ⟨place, f, hplace, hbind⟩, rfl⟩

/-- The columns that are left are those that no field is read from. -/
theorem mem_unboundColumns_iff (hprojection : c.projection = .identity)
    (hcolumns : c.columns.Nodup) {i : Nat} {column : String} :
    (i, column) ∈ c.unboundColumns (c.bindings r) ↔
      c.columns[i]? = some column ∧ ¬ c.IsBound r column := by
  have hbound (hi : c.columns[i]? = some column) :
      (∃ b ∈ c.bindings r, b.index = i) ↔ c.IsBound r column := by
    rw [exists_binding_iff hprojection]
    refine exists_congr fun f => and_congr_right fun _ => ?_
    rw [firstPosition?_eq_some_iff hcolumns, hi, Option.some.injEq, eq_comm]
  have hmem : (i, column) ∈ c.unboundColumns (c.bindings r) ↔
      c.columns[i]? = some column ∧ ¬ ∃ b ∈ c.bindings r, b.index = i := by
    simp [MappingContext.unboundColumns, List.mem_zipIdx_iff_getElem?]
  rw [hmem]
  exact and_congr_right fun hi => not_congr (hbound hi)

theorem nodup_unboundColumns (hcolumns : c.columns.Nodup) (bindings : List Binding) :
    ((c.unboundColumns bindings).map (·.2)).Nodup := by
  have hfst : (c.unboundColumns bindings).map (·.2) =
      (c.columns.zipIdx.filter fun p => !(bindings.any fun b => b.index == p.2)).map (·.1) := by
    simp [MappingContext.unboundColumns, Function.comp_def]
  have hsub := (List.filter_sublist (p := fun p : String × Nat =>
    !(bindings.any fun b => b.index == p.2)) (l := c.columns.zipIdx)).map (·.1)
  rw [List.zipIdx_map_fst] at hsub
  rw [hfst]
  exact hsub.nodup hcolumns

theorem unmapped_of_map {trim : Text.TrimPolicy} {row : Nat} {cells : List Value}
    {mappings : ColumnMappings} {unmapped : List (Nat × String)} {record : Record}
    (hcollects : r.collectsUnmapped = true)
    (h : (Mapper.record r (c.bindings r) unmapped).map mappings trim row cells =
      .ok (.record record)) : record.unmapped = collectCells trim cells unmapped := by
  rw [map_record, hcollects] at h
  rcases hsettled : Record.settled r.collectsErrors (c.failures r trim row cells)
    { values := c.filledValues r trim row cells } with e | filled
  · rw [hsettled] at h
    cases h
  · rw [hsettled] at h
    cases h
    rfl

end

/-- Of a result whose columns have names of their own, each column is read by a field or
collected, and not both; nothing else is collected, and what is collected of a column is its cell.
This is so for every row that is mapped, and a row is mapped unless a field fails and its failure
is not collected. -/
theorem each_column_is_bound_or_collected (c : MappingContext) (r : RecordType)
    (hprojection : c.projection = .identity) (hcolumns : c.columns.Nodup)
    (hcollects : r.collectsUnmapped = true) (hstrict : c.checkStrict r = .ok ()) :
    ∃ mapper, c.mapper (.record r) = .ok mapper ∧
      ∀ (mappings : ColumnMappings) (trim : Text.TrimPolicy) (row : Nat) (cells : List Value),
        (r.collectsErrors = true ∨ c.failures r trim row cells = [] →
          ∃ record, mapper.map mappings trim row cells = .ok (.record record)) ∧
        ∀ record, mapper.map mappings trim row cells = .ok (.record record) →
          (∀ column ∈ c.columns, c.IsBound r column ↔ column ∉ record.unmapped.names) ∧
          (∀ key ∈ record.unmapped.names, key ∈ c.columns) ∧
          (∀ (i : Nat) (column : String) (v : Value), c.columns[i]? = some column →
            record.unmapped.get? column = some v → v = (cells[i]?.getD .null).trim trim) := by
  refine ⟨_, mapper_record hstrict, fun mappings trim row cells => ⟨fun hmaps => ?_, ?_⟩⟩
  · rw [map_record]
    rcases hmaps with hkeeps | hnone
    · rw [hkeeps]
      exact ⟨_, rfl⟩
    · rw [hnone]
      cases r.collectsErrors with
      | true => exact ⟨_, rfl⟩
      | false => exact ⟨_, rfl⟩
  intro record hrecord
  have hcell (key : String) (v : Value) : record.unmapped.get? key = some v ↔
      ∃ i, (c.columns[i]? = some key ∧ ¬ c.IsBound r key) ∧ v = (cellAt cells i).trim trim := by
    rw [unmapped_of_map hcollects hrecord, get?_collectCells (nodup_unboundColumns hcolumns _)]
    simp only [mem_unboundColumns_iff hprojection hcolumns]
  have hname (key : String) :
      key ∈ record.unmapped.names ↔ key ∈ c.columns ∧ ¬ c.IsBound r key := by
    rw [NameMap.mem_names_iff]
    constructor
    · rintro ⟨v, hv⟩
      obtain ⟨i, ⟨hi, hfree⟩, -⟩ := (hcell key v).mp hv
      exact ⟨List.mem_of_getElem? hi, hfree⟩
    · rintro ⟨hmem, hfree⟩
      obtain ⟨i, hi⟩ := List.mem_iff_getElem?.mp hmem
      exact ⟨_, (hcell key _).mpr ⟨i, ⟨hi, hfree⟩, rfl⟩⟩
  refine ⟨fun column hmem => ?_, fun key hkey => ((hname key).mp hkey).1, ?_⟩
  · simp [hname, hmem]
  · intro i column v hi hv
    obtain ⟨j, ⟨hj, -⟩, rfl⟩ := (hcell column v).mp hv
    have hlt := (List.getElem?_eq_some_iff.mp hi).1
    rw [(List.getElem?_inj hlt hcolumns).mp (hi.trans hj.symm)]
    rfl

/-- Employees, with all that is known of them besides. Both fields are read from `Name`. -/
def employeeType : RecordType where
  name := "Employee"
  fields := [{ name := "Name", type := { base := .text } },
    { name := "number", type := { base := .bigint } }]
  collectsErrors := true
  collectsUnmapped := true

def employeeColumns : MappingContext where
  columns := ["City", "Name", "Phone"]
  schema := ["City", "Name", "Phone"]
  mappings := ColumnMappings.insertAbsent {} "number" "Name"
  transformations := {}
  strict := .off
  projection := .identity

/-- The name is no number and the row has no phone: the name is bound all the same, and the other
two columns are collected. -/
theorem a_column_that_fails_to_convert_is_not_collected :
    employeeColumns.checkStrict employeeType = .ok () ∧
      ∃ mapper, employeeColumns.mapper (.record employeeType) = .ok mapper ∧
        ∃ record, mapper.map {} .both 1 [.text " Oslo", .text "Ann"] = .ok (.record record) ∧
          "Name" ∉ record.unmapped.names ∧ "City" ∈ record.unmapped.names ∧
          ∀ v, record.unmapped.get? "Phone" = some v → v = .null := by
  refine ⟨rfl, ?_⟩
  obtain ⟨mapper, hmapper, hmap⟩ := each_column_is_bound_or_collected employeeColumns employeeType
    rfl (by decide) rfl rfl
  obtain ⟨hmaps, hpartition⟩ := hmap {} .both 1 [.text " Oslo", .text "Ann"]
  obtain ⟨record, hrecord⟩ := hmaps (.inl rfl)
  obtain ⟨hbound, -, hvalue⟩ := hpartition record hrecord
  have hname : employeeColumns.IsBound employeeType "Name" :=
    ⟨{ name := "Name", type := { base := .text } }, by simp [employeeType], by decide⟩
  have hcity : ¬ employeeColumns.IsBound employeeType "City" := by
    rintro ⟨f, hf, hresolve⟩
    simp only [employeeType, List.mem_cons, List.not_mem_nil, or_false] at hf
    rcases hf with rfl | rfl
    · exact absurd hresolve (by decide)
    · exact absurd hresolve (by decide)
  refine ⟨mapper, hmapper, record, hrecord, (hbound "Name" (by decide)).mp hname, ?_, ?_⟩
  · exact not_not.mp (mt (hbound "City" (by decide)).mpr hcity)
  · exact fun v hv => hvalue 2 "Phone" v rfl hv

end GridQuery
