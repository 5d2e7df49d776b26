-- The places of columns in a result. Names are looked up from the front or
-- from the back, which find one place exactly if the name stands once.
import GridQuery.Mapping.Mapper
import Mathlib.Data.List.Nodup

namespace GridQuery

theorem firstPosition?_eq_idxOf? (name : String) (columns : List String) :
    firstPosition? name columns = columns.idxOf? name := by
  induction columns with
  | nil => rfl
  | cons column rest ih =>
    rw [firstPosition?, List.idxOf?_cons, ih]
    by_cases h : column = name <;> simp [h]

theorem firstPosition?_spec (name : String) (columns : List String) :
    (∃ i, firstPosition? name columns = some i ∧ columns[i]? = some name) ∨
      (firstPosition? name columns = none ∧ name ∉ columns) := by
  rw [firstPosition?_eq_idxOf?]
  rcases h : columns.idxOf? name with _ | i
  · exact .inr ⟨rfl, List.idxOf?_eq_none_iff.mp h⟩
  · obtain ⟨hlt, hat, -⟩ := List.idxOf?_eq_some_iff.mp h
    exact .inl ⟨i, rfl, by rw [List.getElem?_eq_getElem hlt, hat]⟩

theorem idxOf_of_firstPosition? {name : String} {columns : List String} {i : Nat}
    (h : firstPosition? name columns = some i) : columns.idxOf name = i := by
  rw [firstPosition?_eq_idxOf?] at h
  exact (List.findIdx?_eq_some_iff_findIdx_eq.mp h).2

theorem firstPosition?_eq_some_iff {name : String} {columns : List String} {i : Nat}
    (hnodup : columns.Nodup) : firstPosition? name columns = some i ↔ columns[i]? = some name := by
  refine ⟨fun h => ?_, fun h => ?_⟩
  · rcases firstPosition?_spec name columns with ⟨j, hj, hat⟩ | ⟨hnone, -⟩
    · rwa [← Option.some.inj (hj.symm.trans h)]
    · rw [hnone] at h
      cases h
  · rcases firstPosition?_spec name columns with ⟨j, hj, hat⟩ | ⟨-, hnot⟩
    · have hlt := (List.getElem?_eq_some_iff.mp h).1
      rw [hj, (List.getElem?_inj hlt hnodup).mp (h.trans hat.symm)]
    · exact absurd (List.mem_of_getElem? h) hnot

section

variable {name : String} {columns : List String}

theorem lastPosition?_eq_none_iff : lastPosition? name columns = none ↔ name ∉ columns := by
  induction columns with
  | nil => simp [lastPosition?]
  | cons column rest ih =>
    rcases hrest : lastPosition? name rest with _ | j
    · simp [lastPosition?, hrest, ih.mp hrest, eq_comm]
    · have hmem : name ∈ rest := by
        rw [← not_not (a := name ∈ rest), ← ih, hrest]
        simp
      simp [lastPosition?, hrest, hmem]

/-- The front and the back find one place exactly if the name stands once. -/
theorem firstPosition?_eq_lastPosition?_iff (hname : name ∈ columns) :
    firstPosition? name columns = lastPosition? name columns ↔ columns.count name = 1 := by
  induction columns with
  | nil => cases hname
  | cons column rest ih =>
    rw [firstPosition?, lastPosition?]
    by_cases hcolumn : column = name
    · subst hcolumn
      rcases hrest : lastPosition? column rest with _ | j
      · have hcount := List.count_eq_zero.mpr (lastPosition?_eq_none_iff.mp hrest)
        simp [hcount]
      · have hcount : rest.count column ≠ 0 := by
          rw [Ne, List.count_eq_zero, ← lastPosition?_eq_none_iff, hrest]
          simp
        simp [hcount]
    · have hmem : name ∈ rest := (List.mem_cons.mp hname).resolve_left (Ne.symm hcolumn)
      rw [List.count_cons_of_ne hcolumn, ← ih hmem]
      rcases lastPosition? name rest with _ | j <;> simp [hcolumn]

/-- Names that differ have the same place from either end. -/
theorem lastPosition?_eq_firstPosition? (name : String) {columns : List String}
    (hnodup : columns.Nodup) : lastPosition? name columns = firstPosition? name columns := by
  by_cases hname : name ∈ columns
  · have hcount := List.count_eq_one_of_mem hnodup hname
    exact ((firstPosition?_eq_lastPosition?_iff hname).mpr hcount).symm
  · rw [lastPosition?_eq_none_iff.mpr hname, firstPosition?_eq_idxOf?]
    exact (List.idxOf?_eq_none_iff.mpr hname).symm

end

/-- A field that the projection takes is bound to the column that it resolves to. -/
theorem MappingContext.index_bind? {c : MappingContext} {r : RecordType} {n : Nat} {f : FieldDef}
    (htakes : c.projection.takes f.name = true) :
    (c.bind? r n f).map (·.index) =
      firstPosition? (ColumnMappings.resolve c.mappings f.name) c.columns := by
  unfold MappingContext.bind?
  rw [if_pos htakes]
  exact Option.map_map .. |>.trans Option.map_id'

/-- A binding is for the place that it was made for. It reads the column that the field resolves to,
through the transformation that is found for the field. -/
theorem MappingContext.of_bind? {c : MappingContext} {r : RecordType} {n : Nat} {f : FieldDef}
    {b : Binding} (h : c.bind? r n f = some b) :
    b.field = n ∧ b.column = c.mappings.resolve f.name ∧
      b.transformation = Transformations.find? c.transformations r.name f.name := by
  unfold MappingContext.bind? at h
  split at h
  · obtain ⟨i, -, rfl⟩ := Option.map_eq_some_iff.mp h
    exact ⟨rfl, rfl, rfl⟩
  · cases h

theorem MappingContext.mem_bindings_iff {c : MappingContext} {r : RecordType} {b : Binding} :
    b ∈ c.bindings r ↔ ∃ place f, r.fields[place]? = some f ∧ c.bind? r place f = some b := by
  unfold MappingContext.bindings
  rw [List.mem_filterMap]
  constructor
  · rintro ⟨⟨f, place⟩, hf, hbind⟩
    exact ⟨place, f, List.mem_zipIdx_iff_getElem?.mp hf, hbind⟩
  · rintro ⟨place, f, hf, hbind⟩
    exact ⟨(f, place), List.mem_zipIdx_iff_getElem?.mpr hf, hbind⟩

end GridQuery
