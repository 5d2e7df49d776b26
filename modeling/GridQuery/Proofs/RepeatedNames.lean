-- Results in which a column's name stands more than once. Generic rows, also
-- constructed ones, look a name up from the back, and records look the columns
-- of their fields up from the front. So a name is read from one cell exactly if
-- it stands once.
import GridQuery.Proofs.FilledRecords

namespace GridQuery

/-! ## The first and the last place of a name -/

section

variable {name : String} {columns : List String} {i : Nat}

structure IsFirstPlace (columns : List String) (name : String) (i : Nat) : Prop where
  named : columns[i]? = some name
  first : ∀ j < i, columns[j]? ≠ some name

structure IsLastPlace (columns : List String) (name : String) (i : Nat) : Prop where
  named : columns[i]? = some name
  last : ∀ j > i, columns[j]? ≠ some name

theorem isFirstPlace_of_firstPosition? (h : firstPosition? name columns = some i) :
    IsFirstPlace columns name i := by
  rw [firstPosition?_eq_idxOf?] at h
  obtain ⟨hlt, hat, hbefore⟩ := List.idxOf?_eq_some_iff.mp h
  refine ⟨by rw [List.getElem?_eq_getElem hlt, hat], fun j hj hname => ?_⟩
  obtain ⟨_, hsame⟩ := List.getElem?_eq_some_iff.mp hname
  exact hbefore j hj hsame

theorem isLastPlace_of_lastPosition? (h : lastPosition? name columns = some i) :
    IsLastPlace columns name i := by
  induction columns generalizing i with
  | nil => cases h
  | cons column rest ih =>
    simp only [lastPosition?] at h
    split at h
    · rename_i k hk
      obtain rfl := Option.some.inj h
      obtain ⟨hnamed, hlast⟩ := ih hk
      refine ⟨hnamed, fun j hj => ?_⟩
      obtain ⟨j, rfl⟩ := Nat.exists_eq_add_one_of_ne_zero (Nat.ne_of_gt (Nat.zero_lt_of_lt hj))
      exact hlast j (Nat.lt_of_succ_lt_succ hj)
    · rename_i hnone
      split at h
      · rename_i hcolumn
        obtain rfl := Option.some.inj h
        refine ⟨congrArg some hcolumn, fun j hj hname => ?_⟩
        obtain ⟨j, rfl⟩ := Nat.exists_eq_add_one_of_ne_zero (Nat.ne_of_gt hj)
        exact lastPosition?_eq_none_iff.mp hnone (List.mem_of_getElem? hname)
      · cases h

end

/-! ## What rows and records read -/

/-- The generic rows of a query show, where `look` looks, the cell at a place of the result. -/
def MappingContext.Shows (c : MappingContext) (look : Row → Option Value) (place : Nat) : Prop :=
  ∃ mapper, c.mapper .row = .ok mapper ∧
    ∀ (mappings : ColumnMappings) (trim : Text.TrimPolicy) (number : Nat) (cells : List Value),
      ∃ row, mapper.map mappings trim number cells = .ok (.row row) ∧
        look row = some ((cellAt cells place).trim trim)

/-- A field of the records of a query is bound to a place of the result. What is read there is the
value of the field, or the field keeps the one that it starts with. -/
def MappingContext.Fills (c : MappingContext) (r : RecordType) (field place : Nat) : Prop :=
  ∃ f b, r.fields[field]? = some f ∧ c.bind? r field f = some b ∧ b.index = place ∧
    ∀ mapper, c.mapper (.record r) = .ok mapper →
      ∀ (mappings : ColumnMappings) (trim : Text.TrimPolicy) (number : Nat) (cells : List Value)
        (record : Record), mapper.map mappings trim number cells = .ok (.record record) →
        record.values[field]? = some ((b.read trim cells).toOption.getD f.start)

section

variable {c : MappingContext} {name : String} {i : Nat}

theorem Row.get?_of {columns : List String} (h : lastPosition? name columns = some i)
    (cells : List Value) : (Row.of columns cells).get? name = some (cellAt cells i) := by
  obtain ⟨hlt, -⟩ := List.getElem?_eq_some_iff.mp (isLastPlace_of_lastPosition? h).named
  simp only [get?, of, h, Option.bind_some, getElem?_fitCells, if_pos hlt]

theorem cellAt_map_trim (trim : Text.TrimPolicy) (cells : List Value) (i : Nat) :
    cellAt (cells.map (·.trim trim)) i = (cellAt cells i).trim trim := by
  unfold cellAt
  rw [List.getElem?_map]
  rcases cells[i]? with _ | v <;> rfl

/-- A row has under a name the last of its cells. -/
theorem MappingContext.shows_get? (hplain : c.projection.isConstruct = false)
    (h : lastPosition? name c.columns = some i) : c.Shows (·.get? name) i := by
  have hmapper : c.mapper .row = .ok (.row c.columns) := by
    unfold mapper
    rcases hprojection : c.projection with _ | names | members
    · rfl
    · rfl
    · rw [hprojection] at hplain
      cases hplain
  refine ⟨_, hmapper, fun mappings trim number cells => ⟨_, rfl, ?_⟩⟩
  exact (Row.get?_of h _).trans (congrArg some (cellAt_map_trim trim cells i))

/-- So has a member that is the column of that name. -/
theorem MappingContext.shows_member {members : List (String × Expr)} {place : Nat}
    {member : String} (hmembers : c.projection = .construct members)
    (hmember : members[place]? = some (member, .column name))
    (h : lastPosition? name c.columns = some i) : c.Shows (·.at? place) i := by
  have hmapper : c.mapper .row = .ok (.construct c.columns members) := by
    simp only [mapper, hmembers]
  refine ⟨_, hmapper, fun mappings trim number cells => ⟨_, rfl, ?_⟩⟩
  simp only [Row.at?, Row.of, fitCells_map, List.getElem?_map, hmember, Option.map_some,
    Expr.evaluate, sourceCell, h]

theorem settledValue_mapError {start : Value} {result : Except ConversionError Value}
    {report : ConversionError → FieldError} :
    settledValue start (some (result.mapError report)) = result.toOption.getD start := by
  rcases result with e | v <;> rfl

/-- A field of a record is read from the first of the cells of its column. -/
theorem MappingContext.fills_first {r : RecordType} {field : Nat} {f : FieldDef}
    (hf : r.fields[field]? = some f) (htakes : c.projection.takes f.name = true)
    (h : firstPosition? (c.mappings.resolve f.name) c.columns = some i) :
    c.Fills r field i := by
  have hindex := index_bind? (r := r) (n := field) htakes
  rw [h] at hindex
  obtain ⟨b, hbind, hplace⟩ := Option.map_eq_some_iff.mp hindex
  refine ⟨f, b, hf, hbind, hplace, ?_⟩
  intro mapper hmapper mappings trim number cells record hrecord
  have hbindings : ∃ unmapped, mapper = .record r (c.bindings r) unmapped := by
    simp only [MappingContext.mapper] at hmapper
    split at hmapper
    · cases hmapper
    · exact ⟨_, (Except.ok.inj hmapper).symm⟩
  obtain ⟨unmapped, rfl⟩ := hbindings
  have hvalues : record.values = c.filledValues r trim number cells := by
    rcases map_record_cases c r trim number cells mappings unmapped with
      ⟨-, filled, hfilled, hvalues, -⟩ | ⟨-, e, -, hfailed⟩
    · obtain rfl := Item.record.inj (Except.ok.inj (hrecord.symm.trans hfilled))
      exact hvalues
    · cases hrecord.symm.trans hfailed
  rcases outcome?_of_bind? c r trim number cells field f with
    ⟨hnone, -⟩ | ⟨b', hbind', -, houtcome⟩
  · cases hnone.symm.trans hbind
  · obtain rfl := Option.some.inj (hbind'.symm.trans hbind)
    rw [hvalues, filledValues, List.getElem?_map, hf, Option.map_some, houtcome,
      settledValue_mapError]

end

/-- A row has under a name the cell at the last place of the name, and so has a constructed member
that is the column of that name. A record's field that is read from the column is filled from the
cell at the first place. These are one cell exactly if the name stands once. -/
theorem a_name_is_read_from_one_cell_exactly_if_it_stands_once (columns : List String)
    (name : String) (hname : name ∈ columns) :
    ∃ first last, IsFirstPlace columns name first ∧ IsLastPlace columns name last ∧
      (first = last ↔ columns.count name = 1) ∧
      (∀ cells, (Row.of columns cells).get? name = some (cellAt cells last)) ∧
      ∀ c : MappingContext, c.columns = columns →
        (c.projection.isConstruct = false → c.Shows (·.get? name) last) ∧
        (∀ members place member, c.projection = .construct members →
          members[place]? = some (member, .column name) → c.Shows (·.at? place) last) ∧
        (∀ r field f, r.fields[field]? = some f → c.projection.takes f.name = true →
          c.mappings.resolve f.name = name → c.Fills r field first) := by
  rcases firstPosition?_spec name columns with ⟨first, hfirst, -⟩ | ⟨-, hnot⟩
  · rcases hlast : lastPosition? name columns with _ | last
    · exact absurd hname (lastPosition?_eq_none_iff.mp hlast)
    · have hcount := firstPosition?_eq_lastPosition?_iff hname
      rw [hfirst, hlast, Option.some.injEq] at hcount
      refine ⟨first, last, isFirstPlace_of_firstPosition? hfirst,
        isLastPlace_of_lastPosition? hlast, hcount, Row.get?_of hlast, ?_⟩
      rintro c rfl
      refine ⟨fun hplain => c.shows_get? hplain hlast, ?_, ?_⟩
      · intro members place member hmembers hmember
        exact c.shows_member hmembers hmember hlast
      · rintro r field f hf htakes rfl
        exact c.fills_first hf htakes hfirst
  · exact absurd hname hnot

/-- A result with two columns of one name. -/
def withTwoNotes (projection : Projection) : MappingContext where
  columns := ["Note", "Count", "Note"]
  schema := ["Note", "Count", "Note"]
  mappings := ColumnMappings.insertAbsent {} "amount" "Count"
  transformations := {}
  strict := .off
  projection

def notedType : RecordType where
  name := "Noted"
  fields := [{ name := "Note", type := { base := .text } },
    { name := "amount", type := { base := .bigint } }]

/-- The count between the two notes is read from one cell. -/
theorem a_name_between_two_of_another_is_read_from_one_cell :
    ∃ place, (withTwoNotes .identity).Shows (·.get? "Count") place ∧
      (withTwoNotes (.construct [("number", .column "Count")])).Shows (·.at? 0) place ∧
      (withTwoNotes .identity).Fills notedType 1 place := by
  obtain ⟨first, last, -, -, hone, -, hviews⟩ :=
    a_name_is_read_from_one_cell_exactly_if_it_stands_once ["Note", "Count", "Note"] "Count"
      (by decide)
  obtain rfl := hone.mpr (by decide)
  refine ⟨first, (hviews (withTwoNotes .identity) rfl).1 rfl, ?_, ?_⟩
  · exact (hviews (withTwoNotes (.construct [("number", .column "Count")])) rfl).2.1 _ 0 "number"
      rfl rfl
  · exact (hviews (withTwoNotes .identity) rfl).2.2 notedType 1
      { name := "amount", type := { base := .bigint } } rfl rfl rfl

/-- Of two notes in a row, rows and members have the second and records the first. -/
theorem a_repeated_name_is_read_from_two_cells :
    let cells : List Value := [.text "dry", .int 3, .text "cold"]
    (∃ mapper row, (withTwoNotes .identity).mapper .row = .ok mapper ∧
        mapper.map {} .off 1 cells = .ok (.row row) ∧ row.get? "Note" = some (.text "cold")) ∧
      (∃ mapper row,
        (withTwoNotes (.construct [("note", .column "Note")])).mapper .row = .ok mapper ∧
          mapper.map {} .off 1 cells = .ok (.row row) ∧ row.at? 0 = some (.text "cold")) ∧
      (∃ mapper record, (withTwoNotes .identity).mapper (.record notedType) = .ok mapper ∧
        mapper.map {} .off 1 cells = .ok (.record record) ∧
          record.values = [.text "dry", .int 3]) ∧
      ¬ ∃ place, (withTwoNotes .identity).Shows (·.get? "Note") place ∧
        (withTwoNotes .identity).Fills notedType 0 place := by
  refine ⟨⟨_, _, rfl, rfl, rfl⟩, ⟨_, _, rfl, rfl, rfl⟩, ⟨_, _, rfl, rfl, rfl⟩, ?_⟩
  rintro ⟨place, ⟨mapper, hmapper, hrows⟩, f, b, hf, hbind, rfl, -⟩
  obtain rfl := Option.some.inj hf
  obtain rfl := Option.some.inj hbind
  obtain rfl := Except.ok.inj hmapper
  obtain ⟨row, hrow, hlook⟩ := hrows {} .off 1 [.text "dry", .int 3, .text "cold"]
  obtain rfl := Item.row.inj (Except.ok.inj hrow)
  have hsame : (Value.text "cold") = .text "dry" := Option.some.inj hlook
  exact absurd (Value.text.inj hsame) (by decide)

end GridQuery
