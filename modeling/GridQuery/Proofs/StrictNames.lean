-- Strict modes beside the columns that fields are read from. The check looks
-- at names and mappings, the mapper looks for columns; where every mapping
-- names a column of the table, a field passes exactly if it is read from one.
import GridQuery.Proofs.FilledRecords
import GridQuery.Proofs.SessionRules
import GridQuery.Script

namespace GridQuery

/-! ## Names that have a counterpart -/

theorem ColumnMappings.containsColumn_of_get? {m : ColumnMappings} {field column : String}
    (h : m.get? field = some column) : m.containsColumn column = true := by
  obtain ⟨before, after, hentries, -⟩ := List.lookup_eq_some_iff.mp h
  unfold containsColumn
  rw [hentries]
  simp

namespace MappingContext

section

variable {c : MappingContext} {r : RecordType} {place : Nat}

/-- The field at a place of the record is read from some column. -/
def Binds (bindings : List Binding) (place : Nat) : Prop := ∃ b ∈ bindings, b.field = place

/-- Some field is read from the column. -/
def Reads (bindings : List Binding) (column : String) : Prop := ∃ b ∈ bindings, b.column = column

/-- A field of a whole record is bound exactly if there is a column that it resolves to. -/
theorem bind?_isSome_iff (hprojection : c.projection = .identity) (r : RecordType) (place : Nat)
    (f : FieldDef) :
    (∃ b, c.bind? r place f = some b) ↔ c.mappings.resolve f.name ∈ c.columns := by
  have htakes : c.projection.takes f.name = true := by
    rw [hprojection]
    rfl
  have hindex := index_bind? (r := r) (n := place) htakes
  rcases firstPosition?_spec (c.mappings.resolve f.name) c.columns with
    ⟨i, hi, hat⟩ | ⟨hnone, hnot⟩
  · obtain ⟨b, hb, -⟩ := Option.map_eq_some_iff.mp (hindex.trans hi)
    exact iff_of_true ⟨b, hb⟩ (List.mem_of_getElem? hat)
  · have hunbound := Option.map_eq_none_iff.mp (hindex.trans hnone)
    refine iff_of_false ?_ hnot
    rintro ⟨b, hb⟩
    cases hb.symm.trans hunbound

theorem binds_iff (hprojection : c.projection = .identity) {f : FieldDef}
    (hf : r.fields[place]? = some f) :
    Binds (c.bindings r) place ↔ c.mappings.resolve f.name ∈ c.columns := by
  rw [← bind?_isSome_iff hprojection r place f]
  constructor
  · rintro ⟨b, hb, rfl⟩
    obtain ⟨place', f', hf', hbind⟩ := mem_bindings_iff.mp hb
    obtain rfl := (of_bind? hbind).1
    cases hf.symm.trans hf'
    exact ⟨b, hbind⟩
  · rintro ⟨b, hb⟩
    exact ⟨b, mem_bindings_iff.mpr ⟨place, f, hf, hb⟩, (of_bind? hb).1⟩

/-- A column that is read is one that a field resolves to. -/
theorem exists_of_reads {column : String} (h : Reads (c.bindings r) column) :
    ∃ f ∈ r.fields, c.mappings.resolve f.name = column := by
  obtain ⟨b, hb, rfl⟩ := h
  obtain ⟨place, f, hf, hbind⟩ := mem_bindings_iff.mp hb
  exact ⟨f, List.mem_of_getElem? hf, (of_bind? hbind).2.1.symm⟩

end

/-! ## The checks -/

section

variable {c : MappingContext} {r : RecordType}

/-- The check under another mode. -/
def checkUnder (c : MappingContext) (mode : StrictMode) (r : RecordType) :
    Except StrictError Unit :=
  ({ c with strict := mode } : MappingContext).checkStrict r

theorem checkUnder_fields : c.checkUnder .fields r =
    match c.unmappedField? r with
    | some f => .error (.fieldNotMapped f.name)
    | none => .ok () := by
  unfold checkUnder checkStrict
  rfl

theorem checkUnder_columns : c.checkUnder .columns r =
    match c.unmappedColumn? r with
    | some column => .error (.columnNotMapped column)
    | none => .ok () := by
  unfold checkUnder checkStrict
  rfl

/-- Both are checked, the fields first. -/
theorem checkUnder_both :
    c.checkUnder .both r = (c.checkUnder .fields r).bind fun _ => c.checkUnder .columns r := by
  have hboth : c.checkUnder .both r =
      match c.unmappedField? r with
      | some f => .error (.fieldNotMapped f.name)
      | none =>
        match c.unmappedColumn? r with
        | some column => .error (.columnNotMapped column)
        | none => .ok () := rfl
  rw [hboth, checkUnder_fields, checkUnder_columns]
  rcases c.unmappedField? r with _ | f
  · rfl
  · rfl

end

section

variable {c : MappingContext} {r : RecordType} (hprojection : c.projection = .identity)
  (hcolumns : c.columns = c.schema)
  (hmapped : ∀ field column, c.mappings.get? field = some column → column ∈ c.schema)

include hprojection hcolumns hmapped

/-- A field is missing exactly if its column is: a mapped field has its column in the table, and
any other is looked for by its name. -/
theorem missing_iff (f : FieldDef) :
    (c.projection.takes f.name && !c.schema.contains f.name && !c.mappings.contains f.name) = true ↔
      c.mappings.resolve f.name ∉ c.columns := by
  unfold ColumnMappings.resolve NameMap.contains
  rw [hprojection, hcolumns]
  rcases hget : c.mappings.get? f.name with _ | column
  · simp [Projection.takes]
  · simpa using hmapped f.name column hget

/-- The field that is named is the first one that is not read from a column. -/
theorem unmappedField?_eq_some_iff {f : FieldDef} : c.unmappedField? r = some f ↔
    ∃ place, r.fields[place]? = some f ∧ ¬ Binds (c.bindings r) place ∧
      ∀ earlier < place, Binds (c.bindings r) earlier := by
  unfold unmappedField?
  rw [List.find?_eq_some_iff_getElem]
  constructor
  · rintro ⟨hmissing, place, hlt, rfl, hbefore⟩
    have hat := List.getElem?_eq_getElem hlt
    refine ⟨place, hat, ?_, fun earlier hearlier => ?_⟩
    · rw [binds_iff hprojection hat]
      exact (missing_iff hprojection hcolumns hmapped _).mp hmissing
    · have hlt' := Nat.lt_trans hearlier hlt
      have hfound := hbefore earlier hearlier
      rw [Bool.not_eq_true', ← Bool.not_eq_true, missing_iff hprojection hcolumns hmapped,
        not_not] at hfound
      exact (binds_iff hprojection (List.getElem?_eq_getElem hlt')).mpr hfound
  · rintro ⟨place, hat, hunbound, hbefore⟩
    obtain ⟨hlt, rfl⟩ := List.getElem?_eq_some_iff.mp hat
    rw [binds_iff hprojection hat] at hunbound
    refine ⟨(missing_iff hprojection hcolumns hmapped _).mpr hunbound, place, hlt, rfl, ?_⟩
    intro earlier hearlier
    have hlt' := Nat.lt_trans hearlier hlt
    have hbound := hbefore earlier hearlier
    rw [binds_iff hprojection (List.getElem?_eq_getElem hlt')] at hbound
    rw [Bool.not_eq_true', ← Bool.not_eq_true, missing_iff hprojection hcolumns hmapped, not_not]
    exact hbound

theorem unmappedField?_eq_none_iff : c.unmappedField? r = none ↔
    ∀ place < r.fields.length, Binds (c.bindings r) place := by
  unfold unmappedField?
  rw [List.find?_eq_none]
  constructor
  · intro hfound place hlt
    rw [binds_iff hprojection (List.getElem?_eq_getElem hlt)]
    have hhere := hfound r.fields[place] (List.getElem_mem hlt)
    rwa [missing_iff hprojection hcolumns hmapped, not_not] at hhere
  · intro hbound f hf
    obtain ⟨place, hlt, rfl⟩ := List.mem_iff_getElem.mp hf
    have hhere := hbound place hlt
    rw [binds_iff hprojection (List.getElem?_eq_getElem hlt)] at hhere
    rwa [missing_iff hprojection hcolumns hmapped, not_not]

end

/-- A column that is named is read by no field. -/
theorem not_reads_of_unmappedColumn? {c : MappingContext} {r : RecordType} {column : String}
    (h : c.unmappedColumn? r = some column) : ¬ Reads (c.bindings r) column := by
  intro hreads
  obtain ⟨f, hf, hresolves⟩ := exists_of_reads hreads
  have hmissing := List.find?_some h
  simp only [Bool.and_eq_true, Bool.not_eq_true', List.any_eq_false, beq_iff_eq] at hmissing
  obtain ⟨hname, hcontains⟩ := hmissing
  -- the field is mapped to the column, or it is named like the column
  unfold ColumnMappings.resolve at hresolves
  rcases hget : c.mappings.get? f.name with _ | mapped
  · rw [hget] at hresolves
    exact hname f hf hresolves
  · rw [hget] at hresolves
    rw [ColumnMappings.containsColumn_of_get? (hget.trans (congrArg some hresolves))] at hcontains
    cases hcontains

end MappingContext

/-! ## Failing before the first row -/

theorem Execution.stream_of_strict {x : Execution} {r : Registry} {q : Query} {type : RecordType}
    (hitem : q.item = .record type) {e : StrictError}
    (hstrict : (x.context r q).checkStrict type = .error e) : x.stream r q = .error e := by
  apply stream_of_error
  rw [hitem]
  simp only [MappingContext.mapper, hstrict]

namespace SessionM

variable {σ : Type} {b : Backend σ} {r : Registry} {q : Query} {s t u : Session σ}

/-- A query whose rows cannot be mapped gives its lease up, in whatever way it is taken. -/
theorem runOn_resultsOf_of_strict {x : Execution} (hx : (execute b r q).runOn s = (.ok x, t))
    {e : StrictError} (hstream : x.stream r q = .error e)
    (hrelease : (release b x.lease).runOn t = (.ok (), u)) (isLazy : Bool) :
    (resultsOf b r q isLazy).runOn s = (.error (.strict e), u) := by
  have hlift : (lift (σ := σ) ((x.stream r q).mapError Error.strict)).runOn t =
      (.error (.strict e), t) := by
    rw [hstream]
    rfl
  unfold resultsOf
  rw [runOn_bind _ hx]
  exact runOn_bind_error _ (runOn_guarding_error hlift hrelease)

end SessionM

/-- Where every mapping names a column of the table, the check of fields accepts a record type
exactly if every field is read from a column, and otherwise names the first field that is not. The
check of columns accepts it if every column is read, and names none that is. Under both modes it is
the failure of a field, or else of a column. A query that fails a check gives its lease up and
fails, whatever its rows hold and whether or not they were to be mapped lazily. -/
theorem strict_modes_look_for_the_columns_that_are_read (c : MappingContext) (r : RecordType)
    (hprojection : c.projection = .identity) (hcolumns : c.columns = c.schema)
    (hmapped : ∀ field column, c.mappings.get? field = some column → column ∈ c.schema) :
    (∃ bindings unmapped,
      ({ c with strict := .off } : MappingContext).mapper (.record r) =
          .ok (.record r bindings unmapped) ∧
        (c.checkUnder .fields r = .ok () ↔
          ∀ place < r.fields.length, ∃ b ∈ bindings, b.field = place) ∧
        (∀ e, c.checkUnder .fields r = .error e ↔ ∃ place f, r.fields[place]? = some f ∧
          (¬ ∃ b ∈ bindings, b.field = place) ∧
          (∀ earlier < place, ∃ b ∈ bindings, b.field = earlier) ∧ e = .fieldNotMapped f.name) ∧
        ((∀ column ∈ c.schema, ∃ b ∈ bindings, b.column = column) →
          c.checkUnder .columns r = .ok ()) ∧
        (∀ e, c.checkUnder .columns r = .error e → ∃ column ∈ c.schema,
          (¬ ∃ b ∈ bindings, b.column = column) ∧ e = .columnNotMapped column)) ∧
    (c.checkUnder .both r = (c.checkUnder .fields r).bind fun _ => c.checkUnder .columns r) ∧
    ∀ {σ : Type} (b : Backend σ) (registry : Registry) (q : Query) (s t : Session σ)
      (x : Execution) (e : StrictError), (SessionM.execute b registry q).runOn s = (.ok x, t) →
      q.item = .record r → x.context registry q = c → c.checkStrict r = .error e →
        x.stream registry q = .error e ∧ ∃ u, (SessionM.release b x.lease).runOn t = (.ok (), u) ∧
          ∀ isLazy, (SessionM.resultsOf b registry q isLazy).runOn s = (.error (.strict e), u) := by
  refine ⟨⟨c.bindings r, _, mapper_record rfl, ?_, ?_, ?_, ?_⟩, ?_, ?_⟩
  · rw [MappingContext.checkUnder_fields]
    refine Iff.trans ?_
      (MappingContext.unmappedField?_eq_none_iff hprojection hcolumns hmapped)
    rcases c.unmappedField? r with _ | f
    · simp
    · simp
  · intro e
    rw [MappingContext.checkUnder_fields]
    have hfirst := fun f => MappingContext.unmappedField?_eq_some_iff (r := r) (f := f)
      hprojection hcolumns hmapped
    constructor
    · intro he
      rcases hfield : c.unmappedField? r with _ | f
      · rw [hfield] at he
        cases he
      · rw [hfield] at he
        obtain ⟨place, hat, hunbound, hbefore⟩ := (hfirst f).mp hfield
        exact ⟨place, f, hat, hunbound, hbefore, (Except.error.inj he).symm⟩
    · rintro ⟨place, f, hat, hunbound, hbefore, rfl⟩
      rw [(hfirst f).mpr ⟨place, hat, hunbound, hbefore⟩]
  · intro hread
    rw [MappingContext.checkUnder_columns]
    rcases hcolumn : c.unmappedColumn? r with _ | column
    · rfl
    · have hmem := List.mem_of_find?_eq_some hcolumn
      exact absurd (hread column hmem) (MappingContext.not_reads_of_unmappedColumn? hcolumn)
  · intro e he
    rw [MappingContext.checkUnder_columns] at he
    rcases hcolumn : c.unmappedColumn? r with _ | column
    · rw [hcolumn] at he
      cases he
    · rw [hcolumn] at he
      exact ⟨column, List.mem_of_find?_eq_some hcolumn,
        MappingContext.not_reads_of_unmappedColumn? hcolumn,
        (Except.error.inj he).symm⟩
  · exact MappingContext.checkUnder_both
  · intro σ b registry q s t x e hx hitem hcontext hstrict
    have hstream := Execution.stream_of_strict hitem (by rw [hcontext]; exact hstrict)
    obtain ⟨u, hu⟩ := SessionM.runOn_release b x.lease t
    exact ⟨hstream, u, hu, SessionM.runOn_resultsOf_of_strict hx hstream hu⟩

/-- Staff by name, whose telephone is read from `Tel`. -/
def staffType : RecordType where
  name := "Staff"
  fields := [{ name := "Name", type := { base := .bigint } },
    { name := "phone", type := { base := .text } }, { name := "age", type := { base := .bigint } }]

def staffColumns : MappingContext where
  columns := ["Name", "Tel", "City"]
  schema := ["Name", "Tel", "City"]
  mappings := ColumnMappings.insertAbsent {} "phone" "Tel"
  transformations := {}
  strict := .both
  projection := .identity

def staffQuery : Query where
  arguments := { source := "book", options := { strict := .both } }
  item := .record staffType

/-- One member of staff, with a name that is no number. -/
def staffSession : Session ScriptedState where
  state := { script := {
    columns := [("*", ["Name", "Tel", "City"])]
    result := ⟨["Name", "Tel", "City"], [[.text "Ann", .text "12", .text "Oslo"]]⟩ } }

/-- Nobody's age is in the table and no field is read from the city. Under both modes the age is
reported, and nobody comes to see that the name does not convert. -/
theorem staff_without_age_and_city :
    staffColumns.projection = .identity ∧ staffColumns.columns = staffColumns.schema ∧
      (∀ field column, staffColumns.mappings.get? field = some column →
        column ∈ staffColumns.schema) ∧
      (∃ bindings unmapped, { staffColumns with strict := .off }.mapper (.record staffType) =
          .ok (.record staffType bindings unmapped) ∧
        staffColumns.checkUnder .fields staffType = .error (.fieldNotMapped "age") ∧
        (¬ ∀ place < 3, ∃ b ∈ bindings, b.field = place) ∧
        staffColumns.checkUnder .columns staffType = .error (.columnNotMapped "City") ∧
        ¬ ∃ b ∈ bindings, b.column = "City") ∧
      ∃ u, ∀ isLazy, (SessionM.resultsOf scripted { mappings := staffColumns.mappings } staffQuery
        isLazy).runOn staffSession = (.error (.strict (.fieldNotMapped "age")), u) := by
  have hmapped : ∀ field column, staffColumns.mappings.get? field = some column →
      column ∈ staffColumns.schema := by
    intro field column h
    change List.lookup field [("phone", "Tel")] = some column at h
    rw [NameMap.lookup_pair] at h
    split at h
    · cases h
      decide
    · cases h
  obtain ⟨⟨bindings, unmapped, hmapper, hfields, -, -, hcolumns⟩, -, hruns⟩ :=
    strict_modes_look_for_the_columns_that_are_read staffColumns staffType rfl rfl hmapped
  refine ⟨rfl, rfl, hmapped, ⟨bindings, unmapped, hmapper, rfl, ?_, rfl, ?_⟩, ?_⟩
  · intro hbound
    cases hfields.mpr hbound
  · obtain ⟨column, -, hunread, hcolumn⟩ := hcolumns (.columnNotMapped "City") rfl
    cases hcolumn
    exact hunread
  · obtain ⟨-, u, -, hfails⟩ := hruns scripted { mappings := staffColumns.mappings } staffQuery
      staffSession _ _ (.fieldNotMapped "age") rfl rfl rfl rfl
    exact ⟨u, hfails⟩

end GridQuery
