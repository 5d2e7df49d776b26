-- The column that a field is read from. All record types of a factory share
-- one map of columns: the last mapping made for a field wins, else the first
-- declaration of a created type, and a type created later reads the column of
-- the type before it, whatever it declares itself.
import GridQuery.Proofs.ColumnPlaces
import GridQuery.Proofs.FactoryRuns
import GridQuery.Proofs.SessionRun
import GridQuery.Script
import Mathlib.Data.List.Induction

namespace GridQuery

/-! ## Columns by the actions of a run -/

namespace Action

def created? : Action → Option RecordType
  | create arguments (.record r) => if arguments.build.isOk then some r else none
  | _ => none

def mapped? (field : String) : Action → Option String
  | addMapping f column => if f = field then some column else none
  | _ => none

/-- The column that a created record type declares for a field. -/
def declared? (field : String) (a : Action) : Option String :=
  a.created?.bind fun r => r.declaredColumns.lookup field

end Action

/-- The record types of the queries that were created. -/
def createdTypes (actions : List Action) : List RecordType := actions.filterMap Action.created?

/-- The column that a field was mapped to last. -/
def lastMapped? (field : String) (actions : List Action) : Option String :=
  (actions.filterMap (Action.mapped? field)).getLast?

/-- The column that was declared first for a field. -/
def firstDeclared? (field : String) (actions : List Action) : Option String :=
  actions.findSome? (Action.declared? field)

/-- The column in effect for a field, if it is not the one of its name. -/
def override? (field : String) (actions : List Action) : Option String :=
  (lastMapped? field actions).or (firstDeclared? field actions)

/-- The column that a field is read from. -/
def columnOf (field : String) (actions : List Action) : String :=
  (override? field actions).getD field

theorem lastMapped?_concat (field : String) (actions : List Action) (a : Action) :
    lastMapped? field (actions ++ [a]) = (a.mapped? field).or (lastMapped? field actions) := by
  unfold lastMapped?
  rw [List.filterMap_append]
  rcases h : a.mapped? field with _ | column <;> simp [h]

theorem firstDeclared?_concat (field : String) (actions : List Action) (a : Action) :
    firstDeclared? field (actions ++ [a]) =
      (firstDeclared? field actions).or (a.declared? field) := by
  unfold firstDeclared?
  rw [List.findSome?_append]
  rcases h : a.declared? field with _ | column <;> simp [h]

theorem firstDeclared?_isSome {field column : String} {actions : List Action} {r : RecordType}
    (hr : r ∈ createdTypes actions) (hcolumn : r.declaredColumns.lookup field = some column) :
    (firstDeclared? field actions).isSome = true := by
  obtain ⟨a, ha, hcreated⟩ := List.mem_filterMap.mp hr
  rw [firstDeclared?, List.findSome?_isSome_iff]
  exact ⟨a, ha, by simp [Action.declared?, hcreated, hcolumn]⟩

/-! ## The shared map -/

namespace ColumnMappings

theorem get?_insertAbsent (m : ColumnMappings) (field column key : String) :
    (m.insertAbsent field column).get? key =
      (m.get? key).or (if key = field then some column else none) := by
  unfold insertAbsent NameMap.contains
  split
  · rename_i hsome
    by_cases hkey : key = field
    · subst hkey
      obtain ⟨c, hc⟩ := Option.isSome_iff_exists.mp hsome
      simp [hc]
    · simp [hkey]
  · rename_i hnone
    rw [NameMap.get?_insert]
    by_cases hkey : key = field
    · subst hkey
      simp [Option.not_isSome_iff_eq_none.mp hnone]
    · simp [hkey]

end ColumnMappings

/-- Declared columns are taken where there is no column yet. -/
theorem Factory.get?_declare (m : ColumnMappings) (r : RecordType) (field : String) :
    (declare m r).get? field = (m.get? field).or (r.declaredColumns.lookup field) := by
  unfold declare
  induction r.declaredColumns generalizing m with
  | nil => simp
  | cons declared rest ih =>
    obtain ⟨f, column⟩ := declared
    rw [List.foldl_cons, ih, ColumnMappings.get?_insertAbsent, NameMap.lookup_pair, Option.or_assoc]
    by_cases hfield : field = f <;> simp [hfield]

/-! ## Runs -/

/-- The shared map and the registered types are what the actions of the run made them. -/
structure Settled {σ : Type} (actions : List Action) (f : Factory σ) : Prop where
  mapped : ∀ field, f.registry.mappings.get? field = override? field actions
  known : ∀ id ∈ f.registered, ∃ r ∈ createdTypes actions, r.id = id

namespace Settled

variable {σ : Type} {actions : List Action} {f : Factory σ}

/-- An action that neither maps a field nor creates a query of a record type. -/
theorem other (h : Settled actions f) {a : Action} {f' : Factory σ}
    (hregistry : f'.registry.mappings = f.registry.mappings)
    (hregistered : f'.registered = f.registered)
    (hmapped : ∀ field, a.mapped? field = none) (hcreated : a.created? = none) :
    Settled (actions ++ [a]) f' := by
  have htypes : createdTypes (actions ++ [a]) = createdTypes actions := by
    simp [createdTypes, hcreated]
  refine ⟨?_, ?_⟩
  · intro field
    rw [hregistry, h.mapped field]
    unfold override?
    rw [lastMapped?_concat, firstDeclared?_concat, hmapped field]
    simp [Action.declared?, hcreated]
  · rw [hregistered, htypes]
    exact h.known

theorem addMapping (h : Settled actions f) (field column : String) :
    Settled (actions ++ [.addMapping field column]) (f.addMapping field column) := by
  refine ⟨?_, ?_⟩
  · intro key
    simp only [Factory.addMapping, NameMap.get?_insert, h.mapped key, override?,
      lastMapped?_concat, firstDeclared?_concat, Action.mapped?, Action.declared?, Action.created?]
    by_cases hkey : key = field
    · simp [hkey]
    · simp [hkey, Ne.symm hkey]
  · intro id hid
    obtain ⟨r, hr, hrid⟩ := h.known id hid
    exact ⟨r, by simpa [createdTypes, Action.created?] using hr, hrid⟩

/-- A created record type declares its columns, unless it was created before. -/
theorem register (h : Settled actions f) {a : Action} {r : RecordType}
    (hcreated : a.created? = some r) (hmapped : ∀ field, a.mapped? field = none)
    (hids : ∀ r' ∈ createdTypes actions, r'.id = r.id → r' = r) :
    Settled (actions ++ [a]) (f.register (.record r)) := by
  have htypes : createdTypes (actions ++ [a]) = createdTypes actions ++ [r] := by
    simp [createdTypes, hcreated]
  have hoverride : ∀ field, override? field (actions ++ [a]) =
      (override? field actions).or (r.declaredColumns.lookup field) := by
    intro field
    unfold override?
    rw [lastMapped?_concat, firstDeclared?_concat, hmapped field]
    simp [Action.declared?, hcreated, Option.or_assoc]
  simp only [Factory.register]
  split
  · rename_i hcontains
    obtain ⟨r', hr', hid⟩ := h.known r.id (by simpa using hcontains)
    obtain rfl := hids r' hr' hid
    refine ⟨?_, ?_⟩
    · intro field
      rw [h.mapped field, hoverride field]
      rcases hcolumn : r'.declaredColumns.lookup field with _ | column
      · simp
      · have hsome := firstDeclared?_isSome hr' hcolumn
        obtain ⟨c, hc⟩ := Option.isSome_iff_exists.mp hsome
        rcases hlast : lastMapped? field actions with _ | d <;> simp [override?, hc, hlast]
    · intro id hin
      obtain ⟨s, hs, hsid⟩ := h.known id hin
      exact ⟨s, by simp [htypes, hs], hsid⟩
  · refine ⟨?_, ?_⟩
    · intro field
      rw [Factory.get?_declare, h.mapped field, hoverride field]
    · intro id hin
      rcases List.mem_cons.mp hin with rfl | hin
      · exact ⟨r, by simp [htypes], rfl⟩
      · obtain ⟨s, hs, hsid⟩ := h.known id hin
        exact ⟨s, by simp [htypes, hs], hsid⟩

theorem configured (h : Settled actions f) (a : Action)
    (hids : ∀ r, a.created? = some r → ∀ r' ∈ createdTypes actions, r'.id = r.id → r' = r) :
    Settled (actions ++ [a]) (f.configured a) := by
  cases a with
  | create arguments item =>
    simp only [Factory.configured, Factory.create]
    rcases hbuild : arguments.build with e | accepted
    · refine h.other rfl rfl (fun _ => rfl) ?_
      cases item with
      | record r => simp [Action.created?, hbuild, Except.isOk, Except.toBool]
      | _ => rfl
    · cases item with
      | record r =>
        have hcreated : (Action.create arguments (.record r)).created? = some r := by
          simp [Action.created?, hbuild, Except.isOk, Except.toBool]
        exact h.register hcreated (fun _ => rfl) (hids r hcreated)
      | _ => exact h.other rfl rfl (fun _ => rfl) rfl
  | addMapping field column => exact h.addMapping field column
  | _ => exact h.other rfl rfl (fun _ => rfl) rfl

end Settled

/-- Types of the run that have one identity are one type. -/
def TypesHaveIdentities (actions : List Action) : Prop :=
  ∀ r ∈ createdTypes actions, ∀ r' ∈ createdTypes actions, r.id = r'.id → r = r'

theorem settled_run {σ : Type} (b : Backend σ) (source : String) (options : Options) (state : σ)
    (actions : List Action) (hids : TypesHaveIdentities actions) :
    Settled actions ((World.start source options state).run b actions).factory := by
  induction actions using List.reverseRecOn with
  | nil => exact ⟨fun _ => rfl, nofun⟩
  | append_singleton actions a ih =>
    have hsub : ∀ r ∈ createdTypes actions, r ∈ createdTypes (actions ++ [a]) := by
      intro r hr
      simp only [createdTypes, List.filterMap_append, List.mem_append]
      exact .inl hr
    have hbefore := ih fun r hr r' hr' => hids r (hsub r hr) r' (hsub r' hr')
    have hstep := hbefore.configured a (by
      intro r hcreated r' hr' hid
      refine hids r' (hsub r' hr') r ?_ hid
      simp [createdTypes, hcreated])
    rw [World.run_concat]
    refine ⟨?_, ?_⟩
    · rw [World.registry_step]
      exact hstep.mapped
    · rw [World.registered_step]
      exact hstep.known

/-! ## Reading -/

/-- Of the elements of a list, only the one at a place is taken. -/
theorem filterMap_zipIdx_at {α β : Type} (take : α → Option β) (place : Nat) (as : List α)
    (n : Nat) :
    (as.zipIdx n).filterMap (fun p => if p.2 = place then take p.1 else none) =
      if n ≤ place then (as[place - n]?.bind take).toList else [] := by
  induction as generalizing n with
  | nil => simp
  | cons a as ih =>
    rw [List.zipIdx_cons, List.filterMap_cons, ih]
    by_cases hn : n = place
    · subst hn
      rw [if_pos rfl, if_pos (Nat.le_refl n), if_neg (Nat.not_succ_le_self n), Nat.sub_self]
      rcases h : take a with _ | c <;> simp [h]
    · rw [if_neg hn]
      by_cases hlt : n + 1 ≤ place
      · have hplace : place - n = place - (n + 1) + 1 := by omega
        rw [if_pos hlt, if_pos (Nat.le_of_succ_le hlt), hplace, List.getElem?_cons_succ]
      · have hle : ¬ n ≤ place := by omega
        rw [if_neg hlt, if_neg hle]

/-- The places of the columns that the field at a place of a record is read from. -/
def Mapper.sources (place : Nat) : Mapper → List Nat
  | .record _ bindings _ => (bindings.filter (·.field == place)).map (·.index)
  | _ => []

section

variable {c : MappingContext} {r : RecordType}

/-- A binding is for the place that it was made for. -/
theorem MappingContext.filter_bind? (place n : Nat) (f : FieldDef) :
    (c.bind? r n f).filter (·.field == place) = if n = place then c.bind? r place f else none := by
  have hfield : ∀ b, c.bind? r n f = some b → b.field = n := fun b hb => (of_bind? hb).1
  by_cases hn : n = place
  · subst hn
    rw [if_pos rfl]
    rcases hbind : c.bind? r n f with _ | b
    · rfl
    · exact Option.filter_eq_some_iff.mpr ⟨rfl, beq_iff_eq.mpr (hfield b hbind)⟩
  · rw [if_neg hn, Option.filter_eq_none_iff]
    exact fun b hb heq => hn ((hfield b hb).symm.trans (beq_iff_eq.mp heq))

/-- A record's field is read from the column that it resolves to, if the result has it. -/
theorem MappingContext.sources_mapper {mapper : Mapper} {place : Nat} {d : FieldDef}
    (hmapper : c.mapper (.record r) = .ok mapper) (hd : r.fields[place]? = some d)
    (htakes : c.projection.takes d.name = true) :
    mapper.sources place =
      (firstPosition? (ColumnMappings.resolve c.mappings d.name) c.columns).toList := by
  simp only [MappingContext.mapper] at hmapper
  split at hmapper
  · cases hmapper
  · obtain rfl := Except.ok.inj hmapper
    simp only [Mapper.sources, MappingContext.bindings, List.filter_filterMap, filter_bind?]
    rw [filterMap_zipIdx_at (c.bind? r place) place r.fields 0, if_pos (Nat.zero_le place),
      Nat.sub_zero, hd, Option.bind_some, ← Option.toList_map, index_bind? htakes]

end

/-- The queries of a factory read a field from a column, if their result has it, and render the
field as the column. -/
structure Factory.Reads {σ : Type} (f : Factory σ) (field column : String) : Prop where
  rendered : (Expr.field field).toTerm f.registry.mappings = .column column
  read : ∀ (q : Query) (r : RecordType) (x : Execution) (s : RowStream) (place : Nat)
    (d : FieldDef), q.item = .record r → x.stream f.registry q = .ok s →
    r.fields[place]? = some d → d.name = field → x.plan.projection.takes field = true →
    (∃ i, s.mapper.sources place = [i] ∧ x.result.columns[i]? = some column) ∨
      (s.mapper.sources place = [] ∧ column ∉ x.result.columns)

theorem Factory.reads_of_get? {σ : Type} {f : Factory σ} {field : String} {c : Option String}
    (h : f.registry.mappings.get? field = c) : f.Reads field (c.getD field) := by
  have hresolve : ColumnMappings.resolve f.registry.mappings field = c.getD field := by
    rw [ColumnMappings.resolve, h]
  refine ⟨congrArg _ hresolve, ?_⟩
  intro q r x s place d hitem hstream hd hname htakes
  subst hname
  obtain ⟨mapper, hmapper, rfl⟩ := Execution.of_stream hstream
  rw [hitem] at hmapper
  have hsources := MappingContext.sources_mapper hmapper hd htakes
  simp only [Execution.context, hresolve] at hsources
  rcases firstPosition?_spec (c.getD d.name) x.result.columns with ⟨i, hi, hat⟩ | ⟨hnone, hnot⟩
  · exact .inl ⟨i, by simp [hsources, hi], hat⟩
  · exact .inr ⟨by simp [hsources, hnone], hnot⟩

/-- After any run, a field is read from the column it was mapped to last and, if it was never
mapped, from the column that was declared first, whatever the names of the types. A type reads the
column that it declares itself exactly if that is the one. -/
theorem a_field_is_read_from_the_first_declared_column {σ : Type} (b : Backend σ)
    (source : String) (options : Options) (state : σ) (actions : List Action)
    (hids : TypesHaveIdentities actions) (field : String) :
    ((World.start source options state).run b actions).factory.Reads field
        (columnOf field actions) ∧
      (∀ c, lastMapped? field actions = some c → columnOf field actions = c) ∧
      (lastMapped? field actions = none → ∀ r ∈ createdTypes actions, ∀ c,
        r.declaredColumns.lookup field = some c →
        (columnOf field actions = c ↔ firstDeclared? field actions = some c)) := by
  refine ⟨?_, ?_, ?_⟩
  · exact Factory.reads_of_get? ((settled_run b source options state actions hids).mapped field)
  · intro c hlast
    simp [columnOf, override?, hlast]
  · intro hlast r hr c hcolumn
    obtain ⟨first, hfirst⟩ := Option.isSome_iff_exists.mp (firstDeclared?_isSome hr hcolumn)
    simp [columnOf, override?, hlast, hfirst]

/-- A record type whose one field is read from a column of another name. -/
def quantityFrom (id : Nat) (type column : String) : RecordType where
  id := id
  name := type
  fields := [{ name := "quantity", type := { base := .bigint }, column := some column }]

/-- Creates a query for orders, whose quantity is in `A`, and one for stocks, where it is in
`B`. -/
def ordersThenStocks : List Action :=
  [.create { source := "book" } (.record (quantityFrom 0 "Order" "A")),
    .create { source := "book" } (.record (quantityFrom 1 "Stock" "B"))]

/-- A second type that is called as the orders are. -/
def pricedOrder : RecordType where
  id := 2
  name := "Order"
  fields := [{ name := "quantity", type := { base := .bigint }, column := some "A" },
    { name := "price", type := { base := .bigint }, column := some "C" }]

/-- Creates queries for two types of one name, with a mapping made between them. -/
def ordersOfTwoTypes : List Action :=
  [.create { source := "book" } (.record (quantityFrom 0 "Order" "A")),
    .addMapping "quantity" "B",
    .create { source := "book" } (.record pricedOrder)]

/-- A backend that answers every statement with one row under the columns `A` and `B`. -/
def twoColumns : ScriptedState where
  script :=
    { worksheets := ["Sheet1"]
      columns := [("*", ["A", "B"])]
      result := { columns := ["A", "B"], rows := [[.int 1, .int 2]] } }

/-- A mapping made between two queries sets the column for both; what the second type declares
for another field is taken over, though the types have one name. -/
theorem a_mapping_between_two_types_wins :
    let factory := ((World.start "book" {} twoColumns).run scripted ordersOfTwoTypes).factory
    factory.Reads "quantity" "B" ∧ factory.Reads "price" "C" := by
  intro factory
  have hids : TypesHaveIdentities ordersOfTwoTypes := by
    have hcreated : createdTypes ordersOfTwoTypes = [quantityFrom 0 "Order" "A", pricedOrder] := rfl
    intro r hr r' hr' hid
    simp only [hcreated, List.mem_cons, List.not_mem_nil, or_false] at hr hr'
    rcases hr with rfl | rfl <;> rcases hr' with rfl | rfl
    · rfl
    · exact absurd hid (by decide)
    · exact absurd hid (by decide)
    · rfl
  exact ⟨(a_field_is_read_from_the_first_declared_column scripted "book" {} twoColumns
      ordersOfTwoTypes hids "quantity").1,
    (a_field_is_read_from_the_first_declared_column scripted "book" {} twoColumns
      ordersOfTwoTypes hids "price").1⟩

/-- The stock's quantity is in `B` and no mapping was made, but it is read from `A`, the column
of the order's. -/
theorem a_second_type_reads_the_column_of_the_first :
    lastMapped? "quantity" ordersThenStocks = none ∧
      quantityFrom 1 "Stock" "B" ∈ createdTypes ordersThenStocks ∧
      (quantityFrom 1 "Stock" "B").declaredColumns.lookup "quantity" = some "B" ∧
      ¬ ((World.start "book" {} twoColumns).run scripted ordersThenStocks).factory.Reads
        "quantity" "B" ∧
      (((World.start "book" {} twoColumns).run scripted ordersThenStocks).factory.run
        (SessionM.toList scripted
          ((World.start "book" {} twoColumns).run scripted ordersThenStocks).factory.registry
          { arguments := { source := "book" }, item := .record (quantityFrom 1 "Stock" "B") })).1 =
        .ok [.record { values := [.int 1] }] := by
  refine ⟨rfl, ?_, rfl, ?_, rfl⟩
  · exact List.mem_cons_of_mem _ (List.mem_singleton.mpr rfl)
  · intro h
    have hcolumn : Sql.Term.column "A" = .column "B" := h.rendered
    exact absurd (Sql.Term.column.inj hcolumn) (by decide)

end GridQuery
