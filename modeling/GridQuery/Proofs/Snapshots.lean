-- Sequences that are pulled while their factory goes on. What a pull gives is
-- mapped by what was resolved when the sequence was made, but for constructed
-- rows: their members look fields up in the shared mappings of the moment.
import GridQuery.Proofs.FilledRecords
import GridQuery.Proofs.HeldSequences
import GridQuery.Proofs.LazySequences

namespace GridQuery

/-! ## Expressions under other mappings -/

namespace Expr

section

variable (m m' : ColumnMappings)

mutual

theorem length_columnUses (e : Expr) : (e.columnUses m).length = (e.columnUses m').length := by
  match e with
  | field _ => rfl
  | column _ => rfl
  | literal _ => rfl
  | compare left _ right | and left right | or left right =>
    simp only [columnUses, List.length_append, length_columnUses left, length_columnUses right]
  | not operand | isNull operand | isNullOrEmpty operand | like operand _ _ | isIn operand _
  | upper operand | lower operand => exact length_columnUses operand
  | concat parts => exact length_columnUsesAll parts

theorem length_columnUsesAll (parts : List Expr) :
    (columnUsesAll m parts).length = (columnUsesAll m' parts).length := by
  match parts with
  | [] => rfl
  | part :: parts =>
    simp only [columnUsesAll, List.length_append, length_columnUses part,
      length_columnUsesAll parts]

end

end

variable {m m' : ColumnMappings} (row : String → Value)

mutual

/-- An expression is worth the same under mappings by which it reads the same columns. -/
theorem evaluate_eq_of_columnUses (e : Expr) (h : e.columnUses m = e.columnUses m') :
    e.evaluate m row = e.evaluate m' row := by
  match e with
  | field name =>
    simp only [columnUses, List.cons.injEq, and_true] at h
    simp only [evaluate, h]
  | column _ => rfl
  | literal _ => rfl
  | compare left _ right | and left right | or left right =>
    obtain ⟨hleft, hright⟩ := List.append_inj h (length_columnUses m m' left)
    simp only [evaluate, evaluate_eq_of_columnUses left hleft,
      evaluate_eq_of_columnUses right hright]
  | not operand | isNull operand | isNullOrEmpty operand | like operand _ _ | isIn operand _
  | upper operand | lower operand =>
    simp only [evaluate, evaluate_eq_of_columnUses operand h]
  | concat parts => exact congrArg Value.text (evaluateJoined_eq_of_columnUsesAll parts h)

theorem evaluateJoined_eq_of_columnUsesAll (parts : List Expr)
    (h : columnUsesAll m parts = columnUsesAll m' parts) :
    evaluateJoined m row parts = evaluateJoined m' row parts := by
  match parts with
  | [] => rfl
  | part :: parts =>
    obtain ⟨hpart, hparts⟩ := List.append_inj h (length_columnUses m m' part)
    simp only [evaluateJoined, evaluate_eq_of_columnUses part hpart,
      evaluateJoined_eq_of_columnUsesAll parts hparts]

end

end Expr

/-! ## What the mappings of the moment decide -/

def Mapper.members : Mapper → List (String × Expr)
  | .construct _ members => members
  | _ => []

/-- The members of the rows that a query constructs. -/
def Query.members (q : Query) : List (String × Expr) :=
  match q.item, q.model.projection with
  | .row, .construct members => members
  | _, _ => []

theorem Query.members_eq_nil {q : Query}
    (h : q.item ≠ .row ∨ q.model.projection.isConstruct = false) : q.members = [] := by
  unfold members
  split
  · rename_i members hitem hprojection
    rw [hprojection] at h
    rcases h with hitem' | hconstructs
    · exact absurd hitem hitem'
    · cases hconstructs
  · rfl

/-- A member is worth the same by two maps on a row. -/
def Expr.SameBy (m m' : ColumnMappings) (trim : Text.TrimPolicy) (row : String → Value)
    (e : Expr) : Prop :=
  (e.evaluate m row).trim trim = (e.evaluate m' row).trim trim

/-- The rows that a stream is still to construct, each by its columns. -/
def RowStream.sources (s : RowStream) : List (String → Value) :=
  match s.mapper with
  | .construct source _ => s.coming.map fun p => sourceCell source p.1
  | _ => []

/-- The rows that pulls of a sequence are still to construct. -/
def Rows.due : Rows → List (String → Value)
  | .streaming s skip bound => within bound (s.sources.drop skip)
  | .buffered _ => []

def constructed (m : ColumnMappings) (trim : Text.TrimPolicy) (members : List (String × Expr))
    (row : String → Value) : Item :=
  .row (Row.of (members.map (·.1)) (members.map fun p => (p.2.evaluate m row).trim trim))

theorem constructed_eq_iff {m m' : ColumnMappings} {trim : Text.TrimPolicy}
    {members : List (String × Expr)} {row : String → Value} :
    constructed m trim members row = constructed m' trim members row ↔
      ∀ member ∈ members, member.2.SameBy m m' trim row := by
  simp only [constructed, Row.of, fitCells_map, Item.row.injEq, Row.mk.injEq, true_and,
    List.map_inj_left, Expr.SameBy]

theorem Mapper.map_mappings {mapper : Mapper}
    (h : ∀ source members, mapper ≠ .construct source members) (m m' : ColumnMappings) :
    mapper.map m = mapper.map m' := by
  cases mapper with
  | construct source members => exact absurd rfl (h source members)
  | _ => rfl

namespace Rows

/-- Pulls come to the same as if made at once exactly if each outcome is the one that it would
have been then. -/
theorem pulls_eq_replicate_iff {r : Rows}
    {outcomes : ColumnMappings → List (Except FieldError Item)}
    (h : ∀ m, r.Yields m (outcomes m)) (m : ColumnMappings) (moments : List ColumnMappings) :
    r.pulls moments = r.pulls (List.replicate moments.length m) ↔
      ∀ p ∈ moments.zipIdx, (outcomes p.1)[p.2]? = (outcomes m)[p.2]? := by
  have hat : r.pulls (List.replicate moments.length m) =
      moments.zipIdx.map fun p => (outcomes m)[p.2]? := by
    rw [pulls_replicate h, List.range_eq_range', ← List.zipIdx_map_snd 0 moments, List.map_map]
    rfl
  rw [hat, pulls_eq h, List.map_inj_left]

section

variable {s : RowStream} {source : List String} {members : List (String × Expr)}

/-- A sequence of constructed rows yields those that are due. -/
theorem yields_constructed (hheld : s.lease.isSome = true)
    (hmapper : s.mapper = .construct source members) (skip : Nat) (bound : Option Nat)
    (m : ColumnMappings) :
    (streaming s skip bound).Yields m
      ((streaming s skip bound).due.map fun row => .ok (constructed m s.trim members row)) := by
  have hmaps : s.Maps m fun p => constructed m s.trim members (sourceCell source p.1) :=
    { held := hheld
      mapped := fun p _ => by rw [hmapper]; rfl }
  have hyields := (Gives.streaming skip bound hmaps).yields
  simpa only [due, RowStream.sources, hmapper, ← List.map_drop, within_map, List.map_map,
    Function.comp_def] using hyields

end

/-- A sequence as a query gives it: mapped, or, if the query is lazy, a stream that holds its
lease. -/
inductive Fresh (q : Query) : Rows → Prop
  | buffered (items : List Item) : Fresh q (.buffered items)
  | streaming {s : RowStream} (skip : Nat) (bound : Option Nat)
      (hlazy : q.arguments.options.lazy = true) (hheld : s.lease.isSome = true)
      (htrim : s.trim = q.arguments.options.trim) (hmembers : s.mapper.members = q.members) :
      Fresh q (.streaming s skip bound)

/-- What is read at each moment off the row at its place is what `b` would read there, exactly if
it is so for each row beside its moment. -/
theorem forall_zipIdx_iff_forall_zip {α β γ : Type} (f : β → α → γ) (b : β) {rows : List α}
    {moments : List β} :
    (∀ p ∈ moments.zipIdx, rows[p.2]?.map (f p.1) = rows[p.2]?.map (f b)) ↔
      ∀ p ∈ rows.zip moments, f p.2 p.1 = f b p.1 := by
  constructor
  · intro hsame p hp
    obtain ⟨k, hk⟩ := List.mem_iff_getElem?.mp hp
    obtain ⟨hrow, hmoment⟩ := List.getElem?_zip_eq_some.mp hk
    have hat := hsame (p.2, k) (List.mem_zipIdx_iff_getElem?.mpr hmoment)
    simpa [hrow] using hat
  · rintro hsame ⟨moment, k⟩ hmoment
    have hat : moments[k]? = some moment := List.mem_zipIdx_iff_getElem?.mp hmoment
    rcases hrow : rows[k]? with _ | row
    · simp
    · have hzip : (rows.zip moments)[k]? = some (row, moment) :=
        List.getElem?_zip_eq_some.mpr ⟨hrow, hat⟩
      simp [hsame (row, moment) (List.mem_of_getElem? hzip)]

theorem due_of_not_construct {s : RowStream}
    (h : ∀ source members, s.mapper ≠ .construct source members) (skip : Nat)
    (bound : Option Nat) : (streaming s skip bound).due = [] := by
  have hsources : s.sources = [] := by
    unfold RowStream.sources
    split
    · rename_i source members hmapper
      exact absurd hmapper (h source members)
    · rfl
  rcases bound with _ | n <;> simp [due, within, hsources]

/-- Pulls come to the same as if made at once exactly if each member of each row that is due is
worth what it was worth then. -/
theorem Fresh.pulls_eq_replicate_iff {q : Query} {rows : Rows} (h : rows.Fresh q)
    (m₀ : ColumnMappings) (moments : List ColumnMappings) :
    rows.pulls moments = rows.pulls (List.replicate moments.length m₀) ↔
      ∀ p ∈ rows.due.zip moments, ∀ member ∈ q.members,
        member.2.SameBy p.2 m₀ q.arguments.options.trim p.1 := by
  -- where the mappings decide nothing, nothing is due
  have hindependent {rows : Rows} {outcomes : ColumnMappings → List (Except FieldError Item)}
      (hyields : ∀ m, rows.Yields m (outcomes m)) (hsame : ∀ m, outcomes m = outcomes m₀)
      (hdue : rows.due = []) :
      rows.pulls moments = rows.pulls (List.replicate moments.length m₀) ↔
        ∀ p ∈ rows.due.zip moments, ∀ member ∈ q.members,
          member.2.SameBy p.2 m₀ q.arguments.options.trim p.1 := by
    rw [Rows.pulls_eq_replicate_iff hyields, hdue, List.zip_nil_left]
    exact ⟨fun _ => nofun, fun _ p _ => by rw [hsame p.1]⟩
  cases h with
  | buffered items => exact hindependent (fun _ => .buffered items) (fun _ => rfl) rfl
  | @streaming s skip bound hlazy hheld htrim hmembers =>
    by_cases hconstructs : ∃ source members, s.mapper = .construct source members
    · obtain ⟨source, members, hmapper⟩ := hconstructs
      rw [hmapper] at hmembers
      obtain rfl : members = q.members := hmembers
      rw [Rows.pulls_eq_replicate_iff (yields_constructed hheld hmapper skip bound), htrim]
      simp only [List.getElem?_map]
      refine (forall_zipIdx_iff_forall_zip
        (fun m row => Except.ok (constructed m q.arguments.options.trim q.members row)) m₀).trans ?_
      simp only [Except.ok.injEq, constructed_eq_iff]
    · have hnone : ∀ source members, s.mapper ≠ .construct source members := by
        intro source members hmapper
        exact hconstructs ⟨source, members, hmapper⟩
      refine hindependent (fun m => .streaming (m := m) skip bound hheld) ?_
        (due_of_not_construct hnone skip bound)
      intro m
      simp only [RowStream.outcomes, Mapper.map_mappings hnone m m₀]

end Rows

theorem SessionM.mapper_of_stream {x : Execution} {r : Registry} {q : Query} {s : RowStream}
    (hprojection : x.plan.projection = q.model.projection) (h : x.stream r q = .ok s) :
    s.trim = q.arguments.options.trim ∧ s.mapper.members = q.members := by
  obtain ⟨mapper, hmapper, rfl⟩ := Execution.of_stream h
  refine ⟨rfl, ?_⟩
  simp only [MappingContext.mapper, Execution.context, hprojection] at hmapper
  unfold Query.members
  rcases hitem : q.item with _ | _ | type <;> simp only [hitem] at hmapper
  · rcases hp : q.model.projection with _ | names | members <;> simp only [hp] at hmapper <;>
      cases hmapper <;> rfl
  · cases hmapper
    rfl
  · split at hmapper
    · cases hmapper
    · cases hmapper
      rfl

theorem SessionM.fresh_of_iterate {σ : Type} {b : Backend σ} {r : Registry} {q : Query}
    {s t : Session σ} {rows : Rows} (h : (iterate b r q).runOn s = (.ok rows, t)) :
    rows.Fresh q := by
  obtain ⟨x, u, hx, h⟩ := of_runOn_bind h
  obtain ⟨stream, v, hstream, h⟩ := of_runOn_bind h
  have hplan := plan_of_execute hx
  obtain ⟨p, selection, selected, -, -, hassembled⟩ := Plan.parts_of_compile hplan
  have hprojection : x.plan.projection = q.model.projection := by rw [hassembled]; rfl
  have hok : x.stream r q = .ok stream := by
    have hlift := of_runOn_guarding hstream
    rw [runOn_lift] at hlift
    rcases hs : x.stream r q with e | stream'
    · rw [hs] at hlift
      cases hlift
    · rw [hs] at hlift
      cases hlift
      rfl
  obtain ⟨-, -, -, hheld⟩ := eq_of_stream hok
  obtain ⟨htrim, hmembers⟩ := mapper_of_stream hprojection hok
  unfold sequence at h
  split at h
  · rename_i hlazy
    cases h
    exact .streaming _ _ (Bool.and_eq_true_iff.mp hlazy).1 hheld htrim hmembers
  · simp only at h
    obtain ⟨_, _, _, h⟩ := of_runOn_bind h
    obtain ⟨items, _, _, h⟩ := of_runOn_bind h
    cases h
    exact .buffered _

/-! ## Pulls in a run -/

namespace Action

/-- The action takes the next result of the sequence at the place. -/
def pullsFrom (place : Nat) : Action → Bool
  | pull p => p == place
  | _ => false

/-- The action leaves every sequence at its place. -/
def keepsPlaces : Action → Bool
  | iterate _ => false
  | drop _ => false
  | _ => true

end Action

namespace World

open SessionM

variable {σ : Type} {b : Backend σ} {w : World σ} {a : Action} {place : Nat} {rows : Rows}

/-- What is seen of the world at each pull of the sequence at a place. -/
def atPulls {α : Type} (b : Backend σ) (place : Nat) (see : World σ → α) :
    World σ → List Action → List α
  | _, [] => []
  | w, a :: actions =>
    if a.pullsFrom place then see w :: atPulls b place see (w.step b a) actions
    else atPulls b place see (w.step b a) actions

def mappings (w : World σ) : ColumnMappings := w.factory.registry.mappings

/-- What the sequence at a place gives next. -/
def pull (place : Nat) (w : World σ) : Pull :=
  w.held[place]?.bind fun rows => (rows.next w.mappings).1

theorem eq_pull_of_pullsFrom (h : a.pullsFrom place = true) : a = .pull place := by
  cases a with
  | pull p => simpa [Action.pullsFrom] using h
  | _ => cases h

theorem held_step_pull (h : w.held[place]? = some rows) :
    (w.step b (.pull place)).held = w.held.set place (rows.next w.mappings).2 := by
  obtain ⟨t, ht⟩ := runOn_pullNext b w.mappings rows w.factory.session
  have hwork : (w.work b (.pull place)).runOn w.factory.session =
      (.ok (w.held.set place (rows.next w.mappings).2), t) := by
    simp only [work, h]
    exact runOn_bind _ ht
  exact (step_of_ok hwork).1

theorem held_step_of_keepsPlaces (h : w.held[place]? = some rows) (hkeeps : a.keepsPlaces = true)
    (hpull : a.pullsFrom place = false) : (w.step b a).held[place]? = some rows := by
  have hwork : Triple (fun _ => True) (w.work b a) (fun held _ => held[place]? = some rows)
      (fun _ => w.held[place]? = some rows) := by
    have hsame {α : Type} {x : SessionM σ α} : Triple (fun _ => True) (do let _ ← x; return w.held)
        (fun held _ => held[place]? = some rows) (fun _ => w.held[place]? = some rows) :=
      .bind (.of_forall fun _ => h) fun _ => .pure fun _ _ => h
    cases a with
    | create arguments item => exact .pure fun _ _ => h
    | addMapping field column => exact .pure fun _ _ => h
    | addTransformation type field t => exact .pure fun _ _ => h
    | iterate q => cases hkeeps
    | drop place => cases hkeeps
    | pull other =>
      have hne : other ≠ place := by simpa [Action.pullsFrom] using hpull
      simp only [work]
      split
      · exact .pure fun _ _ => h
      · refine .bind (.of_forall fun _ => h) fun pulled => .pure fun _ _ => ?_
        rw [List.getElem?_set_ne hne, h]
    | _ => exact hsame
  exact step_of_triple (I := fun held _ => held[place]? = some rows) hwork trivial

/-- What pulls give hangs on the sequence and the mappings at the pulls, and on nothing else that
is done. -/
theorem pulls_of_run (h : w.held[place]? = some rows) (actions : List Action)
    (hkeep : ∀ a ∈ actions, a.keepsPlaces = true) :
    w.atPulls b place (pull place) actions = rows.pulls (w.atPulls b place mappings actions) := by
  induction actions generalizing w rows with
  | nil => rfl
  | cons a actions ih =>
    have hrest : ∀ a ∈ actions, a.keepsPlaces = true := fun a ha =>
      hkeep a (List.mem_cons_of_mem _ ha)
    unfold atPulls
    by_cases hpull : a.pullsFrom place = true
    · obtain rfl := eq_pull_of_pullsFrom hpull
      have hlt := (List.getElem?_eq_some_iff.mp h).1
      have hafter : (w.step b (.pull place)).held[place]? = some (rows.next w.mappings).2 := by
        rw [held_step_pull h, List.getElem?_set_self hlt]
      simp only [hpull, if_true, Rows.pulls, ih hafter hrest, pull, h, Option.bind_some]
    · have hafter := held_step_of_keepsPlaces (b := b) h (hkeep a List.mem_cons_self)
        (by simpa using hpull)
      rw [if_neg hpull, if_neg hpull, ih hafter hrest]

theorem length_atPulls {α : Type} (see : World σ → α) (actions : List Action) :
    (w.atPulls b place see actions).length = actions.countP (Action.pullsFrom place) := by
  induction actions generalizing w with
  | nil => rfl
  | cons a actions ih =>
    unfold atPulls
    rw [List.countP_cons]
    split
    · rw [List.length_cons, ih]
    · rw [ih, Nat.add_zero]

/-- Pulls alone leave the mappings as they are. -/
theorem mappings_at_pulls_alone (actions : List Action) :
    w.atPulls b place mappings (actions.filter (Action.pullsFrom place)) =
      List.replicate (actions.countP (Action.pullsFrom place)) w.mappings := by
  induction actions generalizing w with
  | nil => rfl
  | cons a actions ih =>
    by_cases hpull : a.pullsFrom place = true
    · have hsame : (w.step b a).mappings = w.mappings := by
        rw [eq_pull_of_pullsFrom hpull, mappings, registry_step]
        rfl
      rw [List.filter_cons_of_pos hpull, List.countP_cons_of_pos hpull, atPulls, if_pos hpull, ih,
        hsame]
      rfl
    · rw [List.filter_cons_of_neg hpull, List.countP_cons_of_neg hpull, ih]

end World

/-- What pulls of a sequence give is what they give without all that is done in between, exactly
if the members of each row that they construct are worth the same by the mappings of the moment
and by those of the query. So it is for all queries that construct no rows, or map their results
at once, and as long as the members' fields are read from the columns of the statement. -/
theorem a_held_sequence_is_a_snapshot_but_for_fields_of_constructed_rows {σ : Type}
    (b : Backend σ) (w : World σ) (q : Query) {rows : Rows} {t : Session σ}
    (hrows : (SessionM.iterate b w.factory.registry q).runOn w.factory.session = (.ok rows, t))
    (actions : List Action) (hkeep : ∀ a ∈ actions, a.keepsPlaces = true) :
    let held := w.step b (.iterate q)
    let moments := held.atPulls b 0 World.mappings actions
    let pulled := held.atPulls b 0 (World.pull 0) actions
    let snapshot := held.atPulls b 0 (World.pull 0) (actions.filter (Action.pullsFrom 0))
    (pulled = snapshot ↔ ∀ p ∈ rows.due.zip moments, ∀ member ∈ q.members,
        member.2.SameBy p.2 w.mappings q.arguments.options.trim p.1) ∧
      (q.item ≠ .row ∨ q.model.projection.isConstruct = false ∨
          q.arguments.options.lazy = false → pulled = snapshot) ∧
      ((∀ m ∈ moments, ∀ member ∈ q.members,
          member.2.columnUses m = member.2.columnUses w.mappings) → pulled = snapshot) := by
  intro held moments pulled snapshot
  have hwork : (w.work b (.iterate q)).runOn w.factory.session = (.ok (rows :: w.held), t) :=
    SessionM.runOn_bind _ hrows
  have hheld : held.held[0]? = some rows := by
    rw [(World.step_of_ok hwork).1]
    rfl
  have hmappings : held.mappings = w.mappings := by
    rw [World.mappings, World.registry_step]
    rfl
  have hpulled : pulled = rows.pulls moments := World.pulls_of_run hheld actions hkeep
  have hsnapshot : snapshot = rows.pulls (List.replicate moments.length w.mappings) := by
    have hpulls := World.pulls_of_run (b := b) hheld (actions.filter (Action.pullsFrom 0))
      fun a ha => hkeep a (List.mem_filter.mp ha).1
    rw [World.mappings_at_pulls_alone, hmappings] at hpulls
    rw [World.length_atPulls]
    exact hpulls
  have hfresh := SessionM.fresh_of_iterate hrows
  have hexact : pulled = snapshot ↔ ∀ p ∈ rows.due.zip moments, ∀ member ∈ q.members,
      member.2.SameBy p.2 w.mappings q.arguments.options.trim p.1 := by
    rw [hpulled, hsnapshot]
    exact hfresh.pulls_eq_replicate_iff w.mappings moments
  refine ⟨hexact, ?_, ?_⟩
  · intro hfixed
    refine hexact.mpr fun p hp member hmember => ?_
    cases hfresh with
    | buffered items => cases hp
    | streaming _ _ hlazy _ _ _ =>
      have hmembers : q.members = [] := by
        rcases hfixed with hitem | hconstructs | hmapped
        · exact Query.members_eq_nil (.inl hitem)
        · exact Query.members_eq_nil (.inr hconstructs)
        · rw [hlazy] at hmapped
          cases hmapped
      rw [hmembers] at hmember
      cases hmember
  · intro hsame
    refine hexact.mpr fun p hp member hmember => ?_
    have huses := hsame p.2 (List.of_mem_zip hp).2 member hmember
    rw [Expr.SameBy, member.2.evaluate_eq_of_columnUses p.1 huses]

/-- A factory that reads names from the column `A`, over a backend that answers every statement
with two rows. -/
def namesInA : World ScriptedState :=
  (World.start "book" { lazy := true }
    { script :=
        { worksheets := ["Sheet1"]
          columns := [("*", ["A", "B"])]
          result := { columns := ["A"], rows := [[.text "x"], [.text "y"]] } } }).run scripted
    [.addMapping "name" "A"]

def namedRows : Query where
  arguments := { source := "book", options := { lazy := true } }
  model := { projection := .construct [("m", .field "name")] }

/-- Between two pulls another field is mapped and a transformation is added. -/
theorem a_mapping_of_another_field_between_two_pulls :
    ∃ rows t, (SessionM.iterate scripted namesInA.factory.registry namedRows).runOn
        namesInA.factory.session = (.ok rows, t) ∧
      (namesInA.step scripted (.iterate namedRows)).atPulls scripted 0 (World.pull 0)
          [.pull 0, .addMapping "city" "B", .addTransformation "Order" "name" .upper, .pull 0] =
        (namesInA.step scripted (.iterate namedRows)).atPulls scripted 0 (World.pull 0)
          [.pull 0, .pull 0] := by
  refine ⟨_, _, rfl, ?_⟩
  refine (a_held_sequence_is_a_snapshot_but_for_fields_of_constructed_rows scripted namesInA
    namedRows rfl _ ?_).2.2 ?_
  · simp [Action.keepsPlaces]
  · intro m hm member hmember
    change m ∈ [(⟨[("name", "A")]⟩ : ColumnMappings), ⟨[("city", "B"), ("name", "A")]⟩] at hm
    change member ∈ [("m", Expr.field "name")] at hmember
    obtain rfl := List.mem_singleton.mp hmember
    rcases List.mem_cons.mp hm with rfl | hm
    · rfl
    · obtain rfl := List.mem_singleton.mp hm
      rfl

/-- Between two pulls the names are mapped to a column that the statement did not select: the
second row has no name, which it would have had if it had been pulled before. -/
theorem a_mapping_between_two_pulls_empties_a_constructed_row :
    let held := namesInA.step scripted (.iterate namedRows)
    let named (name : Value) : Pull := some (.ok (.row ⟨["m"], [name]⟩))
    held.atPulls scripted 0 (World.pull 0) [.pull 0, .addMapping "name" "B", .pull 0] =
        [named (.text "x"), named .null] ∧
      held.atPulls scripted 0 (World.pull 0) [.pull 0, .pull 0] =
        [named (.text "x"), named (.text "y")] ∧
      named .null ≠ named (.text "y") := by
  refine ⟨rfl, rfl, ?_⟩
  simp

end GridQuery
