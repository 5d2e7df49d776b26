-- What a caller does with a factory: queries are created and run, sequences
-- are held, pulled from and given up, mappings are added, and the kept
-- connection is closed. A run is a list of such actions; the failure of one
-- does not end it.
import GridQuery.Factory

namespace GridQuery

/-! ## Actions -/

/-- One thing that a caller does. -/
inductive Action
  | create (arguments : QueryArguments) (item : ItemType)
  | addMapping (field column : String)
  | addTransformation (type field : String) (transformation : Transformation)
  | statement (q : Query)
  | iterate (q : Query)
  | toList (q : Query)
  | aggregate (q : Query) (a : Aggregate)
  | count (q : Query)
  | longCount (q : Query)
  | element (q : Query) (op : ElementOp)
  | requiredElement (q : Query) (op : ElementOp)
  /-- Takes the next result of the sequence at a place. -/
  | pull (place : Nat)
  /-- Gives the sequence at a place up. -/
  | drop (place : Nat)
  | worksheetNames
  | namedRanges
  | columnNames (worksheet : String)
  | namedRangeColumnNames (name : String)
  | close

namespace Action

/-- The query that an action runs, with the operator that the action adds. -/
def query? : Action → Option Query
  | statement q => some q
  | iterate q => some q
  | toList q => some q
  | aggregate q a => some (q.operator (.aggregate a))
  | count q => some (q.operator (.aggregate .count))
  | longCount q => some (q.operator (.aggregate .longCount))
  | element q op => some (q.operator (.element op))
  | requiredElement q op => some (q.operator (.element op))
  | _ => none

/-- The query that an action runs reuses connections, or does not. -/
def Under (reuse : Bool) (a : Action) : Prop :=
  ∀ q, a.query? = some q → q.arguments.options.reuse = reuse

end Action

/-! ## Runs -/

/-- The factory after what an action changes in it besides its session. -/
def Factory.configured {σ : Type} (f : Factory σ) : Action → Factory σ
  | .create arguments item => (f.create arguments item).2
  | .addMapping field column => f.addMapping field column
  | .addTransformation type field t => f.addTransformation type field t
  | _ => f

/-- The arguments, if they are accepted. -/
def SessionM.accepted {σ : Type} (a : QueryArguments) : SessionM σ QueryArguments :=
  lift (a.build.mapError Error.arguments)

/-- A factory and the sequences of results that a caller holds, the newest first. -/
structure World (σ : Type) where
  factory : Factory σ
  held : List Rows := []

namespace World

variable {σ : Type}

/-- The world before the first action. -/
def start (source : String) (options : Options) (state : σ) : World σ :=
  { factory := .ofSource source options state }

/-- What an action does in the session of the factory, with the sequences held after it. -/
def work (b : Backend σ) (w : World σ) : Action → SessionM σ (List Rows)
  | .statement q => do
    let _ ← SessionM.statement b w.factory.registry q
    return w.held
  | .iterate q => do
    let rows ← SessionM.iterate b w.factory.registry q
    return rows :: w.held
  | .toList q => do
    let _ ← SessionM.toList b w.factory.registry q
    return w.held
  | .aggregate q a => do
    let _ ← SessionM.aggregate b w.factory.registry q a
    return w.held
  | .count q => do
    let _ ← SessionM.count b w.factory.registry q
    return w.held
  | .longCount q => do
    let _ ← SessionM.longCount b w.factory.registry q
    return w.held
  | .element q op => do
    let _ ← SessionM.element b w.factory.registry q op
    return w.held
  | .requiredElement q op => do
    let _ ← SessionM.requiredElement b w.factory.registry q op
    return w.held
  | .pull place =>
    match w.held[place]? with
    | none => return w.held
    | some rows => do
      let (_, after) ← SessionM.pullNext b w.factory.registry.mappings rows
      return w.held.set place after
  | .drop place =>
    match w.held[place]? with
    | none => return w.held
    | some rows => do
      SessionM.drop b rows
      return w.held.eraseIdx place
  | .worksheetNames => do
    let _ ← SessionM.accepted w.factory.template >>= SessionM.worksheetNames b
    return w.held
  | .namedRanges => do
    let _ ← SessionM.accepted w.factory.template >>= SessionM.namedRanges b
    return w.held
  | .columnNames worksheet => do
    let _ ← SessionM.accepted (w.factory.template.onWorksheet worksheet) >>= SessionM.columnNames b
    return w.held
  | .namedRangeColumnNames name => do
    let _ ← SessionM.accepted (w.factory.template.onNamedRange name) >>= SessionM.columnNames b
    return w.held
  | .close => do
    SessionM.closeKept b
    return w.held
  | _ => return w.held

/-- The world after an action. What fails leaves the sequences as they are. -/
def step (b : Backend σ) (w : World σ) (a : Action) : World σ :=
  match (w.factory.configured a).run (w.work b a) with
  | (.ok held, factory) => { factory, held }
  | (.error _, factory) => { w with factory }

def run (b : Backend σ) (w : World σ) (actions : List Action) : World σ := actions.foldl (step b) w

theorem run_append (b : Backend σ) (w : World σ) (before after : List Action) :
    w.run b (before ++ after) = (w.run b before).run b after :=
  List.foldl_append ..

theorem run_concat (b : Backend σ) (w : World σ) (actions : List Action) (a : Action) :
    w.run b (actions ++ [a]) = (w.run b actions).step b a :=
  run_append b w actions [a]

end World

namespace World

variable {σ : Type} (b : Backend σ) (w : World σ) (a : Action)

/-- Apart from its session, a factory after an action is the factory that the action configures. -/
theorem factory_step :
    (w.step b a).factory = { w.factory.configured a with
      session := (w.step b a).factory.session } := by
  unfold step
  rcases h : (w.factory.configured a).run (w.work b a) with ⟨e | held, f⟩ <;>
  · obtain ⟨-, rfl⟩ := Prod.mk.inj h
    rfl

theorem registry_step : (w.step b a).factory.registry = (w.factory.configured a).registry := by
  rw [factory_step]

theorem registered_step :
    (w.step b a).factory.registered = (w.factory.configured a).registered := by
  rw [factory_step]

theorem template_step : (w.step b a).factory.template = w.factory.template := by
  rw [factory_step]
  cases a with
  | create arguments item =>
    simp only [Factory.configured, Factory.create]
    split
    · rfl
    · cases item with
      | record r =>
        simp only [Factory.register]
        split <;> rfl
      | _ => rfl
  | _ => rfl

end World

end GridQuery
