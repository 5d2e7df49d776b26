-- The lives of connections over a whole run of a factory. Without reuse every
-- connection that was opened is held by a sequence or was closed, once and in
-- the end; with reuse a connection stays open until the caller closes it, and no
-- other is open. A query that does not compile asks for nothing. A connection
-- that breaks by itself is asked again by the query that runs on it.
import GridQuery.Proofs.HeldSequences
import GridQuery.Proofs.LentConnections

namespace GridQuery

open SessionM

namespace World

variable {σ : Type} {b : Backend σ} {w : World σ}

def calls (w : World σ) : List Call := w.factory.session.calls

/-- A sequence in the caller's hands holds the connection. -/
def Holds (w : World σ) (n : Nat) : Prop := ∃ l ∈ leasesOf w.held, l.connection = n

theorem template_run (b : Backend σ) (w : World σ) (actions : List Action) :
    (w.run b actions).factory.template = w.factory.template := by
  induction actions using List.reverseRecOn with
  | nil => rfl
  | append_singleton actions a ih => rw [run_concat, template_step, ih]

/-! ## Queries that do not compile -/

/-- A query that does not compile fails before anything is asked for. -/
theorem session_step_of_refused {a : Action} {q : Query} {e : UnsupportedQuery}
    (hq : a.query? = some q) (h : Plan.compile q.model w.factory.registry.mappings = .error e) :
    (w.step b a).factory.session = w.factory.session := by
  have hprepare : (prepare b w.factory.registry q).runOn w.factory.session =
      (.error (.unsupported e), w.factory.session) := by
    unfold prepare
    rw [h]
    rfl
  exact (step_of_error (work_of_unprepared hq hprepare)).2

/-! ## Without reuse -/

/-- Every connection that was opened is held by a sequence, or was closed in the end. -/
structure EachCloses (b : Backend σ) (w : World σ) : Prop where
  orderly : Orderly w.calls
  held : ∀ n, w.Holds n → phaseOf n w.calls = .opened ∧ Unclosed (callsTo n w.calls)
  closed : ∀ n, ¬ w.Holds n → WasOpened (callsTo n w.calls) → ClosedInTheEnd (callsTo n w.calls)
  /-- Only a sequence that is handed out holds on to a connection after its action. -/
  handed : ∀ a n, (w.step b a).Holds n → w.Holds n ∨
    ∃ rows l, (w.step b a).held = rows :: w.held ∧ rows.lease? = some l ∧ l.connection = n
  /-- A sequence that is given up closes its connection, -/
  dropped : ∀ place rows l, w.held[place]? = some rows → rows.lease? = some l →
    ClosedInTheEnd (callsTo l.connection (w.step b (.drop place)).calls)
  /-- and so does one that comes to its end or to a row that fails. -/
  ended : ∀ place rows l, w.held[place]? = some rows → rows.lease? = some l →
    (∀ item, (rows.next w.factory.registry.mappings).1 ≠ some (.ok item)) →
    ClosedInTheEnd (callsTo l.connection (w.step b (.pull place)).calls)

theorem holds_iff (h : Owned (leasesOf w.held) w.factory.session) (n : Nat) :
    w.Holds n ↔ phaseOf n w.calls = .opened := by
  refine Iff.trans ?_ (h.opened n).symm
  constructor
  · rintro ⟨l, hl, rfl⟩
    rw [← h.owned l hl]
    exact hl
  · intro hl
    exact ⟨_, hl, rfl⟩

theorem unclosed_of_holds (h : Owned (leasesOf w.held) w.factory.session) {n : Nat}
    (hn : w.Holds n) : Unclosed (callsTo n w.calls) := by
  have htells := h.orderly.tells n
  rwa [show phaseOf n w.factory.session.calls = .opened from (holds_iff h n).mp hn] at htells

theorem owned_step {a : Action} (hunder : a.Under false)
    (htemplate : w.factory.template.options.reuse = false)
    (h : Owned (leasesOf w.held) w.factory.session) :
    Owned (leasesOf (w.step b a).held) (w.step b a).factory.session := by
  by_cases hclose : a = .close
  · subst hclose
    refine step_of_triple (I := fun held => Owned (leasesOf held)) ?_ h
    exact Triple.bind Owned.closeKept fun _ => .pure fun _ h => h
  · exact (ownConnections b).step hunder htemplate hclose h

theorem owned_start (source : String) (o : Options) (state : σ) :
    Owned (leasesOf (start source o state).held) (start source o state).factory.session where
  orderly := AtEachCall.nil
  numbered c hc := absurd hc List.not_mem_nil
  opened n := iff_of_false (fun h => by cases h) List.not_mem_nil
  unkept := rfl
  owned l hl := absurd hl List.not_mem_nil
  nodup := List.nodup_nil

theorem owned_run (source : String) {o : Options} (state : σ) (ho : o.reuse = false)
    {actions : List Action} (hunder : ∀ a ∈ actions, a.Under false) :
    let w := (World.start source o state).run b actions
    Owned (leasesOf w.held) w.factory.session := by
  intro w
  induction actions using List.reverseRecOn with
  | nil => exact owned_start source o state
  | append_singleton actions a ih =>
    have hbefore := ih fun a ha => hunder a (List.mem_append_left _ ha)
    simp only [w, run_concat]
    refine owned_step ?_ ?_ hbefore
    · exact hunder a (List.mem_append_right _ (List.mem_singleton.mpr rfl))
    · rw [template_run]
      exact ho

/-! ### The end of a sequence -/

/-- A lease that owns its connection closes it, whether that is granted or not. -/
theorem calls_release {l : Lease} (hl : l.owned = true) (s : Session σ) :
    ∃ t granted, (release b l).runOn s = (.ok (), t) ∧
      t.calls = s.calls ++ [⟨l.connection, .close, granted⟩] := by
  unfold release
  rw [if_pos hl, runOn_bind_attempt_ask]
  rcases (b.answer l.connection .close s.state).answer with e | _
  · exact ⟨_, _, rfl, rfl⟩
  · exact ⟨_, _, rfl, rfl⟩

variable {place : Nat} {rows : Rows} {l : Lease}

theorem calls_drop (hrows : w.held[place]? = some rows) (hlease : rows.lease? = some l)
    (hl : l.owned = true) :
    ∃ granted, (w.step b (.drop place)).calls = w.calls ++ [⟨l.connection, .close, granted⟩] := by
  obtain ⟨t, granted, ht, hcalls⟩ := calls_release (b := b) hl w.factory.session
  refine ⟨granted, ?_⟩
  have hrun : (w.work b (.drop place)).runOn w.factory.session =
      (.ok (w.held.eraseIdx place), t) := by
    simp only [work, hrows, drop, hlease]
    exact runOn_bind _ (runOn_bind _ ht)
  rw [calls, (step_of_ok hrun).2, hcalls]
  rfl

theorem runOn_pullNext_of_end {m : ColumnMappings} {s t : Session σ}
    (hlease : rows.lease? = some l) (hend : ∀ item, (rows.next m).1 ≠ some (.ok item))
    (ht : (release b l).runOn s = (.ok (), t)) :
    (pullNext b m rows).runOn s = (.ok (rows.next m), t) := by
  have hgone : (rows.next m).2.lease? = none := by
    rw [rows.lease?_next m]
    rcases hpull : (rows.next m).1 with _ | e | item
    · rfl
    · rfl
    · exact absurd hpull (hend item)
  unfold pullNext
  rcases hnext : rows.next m with ⟨pull, after⟩
  rw [hnext] at hgone
  simp only at hgone
  simp only [hgone, Option.isNone_none, if_true, hlease]
  exact runOn_bind _ (runOn_bind _ ht)

/-- A pull that gives no result ends the sequence. -/
theorem calls_pull (hrows : w.held[place]? = some rows) (hlease : rows.lease? = some l)
    (hl : l.owned = true)
    (hend : ∀ item, (rows.next w.factory.registry.mappings).1 ≠ some (.ok item)) :
    ∃ granted, (w.step b (.pull place)).calls = w.calls ++ [⟨l.connection, .close, granted⟩] := by
  obtain ⟨t, granted, ht, hcalls⟩ := calls_release (b := b) hl w.factory.session
  refine ⟨granted, ?_⟩
  have hrun : (w.work b (.pull place)).runOn w.factory.session =
      (.ok (w.held.set place (rows.next w.factory.registry.mappings).2), t) := by
    simp only [work, hrows]
    exact runOn_bind _ (runOn_pullNext_of_end hlease hend ht)
  rw [calls, (step_of_ok hrun).2, hcalls]
  rfl

theorem closedInTheEnd_concat {calls : List Call} {n : Nat} {granted : Bool}
    (h : Unclosed (callsTo n calls)) :
    ClosedInTheEnd (callsTo n (calls ++ [⟨n, .close, granted⟩])) := by
  rw [callsTo_concat, if_pos rfl]
  exact ⟨_, _, rfl, rfl, h⟩

theorem holds_of_lease (hrows : w.held[place]? = some rows) (hlease : rows.lease? = some l) :
    l ∈ leasesOf w.held :=
  List.mem_filterMap.mpr ⟨rows, List.mem_of_getElem? hrows, hlease⟩

/-- Of the sequences after an action at most the first is new, or no lease is. -/
def Follows (w : World σ) (held : List Rows) : Prop :=
  leasesOf held ⊆ leasesOf w.held ∨ ∃ rows, held = rows :: w.held

theorem follows_step (b : Backend σ) (w : World σ) (a : Action) : w.Follows (w.step b a).held := by
  have hnone : w.Follows w.held := .inl (List.Subset.refl _)
  refine step_of_triple (P := fun _ => True) (I := fun held _ => w.Follows held) ?_ trivial
  have hkeep : Triple (fun _ => True) (pure w.held : SessionM σ (List Rows))
      (fun held _ => w.Follows held) (fun _ => w.Follows w.held) := .pure fun _ _ => hnone
  have hsame {α : Type} (x : SessionM σ α) : Triple (fun _ => True) (do let _ ← x; return w.held)
      (fun held _ => w.Follows held) (fun _ => w.Follows w.held) :=
    .bind (.of_forall fun _ => hnone) fun _ => hkeep
  cases a with
  | create arguments item => exact hkeep
  | addMapping field column => exact hkeep
  | addTransformation type field t => exact hkeep
  | iterate q =>
    exact .bind (.of_forall fun _ => hnone) fun rows => .pure fun _ _ => .inr ⟨rows, rfl⟩
  | pull place =>
    simp only [work]
    split
    · exact hkeep
    · rename_i rows hrows
      refine .bind (Q := fun out _ => out.2.lease?.toList ⊆ rows.lease?.toList) ?_ ?_
      · intro s _
        obtain ⟨t, ht⟩ := runOn_pullNext b w.factory.registry.mappings rows s
        rw [ht]
        exact rows.lease?_next_subset w.factory.registry.mappings
      · rintro ⟨pull, after⟩
        refine .pure fun _ hafter => .inl ?_
        refine List.Subset.trans (leasesOf_set_perm hrows after).subset
          (List.Subset.trans ?_ (leasesOf_perm hrows).symm.subset)
        exact List.append_subset.mpr
          ⟨List.subset_append_of_subset_left _ hafter, List.subset_append_right _ _⟩
  | drop place =>
    simp only [work]
    split
    · exact hkeep
    · rename_i rows hrows
      refine .bind (.of_forall fun _ => hnone) fun _ => .pure fun _ _ => .inl ?_
      exact List.Subset.trans (List.subset_append_right _ _) (leasesOf_perm hrows).symm.subset
  | _ => exact hsame _

theorem handed_step {a : Action} {n : Nat} (h : (w.step b a).Holds n) : w.Holds n ∨
    ∃ rows l, (w.step b a).held = rows :: w.held ∧ rows.lease? = some l ∧ l.connection = n := by
  obtain ⟨l, hl, hconnection⟩ := h
  rcases follows_step b w a with hsubset | ⟨rows, hrows⟩
  · exact .inl ⟨l, hsubset hl, hconnection⟩
  · rw [hrows, leasesOf_cons] at hl
    rcases List.mem_append.mp hl with hl | hl
    · exact .inr ⟨rows, l, hrows, Option.mem_toList.mp hl, hconnection⟩
    · exact .inl ⟨l, hl, hconnection⟩

theorem eachCloses_of_owned (h : Owned (leasesOf w.held) w.factory.session) : w.EachCloses b where
  orderly := h.orderly
  handed a n hn := handed_step hn
  held n hn := ⟨(holds_iff h n).mp hn, unclosed_of_holds h hn⟩
  closed n hn hopened := by
    rcases h.orderly.of_opened hopened with ⟨hphase, -⟩ | ⟨-, hclosed⟩
    · exact absurd ((holds_iff h n).mpr hphase) hn
    · exact hclosed
  dropped place rows l hrows hlease := by
    have hl := holds_of_lease hrows hlease
    obtain ⟨granted, hcalls⟩ := calls_drop (b := b) hrows hlease (h.owned l hl)
    rw [hcalls]
    exact closedInTheEnd_concat (unclosed_of_holds h ⟨l, hl, rfl⟩)
  ended place rows l hrows hlease hend := by
    have hl := holds_of_lease hrows hlease
    obtain ⟨granted, hcalls⟩ := calls_pull (b := b) hrows hlease (h.owned l hl) hend
    rw [hcalls]
    exact closedInTheEnd_concat (unclosed_of_holds h ⟨l, hl, rfl⟩)

/-! ## With reuse -/

/-- The connection that is kept is open, and only the caller closes it. -/
structure KeepsOpen (b : Backend σ) (w : World σ) : Prop where
  orderly : Orderly w.calls
  opened : ∀ n, w.factory.session.persistent = some n → phaseOf n w.calls = .opened
  /-- Whatever else the caller does and however it ends, what is open stays open. -/
  kept : ∀ a, a.Under true → a ≠ .close →
    (∃ new, (w.step b a).calls = w.calls ++ new ∧ Unclosed new) ∧
      ∀ n, phaseOf n w.calls = .opened → phaseOf n (w.step b a).calls = .opened
  /-- A connection stays in place for the next query; one that broke may be replaced. -/
  inPlace : ∀ a, a.Under true → a ≠ .close → w.factory.session.persistent.isSome = true →
    (w.step b a).factory.session.persistent.isSome = true
  closes : (w.step b .close).factory.session.persistent = none ∧
    ∀ n, w.factory.session.persistent = some n → phaseOf n (w.step b .close).calls = .gone

/-- No connection but the one that is kept is open. -/
structure KeepsOne (b : Backend σ) (w : World σ) : Prop extends KeepsOpen b w where
  /-- A connection is made only while none is open. -/
  exclusive : Exclusive w.calls
  one : ∀ before after, w.calls = before ++ after → ∀ n k,
    phaseOf n before = .opened → phaseOf k before = .opened → n = k
  /-- The backend takes it for open. -/
  known : ∀ n, phaseOf n w.calls = .opened → b.isOpen n w.factory.session.state = true
  closed : ∀ n, phaseOf n (w.step b .close).calls ≠ .opened

def Keeping (b : Backend σ) (w : World σ) : Prop :=
  Borrowed b w.factory.session w.factory.session.persistent (leasesOf w.held) w.factory.session

theorem keeping_start (source : String) (o : Options) (state : σ) :
    (start source o state).Keeping b where
  orderly := AtEachCall.nil
  numbered c hc := absurd hc List.not_mem_nil
  kept := nofun
  since := .refl _
  lasts := id
  borrowed l hl := absurd hl List.not_mem_nil
  single _ :=
    { orderly := AtEachCall.nil
      numbered := fun c hc => absurd hc List.not_mem_nil
      opened := fun n => iff_of_false (fun h => by cases h) (fun h => by cases h)
      exclusive := AtEachCall.nil
      known := nofun }

theorem borrowed_step {a : Action} (hunder : a.Under true)
    (htemplate : w.factory.template.options.reuse = true) (hclose : a ≠ .close) (h : w.Keeping b) :
    Borrowed b w.factory.session (w.step b a).factory.session.persistent
      (leasesOf (w.step b a).held) (w.step b a).factory.session :=
  (keptConnection b w.factory.session).step hunder htemplate hclose h

theorem keeping_close (h : w.Keeping b) :
    ((w.step b .close).Keeping b ∧ (w.step b .close).factory.session.persistent = none) ∧
      ∀ n, w.factory.session.persistent = some n → phaseOf n (w.step b .close).calls = .gone := by
  refine step_of_triple
    (P := fun s => Borrowed b w.factory.session s.persistent (leasesOf w.held) s ∧
      s.persistent = w.factory.session.persistent)
    (I := fun held s => (Borrowed b s s.persistent (leasesOf held) s ∧ s.persistent = none) ∧
      ∀ n, w.factory.session.persistent = some n → phaseOf n s.calls = .gone)
    ?_ ⟨h, rfl⟩
  exact Triple.bind Borrowed.closeKept fun _ => .pure fun _ h => h

theorem keeping_step {a : Action} (hunder : a.Under true)
    (htemplate : w.factory.template.options.reuse = true) (h : w.Keeping b) :
    (w.step b a).Keeping b := by
  by_cases hclose : a = .close
  · subst hclose
    exact (keeping_close h).1.1
  · exact (borrowed_step hunder htemplate hclose h).rebase

theorem keeping_run (source : String) {o : Options} (state : σ) (ho : o.reuse = true)
    {actions : List Action} (hunder : ∀ a ∈ actions, a.Under true) :
    ((World.start source o state).run b actions).Keeping b := by
  induction actions using List.reverseRecOn with
  | nil => exact keeping_start source o state
  | append_singleton actions a ih =>
    have hbefore := ih fun a ha => hunder a (List.mem_append_left _ ha)
    rw [run_concat]
    refine keeping_step ?_ ?_ hbefore
    · exact hunder a (List.mem_append_right _ (List.mem_singleton.mpr rfl))
    · rw [template_run]
      exact ho

theorem keepsOpen_of_keeping (htemplate : w.factory.template.options.reuse = true)
    (h : w.Keeping b) : w.KeepsOpen b where
  orderly := h.orderly
  opened := h.kept
  kept := by
    intro a hunder hclose
    have hafter := borrowed_step hunder htemplate hclose h
    obtain ⟨new, hnew, hunclosed⟩ := hafter.since
    refine ⟨⟨new, hnew, hunclosed⟩, fun n hn => ?_⟩
    have horderly : Orderly (w.calls ++ new) := hnew ▸ hafter.orderly
    rw [calls, hnew]
    exact horderly.opened_of_append hunclosed hn
  inPlace a hunder hclose := (borrowed_step hunder htemplate hclose h).lasts
  closes := ⟨(keeping_close h).1.2, (keeping_close h).2⟩

theorem keepsOne_of_keeping (hsteady : b.Steady)
    (htemplate : w.factory.template.options.reuse = true) (h : w.Keeping b) : w.KeepsOne b where
  toKeepsOpen := keepsOpen_of_keeping htemplate h
  exclusive := (h.single hsteady).exclusive
  one := by
    intro before after hcalls n k hn hk
    have hexclusive : Exclusive (before ++ after) := hcalls ▸ (h.single hsteady).exclusive
    exact Exclusive.eq_of_opened hexclusive.of_append hn hk
  known n hn := (h.single hsteady).known n (((h.single hsteady).opened n).mp hn)
  closed := by
    intro n hn
    obtain ⟨⟨hafter, hnone⟩, -⟩ := keeping_close h
    have hcurrent := ((hafter.single hsteady).opened n).mp hn
    rw [hnone] at hcurrent
    cases hcurrent

end World

/-! ## Every run -/

def twoRows : ScriptedState :=
  { script := {
      worksheets := ["Sheet1"]
      columns := [("*", ["A"])]
      result := { columns := ["A"], rows := [[.int 1], [.int 2]] } } }

def bookRows (o : Options) : Query := { arguments := { source := "book", options := o } }

/-- Another query is run and names are asked for while a sequence is held. -/
def busyRun (o : Options) : List Action :=
  [.iterate (bookRows o), .count (bookRows o), .worksheetNames, .pull 0, .drop 0, .close]

/-- The numbers of the connections that were called, with what they were asked for. -/
def World.labels {σ : Type} (w : World σ) : List (Nat × String) :=
  w.calls.map fun c => (c.connection, c.request.label)

theorem busyRun_under (o : Options) : ∀ a ∈ busyRun o, a.Under o.reuse := by
  intro a ha q hq
  simp only [busyRun, List.mem_cons, List.not_mem_nil, or_false] at ha
  rcases ha with rfl | rfl | rfl | rfl | rfl | rfl <;> cases hq <;> rfl

/-- A workbook of one column and two rows, for the bundled engine. -/
def twoRowBook : Engine :=
  { source := .workbook
      { sheets := [{ name := "Sheet1", rows := [[.text "A"], [.int 1], [.int 2]] }] } }

/-- The open connections, and what was asked of others. -/
structure BreakingState where
  opened : List Nat := []
  stray : List (Nat × String) := []

namespace BreakingState

/-- Notes a request to a connection that is not open. -/
def note (s : BreakingState) (n : Nat) (request : Request) : BreakingState :=
  if s.opened.contains n then s else { s with stray := s.stray ++ [(n, request.label)] }

/-- What is asked, and the state after it. A statement closes all connections. -/
def after (s : BreakingState) (n : Nat) : Request → BreakingState
  | .connect _ => s
  | .openUp => { s with opened := n :: s.opened }
  | .execute statement => { s.note n (.execute statement) with opened := [] }
  | .close => { s.note n .close with opened := s.opened.filter (· != n) }
  | request => s.note n request

end BreakingState

/-- A backend whose connections break when a statement is run, which then fails. -/
def breaking : Backend BreakingState where
  isOpen n s := s.opened.contains n
  answer n request s :=
    { state := s.after n request
      answer :=
        match request with
        | .connect _ | .openUp | .close => .ok ()
        | .worksheetNames => .ok ["Sheet1"]
        | .namedRanges => .ok []
        | .columnNames _ => .ok ["A"]
        | .execute _ => .error (.engine "the connection to Sheet1 is lost") }

/-- One query on such a backend, with one connection for all queries. -/
def brokenWorld : World BreakingState :=
  (World.start "book" { reuse := true } {}).run breaking [.count (bookRows { reuse := true })]

end GridQuery
