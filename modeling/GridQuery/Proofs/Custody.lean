-- Who holds a connection while queries run. Every query takes a lease and
-- gives it up on each way on which it can end, or hands it on to its sequence.
-- What a way of lending connections keeps true of leases that are taken, used
-- and given up, all actions of a caller keep true.
import GridQuery.Proofs.CallRecord
import GridQuery.Proofs.SessionRules

namespace GridQuery

/-! ## Lending connections -/

open SessionM

/-- A way of lending connections to queries that run under some options: what holds while no
query runs and sequences hold some leases, and what holds while a query runs under a lease. -/
structure Custody {σ : Type} (b : Backend σ) (reuse : Bool) where
  Idle : List Lease → Session σ → Prop
  Busy : Lease → List Lease → Session σ → Prop
  idle_logFree : ∀ held, LogFree (Idle held)
  busy_logFree : ∀ l held, LogFree (Busy l held)
  idle_perm : ∀ {held held' s}, held.Perm held' → Idle held s → Idle held' s
  /-- A query hands its lease on to its sequence. -/
  idle_of_busy : ∀ {l held s}, Busy l held s → Idle (l :: held) s
  take : ∀ (a : QueryArguments) (held : List Lease), a.options.reuse = reuse →
    Triple (Idle held) (lease b a) (fun l => Busy l held) (Idle held)
  use : ∀ (l : Lease) (held : List Lease) (request : Request), request.isQuiet = true →
    Keeps (Busy l held) (ask b l.connection request)
  giveUp : ∀ (l : Lease) (held : List Lease),
    Triple (Idle (l :: held)) (release b l) (fun _ => Idle held) fun _ => False

namespace Custody

variable {σ α : Type} {b : Backend σ} {reuse : Bool} (D : Custody b reuse) {r : Registry}
  {a : QueryArguments} {l : Lease} {held : List Lease} {Q : α → Session σ → Prop}
  {x : SessionM σ α}

/-! ### Under a lease -/

theorem keeps_findWorksheet : Keeps (D.Busy l held)
    (a.findWorksheet (attempt (ask b l.connection .worksheetNames))) :=
  .findWorksheet (D.use l held .worksheetNames rfl)

theorem keeps_findTable : Keeps (D.Busy l held) (findTable b r a l) :=
  .findTable (D.use l held .worksheetNames rfl) (D.busy_logFree l held)

theorem keeps_diagnose (st : Statement) (e : Error) :
    Keeps (D.Busy l held) (diagnose b l a st e) := by
  have hworksheet : ∀ cause, Keeps (D.Busy l held) (explainWorksheet b l a st cause) := by
    intro cause
    unfold explainWorksheet
    split
    · refine .bind (D.use l held .worksheetNames rfl).attempt ?_
      rintro (e | names)
      · exact .pure _
      · simp only
        split
        · exact .pure _
        · exact .pure _
    · exact .pure _
  have hcolumn : Keeps (D.Busy l held) (explainColumn b l st) := by
    unfold explainColumn
    refine .bind (D.use l held (.columnNames st.table) rfl).attempt ?_
    rintro (e | names)
    · exact .pure _
    · exact .pure _
  unfold diagnose
  split
  · refine .bind (hworksheet _) ?_
    rintro (_ | explained)
    · exact .bind hcolumn fun _ => .pure _
    · exact .pure _
  · exact .pure _

theorem runPrepared (p : Prepared) :
    Triple (D.Busy p.lease held) (runPrepared b r a p) (fun x => D.Busy x.lease held)
      (D.Busy p.lease held) := by
  have hrun : Keeps (D.Busy p.lease held) (runStatement b p.lease a p.statement) := by
    unfold runStatement
    refine .bind (D.use p.lease held (.execute p.statement) rfl).attempt ?_
    rintro (e | result)
    · exact .bind (D.keeps_diagnose p.statement e) fun _ => .throw _
    · exact .pure _
  have hlog := D.busy_logFree p.lease held
  unfold SessionM.runPrepared
  refine .bind (Keeps.report hlog _) fun _ => .bind hrun fun result => ?_
  refine .bind (D.use p.lease held (.columnNames p.statement.table) rfl) fun schema => ?_
  exact .bind (Keeps.reportEach hlog _) fun _ => .pure fun _ h => h

/-- A query gives its lease up, which never fails. -/
theorem release {E : Session σ → Prop} :
    Triple (D.Busy l held) (release b l) (fun _ => D.Idle held) E :=
  (D.giveUp l held).mono (fun _ => D.idle_of_busy) (fun _ _ h => h) nofun

theorem releaseHeld {E : Session σ → Prop} (l : Option Lease) :
    Triple (D.Idle (l.toList ++ held)) (releaseHeld b l) (fun _ => D.Idle held) E := by
  rcases l with _ | l
  · exact .pure fun _ h => h
  · exact .bind ((D.giveUp l held).mono (fun _ h => h) (fun _ _ h => h) nofun) fun _ =>
      .pure fun _ h => h

theorem guarding (hx : Triple (D.Busy l held) x Q (D.Busy l held)) :
    Triple (D.Busy l held) (guarding b l x) Q (D.Idle held) :=
  Triple.guarding hx D.release

theorem during (hx : Keeps (D.Busy l held) x) :
    Triple (D.Busy l held) (during b l x) (fun _ => D.Idle held) (D.Idle held) := by
  unfold SessionM.during
  exact .bind (D.guarding hx) fun c => .bind D.release fun _ => .pure fun _ h => h

/-! ### Queries -/

/-- A stream holds the lease of its query. -/
theorem lease_of_stream {x : Execution} {q : Query} {s : RowStream}
    (h : (x.stream r q).mapError Error.strict = .ok s) : s.lease = some x.lease := by
  rcases hstream : x.stream r q with e | s'
  · rw [hstream] at h
    cases h
  · rw [hstream] at h
    cases h
    obtain ⟨mapper, -, rfl⟩ := Execution.of_stream hstream
    rfl

variable {q : Query}

theorem prepare (hq : q.arguments.options.reuse = reuse) :
    Triple (D.Idle held) (prepare b r q) (fun p => D.Busy p.lease held) (D.Idle held) := by
  unfold SessionM.prepare
  refine .bind (.lift (fun _ _ _ h => h) fun _ h => h) fun plan => ?_
  refine .bind (D.take q.arguments held hq) fun l => ?_
  exact .bind (D.guarding D.keeps_findTable) fun table => .pure fun _ h => h

theorem execute (hq : q.arguments.options.reuse = reuse) :
    Triple (D.Idle held) (execute b r q) (fun x => D.Busy x.lease held) (D.Idle held) := by
  unfold SessionM.execute
  exact .bind (D.prepare hq) fun p => D.guarding (D.runPrepared p)

theorem sequence {m : ColumnMappings} {isLazy : Bool} {d : Deferred} {s : RowStream} :
    Triple (D.Idle (s.lease.toList ++ held)) (sequence b m isLazy d s)
      (fun rows => D.Idle (rows.lease?.toList ++ held)) (D.Idle held) := by
  unfold SessionM.sequence
  split
  · exact .pure fun _ h => h
  · refine .bind (D.releaseHeld s.lease) fun _ => ?_
    exact .bind (.lift (fun _ _ _ h => h) fun _ h => h) fun items => .pure fun _ h => h

theorem resultsOf {isLazy : Bool} (hq : q.arguments.options.reuse = reuse) :
    Triple (D.Idle held) (resultsOf b r q isLazy)
      (fun rows => D.Idle (rows.lease?.toList ++ held)) (D.Idle held) := by
  unfold SessionM.resultsOf
  refine .bind (D.execute hq) fun x => ?_
  have hstream : Triple (D.Busy x.lease held) (lift ((x.stream r q).mapError Error.strict))
      (fun s => D.Idle (s.lease.toList ++ held)) (D.Busy x.lease held) := by
    refine .lift ?_ fun _ h => h
    intro s t hs ht
    rw [lease_of_stream hs]
    exact D.idle_of_busy ht
  exact .bind (D.guarding hstream) fun s => D.sequence

/-! ### What a query gives -/

theorem toList (hq : q.arguments.options.reuse = reuse) : Keeps (D.Idle held) (toList b r q) := by
  unfold SessionM.toList
  refine Triple.bind (D.resultsOf hq) fun rows => ?_
  exact .bind (D.releaseHeld rows.lease?) fun _ => .lift (fun _ _ _ h => h) fun _ h => h

theorem element {op : ElementOp} (hq : q.arguments.options.reuse = reuse) :
    Keeps (D.Idle held) (element b r q op) := by
  unfold SessionM.element
  refine Triple.bind (D.resultsOf hq) fun rows => ?_
  refine .bind (D.releaseHeld rows.lease?) fun _ => ?_
  exact .bind (.lift (fun _ _ _ h => h) fun _ h => h) fun items =>
    .lift (fun _ _ _ h => h) fun _ h => h

theorem aggregate {f : Aggregate} (hq : q.arguments.options.reuse = reuse) :
    Keeps (D.Idle held) (aggregate b r q f) := by
  unfold SessionM.aggregate
  exact Triple.bind (D.execute hq) fun x => .bind D.release fun _ => .pure fun _ h => h

theorem statement (hq : q.arguments.options.reuse = reuse) :
    Keeps (D.Idle held) (statement b r q) := by
  unfold SessionM.statement
  exact Triple.bind (D.prepare hq) fun p => .bind D.release fun _ => .pure fun _ h => h

end Custody

end GridQuery
