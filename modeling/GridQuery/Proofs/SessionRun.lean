-- Runs of a session, opened step by step: what a query gives once its
-- statement was run. Giving up a lease never fails, so what is taken from the
-- rows is what the whole run gives.
import GridQuery.Proofs.Pulling
import GridQuery.Session.Run

namespace GridQuery

/-! ## Streams -/

namespace Execution

/-- What the rows of an execution are mapped by. -/
def context (x : Execution) (r : Registry) (q : Query) : MappingContext where
  columns := x.result.columns
  schema := x.schema
  mappings := r.mappings
  transformations := r.transformations
  strict := q.arguments.options.strict
  projection := x.plan.projection

variable {x : Execution} {r : Registry} {q : Query}

/-- A stream has the mapper of its query, all rows and the lease. -/
theorem of_stream {s : RowStream} (h : x.stream r q = .ok s) :
    ∃ mapper, (x.context r q).mapper q.item = .ok mapper ∧
      s = { rows := x.result.rows, mapper, trim := q.arguments.options.trim
            skipEmpty := q.arguments.options.skipEmpty, lease := some x.lease } := by
  unfold stream at h
  change ((x.context r q).mapper q.item).bind _ = .ok s at h
  rcases hmapper : (x.context r q).mapper q.item with e | mapper
  · rw [hmapper] at h
    cases h
  · rw [hmapper] at h
    cases h
    exact ⟨mapper, rfl, rfl⟩

/-- Rows without a mapper make no stream. -/
theorem stream_of_error {e : StrictError} (h : (x.context r q).mapper q.item = .error e) :
    x.stream r q = .error e := by
  unfold stream
  change ((x.context r q).mapper q.item).bind _ = .error e
  rw [h]
  rfl

end Execution

namespace SessionM

variable {σ α β : Type}

/-- The outcome of a run that starts in a session, and the session after it. -/
def runOn (x : SessionM σ α) (s : Session σ) : Except Error α × Session σ := x.run.run s

/-! ## Steps -/

theorem runOn_bind {x : SessionM σ α} {s t : Session σ} {a : α} (f : α → SessionM σ β)
    (h : x.runOn s = (.ok a, t)) : (x >>= f).runOn s = (f a).runOn t := by
  simp only [runOn, ExceptT.run_bind, StateT.run_bind] at h ⊢
  rw [h]
  rfl

/-- A run that ends well comes through both of its steps. -/
theorem of_runOn_bind {x : SessionM σ α} {f : α → SessionM σ β} {s t : Session σ} {b : β}
    (h : (x >>= f).runOn s = (.ok b, t)) :
    ∃ a u, x.runOn s = (.ok a, u) ∧ (f a).runOn u = (.ok b, t) := by
  rcases hx : x.runOn s with ⟨e | a, u⟩
  · simp only [runOn, ExceptT.run_bind, StateT.run_bind] at h hx
    rw [hx] at h
    cases h
  · rw [runOn_bind f hx] at h
    exact ⟨a, u, rfl, h⟩

theorem runOn_lift (x : Except Error α) (s : Session σ) : (lift x).runOn s = (x, s) := rfl

theorem runOn_liftField (a : α) (s : Session σ) :
    (liftField (.ok a)).runOn s = (.ok a, s) := rfl

theorem runOn_attempt (x : SessionM σ α) (s : Session σ) :
    (attempt x).runOn s = (.ok (x.runOn s).1, (x.runOn s).2) := rfl

/-- A step under a lease that does not fail is the step alone. -/
theorem runOn_guarding {b : Backend σ} {l : Lease} {x : SessionM σ α} {s t : Session σ} {a : α}
    (h : x.runOn s = (.ok a, t)) : (guarding b l x).runOn s = (.ok a, t) := by
  unfold guarding
  rw [runOn_bind _ (runOn_attempt x s), h]
  rfl

/-- A step under a lease that ends well is one that does not fail. -/
theorem of_runOn_guarding {b : Backend σ} {l : Lease} {x : SessionM σ α} {s t : Session σ} {a : α}
    (h : (guarding b l x).runOn s = (.ok a, t)) : x.runOn s = (.ok a, t) := by
  unfold guarding at h
  rw [runOn_bind _ (runOn_attempt x s)] at h
  rcases hx : x.runOn s with ⟨e | c, u⟩
  · rw [hx] at h
    obtain ⟨_, v, _, hthrow⟩ := of_runOn_bind h
    cases hthrow
  · rw [hx] at h
    exact h

/-- A step under a lease that fails gives the lease up. -/
theorem runOn_guarding_error {b : Backend σ} {l : Lease} {x : SessionM σ α} {s t u : Session σ}
    {e : Error} (h : x.runOn s = (.error e, t)) (hrelease : (release b l).runOn t = (.ok (), u)) :
    (guarding b l x).runOn s = (.error e, u) := by
  unfold guarding
  rw [runOn_bind _ (runOn_attempt x s), h]
  exact runOn_bind _ hrelease

/-! ## Leases -/

/-- Giving up a lease never fails. -/
theorem runOn_release (b : Backend σ) (l : Lease) (s : Session σ) :
    ∃ t, (release b l).runOn s = (.ok (), t) := by
  unfold release
  split
  · rw [runOn_bind _ (runOn_attempt _ s)]
    rcases ((ask b l.connection .close).runOn s).1 with e | _
    · exact ⟨_, rfl⟩
    · exact ⟨_, rfl⟩
  · exact ⟨s, rfl⟩

theorem runOn_releaseHeld (b : Backend σ) (l : Option Lease) (s : Session σ) :
    ∃ t, (releaseHeld b l).runOn s = (.ok (), t) := by
  rcases l with _ | l
  · exact ⟨s, rfl⟩
  · obtain ⟨t, ht⟩ := runOn_release b l s
    refine ⟨t, ?_⟩
    exact runOn_bind (fun _ => pure PUnit.unit) ht

theorem runOn_pullNext (b : Backend σ) (m : ColumnMappings) (rows : Rows) (s : Session σ) :
    ∃ t, (pullNext b m rows).runOn s = (.ok (rows.next m), t) := by
  obtain ⟨t, ht⟩ := runOn_releaseHeld b rows.lease? s
  unfold pullNext
  rcases rows.next m with ⟨pull, after⟩
  simp only
  split
  · exact ⟨t, runOn_bind _ ht⟩
  · exact ⟨s, rfl⟩

/-! ## Sequences -/

theorem runOn_sequence_lazy (b : Backend σ) (m : ColumnMappings) {d : Deferred}
    (hd : d.reverse = false) (stream : RowStream) (s : Session σ) :
    (sequence b m true d stream).runOn s = (.ok (.streaming stream d.skip d.take), s) := by
  unfold sequence
  rw [hd]
  rfl

/-- Mapped at once, the results are gathered before anything is left out. -/
theorem runOn_sequence_mapped (b : Backend σ) (m : ColumnMappings) {isLazy : Bool} {d : Deferred}
    (hd : (isLazy && !d.reverse) = false) {stream : RowStream} (h : stream.lease.isSome = true)
    (s : Session σ) :
    ∃ t, (sequence b m isLazy d stream).runOn s =
      (((gathered (stream.outcomes m)).mapError Error.field).map fun items =>
        .buffered (d.apply items), t) := by
  obtain ⟨t, ht⟩ := runOn_releaseHeld b stream.lease s
  have hdrain := Rows.drain_outcomes (m := m) h
  refine ⟨t, ?_⟩
  unfold sequence
  rw [hd]
  simp only [Bool.false_eq_true, if_false]
  rcases hr : (Rows.streaming stream 0 none).drain m with ⟨pulled, after⟩
  rw [hr] at hdrain
  simp only at hdrain
  subst hdrain
  simp only
  rw [runOn_bind _ ht]
  rcases gathered (stream.outcomes m) with e | items <;> rfl

/-- The rows of a stream become a sequence for the deferred operators' results, mapped now or
later. -/
theorem runOn_sequence (b : Backend σ) {m : ColumnMappings} {item : List Value × Nat → Item}
    (isLazy : Bool) (d : Deferred) {stream : RowStream} (h : stream.Maps m item) (s : Session σ) :
    ∃ rows t, (sequence b m isLazy d stream).runOn s = (.ok rows, t) ∧
      rows.Gives m ((d.apply stream.coming).map item) := by
  rcases hlazy : isLazy && !d.reverse with _ | _
  · obtain ⟨t, ht⟩ := runOn_sequence_mapped b m hlazy h.held s
    rw [h.outcomes_eq, gathered_map_ok] at ht
    refine ⟨.buffered (d.apply (stream.coming.map item)), t, ht, ?_⟩
    rw [Deferred.apply_map]
    exact Rows.Gives.buffered _
  · obtain ⟨rfl, hd⟩ := Bool.and_eq_true_iff.mp hlazy
    have hreverse : d.reverse = false := by simpa using hd
    refine ⟨_, s, runOn_sequence_lazy b m hreverse stream s, ?_⟩
    have hgives := Rows.Gives.streaming d.skip d.take h
    simpa [Deferred.apply_eq, hreverse] using hgives

/-! ## Queries -/

theorem plan_of_prepare {b : Backend σ} {r : Registry} {q : Query} {s t : Session σ}
    {p : Prepared} (h : (prepare b r q).runOn s = (.ok p, t)) :
    Plan.compile q.model r.mappings = .ok p.plan := by
  obtain ⟨plan, u, hplan, h⟩ := of_runOn_bind h
  obtain ⟨l, v, _, h⟩ := of_runOn_bind h
  obtain ⟨table, w, _, h⟩ := of_runOn_bind h
  cases h
  rw [runOn_lift] at hplan
  rcases hc : Plan.compile q.model r.mappings with e | plan'
  · rw [hc] at hplan
    cases hplan
  · rw [hc] at hplan
    cases hplan
    rfl

/-- A statement that was run comes from the query's plan. -/
theorem plan_of_execute {b : Backend σ} {r : Registry} {q : Query} {s t : Session σ}
    {x : Execution} (h : (execute b r q).runOn s = (.ok x, t)) :
    Plan.compile q.model r.mappings = .ok x.plan := by
  obtain ⟨p, u, hp, h⟩ := of_runOn_bind h
  obtain ⟨_, v, _, h⟩ := of_runOn_bind (of_runOn_guarding h)
  obtain ⟨_, w, _, h⟩ := of_runOn_bind h
  obtain ⟨_, z, _, h⟩ := of_runOn_bind h
  obtain ⟨_, y, _, h⟩ := of_runOn_bind h
  cases h
  exact plan_of_prepare hp

/-- A stream starts at the first row of the result, under the options of the query. -/
theorem eq_of_stream {x : Execution} {r : Registry} {q : Query} {stream : RowStream}
    (h : x.stream r q = .ok stream) :
    stream.rows = x.result.rows ∧ stream.skipEmpty = q.arguments.options.skipEmpty ∧
      stream.row = 0 ∧ stream.lease.isSome = true := by
  obtain ⟨mapper, -, rfl⟩ := Execution.of_stream h
  exact ⟨rfl, rfl, rfl, rfl⟩

/-- A query whose statement was run, and the stream of the rows. -/
structure Streams (b : Backend σ) (r : Registry) (q : Query) (s : Session σ) (x : Execution)
    (stream : RowStream) : Prop where
  ran : ∃ t, (execute b r q).runOn s = (.ok x, t)
  streamed : x.stream r q = .ok stream

theorem runOn_resultsOf {b : Backend σ} {r : Registry} {q : Query} {s : Session σ}
    {x : Execution} {stream : RowStream} {item : List Value × Nat → Item} (isLazy : Bool)
    (hx : Streams b r q s x stream) (h : stream.Maps r.mappings item) :
    ∃ rows t, (resultsOf b r q isLazy).runOn s = (.ok rows, t) ∧
      rows.Gives r.mappings ((x.plan.deferred.apply stream.coming).map item) := by
  obtain ⟨t, ht⟩ := hx.ran
  have hstream : (guarding b x.lease (lift ((x.stream r q).mapError Error.strict))).runOn t =
      (.ok stream, t) := by
    apply runOn_guarding
    rw [hx.streamed]
    rfl
  obtain ⟨rows, u, hu, hgives⟩ := runOn_sequence b isLazy x.plan.deferred h t
  refine ⟨rows, u, ?_, hgives⟩
  unfold resultsOf
  rw [runOn_bind _ ht, runOn_bind _ hstream]
  exact hu

/-- All results of a query, or its element if an operator picks one. -/
def outcome (b : Backend σ) (r : Registry) (q : Query) (last : Option ElementOp) :
    SessionM σ (Outcome Item) :=
  match last with
  | none => Outcome.sequence <$> toList b r q
  | some op => Outcome.element <$> element b r q op

/-- The query that is run for an outcome: the element operator is one more operator. -/
def queryFor (q : Query) (last : Option ElementOp) : Query :=
  match last with
  | none => q
  | some op => q.operator (.element op)

theorem runOn_map {x : SessionM σ α} (f : α → β) (s : Session σ) :
    (f <$> x).runOn s = ((x.runOn s).1.map f, (x.runOn s).2) := by
  rcases h : x.runOn s with ⟨_ | a, t⟩ <;>
  · simp only [runOn, ExceptT.run_map, StateT.run_map] at h ⊢
    rw [h]
    rfl

/-- A query gives what its element operator makes of the rows that its stream maps, after
the deferred operators. -/
theorem runOn_outcome {b : Backend σ} {r : Registry} {q : Query} {last : Option ElementOp}
    {s : Session σ} {x : Execution} {stream : RowStream} {item : List Value × Nat → Item}
    (hx : Streams b r (queryFor q last) s x stream) (h : stream.Maps r.mappings item) :
    ((outcome b r q last).runOn s).1 =
      (outcomeOf last ((x.plan.deferred.apply stream.coming).map item)).mapError
        Error.sequence := by
  rcases last with _ | op
  · obtain ⟨rows, t, ht, hgives⟩ := runOn_resultsOf q.arguments.options.lazy hx h
    obtain ⟨u, hu⟩ := runOn_releaseHeld b rows.lease? t
    have hall : (toList b r q).runOn s =
        (.ok ((x.plan.deferred.apply stream.coming).map item), u) := by
      unfold toList iterate
      simp only [queryFor] at ht
      rw [runOn_bind _ ht]
      have hdrain := Rows.drain_gives hgives
      rcases hr : rows.drain r.mappings with ⟨pulled, after⟩
      rw [hr] at hdrain
      simp only at hdrain
      subst hdrain
      simp only
      rw [runOn_bind _ hu]
      rfl
    simp only [outcome, runOn_map, hall]
    rfl
  · obtain ⟨rows, t, ht, hgives⟩ := runOn_resultsOf true hx h
    obtain ⟨u, hu⟩ := runOn_releaseHeld b rows.lease? t
    obtain ⟨seen, hseen, hpick⟩ := Rows.pick_gives op hgives
    have hone : ((element b r q op).runOn s).1 =
        (op.applyTo ((x.plan.deferred.apply stream.coming).map item)).mapError Error.sequence := by
      unfold element
      simp only [queryFor] at ht
      rw [runOn_bind _ ht]
      rcases hr : rows.pull r.mappings (op.reach.getD rows.span) with ⟨pulled, after⟩
      rw [hr] at hseen
      simp only at hseen
      subst hseen
      simp only
      rw [runOn_bind _ hu, runOn_bind _ (runOn_liftField seen u), runOn_lift, hpick]
    simp only [outcome, runOn_map, hone, outcomeOf]
    rcases op.applyTo ((x.plan.deferred.apply stream.coming).map item) with e | o <;> rfl

end SessionM

end GridQuery
