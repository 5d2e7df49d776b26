-- Splitting the operators of a query keeps what they mean. A pipeline stands
-- for a function on sequences: the statement's part (distinct rows and a
-- limit), then the deferred part. One more operator on the pipeline is one
-- more operator on what the pipeline gives, so a whole list of them is split
-- without loss.
import GridQuery.Proofs.WrittenOrder
import GridQuery.Query.Plan

namespace GridQuery

/-- A sequence within a limit that may be missing. -/
def within {α : Type} (limit : Option Nat) (xs : List α) : List α := (limit.map xs.take).getD xs

section Within

variable {α β : Type}

@[simp] theorem within_none (xs : List α) : within none xs = xs := rfl

@[simp] theorem within_some (n : Nat) (xs : List α) : within (some n) xs = xs.take n := rfl

/-- A lower bound takes that many elements of what was within the limit. -/
theorem within_minBound (limit : Option Nat) (n : Nat) (xs : List α) :
    within (some (minBound limit n)) xs = (within limit xs).take n := by
  rcases limit with _ | k
  · rfl
  · simp [minBound, List.take_take, Nat.min_comm]

theorem within_map (f : α → β) (limit : Option Nat) (xs : List α) :
    within limit (xs.map f) = (within limit xs).map f := by
  rcases limit with _ | k
  · rfl
  · simp

theorem mem_of_mem_within {limit : Option Nat} {xs : List α} {x : α} (h : x ∈ within limit xs) :
    x ∈ xs := by
  rcases limit with _ | k
  · exact h
  · exact List.mem_of_mem_take h

theorem numbered_within (limit : Option Nat) (xs : List α) :
    numbered (within limit xs) = within limit (numbered xs) := by
  rcases limit with _ | k
  · rfl
  · exact numbered_take k xs

end Within

/-! ## The deferred part -/

theorem Deferred.apply_eq {α : Type} (d : Deferred) (xs : List α) :
    d.apply xs = within d.take ((if d.reverse then xs.reverse else xs).drop d.skip) := by
  unfold Deferred.apply
  rcases d.take with _ | n <;> rfl

theorem Deferred.apply_map {α β : Type} (f : α → β) (d : Deferred) (xs : List α) :
    d.apply (xs.map f) = (d.apply xs).map f := by
  have hrev : (if d.reverse then (xs.map f).reverse else xs.map f) =
      (if d.reverse then xs.reverse else xs).map f := by
    split
    · rw [List.map_reverse]
    · rfl
  rw [Deferred.apply_eq, Deferred.apply_eq, hrev, ← List.map_drop, within_map]

theorem Deferred.mem_of_mem_apply {α : Type} {d : Deferred} {xs : List α} {x : α}
    (h : x ∈ d.apply xs) : x ∈ xs := by
  rw [Deferred.apply_eq] at h
  have h := List.mem_of_mem_drop (mem_of_mem_within h)
  split at h
  · exact List.mem_reverse.mp h
  · exact h

theorem Deferred.isEmpty_iff (d : Deferred) :
    d.isEmpty = true ↔ d.reverse = false ∧ d.skip = 0 ∧ d.take = none := by
  simp [Deferred.isEmpty, and_assoc]

/-- Nothing is done where nothing is left to do. -/
theorem Deferred.apply_of_isEmpty {α : Type} {d : Deferred} (h : d.isEmpty = true) (xs : List α) :
    d.apply xs = xs := by
  obtain ⟨hr, hs, ht⟩ := d.isEmpty_iff.mp h
  simp [Deferred.apply_eq, hr, hs, ht]

/-! ## What a pipeline means -/

namespace Pipeline

variable {α : Type}

/-- The rows that the statement gives, of all rows that it could give. -/
def statementRows (dedup : List α → List α) (p : Pipeline) (xs : List α) : List α :=
  within p.limit (if p.distinct then dedup xs else xs)

/-- The sequence that a pipeline without an element operator gives. -/
def meaning (dedup : List α → List α) (p : Pipeline) (xs : List α) : List α :=
  p.deferred.apply (p.statementRows dedup xs)

/-- The pipeline takes further operators. -/
def Open (p : Pipeline) : Prop := p.aggregate = none ∧ p.element = none

theorem open_of_push {c : Bool} {p p' : Pipeline} {op : ResultOp} (h : p.push c op = .ok p') :
    p.Open := by
  unfold push at h
  split at h
  · cases h
  · rename_i hne
    simpa [Open] using hne

/-! ### One operator -/

section

variable (p : Pipeline) (n : Nat) (op : ElementOp)

@[simp] theorem limitIfDirect_aggregate : (p.limitIfDirect n).aggregate = p.aggregate := by
  unfold limitIfDirect
  split <;> rfl

@[simp] theorem limitIfDirect_element : (p.limitIfDirect n).element = p.element := by
  unfold limitIfDirect
  split <;> rfl

@[simp] theorem pushTake_aggregate : (p.pushTake n).aggregate = p.aggregate := by
  unfold pushTake
  split <;> rfl

@[simp] theorem pushTake_element : (p.pushTake n).element = p.element := by
  unfold pushTake
  split <;> rfl

@[simp] theorem pushElement_aggregate : (p.pushElement op).aggregate = p.aggregate := by
  cases op <;> simp [pushElement]

@[simp] theorem pushElement_element : (p.pushElement op).element = some op := by
  cases op <;> simp [pushElement]

end

theorem meaning_pushSkip (dedup : List α → List α) {p p' : Pipeline} {n : Nat}
    (h : p.pushSkip n = .ok p') (xs : List α) :
    p'.meaning dedup xs = (p.meaning dedup xs).drop n := by
  unfold pushSkip at h
  split at h
  · cases h
  · rename_i hnone
    cases h
    have hnone : p.deferred.take = none := by simpa using hnone
    simp [meaning, statementRows, Deferred.apply_eq, hnone, Nat.add_comm]

theorem meaning_limitTo (dedup : List α → List α) {p : Pipeline}
    (h : p.deferred.isEmpty = true) (n : Nat) (xs : List α) :
    (p.limitTo n).meaning dedup xs = (p.meaning dedup xs).take n := by
  unfold meaning statementRows limitTo
  rw [Deferred.apply_of_isEmpty h, Deferred.apply_of_isEmpty h, within_minBound]

theorem meaning_pushTake (dedup : List α → List α) (p : Pipeline) (n : Nat) (xs : List α) :
    (p.pushTake n).meaning dedup xs = (p.meaning dedup xs).take n := by
  unfold pushTake
  split
  · exact meaning_limitTo dedup ‹_› n xs
  · simp only [meaning, statementRows, Deferred.apply_eq]
    exact within_minBound _ _ _

theorem meaning_pushReverse (dedup : List α → List α) {p p' : Pipeline}
    (h : p.pushReverse = .ok p') (xs : List α) :
    p'.meaning dedup xs = (p.meaning dedup xs).reverse := by
  unfold pushReverse at h
  split at h
  · cases h
  · rename_i hfront
    cases h
    simp only [gt_iff_lt, Bool.or_eq_true, decide_eq_true_eq, not_or, Nat.not_lt, Nat.le_zero_eq,
      Bool.not_eq_true, Option.isSome_eq_false_iff, Option.isNone_iff_eq_none] at hfront
    obtain ⟨hskip, htake⟩ := hfront
    simp only [meaning, statementRows, Deferred.apply_eq, hskip, htake, List.drop_zero, within_none]
    rcases p.deferred.reverse with _ | _ <;> simp

/-- A removal of repetitions is accepted only where nothing but such removals came before. -/
theorem meaning_pushDistinct (dedup : List α → List α) (hd : ∀ xs, dedup (dedup xs) = dedup xs)
    {c : Bool} {p p' : Pipeline} (h : p.pushDistinct c = .ok p') (xs : List α) :
    p'.meaning dedup xs = dedup (p.meaning dedup xs) := by
  unfold pushDistinct at h
  split at h
  · cases h
  · split at h
    · cases h
    · rename_i hearly _
      cases h
      simp only [Bool.or_eq_true, Bool.not_eq_true', not_or, Bool.not_eq_false, Bool.not_eq_true,
        Option.isSome_eq_false_iff, Option.isNone_iff_eq_none] at hearly
      obtain ⟨hempty, hlimit⟩ := hearly
      unfold meaning statementRows
      rw [Deferred.apply_of_isEmpty hempty, Deferred.apply_of_isEmpty hempty]
      simp only [hlimit, within_none, if_true]
      split
      · exact (hd xs).symm
      · rfl

/-- One more sequence operator on a pipeline is one more operator on what it gives, and the
pipeline stays open. -/
theorem meaning_push (dedup : List α → List α) (hd : ∀ xs, dedup (dedup xs) = dedup xs)
    {c : Bool} {p p' : Pipeline} (op : SequenceOp) (h : p.push c op.toResultOp = .ok p')
    (xs : List α) :
    p'.meaning dedup xs = op.applyTo dedup (p.meaning dedup xs) ∧ p'.Open := by
  obtain ⟨ha, he⟩ := open_of_push h
  simp only [push, ha, he, Option.isSome_none, Bool.or_self, Bool.false_eq_true, if_false] at h
  cases op with
  | skip n =>
    refine ⟨meaning_pushSkip dedup h xs, ?_⟩
    simp only [SequenceOp.toResultOp, pushSkip] at h
    split at h <;> cases h
    exact ⟨ha, he⟩
  | take n =>
    simp only [SequenceOp.toResultOp, Except.ok.injEq] at h
    subst h
    exact ⟨meaning_pushTake dedup p n xs, by simp [ha], by simp [he]⟩
  | reverse =>
    refine ⟨meaning_pushReverse dedup h xs, ?_⟩
    simp only [SequenceOp.toResultOp, pushReverse] at h
    split at h <;> cases h
    exact ⟨ha, he⟩
  | distinct =>
    refine ⟨meaning_pushDistinct dedup hd h xs, ?_⟩
    simp only [SequenceOp.toResultOp, pushDistinct] at h
    split at h
    · cases h
    · split at h <;> cases h
      exact ⟨ha, he⟩

/-! ### A list of operators -/

/-- Every prefix of the operators means what it means as it is written. -/
theorem meaning_foldlM (dedup : List α → List α) (hd : ∀ xs, dedup (dedup xs) = dedup xs)
    {c : Bool} (ops : List SequenceOp) {p p' : Pipeline} (hp : p.Open)
    (h : (ops.map SequenceOp.toResultOp).foldlM (push c) p = .ok p') (xs : List α) :
    p'.meaning dedup xs = applyEach dedup ops (p.meaning dedup xs) ∧ p'.Open := by
  induction ops generalizing p with
  | nil =>
    cases h
    exact ⟨rfl, hp⟩
  | cons op ops ih =>
    simp only [List.map_cons, List.foldlM_cons] at h
    rcases hq : p.push c op.toResultOp with e | q
    · rw [hq] at h
      cases h
    · rw [hq] at h
      obtain ⟨hmean, hopen⟩ := meaning_push dedup hd op hq xs
      obtain ⟨hrest, hopen'⟩ := ih hopen h
      refine ⟨?_, hopen'⟩
      rw [hrest, hmean]
      rfl

/-- The limit that an element operator lowers leaves it all that it looks at. -/
theorem applyTo_meaning_pushElement (dedup : List α → List α) (p : Pipeline) (op : ElementOp)
    (xs : List α) :
    op.applyTo ((p.pushElement op).meaning dedup xs) = op.applyTo (p.meaning dedup xs) := by
  have hdirect : ∀ n, op.reach = some n →
      op.applyTo (({ p with element := some op }.limitIfDirect n).meaning dedup xs) =
        op.applyTo (p.meaning dedup xs) := by
    intro n hn
    unfold limitIfDirect
    split
    · rw [meaning_limitTo dedup ‹_›, applyTo_take op n n hn (Nat.le_refl n)]
      rfl
    · rfl
  cases op with
  | first d => exact hdirect 1 rfl
  | last d => rfl
  | single d => exact hdirect 2 rfl

/-- Operators that are accepted give, split up, what they give one at a time as they are
written. -/
theorem outcomeOf_meaning (dedup : List α → List α) (hd : ∀ xs, dedup (dedup xs) = dedup xs)
    {c : Bool} {ops : List SequenceOp} {last : Option ElementOp} {p : Pipeline}
    (h : compile c (operatorsOf ops last) = .ok p) (xs : List α) :
    p.element = last ∧ p.aggregate = none ∧
      outcomeOf last (p.meaning dedup xs) = writtenOutcome dedup ops last xs := by
  simp only [compile, operatorsOf, List.foldlM_append] at h
  rcases hq : (ops.map SequenceOp.toResultOp).foldlM (push c) {} with e | q
  · rw [hq] at h
    cases h
  · rw [hq] at h
    obtain ⟨hmean, ha, he⟩ := meaning_foldlM dedup hd ops ⟨rfl, rfl⟩ hq xs
    have hstart : meaning dedup {} xs = xs := by simp [meaning, statementRows, Deferred.apply_eq]
    rw [hstart] at hmean
    rcases last with _ | op
    · cases h
      exact ⟨he, ha, by rw [hmean]; rfl⟩
    · have hpush : q.pushElement op = p := by
        simpa [push, ha, he, bind, Except.bind, pure, Except.pure] using h
      subst hpush
      refine ⟨by simp, by simp [ha], ?_⟩
      simp only [writtenOutcome, outcomeOf, applyTo_meaning_pushElement, hmean]

end Pipeline

/-! ## Aggregates -/

/-- The aggregate that a list of operators ends with. -/
def aggregateOf (ops : List ResultOp) : Option Aggregate :=
  match ops.getLast? with
  | some (.aggregate a) => some a
  | _ => none

/-- An operator that is accepted meets no aggregate. It adds one if it is one. -/
theorem Pipeline.aggregate_of_push {construct : Bool} {p q : Pipeline} {op : ResultOp}
    (h : p.push construct op = .ok q) : q.aggregate = aggregateOf [op] := by
  unfold push at h
  split at h
  · cases h
  · rename_i hopen
    have hnone : p.aggregate = none := by
      rcases ha : p.aggregate with _ | a
      · rfl
      · simp [ha] at hopen
    cases op with
    | aggregate a =>
      simp only [pushAggregate] at h
      split at h
      · cases h
      · split at h <;> cases h
        rfl
    | element op =>
      cases h
      simp [hnone, aggregateOf]
    | skip count =>
      simp only [pushSkip] at h
      split at h <;> cases h
      exact hnone
    | take count =>
      cases h
      simp [hnone, aggregateOf]
    | reverse =>
      simp only [pushReverse] at h
      split at h <;> cases h
      exact hnone
    | distinct =>
      simp only [pushDistinct] at h
      split at h
      · cases h
      · split at h <;> cases h
        exact hnone

/-- The last operator alone decides about the aggregate, since nothing may follow one. -/
theorem Pipeline.aggregate_of_compile {construct : Bool} {ops : List ResultOp} {p : Pipeline}
    (h : Pipeline.compile construct ops = .ok p) : p.aggregate = aggregateOf ops := by
  rcases List.eq_nil_or_concat ops with rfl | ⟨before, op, rfl⟩
  · cases h
    rfl
  · rw [List.concat_eq_append] at h ⊢
    unfold compile at h
    rw [List.foldlM_append] at h
    rcases hq : before.foldlM (push construct) {} with e | q
    · rw [hq] at h
      cases h
    · rw [hq] at h
      have hpush : q.push construct op = .ok p := by
        rcases hop : q.push construct op with e | r
        · simp [hop, bind, Except.bind] at h
        · simpa [hop, bind, Except.bind, pure, Except.pure] using h
      rw [aggregate_of_push hpush]
      simp [aggregateOf]

/-! ## Compiled queries -/

namespace Plan

/-- The plan of a query with its operators split up and its select list found. -/
def assemble (model : QueryModel) (mappings : ColumnMappings) (p : Pipeline)
    (selection : Selection) (selected : List String) : Plan :=
  let sortKeys := if p.aggregate.isSome then [] else model.orderBy
  { clauses := {
      selection
      distinct := p.distinct
      filters := model.filters.map (Expr.toTerm mappings)
      order := sortKeys.map fun key => ⟨key.expr.toTerm mappings, key.descending⟩
      limit := if p.aggregate.isSome then none else p.limit }
    columns := firstUses (selected ++ model.filters.flatMap (Expr.columnUses mappings) ++
      sortKeys.flatMap fun key => key.expr.columnUses mappings)
    aggregate := p.aggregate
    projection := model.projection
    deferred := p.deferred
    element := p.element }

/-- A query compiles in two steps, each of which can fail: its operators are split up, and its
select list is found. -/
theorem parts_of_compile {model : QueryModel} {mappings : ColumnMappings} {plan : Plan}
    (h : compile model mappings = .ok plan) :
    ∃ p selection selected,
      Pipeline.compile model.projection.isConstruct model.operators = .ok p ∧
      select mappings p.aggregate model.projection = .ok (selection, selected) ∧
      plan = assemble model mappings p selection selected := by
  unfold compile at h
  rcases hp : Pipeline.compile model.projection.isConstruct model.operators with e | p
  · rw [hp] at h
    cases h
  · rw [hp] at h
    rcases hs : select mappings p.aggregate model.projection with e | ⟨selection, selected⟩
    · simp only [bind, Except.bind, hs] at h
      cases h
    · simp only [bind, Except.bind, hs, pure, Except.pure] at h
      cases h
      exact ⟨p, selection, selected, rfl, hs, rfl⟩

/-- A compiled query does what its pipeline says. -/
theorem pipeline_of_compile {model : QueryModel} {mappings : ColumnMappings} {plan : Plan}
    (h : compile model mappings = .ok plan) :
    ∃ p, Pipeline.compile model.projection.isConstruct model.operators = .ok p ∧
      plan.deferred = p.deferred ∧ plan.element = p.element ∧
      plan.clauses.distinct = p.distinct ∧
      (p.aggregate = none → plan.clauses.limit = p.limit) := by
  obtain ⟨p, selection, selected, hp, -, rfl⟩ := parts_of_compile h
  refine ⟨p, hp, rfl, rfl, rfl, ?_⟩
  intro ha
  simp [assemble, ha]

end Plan

end GridQuery
