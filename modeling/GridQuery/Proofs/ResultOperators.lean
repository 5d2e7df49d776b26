-- Pushing operators down to the statement keeps the results of a query. The
-- statement gives the rows without repetitions and within a limit, the client
-- reverses, skips and takes, lazily or at once, and the element operator looks
-- at no more than it needs; the outcome is that of the operators as written.
import GridQuery.Engine.Select
import GridQuery.Proofs.SessionRun
import GridQuery.Script

namespace GridQuery

/-! ## The engine's removal of repetitions -/

namespace Select

theorem mem_of_mem_distinct {rows : List (List Value)} {row : List Value}
    (h : row ∈ distinct rows) : row ∈ rows := by
  induction rows with
  | nil => exact h
  | cons first rows ih =>
    rcases List.mem_cons.mp h with rfl | hrest
    · exact List.mem_cons_self ..
    · exact List.mem_cons_of_mem _ (ih (List.mem_filter.mp hrest).1)

/-- No row that is kept repeats an earlier one. -/
theorem pairwise_distinct (rows : List (List Value)) :
    (distinct rows).Pairwise fun a b => sameRow a b = false := by
  induction rows with
  | nil => exact List.Pairwise.nil
  | cons first rows ih =>
    refine List.pairwise_cons.mpr ⟨?_, ih.filter _⟩
    intro row hrow
    simpa using (List.mem_filter.mp hrow).2

theorem distinct_of_pairwise {rows : List (List Value)}
    (h : rows.Pairwise fun a b => sameRow a b = false) : distinct rows = rows := by
  induction rows with
  | nil => rfl
  | cons first rows ih =>
    obtain ⟨hfirst, hrest⟩ := List.pairwise_cons.mp h
    unfold distinct
    rw [ih hrest, List.filter_eq_self.mpr]
    intro row hrow
    simp [hfirst row hrow]

/-- The rows without repetitions, as the engine finds them. -/
def dedup : Dedup (List Value) where
  run := distinct
  mem_of_mem_run := mem_of_mem_distinct
  run_run rows := distinct_of_pairwise (pairwise_distinct rows)

end Select

/-! ## Split operators and written ones -/

/-- The stream of a statement's rows, before its first pull. Blank rows count. -/
def RowStream.start (mapper : Mapper) (trim : Text.TrimPolicy) (l : Lease)
    (rows : List (List Value)) : RowStream :=
  { rows, mapper, trim, skipEmpty := false, lease := some l }

theorem Pipeline.mem_of_mem_statementRows {dedup : Dedup (List Value)} {p : Pipeline}
    {xs : List (List Value)} {cells : List Value} (h : cells ∈ p.statementRows dedup.run xs) :
    cells ∈ xs := by
  have h := mem_of_mem_within h
  split at h
  · exact dedup.mem_of_mem_run h
  · exact h

/-- The rows of the statement, numbered, are what the statement makes of numbered rows. -/
theorem Pipeline.numbered_statementRows (dedup : Dedup (List Value)) (p : Pipeline)
    (xs : List (List Value)) :
    numbered (p.statementRows dedup.run xs) = p.statementRows dedup.renumber (numbered xs) := by
  unfold statementRows
  rw [numbered_within]
  split
  · rw [dedup.renumber_numbered]
  · rfl

/-- Operators that are accepted lose nothing when they are split. `xs` are the rows without
the statement's part, `dedup` takes repeated ones out, and `item` is what becomes of a row
under its number among the rows of the statement. In both modes the sequence is made, and
what is taken from it is what the operators give one at a time in the order in which they are
written: the same results, the same element, no element, or the same error. -/
theorem pushed_down_operators_mean_what_is_written {σ : Type} (b : Backend σ) (s : Session σ)
    (projection : Projection) (ops : List SequenceOp) (last : Option ElementOp) (p : Pipeline)
    (hp : Pipeline.compile projection.isConstruct (operatorsOf ops last) = .ok p)
    (dedup : Dedup (List Value)) (xs : List (List Value)) (m : ColumnMappings) (mapper : Mapper)
    (trim : Text.TrimPolicy) (l : Lease) (item : List Value × Nat → Item)
    (hmap : ∀ cells ∈ xs, ∀ n, mapper.map m trim n cells = .ok (item (cells, n)))
    (isLazy : Bool) :
    ∃ rows t,
      (SessionM.sequence b m isLazy p.deferred
        (.start mapper trim l (p.statementRows dedup.run xs))).runOn s = (.ok rows, t) ∧
      rows.outcome m p.element =
        .ok ((writtenOutcome dedup.renumber ops last (numbered xs)).map (Outcome.map item)) := by
  obtain ⟨hlast, -, hmean⟩ := Pipeline.outcomeOf_meaning dedup.renumber dedup.renumber_renumber hp
    (numbered xs)
  have hmaps : (RowStream.start mapper trim l (p.statementRows dedup.run xs)).Maps m item := by
    refine ⟨rfl, ?_⟩
    rintro ⟨cells, n⟩ hin
    have hcells : cells ∈ p.statementRows dedup.run xs := List.fst_mem_of_mem_zipIdx hin
    exact hmap cells (Pipeline.mem_of_mem_statementRows hcells) n
  obtain ⟨rows, t, hrun, hgives⟩ := SessionM.runOn_sequence b isLazy p.deferred hmaps s
  refine ⟨rows, t, hrun, ?_⟩
  have hcoming : (RowStream.start mapper trim l (p.statementRows dedup.run xs)).coming =
      p.statementRows dedup.renumber (numbered xs) :=
    Pipeline.numbered_statementRows dedup p xs
  rw [hcoming] at hgives
  rw [hlast, Rows.outcome_gives last hgives, outcomeOf_map]
  exact congrArg (fun o => Except.ok (Except.map (Outcome.map item) o)) hmean

/-- Of the rows 1, 2, 1, 3 without repetitions, at most three, backwards and without the
first, the first is 2. -/
theorem pushed_down_operators_on_four_rows :
    ∃ p, Pipeline.compile false
        (operatorsOf [.distinct, .take 3, .reverse, .skip 1] (some (.first false))) = .ok p ∧
      (∀ cells ∈ [[Value.int 1], [.int 2], [.int 1], [.int 3]], ∀ n,
        Mapper.cells.map {} .off n cells = .ok (.cells (cells.map (·.trim .off)))) ∧
      ∃ rows t,
        (SessionM.sequence scripted {} true p.deferred
          (.start .cells .off ⟨1, true⟩
            (p.statementRows Select.dedup.run [[.int 1], [.int 2], [.int 1], [.int 3]]))).runOn
          { state := { script := {} } } = (.ok rows, t) ∧
        rows.outcome {} p.element = .ok (.ok (.element (some (.cells [.int 2])))) := by
  refine ⟨_, rfl, fun cells _ n => rfl, ?_⟩
  exact pushed_down_operators_mean_what_is_written scripted _ .identity
    [.distinct, .take 3, .reverse, .skip 1] (some (.first false)) _ rfl Select.dedup
    [[.int 1], [.int 2], [.int 1], [.int 3]] {} .cells .off ⟨1, true⟩
    (fun q => .cells (q.1.map (·.trim .off))) (fun cells _ n => rfl) true

end GridQuery
