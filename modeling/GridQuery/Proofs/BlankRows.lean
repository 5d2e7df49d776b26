-- Leaving out blank rows beside the operators of a query. Deferred operators
-- count the rows that are not blank, but a limit of the statement counts every
-- row. So where a blank row stands within the limit and a row that counts
-- behind it, fewer rows come through than the operators ask for.
import GridQuery.Engine.Connection
import GridQuery.Proofs.ResultOperators
import Mathlib.Data.List.Nodup

namespace GridQuery

/-! ## Rows within a limit -/

/-- How many rows that are not blank stand within a limit. -/
def seenRows (limit : Option Nat) (raw : List (List Value)) : Nat :=
  (keptRows true (within limit raw)).length

/-- How many rows the limit leaves of those that are not blank. -/
def dueRows (limit : Option Nat) (raw : List (List Value)) : Nat :=
  (within limit (keptRows true raw)).length

theorem keptRows_append (xs ys : List (List Value)) :
    keptRows true (xs ++ ys) = keptRows true xs ++ keptRows true ys := List.filter_append ..

/-- The rows within the limit that are not blank come first among all that are not blank. -/
theorem keptRows_within (limit : Option Nat) (raw : List (List Value)) :
    keptRows true (within limit raw) = (keptRows true raw).take (seenRows limit raw) := by
  rcases limit with _ | k
  · simp [seenRows]
  · have hsplit : keptRows true raw = keptRows true (raw.take k) ++ keptRows true (raw.drop k) := by
      rw [← keptRows_append, List.take_append_drop]
    rw [hsplit]
    simp [seenRows]

theorem within_eq_take (limit : Option Nat) (raw : List (List Value)) :
    within limit (keptRows true raw) = (keptRows true raw).take (dueRows limit raw) := by
  rcases limit with _ | k
  · simp [dueRows]
  · simp [dueRows]

theorem seenRows_le (limit : Option Nat) (raw : List (List Value)) :
    seenRows limit raw ≤ (keptRows true raw).length := by
  have h := congrArg List.length (keptRows_within limit raw)
  rw [List.length_take] at h
  exact Nat.le_trans (Nat.le_of_eq h) (Nat.min_le_right _ _)

theorem dueRows_le (limit : Option Nat) (raw : List (List Value)) :
    dueRows limit raw ≤ (keptRows true raw).length := by
  have h := congrArg List.length (within_eq_take limit raw)
  rw [List.length_take] at h
  exact Nat.le_trans (Nat.le_of_eq h) (Nat.min_le_right _ _)

theorem keptRows_eq_nil_iff {rows : List (List Value)} :
    keptRows true rows = [] ↔ ∀ cells ∈ rows, isBlankRow cells = true := by
  simp [keptRows, List.filter_eq_nil_iff]

theorem length_keptRows_eq_iff {rows : List (List Value)} :
    (keptRows true rows).length = rows.length ↔ ∀ cells ∈ rows, isBlankRow cells = false := by
  simp [keptRows, List.length_filter_eq_length_iff]

/-- The limit lets all rows through that it should exactly where it counts no blank row, or
where only blank rows stand behind it. -/
theorem seenRows_eq_dueRows_iff (limit : Option Nat) (raw : List (List Value)) :
    seenRows limit raw = dueRows limit raw ↔
      ∀ k, limit = some k → (∀ cells ∈ raw.take k, isBlankRow cells = false) ∨
        ∀ cells ∈ raw.drop k, isBlankRow cells = true := by
  rcases limit with _ | k
  · simp [seenRows, dueRows]
  · have hsplit : (keptRows true raw).length =
        (keptRows true (raw.take k)).length + (keptRows true (raw.drop k)).length := by
      rw [← List.length_append, ← keptRows_append, List.take_append_drop]
    have hle := length_keptRows_le true (raw.take k)
    simp only [Option.some.injEq, forall_eq', seenRows, dueRows, within_some,
      List.length_take, hsplit, ← length_keptRows_eq_iff, ← keptRows_eq_nil_iff,
      ← List.length_eq_zero_iff] at hle ⊢
    have hdrop := length_keptRows_le true (raw.drop k)
    rw [List.length_drop] at hdrop
    omega

/-! ## Outcomes told apart -/

theorem eq_of_map_eq {α β : Type} {f : α → β} {xs ys : List α}
    (hf : ∀ x ∈ xs, ∀ y ∈ ys, f x = f y → x = y) (h : xs.map f = ys.map f) : xs = ys := by
  induction xs generalizing ys with
  | nil => simpa using h.symm
  | cons x xs ih =>
    rcases ys with _ | ⟨y, ys⟩
    · simp at h
    · simp only [List.map_cons, List.cons.injEq] at h
      obtain rfl := hf x (List.mem_cons_self ..) y (List.mem_cons_self ..) h.1
      have hrest := ih (fun a ha b hb => hf a (List.mem_cons_of_mem _ ha) b
        (List.mem_cons_of_mem _ hb)) h.2
      rw [hrest]

/-- A function that tells the elements apart tells the outcomes apart. -/
theorem outcomeOf_eq_of_map_eq {α β : Type} {f : α → β} {last : Option ElementOp} {xs ys : List α}
    (hf : ∀ x ∈ xs, ∀ y ∈ ys, f x = f y → x = y)
    (h : outcomeOf last (xs.map f) = outcomeOf last (ys.map f)) :
    outcomeOf last xs = outcomeOf last ys := by
  rcases last with _ | op
  · simp only [outcomeOf, Except.ok.injEq, Outcome.sequence.injEq] at h ⊢
    exact eq_of_map_eq hf h
  · simp only [outcomeOf, applyTo_map] at h ⊢
    rcases hx : op.applyTo xs with e | (_ | x) <;> rcases hy : op.applyTo ys with e' | (_ | y) <;>
      simp only [hx, hy, Except.map, Option.map_none, Option.map_some, Except.ok.injEq,
        Except.error.injEq, Outcome.element.injEq, reduceCtorEq, Option.some.injEq] at h ⊢
    · exact h
    · exact hf x (mem_of_applyTo hx) y (mem_of_applyTo hy) h

theorem mapError_sequence_inj {α : Type} {o o' : Except SequenceError α}
    (h : o.mapError Error.sequence = o'.mapError Error.sequence) : o = o' := by
  rcases o with e | a <;> rcases o' with e' | a' <;>
    simp only [Except.mapError, Except.error.injEq, Error.sequence.injEq, Except.ok.injEq,
      reduceCtorEq] at h
  · rw [h]
  · rw [h]

/-! ## What comes through -/

/-- The numbers of the rows that come through what is done on the client, of `count` rows. -/
def numbersThrough (d : Deferred) (last : Option ElementOp) (count : Nat) :
    Except SequenceError (Outcome Nat) :=
  outcomeOf last (d.apply (List.range' 1 count))

theorem outcomeOf_numbers (d : Deferred) (last : Option ElementOp) {rows : List (List Value)}
    {n : Nat} (hn : n ≤ rows.length) :
    outcomeOf last ((d.apply ((numbered rows).take n)).map (·.2)) = numbersThrough d last n := by
  have hsnd : ((numbered rows).take n).map (·.2) = List.range' 1 n := by
    rw [← numbered_take, numbered, List.zipIdx_map_snd, List.length_take, Nat.min_eq_left hn]
  rw [numbersThrough, ← hsnd, Deferred.apply_map]

theorem snd_inj_numbered {rows : List (List Value)} {p p' : List Value × Nat}
    (hp : p ∈ numbered rows) (hp' : p' ∈ numbered rows) (h : p.2 = p'.2) : p = p' := by
  obtain ⟨cells, n⟩ := p
  obtain ⟨cells', n'⟩ := p'
  simp only at h
  subst h
  simp only [numbered, List.mem_zipIdx_iff_le_and_getElem?_sub] at hp hp'
  have hcells : some cells = some cells' := hp.2.symm.trans hp'.2
  rw [Option.some.inj hcells]

/-- The same numbers come through of two counts exactly if the same rows do. -/
theorem numbersThrough_eq_iff (d : Deferred) (last : Option ElementOp) {rows : List (List Value)}
    {n n' : Nat} (hn : n ≤ rows.length) (hn' : n' ≤ rows.length) :
    numbersThrough d last n = numbersThrough d last n' ↔
      outcomeOf last (d.apply ((numbered rows).take n)) =
        outcomeOf last (d.apply ((numbered rows).take n')) := by
  rw [← outcomeOf_numbers d last hn, ← outcomeOf_numbers d last hn']
  constructor
  · apply outcomeOf_eq_of_map_eq
    intro p hp p' hp' h
    exact snd_inj_numbered (List.mem_of_mem_take (Deferred.mem_of_mem_apply hp))
      (List.mem_of_mem_take (Deferred.mem_of_mem_apply hp')) h
  · intro h
    rw [outcomeOf_map, outcomeOf_map, h]

/-! ## Queries that leave out blank rows -/

theorem operators_queryFor {q : Query} {ops : List SequenceOp}
    (hops : q.model.operators = operatorsOf ops none) (last : Option ElementOp) :
    (SessionM.queryFor q last).model.operators = operatorsOf ops last := by
  rcases last with _ | op
  · exact hops
  · simp [SessionM.queryFor, Query.operator, hops, operatorsOf]

theorem options_queryFor (q : Query) (last : Option ElementOp) :
    (SessionM.queryFor q last).arguments.options = q.arguments.options := by
  rcases last with _ | op <;> rfl

/-- The rows to come are as many of the rows that count as stand within the limit. -/
theorem coming_of_streams {σ : Type} {b : Backend σ} {r : Registry} {q : Query} {s : Session σ}
    {x : Execution} {stream : RowStream} {raw : List (List Value)}
    (hskip : q.arguments.options.skipEmpty = true) (hx : SessionM.Streams b r q s x stream)
    (hraw : x.result.rows = within x.plan.clauses.limit raw) :
    stream.coming = (numbered (keptRows true raw)).take (seenRows x.plan.clauses.limit raw) := by
  obtain ⟨hrows, hempty, hrow, _⟩ := SessionM.eq_of_stream hx.streamed
  rw [RowStream.coming, hempty, hskip, hrows, hraw, hrow, keptRows_within, ← numbered_take]
  rfl

/-- What the operators give as they are written, of the rows that are not blank, is what the
client's part of the plan gives of the rows that the limit should leave. -/
theorem writtenOutcome_of_compile {c : Bool} {ops : List SequenceOp} {last : Option ElementOp}
    {p : Pipeline} (hp : Pipeline.compile c (operatorsOf ops last) = .ok p)
    (raw : List (List Value)) :
    writtenOutcome id ops last (numbered (keptRows true raw)) =
      outcomeOf last (p.deferred.apply
        ((numbered (keptRows true raw)).take (dueRows p.limit raw))) := by
  obtain ⟨_, _, hmean⟩ := Pipeline.outcomeOf_meaning id (fun _ => rfl) hp
    (numbered (keptRows true raw))
  rw [← hmean, Pipeline.meaning, Pipeline.statementRows, id, ite_self, ← numbered_within,
    within_eq_take, numbered_take]

/-- A query with operators `ops`, and perhaps an element operator, leaves out blank rows.
`raw` are the rows that its statement gives without its limit; taking repeated rows out is left
to the statement. The client's part is then applied to the first `seen` of the rows that are
not blank, where the operators as written ask for the first `due`. So the query gives what is
written wherever the same numbers come through of both, and, if the results can be told apart,
nowhere else; and `seen` falls short exactly where a blank row stands within the limit and a
row that counts behind it. -/
theorem a_limit_counts_blank_rows {σ : Type} (b : Backend σ) (r : Registry) (q : Query)
    (ops : List SequenceOp) (last : Option ElementOp) (s : Session σ) {x : Execution}
    {stream : RowStream} (raw : List (List Value)) (item : List Value × Nat → Item)
    (hskip : q.arguments.options.skipEmpty = true)
    (hops : q.model.operators = operatorsOf ops none)
    (hx : SessionM.Streams b r (SessionM.queryFor q last) s x stream)
    (hraw : x.result.rows = within x.plan.clauses.limit raw)
    (hmap : ∀ cells ∈ raw, ∀ n,
      stream.mapper.map r.mappings stream.trim n cells = .ok (item (cells, n))) :
    let kept := numbered (keptRows true raw)
    let seen := seenRows x.plan.clauses.limit raw
    let due := dueRows x.plan.clauses.limit raw
    let d := x.plan.deferred
    let given := ((SessionM.outcome b r q last).runOn s).1
    let written := ((writtenOutcome id ops last kept).map (Outcome.map item)).mapError
      Error.sequence
    given = ((outcomeOf last (d.apply (kept.take seen))).map (Outcome.map item)).mapError
        Error.sequence ∧
      (numbersThrough d last seen = numbersThrough d last due → given = written) ∧
      ((kept.map item).Nodup → given = written →
        numbersThrough d last seen = numbersThrough d last due) ∧
      (seen = due ↔ ∀ k, x.plan.clauses.limit = some k →
        (∀ cells ∈ raw.take k, isBlankRow cells = false) ∨
          ∀ cells ∈ raw.drop k, isBlankRow cells = true) := by
  intro kept seen due d given written
  obtain ⟨t, ht⟩ := hx.ran
  obtain ⟨p, hp, hdeferred, -, -, hlimit⟩ :=
    Plan.pipeline_of_compile (SessionM.plan_of_execute ht)
  rw [operators_queryFor hops] at hp
  obtain ⟨-, haggregate, -⟩ := Pipeline.outcomeOf_meaning (α := Nat) id (fun _ => rfl) hp []
  have hskip' : (SessionM.queryFor q last).arguments.options.skipEmpty = true := by
    rw [options_queryFor, hskip]
  have hcoming : stream.coming = kept.take seen := coming_of_streams hskip' hx hraw
  have hmaps : stream.Maps r.mappings item := by
    refine ⟨(SessionM.eq_of_stream hx.streamed).2.2.2, ?_⟩
    rintro ⟨cells, n⟩ hin
    rw [hcoming] at hin
    have hcells : cells ∈ keptRows true raw := List.fst_mem_of_mem_zipIdx (List.mem_of_mem_take hin)
    exact hmap cells (mem_of_mem_keptRows hcells) n
  have hgiven : given = ((outcomeOf last (d.apply (kept.take seen))).map
      (Outcome.map item)).mapError Error.sequence := by
    rw [← outcomeOf_map, ← hcoming]
    exact SessionM.runOn_outcome hx hmaps
  have hwritten : written = ((outcomeOf last (d.apply (kept.take due))).map
      (Outcome.map item)).mapError Error.sequence := by
    simp only [written, kept, due, d, hdeferred, hlimit haggregate]
    rw [writtenOutcome_of_compile hp]
  have hthrough := numbersThrough_eq_iff d last (seenRows_le x.plan.clauses.limit raw)
    (dueRows_le x.plan.clauses.limit raw)
  refine ⟨hgiven, ?_, ?_, seenRows_eq_dueRows_iff _ _⟩
  · intro hsame
    rw [hgiven, hwritten, hthrough.mp hsame]
  · intro hnodup heq
    rw [hgiven, hwritten, ← outcomeOf_map, ← outcomeOf_map] at heq
    apply hthrough.mpr
    apply outcomeOf_eq_of_map_eq _ (mapError_sequence_inj heq)
    intro p hp p' hp' h
    exact List.inj_on_of_nodup_map hnodup (List.mem_of_mem_take (Deferred.mem_of_mem_apply hp))
      (List.mem_of_mem_take (Deferred.mem_of_mem_apply hp')) h

/-- A session on a workbook with one sheet, whose columns are `A` and `B`. -/
def sheetSession (rows : List (List Value)) : Session Engine :=
  { state := { source :=
      .workbook { sheets := [{ name := "Sheet1", rows := [.text "A", .text "B"] :: rows }] } } }

/-- A query for the cells of that sheet that leaves out blank rows. -/
def presentRows (ops : List SequenceOp) : Query where
  arguments := { source := "book", options := { skipEmpty := true } }
  item := .cells
  model := { operators := operatorsOf ops none }

/-- Two rows that count, a blank one, and one more. -/
def blankThird : List (List Value) :=
  [[.text "x", .int 1], [.text "y", .int 2], [.null, .null], [.text "z", .int 3]]

/-- A blank row behind the limit does no harm: of the first two rows, backwards and without
the first, the first is `x`. -/
theorem a_limit_before_a_blank_row :
    ∃ x stream,
      SessionM.Streams engine {}
        (SessionM.queryFor (presentRows [.take 2, .reverse, .skip 1]) (some (.first false)))
        (sheetSession blankThird) x stream ∧
      x.result.rows = within x.plan.clauses.limit blankThird ∧
      (∀ cells ∈ blankThird, ∀ n, stream.mapper.map {} stream.trim n cells =
        .ok (.cells (cells.map (·.trim .off)))) ∧
      ((SessionM.outcome engine {} (presentRows [.take 2, .reverse, .skip 1])
        (some (.first false))).runOn (sheetSession blankThird)).1 =
        .ok (.element (some (.cells [.text "x", .int 1]))) := by
  have hrun : ∃ x stream,
      SessionM.Streams engine {}
        (SessionM.queryFor (presentRows [.take 2, .reverse, .skip 1]) (some (.first false)))
        (sheetSession blankThird) x stream ∧
      x.result.rows = within x.plan.clauses.limit blankThird ∧
      stream.mapper = .cells ∧ stream.trim = .off ∧
      x.plan.clauses.limit = some 2 ∧ x.plan.deferred = { reverse := true, skip := 1 } :=
    ⟨_, _, ⟨⟨_, rfl⟩, rfl⟩, rfl, rfl, rfl, rfl, rfl⟩
  obtain ⟨x, stream, hx, hraw, hmapper, htrim, hlimit, hdeferred⟩ := hrun
  have hmap : ∀ cells ∈ blankThird, ∀ n, stream.mapper.map {} stream.trim n cells =
      .ok (.cells (cells.map (·.trim .off))) := by
    intro cells _ n
    rw [hmapper, htrim]
    rfl
  refine ⟨x, stream, hx, hraw, hmap, ?_⟩
  have h := a_limit_counts_blank_rows engine {} (presentRows [.take 2, .reverse, .skip 1])
    [.take 2, .reverse, .skip 1] (some (.first false)) (sheetSession blankThird) blankThird
    (fun p => .cells (p.1.map (·.trim .off))) rfl rfl hx hraw hmap
  rw [hlimit, hdeferred] at h
  exact h.2.1 rfl

/-- A blank row, and two rows that count. -/
def blankFirst : List (List Value) := [[.null, .null], [.text "x", .int 1], [.text "y", .int 2]]

/-- A blank row within the limit does harm: one row is asked for and none comes, and of two
rows one is taken for the only one. -/
theorem a_blank_row_uses_up_the_limit :
    ((SessionM.outcome engine {} (presentRows [.take 1]) none).runOn (sheetSession blankFirst)).1 =
      .ok (.sequence []) ∧
    writtenOutcome id [.take 1] none (keptRows true blankFirst) =
      .ok (.sequence [[.text "x", .int 1]]) ∧
    ((SessionM.outcome engine {} (presentRows []) (some (.single false))).runOn
        (sheetSession blankFirst)).1 =
      .ok (.element (some (.cells [.text "x", .int 1]))) ∧
    writtenOutcome id [] (some (.single false)) (keptRows true blankFirst) =
      .error .moreThanOne := by
  refine ⟨rfl, rfl, rfl, rfl⟩

end GridQuery
