-- What a sequence of results gives when it is pulled. As long as every row is
-- mapped, a sequence stands for a list of results, in whichever way the results
-- are held: pulls come to the results of the list.
import GridQuery.Proofs.RowOutcomes

namespace GridQuery

namespace RowStream

/-- The stream holds its lease, and `item` is what becomes of each row to come. -/
structure Maps (m : ColumnMappings) (item : List Value × Nat → Item) (s : RowStream) : Prop where
  held : s.lease.isSome = true
  mapped : ∀ p ∈ s.coming, s.mapper.map m s.trim p.2 p.1 = .ok (item p)

theorem Maps.outcomes_eq {m : ColumnMappings} {item : List Value × Nat → Item} {s : RowStream}
    (h : s.Maps m item) : s.outcomes m = (s.coming.map item).map .ok := by
  rw [List.map_map]
  exact List.map_congr_left h.mapped

end RowStream

namespace Rows

/-- The sequence stands for these results. -/
inductive Gives (m : ColumnMappings) : Rows → List Item → Prop
  | buffered (items : List Item) : Gives m (.buffered items) items
  | streaming {s : RowStream} {item : List Value × Nat → Item} (skip : Nat) (bound : Option Nat)
      (h : s.Maps m item) :
      Gives m (.streaming s skip bound) ((within bound (s.coming.drop skip)).map item)

/-- Pulls of a sequence come to the results that it stands for. -/
theorem Gives.yields {m : ColumnMappings} {r : Rows} {items : List Item} (h : Gives m r items) :
    r.Yields m (items.map .ok) := by
  cases h with
  | buffered items => exact .buffered items
  | @streaming s item skip bound hmaps =>
    have hyields := Yields.streaming (m := m) skip bound hmaps.held
    rwa [hmaps.outcomes_eq, pulledTo_map_ok, ← List.map_drop, within_map] at hyields

/-- Pulls give the first results of the list that the sequence stands for. -/
theorem pull_gives {m : ColumnMappings} (n : Nat) {r : Rows} {items : List Item}
    (h : Gives m r items) : (r.pull m n).1 = .ok (items.take n) := by
  rw [pull_yields n h.yields, ← List.map_take, gathered_map_ok]

theorem length_le_span {m : ColumnMappings} {r : Rows} {items : List Item} (h : Gives m r items) :
    items.length ≤ r.span := by
  cases h with
  | buffered => exact Nat.le_succ _
  | @streaming s item skip bound _ =>
    have hwithin : (within bound (s.coming.drop skip)).length ≤ (s.coming.drop skip).length := by
      rcases bound with _ | n
      · exact Nat.le_refl _
      · exact List.length_take_le' _ _
    have hcoming : s.coming.length ≤ s.rows.length := by
      simp only [RowStream.coming, List.length_zipIdx]
      exact length_keptRows_le _ _
    simp only [List.length_map, List.length_drop, span] at hwithin ⊢
    omega

theorem drain_gives {m : ColumnMappings} {r : Rows} {items : List Item} (h : Gives m r items) :
    (r.drain m).1 = .ok items := by
  unfold drain
  rw [pull_gives _ h, List.take_of_length_le (length_le_span h)]

/-- The results that an element operator looks at decide what it gives for the whole list. -/
theorem pick_gives {m : ColumnMappings} (op : ElementOp) {r : Rows} {items : List Item}
    (h : Gives m r items) :
    ∃ seen, (r.pull m (op.reach.getD r.span)).1 = .ok seen ∧ op.pick seen = op.applyTo items := by
  refine ⟨_, pull_gives _ h, ?_⟩
  rw [pick_eq_applyTo]
  rcases hreach : op.reach with _ | n
  · rw [Option.getD_none, List.take_of_length_le (length_le_span h)]
  · rw [Option.getD_some, applyTo_take op n n hreach (Nat.le_refl n)]

/-- What a query takes from its sequence: all results, or as many as its element operator
looks at. -/
def outcome (m : ColumnMappings) (last : Option ElementOp) (r : Rows) :
    Except FieldError (Except SequenceError (Outcome Item)) :=
  match last with
  | none => (r.drain m).1.map fun items => .ok (.sequence items)
  | some op => (r.pull m (op.reach.getD r.span)).1.map fun items => (op.pick items).map .element

/-- What is taken is what the element operator makes of the whole list. -/
theorem outcome_gives {m : ColumnMappings} (last : Option ElementOp) {r : Rows}
    {items : List Item} (h : Gives m r items) :
    r.outcome m last = .ok (outcomeOf last items) := by
  unfold outcome outcomeOf
  rcases last with _ | op
  · rw [drain_gives h]
    rfl
  · obtain ⟨seen, hseen, hpick⟩ := pick_gives op h
    simp only [hseen, Except.map, hpick]

end Rows

end GridQuery
