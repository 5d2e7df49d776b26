-- Result operators in the order in which they are written: each one takes the
-- whole sequence that the one before it gave, and an element operator comes
-- last. A query has to give what this gives, however its operators are split.
import GridQuery.Query.Sequence

namespace GridQuery

/-! ## Operators that give a sequence again -/

/-- An operator that gives a sequence again. -/
inductive SequenceOp
  | skip (count : Nat)
  | take (count : Nat)
  | reverse
  | distinct
  deriving DecidableEq, Repr

namespace SequenceOp

/-- The operator as a result operator of a query. -/
def toResultOp : SequenceOp → ResultOp
  | skip count => .skip count
  | take count => .take count
  | reverse => .reverse
  | distinct => .distinct

/-- The operator on a whole sequence. `dedup` takes repeated elements out. -/
def applyTo {α : Type} (dedup : List α → List α) : SequenceOp → List α → List α
  | skip count, xs => xs.drop count
  | take count, xs => xs.take count
  | reverse, xs => xs.reverse
  | distinct, xs => dedup xs

end SequenceOp

/-- Operators on a sequence, one after another. -/
def applyEach {α : Type} (dedup : List α → List α) (ops : List SequenceOp) (xs : List α) : List α :=
  ops.foldl (fun ys op => op.applyTo dedup ys) xs

/-- The operators of a query: sequence operators, then at most one element operator. -/
def operatorsOf (ops : List SequenceOp) (last : Option ElementOp) : List ResultOp :=
  ops.map SequenceOp.toResultOp ++ last.toList.map ResultOp.element

/-! ## Removing repetitions -/

/-- A removal of repeated elements. It keeps elements of the list, and a second removal
finds nothing left to remove. -/
structure Dedup (α : Type) where
  run : List α → List α
  mem_of_mem_run : ∀ {xs : List α} {x : α}, x ∈ run xs → x ∈ xs
  run_run : ∀ xs, run (run xs) = run xs

/-- Elements with their numbers, from 1. -/
def numbered {α : Type} (xs : List α) : List (α × Nat) := xs.zipIdx 1

/-- The removal on numbered elements; what is kept is numbered anew. -/
def Dedup.renumber {α : Type} (dedup : Dedup α) (ps : List (α × Nat)) : List (α × Nat) :=
  numbered (dedup.run (ps.map (·.1)))

@[simp] theorem map_fst_numbered {α : Type} (xs : List α) : (numbered xs).map (·.1) = xs := by
  simp [numbered]

theorem numbered_take {α : Type} (n : Nat) (xs : List α) :
    numbered (xs.take n) = (numbered xs).take n := by
  apply List.ext_getElem?
  intro i
  simp only [numbered, List.getElem?_zipIdx, List.getElem?_take]
  split <;> rfl

@[simp] theorem Dedup.renumber_numbered {α : Type} (dedup : Dedup α) (xs : List α) :
    dedup.renumber (numbered xs) = numbered (dedup.run xs) := by
  simp [Dedup.renumber]

/-- Numbering what is kept anew leaves nothing to remove either. -/
theorem Dedup.renumber_renumber {α : Type} (dedup : Dedup α) (ps : List (α × Nat)) :
    dedup.renumber (dedup.renumber ps) = dedup.renumber ps := by
  simp [Dedup.renumber, dedup.run_run]

/-! ## What a query gives -/

/-- What a query gives: a sequence, or one element of it, which may be missing. -/
inductive Outcome (α : Type)
  | sequence (items : List α)
  | element (item : Option α)
  deriving DecidableEq, Repr

/-- The outcome with `f` applied to all that is in it. -/
def Outcome.map {α β : Type} (f : α → β) : Outcome α → Outcome β
  | sequence items => sequence (items.map f)
  | element item => element (item.map f)

namespace ElementOp

/-- An element that has to be there, unless the operator has a default. -/
def require {α : Type} (op : ElementOp) : Option α → Except SequenceError (Option α)
  | some x => .ok (some x)
  | none => if op.orDefault then .ok none else .error .noElements

/-- The operator on a whole sequence. -/
def applyTo {α : Type} (op : ElementOp) (xs : List α) : Except SequenceError (Option α) :=
  match op with
  | first _ => op.require xs.head?
  | last _ => op.require xs.getLast?
  | single _ => if 1 < xs.length then .error .moreThanOne else op.require xs.head?

end ElementOp

/-- What an element operator, if there is one, makes of a sequence. -/
def outcomeOf {α : Type} (last : Option ElementOp) (xs : List α) :
    Except SequenceError (Outcome α) :=
  match last with
  | none => .ok (.sequence xs)
  | some op => (op.applyTo xs).map .element

/-- What the operators of a query give when they are applied one at a time. -/
def writtenOutcome {α : Type} (dedup : List α → List α) (ops : List SequenceOp)
    (last : Option ElementOp) (xs : List α) : Except SequenceError (Outcome α) :=
  outcomeOf last (applyEach dedup ops xs)

/-! ## Picking from the elements that were looked at -/

theorem pick_eq_applyTo {α : Type} (op : ElementOp) (xs : List α) : op.pick xs = op.applyTo xs := by
  cases op with
  | first d => cases xs <;> rfl
  | last d =>
    rcases h : xs.getLast? with _ | x <;>
      simp [ElementOp.pick, ElementOp.applyTo, ElementOp.require, h]
  | single d =>
    rcases xs with _ | ⟨x, _ | ⟨y, ys⟩⟩
    · rfl
    · rfl
    · simp [ElementOp.pick, ElementOp.applyTo]

/-- As many elements as an operator looks at decide what it gives. -/
theorem applyTo_take {α : Type} (op : ElementOp) (n k : Nat) (h : op.reach = some n) (hk : n ≤ k)
    (xs : List α) : op.applyTo (xs.take k) = op.applyTo xs := by
  cases op with
  | first d =>
    obtain rfl : 1 = n := by simpa [ElementOp.reach] using h
    simp [ElementOp.applyTo, List.head?_take, Nat.ne_of_gt hk]
  | last d => simp [ElementOp.reach] at h
  | single d =>
    obtain rfl : 2 = n := by simpa [ElementOp.reach] using h
    have hlen : (1 < (xs.take k).length) ↔ 1 < xs.length := by
      simp only [List.length_take]; omega
    simp only [ElementOp.applyTo, hlen, List.head?_take, show k ≠ 0 by omega, if_false]

theorem applyTo_map {α β : Type} (f : α → β) (op : ElementOp) (xs : List α) :
    op.applyTo (xs.map f) = (op.applyTo xs).map (Option.map f) := by
  have hrequire : ∀ o : Option α, op.require (o.map f) = (op.require o).map (Option.map f) := by
    intro o
    rcases o with _ | x
    · simp only [ElementOp.require, Option.map_none]
      split <;> rfl
    · rfl
  cases op with
  | first d => simp [ElementOp.applyTo, hrequire]
  | last d => simp [ElementOp.applyTo, hrequire]
  | single d =>
    simp only [ElementOp.applyTo, List.length_map, List.head?_map, hrequire]
    split <;> rfl

theorem outcomeOf_map {α β : Type} (f : α → β) (last : Option ElementOp) (xs : List α) :
    outcomeOf last (xs.map f) = (outcomeOf last xs).map (Outcome.map f) := by
  rcases last with _ | op
  · rfl
  · simp only [outcomeOf, applyTo_map]
    rcases op.applyTo xs with e | o <;> rfl

/-- An element that is given is one of the sequence. -/
theorem mem_of_applyTo {α : Type} {op : ElementOp} {xs : List α} {x : α}
    (h : op.applyTo xs = .ok (some x)) : x ∈ xs := by
  have hrequire : ∀ o : Option α, op.require o = .ok (some x) → o = some x := by
    intro o ho
    rcases o with _ | y
    · simp only [ElementOp.require] at ho
      split at ho <;> cases ho
    · cases ho
      rfl
  cases op with
  | first d => exact List.mem_of_head? (hrequire _ h)
  | last d => exact List.mem_of_getLast? (hrequire _ h)
  | single d =>
    simp only [ElementOp.applyTo] at h
    split at h
    · cases h
    · exact List.mem_of_head? (hrequire _ h)

end GridQuery
