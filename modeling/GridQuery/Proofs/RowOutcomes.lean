-- What becomes of rows, one after another: pulls of a sequence give the results
-- that are due before the first row that fails, then that failure if they get
-- so far, then the end for good.
import GridQuery.Proofs.PushDown
import GridQuery.Session.Rows

namespace GridQuery

/-! ## Outcomes up to the first failure -/

section

variable {ε α : Type}

def beforeFailure : List (Except ε α) → List α
  | .ok a :: outcomes => a :: beforeFailure outcomes
  | _ => []

def firstFailure? : List (Except ε α) → Option ε
  | .ok _ :: outcomes => firstFailure? outcomes
  | .error e :: _ => some e
  | [] => none

/-- All results, or the first failure. -/
def gathered (outcomes : List (Except ε α)) : Except ε (List α) :=
  match firstFailure? outcomes with
  | some e => .error e
  | none => .ok (beforeFailure outcomes)

theorem gathered_ok (a : α) (outcomes : List (Except ε α)) :
    gathered (.ok a :: outcomes) = (gathered outcomes).map (a :: ·) := by
  simp only [gathered, firstFailure?, beforeFailure]
  rcases firstFailure? outcomes with _ | e <;> rfl

/-- What pulls come to, one after another, where `skip` results are left out and at most `bound`
are given. A failure is met unless the bound is used up before it. -/
def pulledTo (skip : Nat) (bound : Option Nat) (outcomes : List (Except ε α)) :
    List (Except ε α) :=
  (within bound ((beforeFailure outcomes).drop skip)).map .ok ++
    if bound.all ((beforeFailure outcomes).length < skip + ·) then
      (firstFailure? outcomes).toList.map .error
    else []

variable {outcomes : List (Except ε α)}

theorem beforeFailure_drop {n : Nat} (h : n ≤ (beforeFailure outcomes).length) :
    beforeFailure (outcomes.drop n) = (beforeFailure outcomes).drop n ∧
      firstFailure? (outcomes.drop n) = firstFailure? outcomes := by
  induction n generalizing outcomes with
  | zero => exact ⟨rfl, rfl⟩
  | succ n ih =>
    rcases outcomes with _ | ⟨e | a, outcomes⟩
    · simp [beforeFailure] at h
    · simp [beforeFailure] at h
    · exact ih (Nat.le_of_succ_le_succ h)

theorem pulledTo_of_le {skip : Nat} (bound : Option Nat)
    (h : skip ≤ (beforeFailure outcomes).length) :
    pulledTo skip bound outcomes = pulledTo 0 bound (outcomes.drop skip) := by
  obtain ⟨hfine, hfailure⟩ := beforeFailure_drop h
  have hreach : ∀ n, (beforeFailure outcomes).length < skip + n ↔
      ((beforeFailure outcomes).drop skip).length < 0 + n := by
    intro n
    rw [List.length_drop]
    omega
  unfold pulledTo
  rw [hfine, hfailure, List.drop_zero]
  simp only [hreach]

/-- Whoever leaves out more results than there are meets the failure. -/
theorem pulledTo_of_lt {skip : Nat} (bound : Option Nat)
    (h : (beforeFailure outcomes).length < skip) :
    pulledTo skip bound outcomes = (firstFailure? outcomes).toList.map .error := by
  have hnone : within bound ((beforeFailure outcomes).drop skip) = [] := by
    rw [List.drop_of_length_le (Nat.le_of_lt h)]
    rcases bound with _ | n
    · rfl
    · exact List.take_nil
  have hreach : bound.all ((beforeFailure outcomes).length < skip + ·) = true := by
    rcases bound with _ | n
    · rfl
    · simp only [Option.all_some, decide_eq_true_eq]
      omega
  unfold pulledTo
  rw [hnone, if_pos hreach]
  rfl

theorem pulledTo_bound_zero : pulledTo 0 (some 0) outcomes = [] := by simp [pulledTo]

theorem pulledTo_nil (bound : Option Nat) : pulledTo 0 bound ([] : List (Except ε α)) = [] := by
  rcases bound with _ | n <;> simp [pulledTo, beforeFailure, firstFailure?]

theorem pulledTo_ok {bound : Option Nat} (hbound : bound ≠ some 0) (a : α) :
    pulledTo 0 bound (.ok a :: outcomes) = .ok a :: pulledTo 0 (bound.map (· - 1)) outcomes := by
  rcases bound with _ | _ | n
  · simp [pulledTo, beforeFailure, firstFailure?]
  · exact absurd rfl hbound
  · simp [pulledTo, beforeFailure, firstFailure?]

theorem pulledTo_error {bound : Option Nat} (hbound : bound ≠ some 0) (e : ε) :
    pulledTo 0 bound (.error e :: outcomes) = [.error e] := by
  rcases bound with _ | _ | n
  · simp [pulledTo, beforeFailure, firstFailure?]
  · exact absurd rfl hbound
  · simp [pulledTo, beforeFailure, firstFailure?]

theorem gathered_map_ok (items : List α) :
    gathered (items.map (Except.ok (ε := ε))) = .ok items := by
  induction items with
  | nil => rfl
  | cons item items ih => rw [List.map_cons, gathered_ok, ih, Except.map]

/-- Where nothing fails, pulls come to the results that are due. -/
theorem pulledTo_map_ok (skip : Nat) (bound : Option Nat) (items : List α) :
    pulledTo skip bound (items.map (Except.ok (ε := ε))) =
      (within bound (items.drop skip)).map .ok := by
  have hfine : beforeFailure (items.map (Except.ok (ε := ε))) = items ∧
      firstFailure? (items.map (Except.ok (ε := ε))) = none := by
    induction items with
    | nil => exact ⟨rfl, rfl⟩
    | cons item items ih => exact ⟨congrArg (item :: ·) ih.1, ih.2⟩
  simp [pulledTo, hfine]

theorem gathered_pulledTo : gathered (pulledTo 0 none outcomes) = gathered outcomes := by
  induction outcomes with
  | nil => rw [pulledTo_nil]
  | cons outcome outcomes ih =>
    rcases outcome with e | a
    · rw [pulledTo_error (by simp)]
      rfl
    · rw [pulledTo_ok (by simp), gathered_ok, gathered_ok]
      exact congrArg (Except.map (a :: ·)) ih

theorem length_pulledTo_le (outcomes : List (Except ε α)) :
    (pulledTo 0 none outcomes).length ≤ outcomes.length := by
  induction outcomes with
  | nil => simp [pulledTo_nil]
  | cons outcome outcomes ih =>
    rcases outcome with e | a
    · rw [pulledTo_error (by simp)]
      exact Nat.succ_le_succ (Nat.zero_le _)
    · rw [pulledTo_ok (by simp)]
      exact Nat.succ_le_succ ih

end

/-! ## The rows of a stream that count -/

/-- The rows that are not left out as blank. -/
def keptRows (skipEmpty : Bool) (rows : List (List Value)) : List (List Value) :=
  if skipEmpty then rows.filter fun cells => !isBlankRow cells else rows

@[simp] theorem keptRows_nil (skipEmpty : Bool) : keptRows skipEmpty [] = [] := by
  cases skipEmpty <;> rfl

theorem mem_of_mem_keptRows {skipEmpty : Bool} {rows : List (List Value)} {cells : List Value}
    (h : cells ∈ keptRows skipEmpty rows) : cells ∈ rows := by
  unfold keptRows at h
  split at h
  · exact (List.mem_filter.mp h).1
  · exact h

theorem length_keptRows_le (skipEmpty : Bool) (rows : List (List Value)) :
    (keptRows skipEmpty rows).length ≤ rows.length := by
  unfold keptRows
  split
  · exact List.length_filter_le _ _
  · exact Nat.le_refl _

namespace RowStream

/-- The rows to come, with the numbers under which they are mapped. -/
def coming (s : RowStream) : List (List Value × Nat) :=
  (keptRows s.skipEmpty s.rows).zipIdx (s.row + 1)

theorem keptRows_pending (s : RowStream) :
    keptRows s.skipEmpty s.pending = keptRows s.skipEmpty s.rows := by
  unfold pending keptRows
  split
  · induction s.rows with
    | nil => rfl
    | cons cells rows ih =>
      by_cases hb : isBlankRow cells = true
      · simp [hb, ih]
      · simp [hb]
  · rfl

/-- The first pending row counts. -/
theorem keptRows_pending_cons {s : RowStream} {cells : List Value} {rest : List (List Value)}
    (h : s.pending = cells :: rest) :
    keptRows s.skipEmpty s.rows = cells :: keptRows s.skipEmpty rest := by
  rw [← keptRows_pending, h]
  unfold keptRows
  split
  · rename_i hskip
    have hhead : isBlankRow cells = false := by
      have hd := List.head?_dropWhile_not isBlankRow s.rows
      simp only [pending, hskip, if_true] at h
      rw [h] at hd
      simpa using hd
    simp [hhead]
  · rfl

/-- Either no row is to come, or the first pending row is, under the next number. -/
theorem pending_cases (s : RowStream) :
    (s.pending = [] ∧ s.coming = []) ∨ ∃ cells rest, s.pending = cells :: rest ∧
      s.coming = (cells, s.row + 1) :: { s with rows := rest, row := s.row + 1 }.coming := by
  unfold coming
  rcases hp : s.pending with _ | ⟨cells, rest⟩
  · rw [← keptRows_pending, hp, keptRows_nil]
    exact .inl ⟨rfl, rfl⟩
  · rw [keptRows_pending_cons hp, List.zipIdx_cons]
    exact .inr ⟨cells, rest, rfl, rfl⟩

end RowStream

/-! ## The lease of a sequence -/

/-- What a pull leaves of a lease: a result leaves it as it is. -/
def Pull.leaves : Pull → Option Lease → Option Lease
  | some (.ok _), l => l
  | _, _ => none

/-- What leaving results out leaves of a lease. -/
def Skipped.leaves : Skipped → Option Lease → Option Lease
  | done, l => l
  | _, _ => none

/-- A stream keeps its lease as long as it gives results. -/
theorem RowStream.lease_next (m : ColumnMappings) (s : RowStream) :
    (s.next m).2.lease = (s.next m).1.leaves s.lease := by
  unfold RowStream.next
  split
  · rename_i hover
    exact Option.isNone_iff_eq_none.mp hover
  · rcases s.pending with _ | ⟨cells, rest⟩
    · rfl
    · simp only
      rcases hmap : s.mapper.map m s.trim (s.row + 1) cells with e | item <;> rfl

theorem RowStream.lease_leaveOut (m : ColumnMappings) (n : Nat) (s : RowStream) :
    (s.leaveOut m n).2.2.lease = (s.leaveOut m n).2.1.leaves s.lease := by
  induction n generalizing s with
  | zero => rfl
  | succ n ih =>
    have hnext := s.lease_next m
    unfold RowStream.leaveOut
    rcases hs : s.next m with ⟨_ | e | item, after⟩ <;> rw [hs] at hnext
    · exact hnext
    · exact hnext
    · have hafter : after.lease = s.lease := hnext
      rw [← hafter]
      exact ih after

/-- A sequence keeps its lease as long as it gives results. -/
theorem Rows.lease?_next (m : ColumnMappings) (rows : Rows) :
    (rows.next m).2.lease? = (rows.next m).1.leaves rows.lease? := by
  cases rows with
  | buffered items => cases items <;> rfl
  | streaming s skip bound =>
    have hleft := s.lease_leaveOut m skip
    unfold Rows.next
    rcases hs : s.leaveOut m skip with ⟨left, _ | _ | e, after⟩ <;> rw [hs] at hleft <;>
      simp only [hs]
    · have hafter : after.lease = s.lease := hleft
      have hnext := after.lease_next m
      rw [hafter] at hnext
      rcases bound with _ | _ | n
      · exact hnext
      · rfl
      · exact hnext
    · exact hleft
    · exact hleft

/-! ## Pulls of a stream -/

namespace RowStream

variable {m : ColumnMappings} {s : RowStream}

/-- What becomes of each row to come. -/
def outcomes (m : ColumnMappings) (s : RowStream) : List (Except FieldError Item) :=
  s.coming.map fun p => s.mapper.map m s.trim p.2 p.1

/-- A pull of a stream that holds its lease is the outcome of the next row that counts. -/
theorem next_of_held (h : s.lease.isSome = true) :
    (s.next m).1 = (s.outcomes m).head? ∧ (s.next m).2.outcomes m = (s.outcomes m).tail := by
  have hlease : s.lease.isNone = false := by simpa using h
  unfold next
  simp only [hlease, Bool.false_eq_true, if_false]
  unfold outcomes
  rcases s.pending_cases with ⟨hp, hcoming⟩ | ⟨cells, rest, hp, hcoming⟩
  · rw [hp, hcoming]
    simp [coming, close]
  · rw [hp, hcoming]
    rcases hmap : s.mapper.map m s.trim (s.row + 1) cells with e | item
    · simp only [hmap, List.map_cons]
      exact ⟨rfl, rfl⟩
    · simp only [hmap, List.map_cons]
      exact ⟨rfl, rfl⟩

/-- A stream that gave its lease up is at its end. -/
theorem next_of_spent (h : s.lease = none) : s.next m = (none, s) := by
  unfold next
  rw [h]
  rfl

section

variable {item : Item} {e : FieldError} {rest : List (Except FieldError Item)}

theorem next_of_ok (h : s.lease.isSome = true) (hout : s.outcomes m = .ok item :: rest) :
    ∃ s', s.next m = (some (.ok item), s') ∧ s'.lease.isSome = true ∧ s'.outcomes m = rest := by
  obtain ⟨hpull, hrest⟩ := next_of_held (m := m) h
  have hlease := s.lease_next m
  rw [hpull, hout] at hlease
  rw [hout] at hpull hrest
  refine ⟨(s.next m).2, Prod.ext hpull rfl, ?_, hrest⟩
  rw [hlease]
  exact h

/-- A stream gives its lease up where it fails, and where it ends. -/
theorem next_of_not_ok (h : s.lease.isSome = true)
    (hout : ∀ item, (s.outcomes m).head? ≠ some (.ok item)) :
    ∃ s', s.next m = ((s.outcomes m).head?, s') ∧ s'.lease = none := by
  have hpull := (next_of_held (m := m) h).1
  have hlease := s.lease_next m
  refine ⟨(s.next m).2, Prod.ext hpull rfl, ?_⟩
  rw [hlease, hpull]
  rcases hhead : (s.outcomes m).head? with _ | e | item
  · rfl
  · rfl
  · exact absurd hhead (hout item)

end

/-! ### Leaving results out -/

theorem leaveOut_of_le_fine {n : Nat} (h : s.lease.isSome = true)
    (hn : n ≤ (beforeFailure (s.outcomes m)).length) :
    ∃ s', s.leaveOut m n = (0, .done, s') ∧ s'.lease.isSome = true ∧
      s'.outcomes m = (s.outcomes m).drop n := by
  induction n generalizing s with
  | zero => exact ⟨s, rfl, h, rfl⟩
  | succ n ih =>
    rcases hout : s.outcomes m with _ | ⟨e | item, rest⟩
    · simp [hout, beforeFailure] at hn
    · simp [hout, beforeFailure] at hn
    · obtain ⟨after, hnext, hheld, hrest⟩ := next_of_ok h hout
      rw [hout] at hn
      obtain ⟨s', hleave, hheld', hrest'⟩ := ih hheld (by
        rw [hrest]
        exact Nat.le_of_succ_le_succ hn)
      refine ⟨s', ?_, hheld', ?_⟩
      · unfold leaveOut
        rw [hnext]
        exact hleave
      · rw [hrest', hrest]
        rfl

/-- Leaving out more results than there are meets the failure, or the end. -/
theorem leaveOut_of_fine_lt {n : Nat} (h : s.lease.isSome = true)
    (hn : (beforeFailure (s.outcomes m)).length < n) :
    ∃ k s', s.leaveOut m n =
        (k, ((firstFailure? (s.outcomes m)).map Skipped.failed).getD .ended, s') ∧
      s'.lease = none := by
  induction n generalizing s with
  | zero => exact absurd hn (Nat.not_lt_zero _)
  | succ n ih =>
    unfold leaveOut
    rcases hout : s.outcomes m with _ | ⟨e | item, rest⟩
    · obtain ⟨after, hnext, hspent⟩ := next_of_not_ok (m := m) h (by simp [hout])
      rw [hnext, hout]
      exact ⟨n + 1, after, rfl, hspent⟩
    · obtain ⟨after, hnext, hspent⟩ := next_of_not_ok (m := m) h (by simp [hout])
      rw [hnext, hout]
      exact ⟨n + 1, after, rfl, hspent⟩
    · obtain ⟨after, hnext, hheld, hrest⟩ := next_of_ok h hout
      rw [hout] at hn
      obtain ⟨k, s', hleave, hspent⟩ := ih hheld (by
        rw [hrest]
        exact Nat.lt_of_succ_lt_succ hn)
      rw [hrest] at hleave
      rw [hnext]
      exact ⟨k, s', hleave, hspent⟩

theorem leaveOut_of_spent (h : s.lease = none) (n : Nat) :
    s.leaveOut m (n + 1) = (n + 1, .ended, s) := by
  unfold leaveOut
  rw [next_of_spent h]

end RowStream

/-! ## Pulls of a sequence -/

namespace Rows

variable {m : ColumnMappings} {r : Rows}

/-- Pulls give these outcomes, and then the end. -/
inductive Yields (m : ColumnMappings) : Rows → List (Except FieldError Item) → Prop
  | buffered (items : List Item) : Yields m (.buffered items) (items.map .ok)
  | streaming {s : RowStream} (skip : Nat) (bound : Option Nat) (h : s.lease.isSome = true) :
      Yields m (.streaming s skip bound) (pulledTo skip bound (s.outcomes m))
  | spent {s : RowStream} (skip : Nat) (bound : Option Nat) (h : s.lease = none) :
      Yields m (.streaming s skip bound) []

theorem nextWithin_yields {s : RowStream} (h : s.lease.isSome = true) (bound : Option Nat) :
    (nextWithin m s bound).1 = (pulledTo 0 bound (s.outcomes m)).head? ∧
      (nextWithin m s bound).2.Yields m (pulledTo 0 bound (s.outcomes m)).tail := by
  -- a bound that is used up ends the sequence before the stream is asked
  by_cases hbound : bound = some 0
  · subst hbound
    rw [pulledTo_bound_zero]
    exact ⟨rfl, .spent 0 (some 0) rfl⟩
  · have hstep : nextWithin m s bound =
        ((s.next m).1, .streaming (s.next m).2 0 (bound.map (· - 1))) := by
      rcases bound with _ | _ | n
      · rfl
      · exact absurd rfl hbound
      · rfl
    rw [hstep]
    rcases hout : s.outcomes m with _ | ⟨e | item, rest⟩
    · obtain ⟨after, hnext, hspent⟩ := RowStream.next_of_not_ok (m := m) h (by simp [hout])
      rw [hnext, hout, pulledTo_nil]
      exact ⟨rfl, .spent 0 _ hspent⟩
    · obtain ⟨after, hnext, hspent⟩ := RowStream.next_of_not_ok (m := m) h (by simp [hout])
      rw [hnext, hout, pulledTo_error hbound]
      exact ⟨rfl, .spent 0 _ hspent⟩
    · obtain ⟨after, hnext, hheld, hrest⟩ := RowStream.next_of_ok h hout
      rw [hnext, pulledTo_ok hbound, ← hrest]
      exact ⟨rfl, .streaming 0 _ hheld⟩

/-- A pull gives the first outcome and leaves the others. -/
theorem next_yields {outcomes : List (Except FieldError Item)} (h : r.Yields m outcomes) :
    (r.next m).1 = outcomes.head? ∧ (r.next m).2.Yields m outcomes.tail := by
  cases h with
  | buffered items =>
    rcases items with _ | ⟨item, items⟩
    · exact ⟨rfl, .buffered []⟩
    · exact ⟨rfl, .buffered items⟩
  | @streaming s skip bound hheld =>
    -- either all that is to be left out is there, or the failure or the end is met on the way
    by_cases hle : skip ≤ (beforeFailure (s.outcomes m)).length
    · obtain ⟨s', hleave, hheld', hrest⟩ := RowStream.leaveOut_of_le_fine hheld hle
      rw [pulledTo_of_le bound hle, ← hrest]
      simp only [next, hleave]
      exact nextWithin_yields hheld' bound
    · have hlt := Nat.lt_of_not_le hle
      obtain ⟨k, s', hleave, hspent⟩ := RowStream.leaveOut_of_fine_lt hheld hlt
      rw [pulledTo_of_lt bound hlt]
      simp only [next, hleave]
      rcases firstFailure? (s.outcomes m) with _ | e
      · exact ⟨rfl, .spent k bound hspent⟩
      · exact ⟨rfl, .spent k bound hspent⟩
  | @spent s skip bound hspent =>
    rcases skip with _ | skip
    · have hnext := RowStream.next_of_spent (m := m) hspent
      rcases bound with _ | _ | n <;> simp only [next, RowStream.leaveOut, nextWithin, hnext]
      · exact ⟨rfl, .spent 0 _ hspent⟩
      · exact ⟨rfl, .spent 0 _ rfl⟩
      · exact ⟨rfl, .spent 0 _ hspent⟩
    · simp only [next, RowStream.leaveOut_of_spent hspent]
      exact ⟨rfl, .spent (skip + 1) bound hspent⟩

/-! ### Taking all results at once -/

theorem pull_yields (n : Nat) {outcomes : List (Except FieldError Item)}
    (h : r.Yields m outcomes) : (r.pull m n).1 = gathered (outcomes.take n) := by
  induction n generalizing r outcomes with
  | zero => rfl
  | succ n ih =>
    obtain ⟨hpull, hrest⟩ := next_yields h
    unfold pull
    rcases hnext : r.next m with ⟨pulled, after⟩
    rw [hnext] at hpull hrest
    rcases outcomes with _ | ⟨e | item, rest⟩ <;>
      simp only [List.head?_nil, List.head?_cons] at hpull <;> subst hpull
    · rfl
    · rfl
    · simp only [ih hrest, List.tail_cons, List.take_succ_cons, gathered_ok]

theorem drain_outcomes {s : RowStream} (h : s.lease.isSome = true) :
    ((streaming s 0 none).drain m).1 = gathered (s.outcomes m) := by
  have hlength : (pulledTo 0 none (s.outcomes m)).length ≤ (streaming s 0 none).span := by
    refine Nat.le_trans (length_pulledTo_le _) ?_
    simp only [RowStream.outcomes, RowStream.coming, List.length_map, List.length_zipIdx]
    exact Nat.le_succ_of_le (length_keptRows_le _ _)
  unfold drain
  rw [pull_yields _ (.streaming 0 none h), List.take_of_length_le hlength, gathered_pulledTo]

end Rows

end GridQuery
