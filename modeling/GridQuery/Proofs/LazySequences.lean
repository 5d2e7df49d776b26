-- Results that are mapped while they are pulled beside results that are mapped
-- at once, where any row may fail. What a pull leaves behind never hangs on the
-- mappings of its moment, so a run of pulls is read off the outcomes of the
-- rows.
import GridQuery.Proofs.SessionRun
import GridQuery.Script

namespace GridQuery

/-! ## Mappings of the moment -/

/-- A row fails under all mappings or under none. -/
theorem Mapper.map_cases (mapper : Mapper) (trim : Text.TrimPolicy) (n : Nat)
    (cells : List Value) :
    (∃ item : ColumnMappings → Item, ∀ m, mapper.map m trim n cells = .ok (item m)) ∨
      ∃ e, ∀ m, mapper.map m trim n cells = .error e := by
  cases mapper with
  | row columns => exact .inl ⟨_, fun _ => rfl⟩
  | cells => exact .inl ⟨_, fun _ => rfl⟩
  | construct source members => exact .inl ⟨_, fun _ => rfl⟩
  | record type bindings unmapped =>
    rcases hmap : (Mapper.record type bindings unmapped).map {} trim n cells with e | item
    · exact .inr ⟨e, fun _ => hmap⟩
    · exact .inl ⟨fun _ => item, fun _ => hmap⟩

namespace RowStream

/-- What a pull leaves of a stream does not hang on the mappings, nor does its failure. -/
theorem next_cases (s : RowStream) : ∃ s', (∀ m, s.next m = (none, s')) ∨
    (∃ e, ∀ m, s.next m = (some (.error e), s')) ∨
      ∃ item : ColumnMappings → Item, ∀ m, s.next m = (some (.ok (item m)), s') := by
  unfold next
  split
  · exact ⟨s, .inl fun _ => rfl⟩
  · rcases s.pending with _ | ⟨cells, rest⟩
    · exact ⟨_, .inl fun _ => rfl⟩
    · rcases s.mapper.map_cases s.trim (s.row + 1) cells with ⟨item, hitem⟩ | ⟨e, he⟩
      · simp only [hitem]
        exact ⟨_, .inr (.inr ⟨item, fun _ => rfl⟩)⟩
      · simp only [he]
        exact ⟨_, .inr (.inl ⟨e, fun _ => rfl⟩)⟩

theorem leaveOut_mappings (m m' : ColumnMappings) (n : Nat) (s : RowStream) :
    s.leaveOut m n = s.leaveOut m' n := by
  induction n generalizing s with
  | zero => rfl
  | succ n ih =>
    unfold leaveOut
    obtain ⟨s', hend | ⟨e, hfail⟩ | ⟨item, hitem⟩⟩ := s.next_cases
    · rw [hend, hend]
    · rw [hfail, hfail]
    · rw [hitem, hitem]
      exact ih s'

end RowStream

namespace Rows

theorem next_mappings (m m' : ColumnMappings) (r : Rows) : (r.next m).2 = (r.next m').2 := by
  cases r with
  | buffered items => cases items <;> rfl
  | streaming s skip bound =>
    simp only [next, s.leaveOut_mappings m m']
    rcases s.leaveOut m' skip with ⟨left, _ | _ | e, after⟩
    · have hafter : (after.next m).2 = (after.next m').2 := by
        obtain ⟨s', hend | ⟨e, hfail⟩ | ⟨item, hitem⟩⟩ := after.next_cases
        · rw [hend, hend]
        · rw [hfail, hfail]
        · rw [hitem, hitem]
      rcases bound with _ | _ | n <;> simp only [nextWithin, hafter]
    · rfl
    · rfl

/-- What pulls give one after another, each with the mappings of its moment. -/
def pulls : List ColumnMappings → Rows → List Pull
  | [], _ => []
  | m :: moments, r => (r.next m).1 :: pulls moments (r.next m).2

/-- Each pull gives what it would give if the mappings of its moment had always been in force. -/
theorem pulls_eq {r : Rows} {outcomes : ColumnMappings → List (Except FieldError Item)}
    (h : ∀ m, r.Yields m (outcomes m)) (moments : List ColumnMappings) :
    r.pulls moments = moments.zipIdx.map fun p => (outcomes p.1)[p.2]? := by
  induction moments generalizing r outcomes with
  | nil => rfl
  | cons m moments ih =>
    have hrest : ∀ m', (r.next m).2.Yields m' (outcomes m').tail := by
      intro m'
      rw [next_mappings m m']
      exact (next_yields (h m')).2
    rw [pulls, ih hrest, (next_yields (h m)).1, List.zipIdx_cons, List.map_cons, List.zipIdx_succ,
      List.map_map]
    simp [Function.comp_def, List.head?_eq_getElem?]

theorem pulls_replicate {r : Rows} {outcomes : ColumnMappings → List (Except FieldError Item)}
    (h : ∀ m, r.Yields m (outcomes m)) (m : ColumnMappings) (n : Nat) :
    r.pulls (List.replicate n m) = (List.range n).map fun k => (outcomes m)[k]? := by
  rw [pulls_eq h]
  apply List.ext_getElem?
  intro k
  simp only [List.getElem?_map, List.getElem?_zipIdx, List.getElem?_replicate]
  by_cases hk : k < n
  · simp [hk]
  · simp [hk]

end Rows

/-! ## Lazily and at once -/

/-- Pulled lazily, a sequence without reversal gives the results due before the first row that
fails, the failure if pulls get so far, and then the end for good. Mapped at once it fails if any
row fails, and gives the very same results otherwise. Reversed results are always mapped at once. -/
theorem lazy_results_are_the_mapped_ones_until_a_row_fails {σ : Type} (b : Backend σ)
    (s : Session σ) (m : ColumnMappings) (mapper : Mapper) (trim : Text.TrimPolicy)
    (skipEmpty : Bool) (l : Lease) (rows : List (List Value)) (d : Deferred) :
    let stream : RowStream := { rows, mapper, trim, skipEmpty, lease := some l }
    let fine := beforeFailure (stream.outcomes m)
    let failure := firstFailure? (stream.outcomes m)
    (d.reverse = false →
      ∃ held, (SessionM.sequence b m true d stream).runOn s = (.ok held, s) ∧
        (∀ n, held.pulls (List.replicate n m) = (List.range n).map fun k =>
          ((within d.take (fine.drop d.skip)).map .ok ++
            if d.take.all (fine.length < d.skip + ·) then failure.toList.map .error else [])[k]?) ∧
        ∀ mapped t, (SessionM.sequence b m false d stream).runOn s = (.ok mapped, t) →
          ∀ n, mapped.pulls (List.replicate n m) = held.pulls (List.replicate n m)) ∧
    (match failure with
      | some e => ∃ t, (SessionM.sequence b m false d stream).runOn s = (.error (.field e), t)
      | none => ∃ mapped t, (SessionM.sequence b m false d stream).runOn s = (.ok mapped, t) ∧
          ∀ n, mapped.pulls (List.replicate n m) =
            (List.range n).map fun k => ((d.apply fine).map Except.ok)[k]?) ∧
    (d.reverse = true → (SessionM.sequence b m true d stream).runOn s =
      (SessionM.sequence b m false d stream).runOn s) := by
  intro stream fine failure
  have hbuffered (items : List Item) (n : Nat) : (Rows.buffered items).pulls (List.replicate n m) =
      (List.range n).map fun k => (items.map Except.ok)[k]? :=
    Rows.pulls_replicate (fun _ => .buffered items) m n
  have hheld : stream.lease.isSome = true := rfl
  obtain ⟨t, ht⟩ := SessionM.runOn_sequence_mapped b m (Bool.false_and (!d.reverse)) hheld s
  refine ⟨?_, ?_, ?_⟩
  · intro hd
    have hpulls (n : Nat) := Rows.pulls_replicate
      (fun m' => .streaming (m := m') (s := stream) d.skip d.take rfl) m n
    refine ⟨_, SessionM.runOn_sequence_lazy b m hd stream s, hpulls, ?_⟩
    intro mapped u hmapped n
    rw [ht, gathered] at hmapped
    rcases hfailure : firstFailure? (stream.outcomes m) with _ | e
    · rw [hfailure] at hmapped
      obtain ⟨hrows, -⟩ := Prod.mk.inj hmapped
      obtain rfl := Except.ok.inj hrows
      have hdue : pulledTo d.skip d.take (stream.outcomes m) = (d.apply fine).map .ok := by
        simp [pulledTo, hfailure, Deferred.apply_eq, hd, fine]
      rw [hpulls, hdue, hbuffered]
    · rw [hfailure] at hmapped
      cases (Prod.mk.inj hmapped).1
  · rw [gathered] at ht
    rcases hfailure : firstFailure? (stream.outcomes m) with _ | e
    · rw [hfailure] at ht
      simp only [failure, hfailure]
      exact ⟨_, t, ht, hbuffered (d.apply fine)⟩
    · rw [hfailure] at ht
      simp only [failure, hfailure]
      exact ⟨t, ht⟩
  · intro hd
    unfold SessionM.sequence
    rw [hd]
    rfl

/-- Orders by their quantity, of which the first and the last can be read. -/
def orderRows : List (List Value) := [[.int 1], [.null], [.text "many"], [.int 3]]

/-- Reads the quantity of an order. Blank rows are left out. -/
def quantities : RowStream where
  rows := orderRows
  mapper := .record
    { name := "Order", fields := [{ name := "quantity", type := { base := .bigint } }] }
    [{ field := 0, type := { base := .bigint }, column := "quantity", index := 0,
       transformation := none }] []
  trim := .off
  skipEmpty := true
  lease := some ⟨1, true⟩

/-- The second order that counts fails. One result is given before it, or none if one is left
out; mapped at once, no result is given. -/
theorem an_order_that_fails_ends_a_lazy_sequence :
    let unread : FieldError := ⟨2, "quantity", .incompatible "many" .text .bigint⟩
    (∃ held, (SessionM.sequence scripted {} true { take := some 2 } quantities).runOn
        { state := { script := {} } } = (.ok held, { state := { script := {} } }) ∧
      held.pulls (List.replicate 4 {}) =
        [some (.ok (.record { values := [.int 1] })), some (.error unread), none, none]) ∧
    (∃ held, (SessionM.sequence scripted {} true { skip := 1, take := some 1 } quantities).runOn
        { state := { script := {} } } = (.ok held, { state := { script := {} } }) ∧
      held.pulls (List.replicate 2 {}) = [some (.error unread), none]) ∧
    ∃ t, (SessionM.sequence scripted {} false { take := some 1 } quantities).runOn
      { state := { script := {} } } = (.error (.field unread), t) := by
  have hagree := lazy_results_are_the_mapped_ones_until_a_row_fails scripted
    { state := { script := {} } } {} quantities.mapper .off true ⟨1, true⟩ orderRows
  intro unread
  refine ⟨?_, ?_, ?_⟩
  · obtain ⟨held, hheld, hpulls, -⟩ := (hagree { take := some 2 }).1 rfl
    exact ⟨held, hheld, hpulls 4⟩
  · obtain ⟨held, hheld, hpulls, -⟩ := (hagree { skip := 1, take := some 1 }).1 rfl
    exact ⟨held, hheld, hpulls 2⟩
  · exact (hagree { take := some 1 }).2.1

end GridQuery
