-- A stream beside its mapper, whatever the mapper does: the rows that it is
-- called on, the numbers it is told, and that it is left alone after the end.
import GridQuery.Proofs.SessionRun

namespace GridQuery

/-- A row mapper of any kind: what comes of a numbered row, and what is kept for the next call. It
may look at the world `ω` of the moment, as the mappers of queries do at the column mappings. -/
abbrev RowMap (ω κ ε α : Type) := ω → κ → Nat → List Value → Except ε α × κ

/-- What pulls come to. -/
structure Pulled (κ ε α : Type) where
  pulls : List (Option (Except ε α))
  kept : κ
  stream : RowStream

section

variable {ω κ ε α : Type}

namespace RowStream

/-- The stream's own mapper, which keeps nothing. -/
def own (s : RowStream) : RowMap ColumnMappings Unit FieldError Item :=
  fun m _ row cells => (s.mapper.map m s.trim row cells, ())

/-- A pull with some mapper in the place of the stream's own. -/
def nextBy (f : RowMap ω κ ε α) (w : ω) (kept : κ) (s : RowStream) :
    Option (Except ε α) × κ × RowStream :=
  if s.lease.isNone then (none, kept, s)
  else
    match s.pending with
    | [] => (none, kept, { s with rows := [] }.close)
    | cells :: rest =>
      let after := { s with rows := rest, row := s.row + 1 }
      match f w kept (s.row + 1) cells with
      | (.ok item, kept) => (some (.ok item), kept, after)
      | (.error e, kept) => (some (.error e), kept, after.close)

/-- Pulls in the worlds of their moments. -/
def pullsBy (f : RowMap ω κ ε α) : List ω → κ → RowStream → Pulled κ ε α
  | [], kept, s => ⟨[], kept, s⟩
  | w :: worlds, kept, s =>
    let (pull, kept, s) := s.nextBy f w kept
    let later := pullsBy f worlds kept s
    { later with pulls := pull :: later.pulls }

/-- Pulls as they are made of a query's stream. -/
def pulls : List ColumnMappings → RowStream → List Pull × RowStream
  | [], s => ([], s)
  | m :: moments, s =>
    let (pull, s) := s.next m
    let (later, s) := pulls moments s
    (pull :: later, s)

end RowStream

/-! ## Calls in turn -/

theorem map_snd_take_zip {β γ : Type} {n : Nat} {xs : List β} (ys : List γ) (h : n ≤ xs.length) :
    ((xs.zip ys).take n).map (·.2) = ys.take n := by
  rw [List.zip_eq_zipWith, List.take_zipWith, ← List.zip_eq_zipWith]
  apply List.map_snd_zip
  rw [List.length_take, List.length_take]
  omega

namespace RowMap

/-- What calls on rows return, one after another. -/
def answers (f : RowMap ω κ ε α) : List (ω × List Value × Nat) → κ → List (Except ε α)
  | [], _ => []
  | (w, cells, row) :: rows, kept =>
    let (result, kept) := f w kept row cells
    result :: answers f rows kept

/-- What the mapper keeps after them. -/
def keptAfter (f : RowMap ω κ ε α) (rows : List (ω × List Value × Nat)) (kept : κ) : κ :=
  rows.foldl (fun kept (w, cells, row) => (f w kept row cells).2) kept

/-- The mapper that notes the rows and numbers it is called with. -/
def noting (f : RowMap ω κ ε α) : RowMap ω (κ × List (List Value × Nat)) ε α :=
  fun w (kept, calls) row cells =>
    let (result, kept) := f w kept row cells
    (result, kept, calls ++ [(cells, row)])

variable {f : RowMap ω κ ε α} {kept : κ}

theorem length_answers (rows : List (ω × List Value × Nat)) :
    (f.answers rows kept).length = rows.length := by
  induction rows generalizing kept with
  | nil => rfl
  | cons row rows ih => simp [answers, ih]

/-- Taking notes changes nothing of what is returned. -/
theorem answers_noting (rows : List (ω × List Value × Nat)) (calls : List (List Value × Nat)) :
    f.noting.answers rows (kept, calls) = f.answers rows kept := by
  induction rows generalizing kept calls with
  | nil => rfl
  | cons row rows ih => simp only [answers, noting, ih]

theorem keptAfter_noting (rows : List (ω × List Value × Nat)) (calls : List (List Value × Nat)) :
    f.noting.keptAfter rows (kept, calls) = (f.keptAfter rows kept, calls ++ rows.map (·.2)) := by
  induction rows generalizing kept calls with
  | nil => simp [keptAfter]
  | cons row rows ih =>
    have hcall : f.noting.keptAfter (row :: rows) (kept, calls) =
        f.noting.keptAfter rows ((f row.1 kept row.2.2 row.2.1).2, calls ++ [row.2]) := rfl
    rw [hcall, ih, List.map_cons, List.append_assoc]
    rfl

end RowMap

namespace RowStream

variable {f : RowMap ω κ ε α} {kept : κ} {s : RowStream} {w : ω}

/-! ## One pull -/

variable (f kept w)

theorem nextBy_of_spent (h : s.lease = none) : s.nextBy f w kept = (none, kept, s) := by
  unfold nextBy
  rw [h]
  rfl

/-- A pull finds the rows used up, or calls the mapper on the first row to come, under its
number. -/
theorem nextBy_cases (hheld : s.lease.isSome = true) :
    (s.coming = [] ∧ ∃ t, s.nextBy f w kept = (none, kept, t) ∧ t.lease = none) ∨
      ∃ row rows t, s.coming = row :: rows ∧ t.coming = rows ∧
        s.nextBy f w kept = (some (f w kept row.2 row.1).1, (f w kept row.2 row.1).2, t) ∧
        t.lease = if (f w kept row.2 row.1).1.isOk then s.lease else none := by
  have hlease : s.lease.isNone = false := by simpa using hheld
  unfold nextBy
  simp only [hlease, Bool.false_eq_true, if_false]
  rcases s.pending_cases with ⟨hp, hcoming⟩ | ⟨cells, rest, hp, hcoming⟩
  · rw [hp]
    exact .inl ⟨hcoming, _, rfl, rfl⟩
  · rw [hp]
    refine .inr ⟨(cells, s.row + 1), { s with rows := rest, row := s.row + 1 }.coming, ?_⟩
    dsimp only
    rcases f w kept (s.row + 1) cells with ⟨e | item, kept'⟩
    · refine ⟨_, hcoming, ?_, rfl, rfl⟩
      rfl
    · refine ⟨_, hcoming, ?_, rfl, rfl⟩
      rfl

/-- The pulls of queries are pulls by the stream's own mapper. -/
theorem next_eq_nextBy (m : ColumnMappings) (s : RowStream) :
    s.nextBy s.own m () = ((s.next m).1, (), (s.next m).2) ∧ (s.next m).2.own = s.own := by
  unfold next nextBy
  split
  · exact ⟨rfl, rfl⟩
  · rcases s.pending with _ | ⟨cells, rest⟩
    · exact ⟨rfl, rfl⟩
    · simp only [own]
      rcases s.mapper.map m s.trim (s.row + 1) cells with e | item
      · exact ⟨rfl, rfl⟩
      · exact ⟨rfl, rfl⟩

/-! ## Many pulls -/

theorem pulls_eq_pullsBy (moments : List ColumnMappings) (s : RowStream) :
    s.pulls moments =
      ((s.pullsBy s.own moments ()).pulls, (s.pullsBy s.own moments ()).stream) := by
  induction moments generalizing s with
  | nil => rfl
  | cons m moments ih =>
    obtain ⟨hnext, hown⟩ := next_eq_nextBy m s
    simp only [pulls, pullsBy, hnext, ih, hown]

theorem pullsBy_of_spent (worlds : List ω) (h : s.lease = none) :
    s.pullsBy f worlds kept = ⟨List.replicate worlds.length none, kept, s⟩ := by
  induction worlds with
  | nil => rfl
  | cons w worlds ih =>
    simp only [pullsBy, nextBy_of_spent f kept w h, ih]
    rfl

/-- The pull gave a result. -/
def gave : Option (Except ε α) → Bool
  | some result => result.isOk
  | none => false

/-- Pulls of a stream that holds its lease give what calls on the rows to come return, up to the
first failure, and then nothing. The lease is held as long as they give results. -/
theorem pullsBy_of_held (worlds : List ω) (hheld : s.lease.isSome = true) :
    let due := pulledTo 0 none (f.answers (worlds.zip s.coming) kept)
    (s.pullsBy f worlds kept).pulls =
        due.map some ++ List.replicate (worlds.length - due.length) none ∧
      (s.pullsBy f worlds kept).kept =
        f.keptAfter ((worlds.zip s.coming).take due.length) kept ∧
      (s.pullsBy f worlds kept).stream.lease =
        if (s.pullsBy f worlds kept).pulls.all gave then s.lease else none := by
  induction worlds generalizing s kept with
  | nil => simp [pullsBy, RowMap.answers, pulledTo_nil, RowMap.keptAfter]
  | cons w worlds ih =>
    rcases nextBy_cases f kept w hheld with
      ⟨hcoming, t, hnext, hspent⟩ | ⟨row, rows, t, hcoming, hrows, hnext, hlease⟩
    · simp [pullsBy, hnext, hcoming, pullsBy_of_spent f _ _ hspent, RowMap.answers, pulledTo_nil,
        RowMap.keptAfter, hspent, gave, List.replicate_succ]
    · simp only [pullsBy, hnext, hcoming, List.zip_cons_cons, RowMap.answers]
      rcases hcall : f w kept row.2 row.1 with ⟨e | item, kept'⟩
      · have hspent : t.lease = none := by rw [hlease, hcall]; rfl
        simp [pulledTo_error, pullsBy_of_spent f _ _ hspent, RowMap.keptAfter, hcall, hspent, gave,
          Except.isOk, Except.toBool]
      · have hsame : t.lease = s.lease := by rw [hlease, hcall]; rfl
        obtain ⟨hpulls, hkept, hafter⟩ := @ih kept' t (by rw [hsame]; exact hheld)
        rw [hrows] at hpulls hkept
        rw [hsame] at hafter
        have hunbounded : (none : Option Nat) ≠ some 0 := by simp
        simp only [pulledTo_ok hunbounded, Option.map_none, List.map_cons,
          List.length_cons, List.cons_append, List.take_succ_cons, List.all_cons]
        refine ⟨?_, ?_, ?_⟩
        · rw [hpulls]
          simp
        · rw [hkept]
          simp [RowMap.keptAfter, hcall]
        · rw [hafter]
          simp [gave, Except.isOk, Except.toBool]

end RowStream

/-- Whatever the mapper does, its calls are on the rows that are not left out as blank, in their
order, numbered from 1. A pull gives what its call returns. After the first failure, or once the
rows are used up, every pull gives nothing and calls nobody, and so it is after the stream was
closed from outside. The lease is held as long as pulls give results and given up after. -/
theorem a_mapper_is_called_on_the_kept_rows_until_it_fails {ω κ ε α : Type} (f : RowMap ω κ ε α)
    (kept : κ) (rows : List (List Value)) (skipEmpty : Bool) (mapper : Mapper)
    (trim : Text.TrimPolicy) (lease : Lease) (worlds : List ω) :
    let s : RowStream := { rows, mapper, trim, skipEmpty, lease := some lease }
    let numbered := (keptRows skipEmpty rows).zipIdx 1
    let due := pulledTo 0 none (f.answers (worlds.zip numbered) kept)
    let run := s.pullsBy f.noting worlds (kept, [])
    run.pulls = due.map some ++ List.replicate (worlds.length - due.length) none ∧
      run.kept.2 = numbered.take due.length ∧
      run.kept.1 = f.keptAfter ((worlds.zip numbered).take due.length) kept ∧
      run.stream.lease = (if run.pulls.all RowStream.gave then some lease else none) ∧
      (∀ (later : List ω) (notes : κ × List (List Value × Nat)) (t : RowStream),
        t.lease = none → t.pullsBy f.noting later notes =
          ⟨List.replicate later.length none, notes, t⟩) ∧
      (∀ (moments : List ColumnMappings) (t : RowStream), t.pulls moments =
        ((t.pullsBy t.own moments ()).pulls, (t.pullsBy t.own moments ()).stream)) ∧
      ∀ (x : Execution) (r : Registry) (q : Query) (t : RowStream), x.stream r q = .ok t →
        t = { rows := x.result.rows, mapper := t.mapper, trim := t.trim
              skipEmpty := q.arguments.options.skipEmpty, lease := some x.lease } := by
  intro s numbered due run
  have hcoming : s.coming = numbered := rfl
  obtain ⟨hpulls, hkept, hlease⟩ :=
    RowStream.pullsBy_of_held f.noting (kept, []) worlds (s := s) rfl
  rw [RowMap.answers_noting, hcoming] at hpulls hkept
  have hdue : due.length ≤ worlds.length := by
    have hcalls := length_pulledTo_le (f.answers (worlds.zip numbered) kept)
    rw [RowMap.length_answers, List.length_zip] at hcalls
    exact Nat.le_trans hcalls (Nat.min_le_left _ _)
  have hnotes := map_snd_take_zip numbered hdue
  rw [RowMap.keptAfter_noting, List.nil_append] at hkept
  refine ⟨hpulls, ?_, ?_, hlease, ?_, ?_, ?_⟩
  · exact (congrArg Prod.snd hkept).trans hnotes
  · exact congrArg Prod.fst hkept
  · exact fun later notes t hspent => RowStream.pullsBy_of_spent _ notes later hspent
  · exact RowStream.pulls_eq_pullsBy
  · intro x r q t hstream
    obtain ⟨mapper, -, rfl⟩ := Execution.of_stream hstream
    rfl

end

/-- Wants numbers, and counts its calls. -/
def countingMap : RowMap Unit Nat String Nat
  | _, calls, row, [.int _] => (.ok row, calls + 1)
  | _, calls, _, _ => (.error "no number", calls + 1)

def numbersAndText : RowStream where
  rows := [[.int 5], [.null], [.text "x"], [.int 7]]
  mapper := .cells
  trim := .off
  skipEmpty := true
  lease := some { connection := 0, owned := true }

/-- The blank row has no number, and the last row is never looked at. -/
theorem a_text_after_a_blank_row :
    let run := numbersAndText.pullsBy countingMap.noting [(), (), (), ()] (0, [])
    run.pulls = [some (.ok 1), some (.error "no number"), none, none] ∧
      run.kept = (2, [([.int 5], 1), ([.text "x"], 2)]) ∧ run.stream.lease = none ∧
      run.stream.close.pullsBy countingMap.noting [()] run.kept =
        ⟨[none], run.kept, run.stream.close⟩ := by
  intro run
  obtain ⟨hpulls, hcalls, hkept, hlease, hspent, -⟩ :=
    a_mapper_is_called_on_the_kept_rows_until_it_fails countingMap 0
      [[.int 5], [.null], [.text "x"], [.int 7]] true .cells .off
      { connection := 0, owned := true } [(), (), (), ()]
  rw [hpulls] at hlease
  exact ⟨hpulls, Prod.ext hkept hcalls, hlease, hspent [()] _ _ rfl⟩

end GridQuery
