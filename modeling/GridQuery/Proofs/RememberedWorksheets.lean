-- Worksheets that are remembered. Arguments that name a place ask for the names
-- of the worksheets until the place is found, and keep its name from then on. A
-- clone keeps what was found, and a copy for another source has to find its own.
import GridQuery.Proofs.CheckedArguments

namespace GridQuery

open GridQuery.Text

/-! ## One search -/

/-- What a connection answers when it is asked for the names of the worksheets, time by time. -/
abbrev Answers := Nat → Except Error (List String)

/-- Asks for the names. How often that was done is counted. -/
def Answers.ask (answers : Answers) : StateM Nat (Except Error (List String)) := do
  let asked ← get
  set (asked + 1)
  return answers asked

/-- The name at a place among the names that are answered first. -/
def Answers.nameAt (answers : Answers) (index : Nat) : Except Error String :=
  (answers 0).bind fun names => (worksheetAt index names).mapError Error.schema

/-- The name of a worksheet, and how often names are asked for. -/
def WorksheetSource.search (answers : Answers) : WorksheetSource → Except Error String × Nat
  | known name => (.ok name, 0)
  | position index => (answers.nameAt index, 1)

/-- A search by arguments that remember nothing, and how often names are asked for in it. -/
def Target.search (target : Target) (source : String) (answers : Answers) :
    Except Error String × Nat :=
  if isCsvSource source then (.ok (baseName source), 0)
  else
    match target with
    | .standard => (.ok "Sheet1", 0)
    | .worksheet name => (.ok name, 0)
    | .namedRange _ => (.ok "", 0)
    | .position index => (answers.nameAt index, 1)

/-- Names are asked for only to find a place of a workbook, and once. -/
theorem Target.asked_search (target : Target) (source : String) (answers : Answers) :
    (target.search source answers).2 =
      if isCsvSource source = false ∧ target.position?.isSome = true then 1 else 0 := by
  unfold search
  cases isCsvSource source <;> cases target <;> rfl

namespace QueryArguments

/-- The worksheet that is found on a connection, and how often names were asked for. -/
def search (a : QueryArguments) (answers : Answers) : Except Error String × Nat :=
  let (found, asked) := (a.findWorksheet answers.ask).run 0
  (found.map (·.1), asked)

/-- The arguments after a search. -/
def afterSearch (a : QueryArguments) (answers : Answers) : QueryArguments :=
  match ((a.findWorksheet answers.ask).run 0).1 with
  | .ok (_, found) => found
  | .error _ => a

/-- The arguments when a worksheet was found. -/
def remember (a : QueryArguments) (name : String) : QueryArguments :=
  { a with resolved := some name }

variable {a : QueryArguments} {name : String}

theorem run_findWorksheet (a : QueryArguments) (answers : Answers) :
    (a.findWorksheet answers.ask).run 0 =
      ((a.worksheetSource.search answers).1.map fun name => (name, a.remember name),
        (a.worksheetSource.search answers).2) := by
  have hask : answers.ask.run 0 = pure (answers 0, 1) := rfl
  unfold findWorksheet
  rcases a.worksheetSource with name | index
  · rfl
  · unfold WorksheetSource.search Answers.nameAt
    simp only [StateT.run_bind, hask, pure_bind]
    rcases answers 0 with e | names
    · rfl
    · rcases hat : worksheetAt index names with e | name <;>
        simp only [Except.bind, Except.map, Except.mapError, hat] <;> rfl

theorem search_eq (a : QueryArguments) (answers : Answers) :
    a.search answers = a.worksheetSource.search answers := by
  rw [search, run_findWorksheet]
  rcases a.worksheetSource.search answers with ⟨_ | name, asked⟩ <;> rfl

theorem afterSearch_eq (a : QueryArguments) (answers : Answers) :
    a.afterSearch answers =
      match (a.search answers).1 with
      | .ok name => a.remember name
      | .error _ => a := by
  rw [afterSearch, run_findWorksheet, search_eq]
  rcases a.worksheetSource.search answers with ⟨_ | name, asked⟩ <;> rfl

theorem search_of_resolved (h : a.resolved = some name) (answers : Answers) :
    a.search answers = (.ok name, 0) := by
  rw [search_eq, worksheetSource, h]
  rfl

theorem search_of_fresh (h : a.resolved = none) (answers : Answers) :
    a.search answers = a.target.search a.source answers := by
  rw [search_eq, worksheetSource, h]
  unfold Target.search isCsv
  rcases isCsvSource a.source <;> rcases a.target <;> rfl

theorem asked_search (a : QueryArguments) (answers : Answers) :
    (a.search answers).2 ≤ 1 ∧
      ((a.search answers).2 = 1 →
        isCsvSource a.source = false ∧ a.target.position?.isSome = true) := by
  rcases h : a.resolved with _ | name
  · rw [search_of_fresh h, Target.asked_search]
    split
    · rename_i hposition
      exact ⟨Nat.le_refl 1, fun _ => hposition⟩
    · exact ⟨Nat.zero_le 1, fun habsurd => absurd habsurd Nat.zero_ne_one⟩
  · rw [search_of_resolved h]
    exact ⟨Nat.zero_le 1, fun habsurd => absurd habsurd Nat.zero_ne_one⟩

/-- Only arguments that remember nothing fail to find their worksheet. -/
theorem resolved_of_search_error {answers : Answers} {e : Error}
    (h : (a.search answers).1 = .error e) : a.resolved = none := by
  rcases hresolved : a.resolved with _ | name
  · rfl
  · rw [search_of_resolved hresolved] at h
    cases h

theorem resolved_afterSearch {answers : Answers} (h : (a.search answers).1 = .ok name) :
    (a.afterSearch answers).resolved = some name := by
  rw [afterSearch_eq, h]
  rfl

theorem afterSearch_of_unfound {answers : Answers} (h : (a.search answers).1.toOption = none) :
    a.afterSearch answers = a := by
  rw [afterSearch_eq]
  rcases hfound : (a.search answers).1 with e | name
  · rfl
  · rw [hfound] at h
    cases h

end QueryArguments

/-! ## Arguments that are used -/

/-- A use of one of the arguments at hand, by its place. -/
inductive Use
  /-- Its worksheet is searched for on a connection. -/
  | search (place : Nat) (answers : Answers)
  | clone (place : Nat)
  /-- It is copied for another source. -/
  | copy (place : Nat) (source : String)

/-- The arguments at hand after a use. Clones and copies are put at the end. -/
def Use.apply (held : List QueryArguments) : Use → List QueryArguments
  | search place answers => held.modify place (·.afterSearch answers)
  | clone place => held ++ held[place]?.toList
  | copy place source => copyFrom held (place, source)

def afterUses (held : List QueryArguments) (uses : List Use) : List QueryArguments :=
  uses.foldl Use.apply held

/-- The places of some arguments and of the clones that are taken of them by a use. -/
def Use.clones (held : List QueryArguments) (places : List Nat) : Use → List Nat
  | clone place => if place ∈ places then places ++ [held.length] else places
  | _ => places

/-- The places of some arguments, of the clones that are taken of them, and of theirs. -/
def clonesOf (held : List QueryArguments) (places : List Nat) : List Use → List Nat
  | [] => places
  | use :: rest => clonesOf (use.apply held) (use.clones held places) rest

section

variable {held : List QueryArguments} {place : Nat} {a : QueryArguments}

/-- A use changes only what is searched for. -/
theorem Use.getElem?_apply (h : held[place]? = some a) (use : Use) :
    (use.apply held)[place]? =
      match use with
      | .search other answers => if other = place then some (a.afterSearch answers) else some a
      | _ => some a := by
  have hlt : place < held.length := (List.getElem?_eq_some_iff.mp h).1
  rcases use with ⟨other, answers⟩ | other | ⟨other, source⟩
  · simp only [apply, List.getElem?_modify, h]
    split <;> rfl
  · simp only [apply, List.getElem?_append_left hlt, h]
  · simp only [apply, copyFrom]
    rcases held[other]? with _ | b
    · exact h
    · exact (List.getElem?_append_left hlt).trans h

theorem Use.apply_search_of_unfound {answers : Answers} (h : held[place]? = some a)
    (hunfound : (a.search answers).1.toOption = none) :
    (Use.search place answers).apply held = held := by
  refine List.ext_getElem? fun p => ?_
  simp only [apply, List.getElem?_modify]
  split
  · rename_i hp
    subst hp
    simp [h, QueryArguments.afterSearch_of_unfound hunfound]
  · simp

theorem getElem?_afterUses_of_unfound (h : held[place]? = some a) {uses : List Use}
    (hunfound : ∀ answers, Use.search place answers ∈ uses →
      (a.search answers).1.toOption = none) :
    (afterUses held uses)[place]? = some a := by
  induction uses generalizing held with
  | nil => exact h
  | cons use rest ih =>
    -- the only use that reaches this place is a search of it, and that one fails
    refine ih ?_ fun answers hlater => hunfound answers (List.mem_cons_of_mem _ hlater)
    rw [Use.getElem?_apply h]
    split
    · rename_i other answers
      split
      · rename_i hat
        subst hat
        rw [QueryArguments.afterSearch_of_unfound (hunfound answers List.mem_cons_self)]
      · rfl
    · rfl

end

/-- What is at a place remembers a worksheet. -/
def Remembers (held : List QueryArguments) (name : String) (place : Nat) : Prop :=
  ∃ a, held[place]? = some a ∧ a.resolved = some name

section

variable {held : List QueryArguments} {name : String}

theorem Remembers.apply {place : Nat} (h : Remembers held name place) (use : Use) :
    Remembers (use.apply held) name place := by
  obtain ⟨a, ha, hresolved⟩ := h
  rw [Remembers, Use.getElem?_apply ha]
  split
  · rename_i other answers
    split
    · refine ⟨_, rfl, QueryArguments.resolved_afterSearch ?_⟩
      rw [QueryArguments.search_of_resolved hresolved]
    · exact ⟨a, rfl, hresolved⟩
  · exact ⟨a, rfl, hresolved⟩

theorem remembers_clones {places : List Nat} (h : ∀ p ∈ places, Remembers held name p)
    (use : Use) : ∀ p ∈ use.clones held places, Remembers (use.apply held) name p := by
  have hkept : ∀ p ∈ places, Remembers (use.apply held) name p :=
    fun p hp => (h p hp).apply use
  rcases use with ⟨place, answers⟩ | place | ⟨place, source⟩
  · exact hkept
  · simp only [Use.clones]
    split
    · rename_i hplace
      intro p hp
      rcases List.mem_append.mp hp with hp | hp
      · exact hkept p hp
      · -- the clone is what is at hand before it, and so remembers what that remembers
        obtain rfl := List.mem_singleton.mp hp
        obtain ⟨a, ha, hresolved⟩ := h place hplace
        exact ⟨a, by simp [Use.apply, ha], hresolved⟩
    · exact hkept
  · exact hkept

theorem remembers_clonesOf {places : List Nat} (h : ∀ p ∈ places, Remembers held name p)
    (uses : List Use) :
    ∀ p ∈ clonesOf held places uses, Remembers (afterUses held uses) name p := by
  induction uses generalizing held places with
  | nil => exact h
  | cons use rest ih => exact ih (remembers_clones h use)

theorem mem_clonesOf {places : List Nat} {p : Nat} (h : p ∈ places) (uses : List Use) :
    p ∈ clonesOf held places uses := by
  induction uses generalizing held places with
  | nil => exact h
  | cons use rest ih =>
    refine ih ?_
    rcases use with ⟨place, answers⟩ | place | ⟨place, source⟩
    · exact h
    · simp only [Use.clones]
      split
      · exact List.mem_append_left _ h
      · exact h
    · exact h

end

/-- Names are asked for only to find a place of a workbook, and once in a search. A search that
fails leaves all as it was, and what is searched for without success, whatever is done to
others and to its own clones and copies, is searched for again in the same way. What is found is
remembered: from then on the arguments, the clones that are taken of them and the clones of these
give that name, whatever else is done, and ask for nothing. A copy for another source searches
like arguments that remember nothing. -/
theorem a_worksheet_is_searched_for_until_it_is_found (held : List QueryArguments) (place : Nat)
    (a : QueryArguments) (h : held[place]? = some a) :
    (∀ answers, (a.search answers).2 ≤ 1 ∧
      ((a.search answers).2 = 1 →
        isCsvSource a.source = false ∧ a.target.position?.isSome = true)) ∧
    (∀ answers e, (a.search answers).1 = .error e →
      (Use.search place answers).apply held = held ∧
        ∀ again, a.search again = a.target.search a.source again) ∧
    (∀ uses, (∀ answers, Use.search place answers ∈ uses →
        (a.search answers).1.toOption = none) →
      (afterUses held uses)[place]? = some a) ∧
    (∀ answers name, (a.search answers).1 = .ok name →
      ∀ found, (Use.search place answers).apply held = found →
        ∀ uses, place ∈ clonesOf found [place] uses ∧
          ∀ p ∈ clonesOf found [place] uses, ∃ b, (afterUses found uses)[p]? = some b ∧
            ∀ later, b.search later = (.ok name, 0)) ∧
    ∀ source, (Use.copy place source).apply held = held ++ [a.withSource source] ∧
      ∀ answers, (a.withSource source).search answers = a.target.search source answers := by
  refine ⟨a.asked_search, ?failed, ?unfound, ?found, ?copied⟩
  case failed =>
    intro answers e he
    refine ⟨Use.apply_search_of_unfound h (by rw [he]; rfl), ?_⟩
    exact QueryArguments.search_of_fresh (QueryArguments.resolved_of_search_error he)
  case unfound => exact fun uses => getElem?_afterUses_of_unfound h
  case found =>
    rintro answers name hname found rfl uses
    refine ⟨mem_clonesOf List.mem_cons_self uses, fun p hp => ?_⟩
    have hremembers : ∀ q ∈ [place],
        Remembers ((Use.search place answers).apply held) name q := by
      intro q hq
      obtain rfl := List.mem_singleton.mp hq
      rw [Remembers, Use.getElem?_apply h]
      exact ⟨_, if_pos rfl, QueryArguments.resolved_afterSearch hname⟩
    obtain ⟨b, hb, hresolved⟩ := remembers_clonesOf hremembers uses p hp
    exact ⟨b, hb, QueryArguments.search_of_resolved hresolved⟩
  case copied =>
    intro source
    refine ⟨by simp only [Use.apply, copyFrom, h], fun answers => ?_⟩
    exact QueryArguments.search_of_fresh rfl answers

/-- The second worksheet is not there at first. What is found later is kept, also by a clone, when
the names change and when a copy for another workbook fails to find its own. -/
theorem the_second_worksheet_is_found_when_it_is_there :
    ∃ a : QueryArguments, ∃ short long : Answers,
      (a.search short).1 = .error (.schema (.worksheetIndexOutOfRange 1 1)) ∧
      (Use.search 0 short).apply [a] = [a] ∧
      (afterUses [a] [.search 0 short, .clone 0, .search 1 long])[0]? = some a ∧
      ∃ found, (Use.search 0 long).apply [a] = found ∧
        ∀ p ∈ [0, 1], ∃ b,
          (afterUses found
            [.clone 0, .copy 1 "other.xlsx", .search 0 short, .search 2 short])[p]? = some b ∧
            ∀ later, b.search later = (.ok "B", 0) := by
  refine ⟨{ source := "book.xlsx", worksheetIndex := some 1 }, fun _ => .ok ["A"],
    fun _ => .ok ["A", "B"], ?_⟩
  obtain ⟨-, hfailed, hunfound, hfound, -⟩ := a_worksheet_is_searched_for_until_it_is_found
    [{ source := "book.xlsx", worksheetIndex := some 1 }] 0
    { source := "book.xlsx", worksheetIndex := some 1 } rfl
  refine ⟨rfl, (hfailed _ _ rfl).1, hunfound _ ?_, _, rfl, ?_⟩
  · intro answers hsearch
    obtain rfl : answers = fun _ => .ok ["A"] := by
      simpa using hsearch
    rfl
  · exact (hfound _ "B" rfl _ rfl
      [.clone 0, .copy 1 "other.xlsx", .search 0 fun _ => .ok ["A"],
        .search 2 fun _ => .ok ["A"]]).2

end GridQuery
