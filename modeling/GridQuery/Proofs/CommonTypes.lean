-- The type of a column as a join. The types are ordered by what they hold, and
-- any two of them have a least one that holds both. The type that is found for
-- a list is the least one that holds all that are in it, so only the types that
-- are there count: not their order, not how often they occur, and no empty cell.
import GridQuery.Proofs.StoredCells
import Mathlib.Order.Bounds.Basic

namespace GridQuery

namespace ColumnType

/-! ## The order of the types -/

instance (narrow wide : ColumnType) : Decidable (narrow ≤ wide) :=
  inferInstanceAs (Decidable (_ ∨ _ ∨ (_ ∧ _) ∨ (_ ∧ _)))

theorem le_varchar (t : ColumnType) : t ≤ varchar := .inr (.inl rfl)

/-- Only integers and dates are held by a type between themselves and text. -/
theorem eq_or_eq_varchar_of_le {t wide : ColumnType} (h : t ≤ wide) (hbigint : t ≠ bigint)
    (hdate : t ≠ date) : wide = t ∨ wide = varchar := by
  rcases h with rfl | rfl | ⟨rfl, -⟩ | ⟨rfl, -⟩
  · exact .inl rfl
  · exact .inr rfl
  · exact absurd rfl hbigint
  · exact absurd rfl hdate

instance : PartialOrder ColumnType where
  le := (· ≤ ·)
  le_refl t := .inl rfl
  le_trans a b c hab hbc := by
    rcases hab with rfl | rfl | ⟨rfl, rfl⟩ | ⟨rfl, rfl⟩
    · exact hbc
    · rcases eq_or_eq_varchar_of_le hbc nofun nofun with rfl | rfl <;> exact le_varchar a
    · rcases eq_or_eq_varchar_of_le hbc nofun nofun with rfl | rfl <;> decide
    · rcases eq_or_eq_varchar_of_le hbc nofun nofun with rfl | rfl <;> decide
  le_antisymm a b hab hba := by
    rcases hab with rfl | rfl | ⟨rfl, rfl⟩ | ⟨rfl, rfl⟩
    · rfl
    · rcases eq_or_eq_varchar_of_le hba nofun nofun with h | h <;> exact h
    · rcases eq_or_eq_varchar_of_le hba nofun nofun with h | h <;> cases h
    · rcases eq_or_eq_varchar_of_le hba nofun nofun with h | h <;> cases h

/-- The types that hold a given one are in a row: from integers by doubles and from dates by
timestamps to texts, and straight to texts from all others. -/
theorem le_or_ge_of_le {t a b : ColumnType} (ha : t ≤ a) (hb : t ≤ b) : a ≤ b ∨ b ≤ a := by
  rcases ha with rfl | rfl | ⟨rfl, rfl⟩ | ⟨rfl, rfl⟩
  · exact .inl hb
  · exact .inr (le_varchar b)
  · rcases hb with rfl | rfl | ⟨-, rfl⟩ | ⟨hne, -⟩
    · right
      decide
    · exact .inl (le_varchar double)
    · exact .inl le_rfl
    · cases hne
  · rcases hb with rfl | rfl | ⟨hne, -⟩ | ⟨-, rfl⟩
    · right
      decide
    · exact .inl (le_varchar timestamp)
    · cases hne
    · exact .inl le_rfl

/-- What holds two types of which neither holds the other is text. -/
theorem eq_varchar_of_le {a b wide : ColumnType} (ha : a ≤ wide) (hb : b ≤ wide)
    (hab : ¬ a ≤ b) (hba : ¬ b ≤ a) : wide = varchar := by
  rcases ha with rfl | rfl | ⟨rfl, rfl⟩ | ⟨rfl, rfl⟩
  · exact absurd hb hba
  · rfl
  · rcases hb with rfl | hb | ⟨rfl, -⟩ | ⟨-, hne⟩
    · exact absurd (by decide) hab
    · exact hb
    · exact absurd le_rfl hab
    · cases hne
  · rcases hb with rfl | hb | ⟨-, hne⟩ | ⟨rfl, -⟩
    · exact absurd (by decide) hab
    · exact hb
    · cases hne
    · exact absurd le_rfl hab

/-- The least type that holds both: one of them if it holds the other, and otherwise text. -/
instance : SemilatticeSup ColumnType where
  sup a b := if a ≤ b then b else if b ≤ a then a else varchar
  le_sup_left a b := by
    split_ifs with hab hba
    · exact hab
    · exact le_rfl
    · exact le_varchar a
  le_sup_right a b := by
    split_ifs with hab hba
    · exact le_rfl
    · exact hba
    · exact le_varchar b
  sup_le a b wide ha hb := by
    split_ifs with hab hba
    · exact hb
    · exact ha
    · exact (eq_varchar_of_le ha hb hab hba).ge

/-! ## The least type that holds a list -/

/-- The types in the order in which they are tried for a list. -/
def trials : List ColumnType := [boolean, bigint, double, date, time, timestamp, varchar]

theorem mem_trials (t : ColumnType) : t ∈ trials := by
  cases t <;> decide

/-- No type is tried after one that holds it. -/
theorem trials_narrow_first : trials.Pairwise fun earlier later => ¬ later ≤ earlier := by
  decide

/-- The type of a list is the first of those tried that holds all of it. -/
theorem find?_trials {types : List ColumnType} (h : types ≠ []) :
    trials.find? (fun wide => types.all fun t => decide (t ≤ wide)) = some (common types) := by
  have htests : ∀ t : ColumnType, decide (t ≤ boolean) = (t == boolean) ∧
      decide (t ≤ bigint) = (t == bigint) ∧
      decide (t ≤ double) = (t == bigint || t == double) ∧
      decide (t ≤ date) = (t == date) ∧ decide (t ≤ time) = (t == time) ∧
      decide (t ≤ timestamp) = (t == date || t == timestamp) ∧
      decide (t ≤ varchar) = true := by
    intro t
    cases t <;> decide
  have hstep : ∀ (holds : ColumnType → Bool) wide rest,
      (wide :: rest).find? holds = if holds wide then some wide else rest.find? holds := by
    intro holds wide rest
    rw [List.find?_cons]
    cases holds wide <;> rfl
  unfold common
  rw [if_neg (mt List.isEmpty_iff.mp h)]
  simp only [trials, hstep, htests, apply_ite some, List.all_eq_true, implies_true, if_true]

theorem common_le {types : List ColumnType} {wide : ColumnType} (h : types ≠ [])
    (hwide : ∀ t ∈ types, t ≤ wide) : common types ≤ wide := by
  obtain ⟨-, before, after, htrials, hbefore⟩ :=
    List.find?_eq_some_iff_append.mp (find?_trials h)
  -- both hold what is in the list, so one of the two holds the other
  obtain ⟨t, ht⟩ := List.exists_mem_of_ne_nil types h
  rcases le_or_ge_of_le (le_common ht) (hwide t ht) with hle | hge
  · exact hle
  have htried : wide ∈ before ++ common types :: after := htrials ▸ mem_trials wide
  rcases List.mem_append.mp htried with hearlier | hlater
  · have hfails := hbefore wide hearlier
    rw [List.all_eq_true.mpr fun t ht => decide_eq_true (hwide t ht)] at hfails
    cases hfails
  · rcases List.mem_cons.mp hlater with rfl | hlater
    · exact le_rfl
    · have horder := trials_narrow_first
      rw [htrials] at horder
      have hrest := (List.pairwise_append.mp horder).2.1
      exact absurd hge ((List.pairwise_cons.mp hrest).1 wide hlater)

/-! ## Columns of cells -/

theorem isLUB_common {types : List ColumnType} (h : types ≠ []) :
    IsLUB {t | t ∈ types} (common types) :=
  ⟨fun _ ht => le_common ht, fun _ hwide => common_le h hwide⟩

section

variable {types others : List (Option ColumnType)}

theorem mem_present {t : ColumnType} : t ∈ types.filterMap id ↔ some t ∈ types := by
  simp

/-- The type of a column is the least one that holds all cells that are there. -/
theorem isLUB_detect (h : ∃ t, some t ∈ types) : IsLUB {t | some t ∈ types} (detect types) := by
  obtain ⟨t, ht⟩ := h
  have hsame : {t | some t ∈ types} = {t | t ∈ types.filterMap id} :=
    Set.ext fun _ => mem_present.symm
  rw [hsame]
  exact isLUB_common (List.ne_nil_of_mem (mem_present.mpr ht))

theorem detect_of_empty (h : ∀ t, some t ∉ types) : detect types = varchar := by
  have hnone : types.filterMap id = [] :=
    List.eq_nil_iff_forall_not_mem.mpr fun t ht => h t (mem_present.mp ht)
  unfold detect
  rw [hnone]
  rfl

/-- Only the types that are there count. -/
theorem detect_congr (h : ∀ t, some t ∈ others ↔ some t ∈ types) :
    detect others = detect types := by
  by_cases hsome : ∃ t, some t ∈ types
  · obtain ⟨t, ht⟩ := hsome
    have hsame : {t | some t ∈ others} = {t | some t ∈ types} := Set.ext h
    have hothers := isLUB_detect ⟨t, (h t).mpr ht⟩
    rw [hsame] at hothers
    exact hothers.unique (isLUB_detect ⟨t, ht⟩)
  · have hnone : ∀ t, some t ∉ types := fun t ht => hsome ⟨t, ht⟩
    rw [detect_of_empty hnone, detect_of_empty fun t ht => hnone t ((h t).mp ht)]

theorem detect_le_of_subset (h : ∃ t, some t ∈ types) (hsub : types ⊆ others) :
    detect types ≤ detect others := by
  obtain ⟨t, ht⟩ := h
  exact (isLUB_detect ⟨t, ht⟩).mono (isLUB_detect ⟨t, hsub ht⟩) fun _ hown => hsub hown

theorem detect_append (h : ∃ t, some t ∈ types) (hothers : ∃ t, some t ∈ others) :
    detect (types ++ others) = detect types ⊔ detect others := by
  obtain ⟨t, ht⟩ := h
  have hboth : {t | some t ∈ types ++ others} = {t | some t ∈ types} ∪ {t | some t ∈ others} :=
    Set.ext fun _ => List.mem_append
  have hleast := isLUB_detect ⟨t, List.mem_append_left others ht⟩
  rw [hboth] at hleast
  exact hleast.unique ((isLUB_detect ⟨t, ht⟩).union (isLUB_detect hothers))

end

/-- A column in which a cell has a type is given the least type that holds those of all its cells.
More cells make it no narrower, and that of two columns, one below the other, is the join of
theirs. A column of empty cells holds text. What type it is depends on which types its cells have,
so no order, no repetition and no empty cell counts. -/
theorem the_type_of_a_column_is_the_join_of_those_of_its_cells
    (types : List (Option ColumnType)) :
    ((∃ t, some t ∈ types) →
      IsLUB {t | some t ∈ types} (detect types) ∧
        (∀ more, types ⊆ more → detect types ≤ detect more) ∧
        ∀ below, (∃ t, some t ∈ below) →
          detect (types ++ below) = detect types ⊔ detect below) ∧
      ((∀ t, some t ∉ types) → detect types = varchar) ∧
      ∀ others, (∀ t, some t ∈ others ↔ some t ∈ types) → detect others = detect types := by
  refine ⟨fun hsome => ?_, detect_of_empty, fun others => detect_congr⟩
  exact ⟨isLUB_detect hsome, fun more => detect_le_of_subset hsome,
    fun below => detect_append hsome⟩

/-- Numbers of both kinds, with an empty cell among them, above a day and a moment. -/
theorem a_column_of_numbers_above_one_of_days :
    let numbers : List (Option ColumnType) := [some bigint, none, some double]
    let days : List (Option ColumnType) := [some date, some timestamp]
    let turned : List (Option ColumnType) := [some double, some bigint, some double]
    (∃ t, some t ∈ numbers) ∧ (∃ t, some t ∈ days) ∧ numbers ⊆ numbers ++ days ∧
      (∀ t, some t ∈ turned ↔ some t ∈ numbers) ∧ (∀ t : ColumnType, some t ∉ [none, none]) ∧
      IsLUB {t | some t ∈ numbers} double ∧ detect turned = double ∧
      detect (numbers ++ days) = double ⊔ timestamp ∧ double ≤ detect (numbers ++ days) ∧
      detect [none, none] = varchar := by
  intro numbers days turned
  have hnumbers : ∃ t, some t ∈ numbers := ⟨bigint, by decide⟩
  have hdays : ∃ t, some t ∈ days := ⟨date, by decide⟩
  have hmore : numbers ⊆ numbers ++ days := List.subset_append_left numbers days
  have hturned : ∀ t, some t ∈ turned ↔ some t ∈ numbers := by
    intro t
    cases t <;> decide
  have hempty : ∀ t : ColumnType, some t ∉ [none, none] := by simp
  obtain ⟨hfound, -, hsame⟩ := the_type_of_a_column_is_the_join_of_those_of_its_cells numbers
  obtain ⟨hleast, hwider, hjoin⟩ := hfound hnumbers
  obtain ⟨-, hnone, -⟩ := the_type_of_a_column_is_the_join_of_those_of_its_cells [none, none]
  exact ⟨hnumbers, hdays, hmore, hturned, hempty, hleast, hsame turned hturned, hjoin days hdays,
    hwider _ hmore, hnone hempty⟩

end ColumnType

end GridQuery
