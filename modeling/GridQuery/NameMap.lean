-- Maps from names, kept in the order of the names.
import GridQuery.Value.Order

namespace GridQuery

/-- Values by name, sorted by name. -/
structure NameMap (α : Type) where
  entries : List (String × α) := []

namespace NameMap

variable {α : Type}

/-- Puts a pair into a sorted list, in place of a pair of the same name. -/
def insertSorted (name : String) (value : α) : List (String × α) → List (String × α)
  | [] => [(name, value)]
  | (n, v) :: rest =>
    match compareText name n with
    | .lt => (name, value) :: (n, v) :: rest
    | .eq => (name, value) :: rest
    | .gt => (n, v) :: insertSorted name value rest

/-- Gives a name a value; the value it had is replaced. -/
def insert (m : NameMap α) (name : String) (value : α) : NameMap α :=
  ⟨insertSorted name value m.entries⟩

/-- The value of a name. -/
def get? (m : NameMap α) (name : String) : Option α := m.entries.lookup name

/-- The name has a value. -/
def contains (m : NameMap α) (name : String) : Bool := (m.get? name).isSome

/-- The names, in order. -/
def names (m : NameMap α) : List String := m.entries.map (·.1)

/-- How many names have a value. -/
def size (m : NameMap α) : Nat := m.entries.length

/-! ## Looking up -/

theorem eq_of_compareText {a b : String} (h : compareText a b = .eq) : a = b := by
  unfold compareText at h
  split at h
  · cases h
  · split at h
    · assumption
    · cases h

theorem lookup_pair (n key : String) (v : α) (rest : List (String × α)) :
    ((n, v) :: rest).lookup key = if key = n then some v else rest.lookup key := by
  by_cases hkey : key = n
  · subst hkey
    simp
  · simp [List.lookup_cons, hkey, beq_eq_false_iff_ne.mpr hkey]

theorem lookup_insertSorted (name key : String) (value : α) (entries : List (String × α)) :
    (insertSorted name value entries).lookup key =
      if key = name then some value else entries.lookup key := by
  induction entries with
  | nil => exact lookup_pair name key value []
  | cons entry rest ih =>
    obtain ⟨n, v⟩ := entry
    unfold insertSorted
    split
    · exact lookup_pair name key value ((n, v) :: rest)
    · rename_i heq
      obtain rfl := eq_of_compareText heq
      simp only [lookup_pair]
      by_cases hkey : key = name <;> simp only [hkey, if_true, if_false]
    · rename_i hgt
      have hne : name ≠ n := by
        rintro rfl
        rw [compareText, if_neg (String.lt_irrefl name), if_pos rfl] at hgt
        cases hgt
      simp only [lookup_pair, ih]
      by_cases hkey : key = name
      · simp only [hkey, hne, if_true, if_false]
      · simp only [hkey, if_false]

@[simp] theorem get?_empty (key : String) : (({} : NameMap α).get? key) = none := rfl

/-- A name has the value it was given last. -/
theorem get?_insert (m : NameMap α) (name key : String) (value : α) :
    (m.insert name value).get? key = if key = name then some value else m.get? key :=
  lookup_insertSorted name key value m.entries

/-- The names are those that have a value. -/
theorem mem_names_iff {m : NameMap α} {key : String} :
    key ∈ m.names ↔ ∃ value, m.get? key = some value := by
  unfold names get?
  induction m.entries with
  | nil => simp
  | cons entry rest ih =>
    obtain ⟨n, v⟩ := entry
    rw [List.map_cons, List.mem_cons, ih, lookup_pair]
    by_cases hkey : key = n <;> simp [hkey]

end NameMap

end GridQuery
