-- Free names for columns. A title that is taken is tried again with 1, 2, 3 and
-- so on behind it. The candidates differ from each other, so one more of them
-- than there are names taken is enough to find one that is free.
import GridQuery.Grid.Table
import GridQuery.Proofs.Numerals
import Std.Data.HashSet.Lemmas
import Mathlib.Data.List.Nodup
import Mathlib.Data.List.Perm.Subperm
import Mathlib.Data.Nat.Find

namespace GridQuery

open GridQuery.Text

/-! ## Numbers behind titles -/

theorem asciiLower_append (s t : String) : asciiLower (s ++ t) = asciiLower s ++ asciiLower t := by
  simp [asciiLower]

theorem toLower_of_isAsciiDigit {c : Char} (h : isAsciiDigit c = true) : c.toLower = c := by
  have hlt := toNat_lt_of_isAsciiDigit h
  revert h
  refine forall_ascii hlt ?_
  decide

theorem asciiLower_natText (n : Nat) : asciiLower (natText n) = natText n := by
  have hdigits : (decimal n).map Char.toLower = decimal n := by
    conv_rhs => rw [← List.map_id (decimal n)]
    exact List.map_congr_left fun c hc => toLower_of_isAsciiDigit ((decimal_spec n).1 c hc)
  simp [asciiLower, natText, hdigits]

theorem natText_inj {m n : Nat} (h : natText m = natText n) : m = n := by
  have hdigits : decimal m = decimal n := String.ofList_injective h
  rw [← (decimal_spec m).2, hdigits, (decimal_spec n).2]

namespace Table

/-- What stands behind a title in its n-th candidate: nothing, then the number. -/
def ending : Nat → String
  | 0 => ""
  | n + 1 => natText (n + 1)

theorem ending_of_pos {n : Nat} (h : 0 < n) : ending n = natText n := by
  obtain ⟨n, rfl⟩ := Nat.exists_eq_succ_of_ne_zero (Nat.ne_of_gt h)
  rfl

theorem natText_ne_empty (n : Nat) : natText n ≠ "" := by
  unfold natText
  intro h
  exact decimal_ne_nil n (String.ofList_injective h)

theorem asciiLower_ending (n : Nat) : asciiLower (ending n) = ending n := by
  cases n with
  | zero => rfl
  | succ n => exact asciiLower_natText (n + 1)

theorem ending_inj {m n : Nat} (h : ending m = ending n) : m = n := by
  cases m with
  | zero =>
    cases n with
    | zero => rfl
    | succ n => exact absurd h.symm (natText_ne_empty _)
  | succ m =>
    cases n with
    | zero => exact absurd h (natText_ne_empty _)
    | succ n => exact natText_inj h

theorem append_ending_eq_self_iff {title : String} {n : Nat} : title ++ ending n = title ↔ n = 0 := by
  constructor
  · intro h
    have hnothing : title ++ ending n = title ++ ending 0 := h.trans (String.append_empty).symm
    exact ending_inj ((String.append_right_inj title).mp hnothing)
  · rintro rfl
    exact String.append_empty

/-- No two candidates for a title are the same, whatever their case. -/
theorem candidate_inj {title : String} {m n : Nat}
    (h : asciiLower (title ++ ending m) = asciiLower (title ++ ending n)) : m = n := by
  rw [asciiLower_append, asciiLower_append, asciiLower_ending, asciiLower_ending] at h
  exact ending_inj ((String.append_right_inj _).mp h)

/-! ## The search for a free name -/

/-- The search, at a name that is tried and with the number that comes next: it ends at a name that
is free, and goes on from one that is taken to the title with the number. -/
inductive Finds (taken : Std.HashSet String) (title : String) : String → Nat → String → Prop
  | free {name : String} {number : Nat} : asciiLower name ∉ taken →
      Finds taken title name number name
  | next {name found : String} {number : Nat} : asciiLower name ∈ taken →
      Finds taken title (title ++ natText number) (number + 1) found →
      Finds taken title name number found

/-- The candidate of a number is the first that is free. -/
structure FirstFree (taken : Std.HashSet String) (title : String) (number : Nat) : Prop where
  free : asciiLower (title ++ ending number) ∉ taken
  before : ∀ n < number, asciiLower (title ++ ending n) ∈ taken

section

variable {taken : Std.HashSet String} {title : String}

/-- The names taken run out before the candidates do. -/
theorem exists_free (taken : Std.HashSet String) (title : String) :
    ∃ n ≤ taken.size, asciiLower (title ++ ending n) ∉ taken := by
  by_contra hnone
  have hall : ∀ n ≤ taken.size, asciiLower (title ++ ending n) ∈ taken := by
    intro n hn
    by_contra hfree
    exact hnone ⟨n, hn, hfree⟩
  let candidates := (List.range (taken.size + 1)).map fun n => asciiLower (title ++ ending n)
  have hnodup : candidates.Nodup := List.nodup_range.map fun m n h => candidate_inj h
  have hsubset : candidates ⊆ taken.toList := by
    intro name hname
    obtain ⟨n, hn, rfl⟩ := List.mem_map.mp hname
    have hle : n ≤ taken.size := Nat.lt_succ_iff.mp (List.mem_range.mp hn)
    exact Std.HashSet.mem_toList.mpr (hall n hle)
  have hlength := (hnodup.subperm hsubset).length_le
  rw [List.length_map, List.length_range, Std.HashSet.length_toList] at hlength
  omega

theorem exists_firstFree (taken : Std.HashSet String) (title : String) :
    ∃ n ≤ taken.size, FirstFree taken title n := by
  classical
  obtain ⟨m, hm, hfree⟩ := exists_free taken title
  have hexists : ∃ n, asciiLower (title ++ ending n) ∉ taken := ⟨m, hfree⟩
  refine ⟨Nat.find hexists, Nat.le_trans (Nat.find_min' hexists hfree) hm, ?_, ?_⟩
  · exact Nat.find_spec hexists
  · intro n hn
    exact not_not.mp (Nat.find_min hexists hn)

theorem freeSuffix_eq {tries suffix number : Nat} (h : FirstFree taken title number)
    (hpos : 0 < suffix) (hlow : suffix ≤ number) (hhigh : number ≤ suffix + tries) :
    freeSuffix taken title tries suffix = title ++ ending number := by
  induction tries generalizing suffix with
  | zero =>
    obtain rfl : suffix = number := by omega
    rw [freeSuffix, ending_of_pos hpos]
  | succ tries ih =>
    unfold freeSuffix
    rw [← ending_of_pos hpos]
    by_cases heq : suffix = number
    · subst heq
      have hfree : taken.contains (asciiLower (title ++ ending suffix)) = false := by
        simpa using h.free
      simp [hfree]
    · have htaken : taken.contains (asciiLower (title ++ ending suffix)) = true :=
        h.before suffix (by omega)
      simp only [htaken, if_true]
      apply ih <;> omega

/-- The name that a title gets is its first candidate that is free. -/
theorem freeName_eq {number : Nat} (h : FirstFree taken title number)
    (hsize : number ≤ taken.size) : freeName taken title = title ++ ending number := by
  unfold freeName
  by_cases hzero : number = 0
  · subst hzero
    have hfree : taken.contains (asciiLower title) = false := by
      simpa [ending] using h.free
    simp [hfree, ending]
  · have htaken : taken.contains (asciiLower title) = true := by
      simpa [ending] using h.before 0 (by omega)
    rw [if_pos htaken]
    exact freeSuffix_eq h (by omega) (by omega) (by omega)

theorem freeName_spec (taken : Std.HashSet String) (title : String) :
    ∃ n ≤ taken.size, FirstFree taken title n ∧ freeName taken title = title ++ ending n := by
  obtain ⟨n, hsize, hn⟩ := exists_firstFree taken title
  exact ⟨n, hsize, hn, freeName_eq hn hsize⟩

theorem finds_of_firstFree {number n : Nat} (h : FirstFree taken title number) (hn : n ≤ number) :
    Finds taken title (title ++ ending n) (n + 1) (title ++ ending number) := by
  induction hn using Nat.decreasingInduction with
  | self => exact .free h.free
  | of_succ n hlt ih => exact .next (h.before n hlt) ih

theorem finds_unique {name found found' : String} {number : Nat}
    (h : Finds taken title name number found) (h' : Finds taken title name number found') :
    found = found' := by
  induction h with
  | free hfree =>
    cases h' with
    | free => rfl
    | next htaken => exact absurd htaken hfree
  | next htaken _ ih =>
    cases h' with
    | free hfree => exact absurd htaken hfree
    | next _ hrest => exact ih hrest

/-- The search for a title always ends, and what it finds is the title's free name. -/
theorem finds_iff {found : String} :
    Finds taken title title 1 found ↔ found = freeName taken title := by
  obtain ⟨n, -, hn, hname⟩ := freeName_spec taken title
  have hfinds : Finds taken title title 1 (freeName taken title) := by
    rw [hname]
    simpa [ending] using finds_of_firstFree hn (Nat.zero_le n)
  constructor
  · intro h
    exact finds_unique h hfinds
  · rintro rfl
    exact hfinds

theorem freeName_not_mem : asciiLower (freeName taken title) ∉ taken := by
  obtain ⟨n, -, hn, hname⟩ := freeName_spec taken title
  rw [hname]
  exact hn.free

end

/-! ## Names from left to right -/

/-- Each title in turn gets the name that the search finds, and the name is taken for the titles
after it. -/
inductive Named : Std.HashSet String → List String → List String → Prop
  | nil {taken : Std.HashSet String} : Named taken [] []
  | cons {taken : Std.HashSet String} {title name : String} {titles names : List String} :
      Finds taken title title 1 name → Named (taken.insert (asciiLower name)) titles names →
      Named taken (title :: titles) (name :: names)

/-- The names that are taken after some were given away. -/
def takenAfter (taken : Std.HashSet String) (names : List String) : Std.HashSet String :=
  names.foldl (fun taken name => taken.insert (asciiLower name)) taken

theorem mem_takenAfter {taken : Std.HashSet String} {names : List String} {key : String} :
    key ∈ takenAfter taken names ↔ key ∈ taken ∨ ∃ name ∈ names, asciiLower name = key := by
  unfold takenAfter
  induction names generalizing taken with
  | nil => simp
  | cons name names ih =>
    rw [List.foldl_cons, ih, Std.HashSet.mem_insert]
    simp only [beq_iff_eq, List.mem_cons, exists_eq_or_imp]
    tauto

theorem size_takenAfter_le (taken : Std.HashSet String) (names : List String) :
    (takenAfter taken names).size ≤ taken.size + names.length := by
  unfold takenAfter
  induction names generalizing taken with
  | nil => simp
  | cons name names ih =>
    have hone := Std.HashSet.size_insert_le (m := taken) (k := asciiLower name)
    have hrest := ih (taken.insert (asciiLower name))
    simp only [List.foldl_cons, List.length_cons]
    omega

section

variable {taken : Std.HashSet String} {titles : List String}

/-- Giving names to titles always ends. -/
theorem named_iff {names : List String} :
    Named taken titles names ↔ names = distinctNames taken titles := by
  induction titles generalizing taken names with
  | nil =>
    constructor
    · intro h
      cases h
      rfl
    · rintro rfl
      exact .nil
  | cons title titles ih =>
    constructor
    · intro h
      cases h with
      | cons hfinds hrest =>
        obtain rfl := finds_iff.mp hfinds
        rw [ih.mp hrest]
        rfl
    · rintro rfl
      exact .cons (finds_iff.mpr rfl) (ih.mpr rfl)

theorem length_distinctNames : (distinctNames taken titles).length = titles.length := by
  induction titles generalizing taken with
  | nil => rfl
  | cons title titles ih => simp [distinctNames, ih]

/-- The name of a title is free among those given to the titles before it. -/
theorem getElem?_distinctNames {i : Nat} {title : String} (h : titles[i]? = some title) :
    (distinctNames taken titles)[i]? =
      some (freeName (takenAfter taken ((distinctNames taken titles).take i)) title) := by
  induction titles generalizing taken i with
  | nil => cases h
  | cons first titles ih =>
    cases i with
    | zero =>
      obtain rfl := Option.some.inj h
      rfl
    | succ i => exact ih h

/-- The names given differ from each other and from those taken before, whatever their case. -/
theorem distinctNames_apart :
    (∀ name ∈ distinctNames taken titles, asciiLower name ∉ taken) ∧
      (distinctNames taken titles).Pairwise fun a b => sameCaseless a b = false := by
  induction titles generalizing taken with
  | nil => simp [distinctNames]
  | cons title titles ih =>
    obtain ⟨hfree, hpairwise⟩ := @ih (taken.insert (asciiLower (freeName taken title)))
    unfold distinctNames
    refine ⟨?_, List.pairwise_cons.mpr ⟨?_, hpairwise⟩⟩
    · intro name hname
      rcases List.mem_cons.mp hname with rfl | hname
      · exact freeName_not_mem
      · intro htaken
        exact hfree name hname (Std.HashSet.mem_insert.mpr (.inr htaken))
    · intro name hname
      refine beq_eq_false_iff_ne.mpr fun hsame => hfree name hname ?_
      rw [← hsame]
      exact Std.HashSet.mem_insert_self

end

end Table

end GridQuery
