-- The names of table columns. They are never blank and differ whatever their
-- case, so each one can be used in a statement. A title that no other column
-- has is kept, unless a name that was made up for a column before it is the same.
import GridQuery.Engine.Select
import GridQuery.Proofs.FreeNames
import GridQuery.Proofs.StoredCells

namespace GridQuery

open GridQuery.Text

/-! ## Texts that are not blank -/

theorem Text.not_isBlank_of_getLast?_trim {cs : List Char} {c : Char}
    (h : c ∈ (trim cs).getLast?) : isBlank c = false := by
  have hkept := List.head?_dropWhile_not isBlank (trimStart cs).reverse
  rw [trim, trimEnd, List.getLast?_reverse] at h
  rw [h] at hkept
  simpa using hkept

/-- A text that is not empty when trimmed has a character that is not white space. -/
theorem Text.exists_not_isBlank {s : String} (h : trimmed s ≠ "") :
    ∃ c ∈ (trimmed s).toList, isBlank c = false := by
  have hne : trim s.toList ≠ [] := by
    intro hempty
    exact h (by rw [trimmed, hempty])
  refine ⟨(trim s.toList).getLast hne, ?_, ?_⟩
  · simp [trimmed]
  · exact not_isBlank_of_getLast?_trim (List.getLast?_eq_some_getLast hne)

namespace Table

theorem titleOf_of_not_blank {v : Value} (h : trimmed v.display ≠ "") (i : Nat) :
    titleOf i v = trimmed v.display := by
  simp [titleOf, h]

theorem titleOf_of_blank {v : Value} (h : trimmed v.display = "") (i : Nat) :
    titleOf i v = positionName i := by
  simp [titleOf, h]

theorem exists_not_isBlank_positionName (i : Nat) :
    ∃ c ∈ (positionName i).toList, isBlank c = false := by
  refine ⟨'F', ?_, by decide⟩
  simp [positionName]

theorem exists_not_isBlank_titleOf (i : Nat) (v : Value) :
    ∃ c ∈ (titleOf i v).toList, isBlank c = false := by
  by_cases h : trimmed v.display = ""
  · rw [titleOf_of_blank h]
    exact exists_not_isBlank_positionName i
  · rw [titleOf_of_not_blank h]
    exact Text.exists_not_isBlank h

/-! ## Header rows -/

/-- The titles that a header row asks for. -/
def titlesOf (row : List Value) : List String := row.zipIdx.map fun (v, i) => titleOf i v

theorem headerNames_of_named {row : List Value} {names : List String}
    (h : Named ∅ (titlesOf row) names) : headerNames row = names :=
  (named_iff.mp h).symm

theorem getElem?_titlesOf (row : List Value) (i : Nat) :
    (titlesOf row)[i]? = row[i]?.map (titleOf i) := by
  unfold titlesOf
  rw [List.getElem?_map, List.getElem?_zipIdx, Option.map_map, Nat.zero_add]
  rfl

theorem length_headerNames (row : List Value) : (headerNames row).length = row.length := by
  change (distinctNames ∅ (titlesOf row)).length = row.length
  rw [length_distinctNames, titlesOf, List.length_map, List.length_zipIdx]

theorem headerNames_apart (row : List Value) :
    (headerNames row).Pairwise fun a b => sameCaseless a b = false :=
  distinctNames_apart.2

section

variable {row : List Value} {i : Nat} {v : Value}

/-- A key is taken before a column exactly if a column to its left has a name of that key. -/
theorem mem_takenAfter_take {names : List String} {key : String} :
    key ∈ takenAfter ∅ (names.take i) ↔
      ∃ j < i, ∃ name, names[j]? = some name ∧ asciiLower name = key := by
  rw [mem_takenAfter]
  constructor
  · rintro (hempty | ⟨name, hname, hkey⟩)
    · exact absurd hempty Std.HashSet.not_mem_empty
    · obtain ⟨j, hj⟩ := List.mem_iff_getElem?.mp hname
      rw [List.getElem?_take] at hj
      split at hj
      · exact ⟨j, ‹_›, name, hj, hkey⟩
      · cases hj
  · rintro ⟨j, hj, name, hname, hkey⟩
    refine .inr ⟨name, List.mem_iff_getElem?.mpr ⟨j, ?_⟩, hkey⟩
    rw [List.getElem?_take, if_pos hj, hname]

/-- A column is named by its title, or by the title with a number that is at most the number of
columns before it. It is named by the title itself exactly if none of them has that name. -/
theorem getElem?_headerNames (h : row[i]? = some v) :
    ∃ n ≤ i, (headerNames row)[i]? = some (titleOf i v ++ ending n) ∧
      (n = 0 ↔ ∀ j < i, ∀ name, (headerNames row)[j]? = some name →
        sameCaseless name (titleOf i v) = false) := by
  have htitle : (titlesOf row)[i]? = some (titleOf i v) := by
    rw [getElem?_titlesOf, h]
    rfl
  obtain ⟨n, hsize, hfirst, hname⟩ :=
    freeName_spec (takenAfter ∅ ((headerNames row).take i)) (titleOf i v)
  have hapart : asciiLower (titleOf i v) ∉ takenAfter ∅ ((headerNames row).take i) ↔
      ∀ j < i, ∀ name, (headerNames row)[j]? = some name →
        sameCaseless name (titleOf i v) = false := by
    rw [mem_takenAfter_take]
    simp only [sameCaseless, beq_eq_false_iff_ne]
    push Not
    rfl
  refine ⟨n, ?_, ?_, ?_⟩
  · have hle := size_takenAfter_le ∅ ((headerNames row).take i)
    rw [Std.HashSet.size_empty, List.length_take] at hle
    omega
  · rw [← hname]
    exact getElem?_distinctNames htitle
  · rw [← hapart]
    constructor
    · rintro rfl
      simpa [ending] using hfirst.free
    · intro hfree
      refine Nat.eq_zero_of_not_pos fun hpos => hfree ?_
      simpa [ending] using hfirst.before 0 hpos

/-- A name is the title of its column, or the title with a number. -/
theorem name_cases {name : String} (h : (headerNames row)[i]? = some name) :
    ∃ v, row[i]? = some v ∧
      (name = titleOf i v ∨ ∃ n, 0 < n ∧ n ≤ i ∧ name = titleOf i v ++ natText n) := by
  have hlt : i < row.length := by
    rw [← length_headerNames]
    exact (List.getElem?_eq_some_iff.mp h).1
  have hv := List.getElem?_eq_getElem hlt
  obtain ⟨n, hn, hname, -⟩ := getElem?_headerNames hv
  obtain rfl := Option.some.inj (h.symm.trans hname)
  refine ⟨row[i], hv, ?_⟩
  rcases Nat.eq_zero_or_pos n with rfl | hpos
  · exact .inl (append_ending_eq_self_iff.mpr rfl)
  · exact .inr ⟨n, hpos, hn, by rw [ending_of_pos hpos]⟩

end

/-! ## Column names -/

theorem positionName_apart (width : Nat) :
    ((List.range width).map positionName).Pairwise fun a b => sameCaseless a b = false := by
  rw [List.pairwise_map]
  refine List.Pairwise.imp (fun {m n} hne => ?_) List.nodup_range
  refine beq_eq_false_iff_ne.mpr fun hsame => hne ?_
  have hnumber := @candidate_inj "F" (m + 1) (n + 1) hsame
  omega

section

variable (grid : List (List Value)) (header : Bool)

theorem length_namesFor : (namesFor grid header).length = max 1 (grid.headD []).length := by
  rcases grid with _ | ⟨first, rest⟩
  · rfl
  · unfold namesFor
    cases header with
    | false => simp [Nat.max_comm]
    | true => simp [length_headerNames, length_fitCells, Nat.max_comm]

theorem exists_not_isBlank_of_mem_namesFor {name : String} (h : name ∈ namesFor grid header) :
    ∃ c ∈ name.toList, isBlank c = false := by
  rcases grid with _ | ⟨first, rest⟩
  · obtain rfl := List.mem_singleton.mp h
    exact exists_not_isBlank_positionName 0
  · cases header with
    | false =>
      obtain ⟨i, -, rfl⟩ := List.mem_map.mp h
      exact exists_not_isBlank_positionName i
    | true =>
      obtain ⟨i, hi⟩ := List.mem_iff_getElem?.mp h
      change (headerNames _)[i]? = _ at hi
      obtain ⟨v, -, rfl | ⟨n, -, -, rfl⟩⟩ := name_cases hi
      · exact exists_not_isBlank_titleOf i v
      · obtain ⟨c, hc, hvisible⟩ := exists_not_isBlank_titleOf i v
        exact ⟨c, by simp [hc], hvisible⟩

theorem namesFor_apart : (namesFor grid header).Pairwise fun a b => sameCaseless a b = false := by
  rcases grid with _ | ⟨first, rest⟩
  · exact List.pairwise_singleton _ _
  · cases header with
    | false => exact positionName_apart _
    | true => exact headerNames_apart _

end

theorem columns_headerNames {titles : List Value} (h : titles ≠ []) (rows : List (List Value)) :
    ofGrid (titles :: rows) true = ofRows (headerNames titles) rows := by
  have hpos := List.length_pos_iff.mpr h
  have hfit : fitCells (max titles.length 1) titles = titles := by
    rw [Nat.max_eq_left hpos]
    exact fitCells_of_length_eq rfl
  change ofRows (headerNames (fitCells (max titles.length 1) titles)) rows = _
  rw [hfit]

/-- Each grid makes a table with as many columns as its first row has cells, and at least one. Their
names are not blank and differ from each other whatever the case of their letters. Giving names to
the titles of a header row always ends: the names are those that the search for free ones finds,
and for each title it tries at most as many more as there are columns before it. -/
theorem column_names_are_not_blank_and_differ (grid : List (List Value)) (header : Bool) :
    (ofGrid grid header).columnNames.length = max 1 (grid.headD []).length ∧
    (∀ name ∈ (ofGrid grid header).columnNames, ∃ c ∈ name.toList, isBlank c = false) ∧
    ((ofGrid grid header).columnNames.map asciiLower).Nodup ∧
    ∀ row : List Value,
      (∀ names, Named ∅ (titlesOf row) names ↔ names = headerNames row) ∧
      ∀ (i : Nat) (v : Value), row[i]? = some v →
        ∃ n ≤ i, (headerNames row)[i]? = some (titleOf i v ++ ending n) := by
  refine ⟨?_, ?_, ?_, ?_⟩
  · rw [ofGrid_eq, columnNames_ofRows, length_namesFor]
  · rw [ofGrid_eq, columnNames_ofRows]
    intro name hname
    exact exists_not_isBlank_of_mem_namesFor grid header hname
  · rw [ofGrid_eq, columnNames_ofRows]
    refine List.pairwise_map.mpr (List.Pairwise.imp ?_ (namesFor_apart grid header))
    intro a b hapart
    exact beq_eq_false_iff_ne.mp hapart
  · intro row
    refine ⟨fun names => named_iff, ?_⟩
    intro i v hv
    obtain ⟨n, hn, hname, -⟩ := getElem?_headerNames hv
    exact ⟨n, hn, hname⟩

/-- A blank title and one that is repeated but for its case, over a row that is too short. -/
theorem a_repeated_title_is_numbered_and_a_blank_one_is_made_up :
    let titles : List Value := [.text "Name", .text " ", .text "NAME"]
    (ofGrid [titles, [.int 1]] true).columnNames = ["Name", "F2", "NAME1"] ∧
      ((ofGrid [titles, [.int 1]] true).columnNames.map asciiLower).Nodup := by
  intro titles
  obtain ⟨-, -, hnodup, hrow⟩ := column_names_are_not_blank_and_differ [titles, [.int 1]] true
  refine ⟨?_, hnodup⟩
  have htitles : titlesOf titles = ["Name", "F2", "NAME"] := by decide +kernel
  have hnumbered : "NAME1" = "NAME" ++ natText 1 := by decide +kernel
  have hnamed : Named ∅ (titlesOf titles) ["Name", "F2", "NAME1"] := by
    rw [htitles, hnumbered]
    refine .cons (.free ?_) (.cons (.free ?_) (.cons (.next ?_ (.free ?_)) .nil))
    all_goals simp only [Std.HashSet.mem_insert, Std.HashSet.not_mem_empty]
    all_goals decide +kernel
  rw [columns_headerNames (by simp [titles]), columnNames_ofRows]
  exact (((hrow titles).1 _).mp hnamed).symm

/-! ## Titles that only one column has -/

/-- A name is looked for from the left. -/
theorem findIdx?_le_of_getElem? {names : List String} {p : String → Bool} {i : Nat} {name : String}
    (h : names[i]? = some name) (hp : p name = true) : ∃ j ≤ i, names.findIdx? p = some j := by
  obtain ⟨hlt, rfl⟩ := List.getElem?_eq_some_iff.mp h
  rcases hfound : names.findIdx? p with _ | j
  · have hnone := List.findIdx?_eq_none_iff.mp hfound names[i] (List.getElem_mem hlt)
    rw [hp] at hnone
    cases hnone
  · refine ⟨j, ?_, rfl⟩
    obtain ⟨_, _, hbefore⟩ := List.findIdx?_eq_some_iff_getElem.mp hfound
    by_contra hlate
    exact hbefore i (by omega) hp

/-- A title that stands at its place exactly if no name before it is the same is found at its place
if it stands there, and before it if it does not. -/
theorem findIdx?_of_kept_iff {names : List String} {title : String} {i : Nat}
    (h : names[i]? = some title ↔
      ∀ j < i, ∀ name, names[j]? = some name → sameCaseless name title = false) :
    ∃ j ≤ i, names.findIdx? (fun other => sameCaseless other title) = some j ∧
      (j = i ↔ names[i]? = some title) := by
  by_cases hkept : names[i]? = some title
  · refine ⟨i, Nat.le_refl i, ?_, iff_of_true rfl hkept⟩
    obtain ⟨hlt, hname⟩ := List.getElem?_eq_some_iff.mp hkept
    refine List.findIdx?_eq_some_iff_getElem.mpr ⟨hlt, ?_, fun j hj => ?_⟩
    · rw [hname]
      exact beq_self_eq_true _
    · rw [h.mp hkept j hj _ (List.getElem?_eq_getElem (by omega))]
      simp
  · have htaken := mt h.mpr hkept
    push Not at htaken
    obtain ⟨k, hk, name, hname, hsame⟩ := htaken
    obtain ⟨j, hj, hfound⟩ := findIdx?_le_of_getElem?
      (p := fun other => sameCaseless other title) hname (Bool.ne_false_iff.mp hsame)
    exact ⟨j, by omega, hfound, iff_of_false (by omega) hkept⟩

theorem place?_ofRows (names : List String) (rows : List (List Value)) (name : String) :
    Select.place? (ofRows names rows).columns name =
      names.findIdx? fun other => sameCaseless other name := by
  have hnames := columnNames_ofRows names rows
  unfold columnNames at hnames
  conv_rhs => rw [← hnames, List.findIdx?_map]
  rfl

/-- A title that is not blank and that no other column has is the name of its column exactly if no
column before it is named that. Such a name was made up: it stands for a blank title, or it is a
title with a number. A statement that uses the title reads its column exactly if the name was kept,
and otherwise a column before it. -/
theorem a_title_of_one_column_is_kept_unless_a_made_up_name_is_the_same (titles : List Value)
    (i : Nat) (v : Value) (hv : titles[i]? = some v) (hblank : trimmed v.display ≠ "")
    (hunique : ∀ j w, titles[j]? = some w →
      sameCaseless (trimmed w.display) (trimmed v.display) = true → j = i) :
    ((headerNames titles)[i]? = some (trimmed v.display) ↔
      ∀ j < i, ∀ name, (headerNames titles)[j]? = some name →
        sameCaseless name (trimmed v.display) = false) ∧
    (∀ j < i, ∀ name, (headerNames titles)[j]? = some name →
      sameCaseless name (trimmed v.display) = true →
      ∃ w, titles[j]? = some w ∧ (trimmed w.display = "" ∧ name = positionName j ∨
        ∃ n, 0 < n ∧ n ≤ j ∧ name = titleOf j w ++ natText n)) ∧
    ∀ rows, ∃ j ≤ i,
      Select.place? (ofGrid (titles :: rows) true).columns (trimmed v.display) = some j ∧
        (j = i ↔ (headerNames titles)[i]? = some (trimmed v.display)) := by
  obtain ⟨n, -, hname, hzero⟩ := getElem?_headerNames hv
  rw [titleOf_of_not_blank hblank] at hname hzero
  have hkept : (headerNames titles)[i]? = some (trimmed v.display) ↔
      ∀ j < i, ∀ name, (headerNames titles)[j]? = some name →
        sameCaseless name (trimmed v.display) = false := by
    rw [← hzero, hname, Option.some.injEq]
    exact append_ending_eq_self_iff
  refine ⟨hkept, ?_, ?_⟩
  · intro j hj name hname hsame
    obtain ⟨w, hw, hmade⟩ := name_cases hname
    refine ⟨w, hw, ?_⟩
    rcases hmade with rfl | hmade
    · -- the title itself is the same, so it is a blank one
      by_cases hw' : trimmed w.display = ""
      · exact .inl ⟨hw', titleOf_of_blank hw' j⟩
      · rw [titleOf_of_not_blank hw'] at hsame
        exact absurd (hunique j w hw hsame) (Nat.ne_of_lt hj)
    · exact .inr hmade
  · intro rows
    have hne : titles ≠ [] := by
      rintro rfl
      cases hv
    rw [columns_headerNames hne, place?_ofRows]
    exact findIdx?_of_kept_iff hkept

theorem a_title_with_a_number_is_kept :
    let titles : List Value := [.text "A", .text " a", .text "A2 "]
    titles[2]? = some (.text "A2 ") ∧ headerNames titles = ["A", "a1", "A2"] ∧
      Select.place? (ofGrid [titles, [.int 1, .int 2, .int 3]] true).columns "A2" = some 2 := by
  intro titles
  have htitles : titlesOf titles = ["A", "a", "A2"] := by decide +kernel
  have hnames : headerNames titles = ["A", "a1", "A2"] := by
    have hnumbered : "a1" = "a" ++ natText 1 := by decide +kernel
    apply headerNames_of_named
    rw [htitles, hnumbered]
    refine .cons (.free ?_) (.cons (.next ?_ (.free ?_)) (.cons (.free ?_) .nil))
    all_goals simp only [Std.HashSet.mem_insert, Std.HashSet.not_mem_empty]
    all_goals decide +kernel
  have hcell : trimmed (Value.text "A2 ").display = "A2" := by decide +kernel
  have hunique : ∀ (j : Nat) (w : Value), titles[j]? = some w →
      sameCaseless (trimmed w.display) (trimmed (Value.text "A2 ").display) = true → j = 2 := by
    have hall : ∀ j : Fin 3, sameCaseless (trimmed titles[j].display) "A2" = true → j.val = 2 := by
      decide +kernel
    intro j w hw hsame
    obtain ⟨hj, rfl⟩ := List.getElem?_eq_some_iff.mp hw
    rw [hcell] at hsame
    exact hall ⟨j, hj⟩ hsame
  obtain ⟨-, -, hplace⟩ := a_title_of_one_column_is_kept_unless_a_made_up_name_is_the_same
    titles 2 (.text "A2 ") rfl (by decide +kernel) hunique
  obtain ⟨j, -, hfound, hj⟩ := hplace [[.int 1, .int 2, .int 3]]
  rw [hcell] at hfound hj
  refine ⟨rfl, hnames, ?_⟩
  rw [hfound, hj.mpr (by rw [hnames]; rfl)]

/-- A repeated title and a blank one are given the names that two later columns ask for. -/
theorem a_made_up_name_takes_the_title_of_a_column :
    headerNames [.text "A", .text "A", .text "A1", .null, .text "F4"] =
      ["A", "A1", "A11", "F4", "F41"] ∧
    ¬ ∀ (titles : List Value) (i : Nat) (v : Value), titles[i]? = some v →
      trimmed v.display ≠ "" → (∀ j w, titles[j]? = some w →
        sameCaseless (trimmed w.display) (trimmed v.display) = true → j = i) →
      (headerNames titles)[i]? = some (trimmed v.display) := by
  let titles : List Value := [.text "A", .text "A", .text "A1", .null, .text "F4"]
  have htitles : titlesOf titles = ["A", "A", "A1", "F4", "F4"] := by decide +kernel
  have hnames : headerNames titles = ["A", "A1", "A11", "F4", "F41"] := by
    have hrepeated : "A1" = "A" ++ natText 1 := by decide +kernel
    have hunique : "A11" = "A1" ++ natText 1 := by decide +kernel
    have hblank : "F41" = "F4" ++ natText 1 := by decide +kernel
    apply headerNames_of_named
    rw [htitles, hunique, hblank]
    refine .cons (.free ?_) (.cons (hrepeated ▸ .next ?_ (.free ?_)) (.cons (.next ?_ (.free ?_))
      (.cons (.free ?_) (.cons (.next ?_ (.free ?_)) .nil))))
    all_goals simp only [Std.HashSet.mem_insert, Std.HashSet.not_mem_empty]
    all_goals decide +kernel
  have hunique : ∀ (j : Nat) (w : Value), titles[j]? = some w →
      sameCaseless (trimmed w.display) (trimmed (Value.text "A1").display) = true → j = 2 := by
    have hall : ∀ j : Fin 5, sameCaseless (trimmed titles[j].display)
        (trimmed (Value.text "A1").display) = true → j.val = 2 := by
      decide +kernel
    intro j w hw
    obtain ⟨hj, rfl⟩ := List.getElem?_eq_some_iff.mp hw
    exact hall ⟨j, hj⟩
  refine ⟨hnames, ?_⟩
  intro hall
  have hkept := hall titles 2 (.text "A1") rfl (by decide +kernel) hunique
  rw [hnames] at hkept
  exact absurd hkept (by decide +kernel)

end Table

end GridQuery
