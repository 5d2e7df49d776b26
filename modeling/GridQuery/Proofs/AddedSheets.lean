-- Workbooks that are put together sheet by sheet. A sheet that is added takes
-- the last place, and a sheet of its name leaves its own. So a workbook holds
-- one sheet for each name, in the order in which the names were added last,
-- and a place and the name that stands there lead to the same sheet.
import GridQuery.Grid.Workbook
import Mathlib.Data.List.Induction
import Mathlib.Data.List.Nodup

namespace GridQuery

/-! ## Adding one sheet -/

namespace Workbook

variable {w : Workbook} {s : Sheet} {n : String} {i : Nat}

theorem sheetNames_add (w : Workbook) (s : Sheet) :
    (w.add s).sheetNames = w.sheetNames.filter (· != s.name) ++ [s.name] := by
  simp only [sheetNames, add, List.map_append, List.filter_map, List.map_cons, List.map_nil]
  rfl

theorem mem_sheetNames_add : n ∈ (w.add s).sheetNames ↔ n ∈ w.sheetNames ∨ n = s.name := by
  rw [sheetNames_add, List.mem_append, List.mem_filter, List.mem_singleton]
  by_cases hname : n = s.name <;> simp [hname]

theorem sheet?_add (w : Workbook) (s : Sheet) (n : String) :
    (w.add s).sheet? n = if s.name = n then some s else w.sheet? n := by
  unfold sheet? add
  rw [List.find?_append, List.find?_filter]
  by_cases hname : s.name = n
  · have hgone : w.sheets.find? (fun t => decide (t.name != s.name ∧ t.name == n)) = none := by
      rw [List.find?_eq_none]
      simp [hname]
    rw [hgone, if_pos hname]
    simp [hname]
  · have hkept : (fun t : Sheet => decide (t.name != s.name ∧ t.name == n)) =
        fun t => t.name == n := by
      funext t
      by_cases ht : t.name = n
      · simp [ht, Ne.symm hname]
      · simp [ht]
    rw [hkept, if_neg hname]
    simp [hname]

/-- Where no name stands twice, a name leads to the sheet at its place. -/
theorem sheet?_of_nodup (h : w.sheetNames.Nodup) (hn : w.sheetNames[i]? = some n) :
    w.sheet? n = w.sheets[i]? := by
  have hplace : w.sheets[i]?.map (·.name) = some n := by
    rw [← List.getElem?_map]
    exact hn
  obtain ⟨s, hs, rfl⟩ := Option.map_eq_some_iff.mp hplace
  obtain ⟨hi, rfl⟩ := List.getElem?_eq_some_iff.mp hs
  rw [hs, sheet?, List.find?_eq_some_iff_getElem]
  refine ⟨by simp, i, hi, rfl, fun j hj => ?_⟩
  have hother : w.sheets[j].name ≠ w.sheets[i].name := by
    intro hsame
    have hj' : w.sheetNames[j]? = some w.sheets[j].name := by
      simp [sheetNames, List.getElem?_eq_getElem (Nat.lt_trans hj hi)]
    have hlt : j < w.sheetNames.length := (List.getElem?_eq_some_iff.mp hj').1
    have hsame' := (List.getElem?_inj hlt h).mp (hj'.trans (hsame ▸ hn.symm))
    exact absurd hsame' (Nat.ne_of_lt hj)
  simpa using hother

end Workbook

/-! ## Sheet after sheet -/

/-- A call that adds a sheet to a workbook. -/
inductive Addition
  | sheet (sheet : Sheet)
  /-- A sheet whose first row is the first one of the worksheet. -/
  | rows (name : String) (grid : List (List Value))

/-- The sheet that is added. -/
def Addition.added : Addition → Sheet
  | sheet s => s
  | rows name grid => { name, rows := grid }

/-- The workbook after some calls. -/
def Workbook.assembled (calls : List Addition) : Workbook :=
  calls.foldl (fun w call => w.add call.added) {}

/-- The last sheet of a name among some. -/
def lastNamed (sheets : List Sheet) (n : String) : Option Sheet :=
  (sheets.filter fun s => s.name = n).getLast?

/-- Both names are there, and the second stands behind all places of the first. -/
def LastBefore (names : List String) (m n : String) : Prop :=
  ∃ before after, names = before ++ after ∧ m ∈ before ∧ m ∉ after ∧ n ∈ after

theorem lastNamed_concat (sheets : List Sheet) (s : Sheet) (n : String) :
    lastNamed (sheets ++ [s]) n = if s.name = n then some s else lastNamed sheets n := by
  unfold lastNamed
  by_cases hname : s.name = n <;> simp [List.filter_append, hname]

section

variable {names : List String} {k m n : String}

/-- One more name leaves the others in their order. -/
theorem LastBefore.concat (h : LastBefore names m n) (hm : m ≠ k) :
    LastBefore (names ++ [k]) m n := by
  obtain ⟨before, after, rfl, hbefore, hafter, hn⟩ := h
  refine ⟨before, after ++ [k], List.append_assoc .., hbefore, ?_, List.mem_append_left [k] hn⟩
  simp [hafter, hm]

theorem lastBefore_concat_self (hm : m ∈ names) (hne : m ≠ k) :
    LastBefore (names ++ [k]) m k :=
  ⟨names, [k], rfl, hm, by simpa using hne, List.mem_singleton_self k⟩

end

namespace Workbook

/-- The workbook holds, of some sheets, the last one of each name, in the order of these. -/
structure HoldsLast (w : Workbook) (sheets : List Sheet) : Prop where
  nodup : w.sheetNames.Nodup
  named : ∀ n, n ∈ w.sheetNames ↔ n ∈ sheets.map (·.name)
  inOrder : w.sheetNames.Pairwise (LastBefore (sheets.map (·.name)))
  found : ∀ n, w.sheet? n = lastNamed sheets n

theorem holdsLast_new : HoldsLast {} [] :=
  ⟨.nil, fun _ => .rfl, .nil, fun _ => rfl⟩

theorem HoldsLast.add {w : Workbook} {sheets : List Sheet} (h : w.HoldsLast sheets) (s : Sheet) :
    (w.add s).HoldsLast (sheets ++ [s]) := by
  have hnames : (sheets ++ [s]).map (·.name) = sheets.map (·.name) ++ [s.name] := List.map_append
  have hkept : ∀ m ∈ w.sheetNames.filter (· != s.name), m ∈ w.sheetNames ∧ m ≠ s.name := by
    intro m hm
    simpa using hm
  constructor
  case nodup =>
    rw [sheetNames_add, List.nodup_append]
    refine ⟨h.nodup.filter _, List.nodup_singleton _, ?_⟩
    rintro m hm _ hlast rfl
    exact (hkept m hm).2 (List.mem_singleton.mp hlast)
  case named =>
    intro n
    rw [mem_sheetNames_add, h.named, hnames, List.mem_append, List.mem_singleton]
  case inOrder =>
    rw [sheetNames_add, hnames, List.pairwise_append]
    refine ⟨?_, List.pairwise_singleton _ _, ?_⟩
    · refine (h.inOrder.filter _).imp_of_mem ?_
      intro m n hm _ hbefore
      exact hbefore.concat (hkept m hm).2
    · rintro m hm _ hlast
      rw [List.mem_singleton.mp hlast]
      obtain ⟨hmem, hne⟩ := hkept m hm
      exact lastBefore_concat_self ((h.named m).mp hmem) hne
  case found =>
    intro n
    rw [sheet?_add, lastNamed_concat, h.found]

theorem holdsLast_assembled (calls : List Addition) :
    (assembled calls).HoldsLast (calls.map (·.added)) := by
  induction calls using List.reverseRecOn with
  | nil => exact holdsLast_new
  | append_singleton calls call ih =>
    rw [assembled, List.foldl_append, List.map_append]
    exact ih.add call.added

/-- After any calls that add sheets to a new workbook, no two of its worksheets have one name. The
names are those that were added, in the order of their last additions, and each leads to the sheet
that was added last under it; all other names lead to none. So the sheet at a place is the one that
the name at this place leads to. -/
theorem a_workbook_holds_the_last_sheet_of_each_name (calls : List Addition) :
    let sheets := calls.map (·.added)
    (assembled calls).sheetNames.Nodup ∧
      (∀ n, n ∈ (assembled calls).sheetNames ↔ n ∈ sheets.map (·.name)) ∧
      (assembled calls).sheetNames.Pairwise (LastBefore (sheets.map (·.name))) ∧
      (∀ n, (assembled calls).sheet? n = lastNamed sheets n) ∧
      ∀ (i : Nat) (n : String), (assembled calls).sheetNames[i]? = some n →
        (assembled calls).sheet? n = (assembled calls).sheets[i]? := by
  intro sheets
  have h := holdsLast_assembled calls
  exact ⟨h.nodup, h.named, h.inOrder, h.found, fun i n => sheet?_of_nodup h.nodup⟩

/-- A sheet that is replaced by one further down leaves its place to the sheet behind it. -/
theorem a_replaced_sheet_moves_behind_the_others :
    let lower : Sheet := { name := "B", row := 4, rows := [[.int 2]] }
    let w := assembled [.rows "B" [[.int 1]], .rows "A" [], .sheet lower]
    w.sheetNames = ["A", "B"] ∧ w.sheetNames[1]? = some "B" ∧ w.sheet? "B" = some lower ∧
      w.sheets[1]? = some lower ∧ w.sheet? "C" = none := by
  intro lower w
  obtain ⟨-, -, -, hfound, hplaces⟩ :=
    a_workbook_holds_the_last_sheet_of_each_name [.rows "B" [[.int 1]], .rows "A" [], .sheet lower]
  have hnames : w.sheetNames[1]? = some "B" := rfl
  have hlower : w.sheet? "B" = some lower := (hfound "B").trans rfl
  refine ⟨rfl, hnames, hlower, ?_, (hfound "C").trans rfl⟩
  exact (hplaces 1 "B" hnames).symm.trans hlower

end Workbook

end GridQuery
