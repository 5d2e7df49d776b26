-- The cells of a table beside those of the grid it was made of. Each row of
-- the grid is stored in its place, with one cell for each column. Empty cells
-- are null, and every other one has the kind that the column's type stands for.
import GridQuery.Grid.Table
import GridQuery.Proofs.Doubles
import GridQuery.Proofs.Numerals

namespace GridQuery

/-! ## Whole doubles -/

namespace Number

open Float.Model Float.Model.UnpackedFloat

/-- Doubles below nine quadrillion have no exponent above zero, so their integer part is at most
their significand. -/
theorem bounds_of_abs_lt {x : Float} (h : x.abs < 9000000000000000) {negative : Bool} {m : Nat}
    {e : Int} (hx : exact x = .finite negative m e) : m < 2 ^ 53 ∧ e ≤ 0 := by
  have habs := exact_abs x
  rw [hx, exact_eq_of_unpack] at habs
  have hbound : (9000000000000000 : Float).toModel.unpack =
      .finite .positive 9000000000000000 0 (by decide) := rfl
  have hless : (x.abs.toModel.unpack.compare (9000000000000000 : Float).toModel.unpack ==
      some .lt) = true := of_decide_eq_true h
  rw [hbound, beq_iff_eq] at hless
  have hsettled : Settled x.abs.toModel.unpack := settled_unpack x.abs.toBits.toBitVec
  generalize x.abs.toModel.unpack = u at habs hless hsettled
  cases u with
  | notANumber => cases habs
  | infinity s => cases habs
  | zero s =>
    obtain ⟨-, rfl, rfl⟩ := Exact.finite.inj habs
    decide
  | finite s m' e' hm =>
    cases s with
    | negative => cases habs
    | positive =>
      cases habs
      -- exponents are compared first, significands only between equal ones
      have horder := Option.some.inj hless
      rw [Ordering.then_eq_lt, Int.compare_eq_lt, Int.compare_eq_eq] at horder
      rcases hsettled with ⟨hm, he⟩ | ⟨-, hm, -⟩ <;> omega

theorem floorScaled_le {m : Nat} {e : Int} (he : e ≤ 0) : floorScaled m e ≤ m := by
  unfold floorScaled
  split
  · have hzero : e.toNat = 0 := by omega
    rw [hzero]
    exact Nat.le_of_eq (Nat.mul_one m)
  · exact Nat.div_le_self _ _

end Number

namespace ColumnType

/-- A counted double is a 64-bit integer, and is stored as that. -/
theorem truncated?_of_isCount {x : Float} (h : isCount x = true) :
    Number.isWhole x = true ∧ Number.truncated? x = some (Number.toInt64 x).toInt := by
  obtain ⟨hwhole, hsmall⟩ := Bool.and_eq_true_iff.mp h
  refine ⟨hwhole, ?_⟩
  unfold Number.isWhole at hwhole
  rcases hx : Number.exact x with _ | _ | ⟨negative, m, e⟩
  · simp [hx] at hwhole
  · simp [hx] at hwhole
  · obtain ⟨hm, he⟩ := Number.bounds_of_abs_lt (of_decide_eq_true hsmall) hx
    have hle := Number.floorScaled_le (m := m) he
    simp only [Number.truncated?, Number.toInt64, hx, toInt_clampInt64, Option.some.injEq]
    unfold Number.leastInt64 Number.greatestInt64
    cases negative <;> simp only [Number.signed, if_true, Bool.false_eq_true, if_false] <;> omega

/-! ## Types and the values they stand for -/

/-- The kind of the values in a column of the type. -/
def kind : ColumnType → Kind
  | boolean => .bool
  | bigint => .bigint
  | double => .double
  | varchar => .text
  | timestamp => .timestamp
  | date => .date
  | time => .time

/-- A wider type holds what a narrower one holds: doubles hold integers, timestamps hold dates, and
texts hold everything. -/
instance : LE ColumnType where
  le narrow wide := narrow = wide ∨ wide = varchar ∨ (narrow = bigint ∧ wide = double) ∨
    (narrow = date ∧ wide = timestamp)

/-- The type of a column holds the values of all its cells. -/
theorem le_common {types : List ColumnType} {t : ColumnType} (h : t ∈ types) :
    t ≤ common types := by
  have hone : ∀ wide, types.all (· == wide) = true → t ≤ wide := by
    intro wide hall
    exact .inl (eq_of_beq (List.all_eq_true.mp hall t h))
  unfold common
  split_ifs with hempty hboolean hbigint hdouble hdate htime htimestamp
  · rw [List.isEmpty_iff.mp hempty] at h
    cases h
  · exact hone _ hboolean
  · exact hone _ hbigint
  · rcases Bool.or_eq_true_iff.mp (List.all_eq_true.mp hdouble t h) with ht | ht
    · exact .inr (.inr (.inl ⟨eq_of_beq ht, rfl⟩))
    · exact .inl (eq_of_beq ht)
  · exact hone _ hdate
  · exact hone _ htime
  · rcases Bool.or_eq_true_iff.mp (List.all_eq_true.mp htimestamp t h) with ht | ht
    · exact .inr (.inr (.inr ⟨eq_of_beq ht, rfl⟩))
    · exact .inl (eq_of_beq ht)
  · exact .inr (.inl rfl)

theorem of?_eq_none_iff {v : Value} : of? v = none ↔ v.isEmpty = true := by
  cases v with
  | text s => by_cases hs : s = "" <;> simp [of?, Value.isEmpty, hs]
  | _ => simp [of?, Value.isEmpty]

/-- A value has the kind of its type, but for counted doubles, which go with the integers. -/
theorem cases_of? {v : Value} {own : ColumnType} (h : of? v = some own) :
    v.kind = own.kind ∨ own = bigint ∧ ∃ x, v = .float x ∧ isCount x = true := by
  cases v with
  | null => cases h
  | text s =>
    by_cases hs : s = ""
    · simp [of?, hs] at h
    · obtain rfl : varchar = own := by simpa [of?, hs] using h
      exact .inl rfl
  | float x =>
    by_cases hx : isCount x = true
    · obtain rfl : bigint = own := by simpa [of?, hx] using h
      exact .inr ⟨rfl, x, rfl, hx⟩
    · obtain rfl : double = own := by simpa [of?, hx] using h
      exact .inl rfl
  | _ =>
    obtain rfl := Option.some.inj h
    exact .inl rfl

/-! ## Stored values -/

theorem coerce_of_isEmpty {v : Value} (h : v.isEmpty = true) (t : ColumnType) :
    t.coerce v = .null := by
  unfold coerce
  rw [if_pos h]

end ColumnType

/-- What a column may store for a cell: the cell as it is, null for an empty text, and in a wider
column the same number, the midnight of the day or the text. -/
inductive StoredAs : Value → Value → Prop
  | itself (v : Value) : StoredAs v v
  | empty : StoredAs (.text "") .null
  | whole {x : Float} {n : Int64} : Number.isWhole x = true →
      Number.truncated? x = some n.toInt → StoredAs (.float x) (.int n)
  | double (n : Int64) : StoredAs (.int n) (.float (Float.ofInt n.toInt))
  | midnight (d : Date) : StoredAs (.date d) (.timestamp (.midnight d))
  | text (v : Value) : StoredAs v (.text v.display)

namespace ColumnType

section

variable {v : Value} {own t : ColumnType}

theorem isEmpty_of_some (h : of? v = some own) : v.isEmpty = false := by
  rw [← Bool.not_eq_true, ← of?_eq_none_iff, h]
  simp

/-- A cell goes into a column of its own type or a wider one as the kind of values of that column. -/
theorem coerce_of_le (h : of? v = some own) (hle : own ≤ t) :
    StoredAs v (t.coerce v) ∧ (t.coerce v).kind = t.kind := by
  have hpresent := isEmpty_of_some h
  unfold coerce
  rw [hpresent]
  rcases hle with rfl | rfl | ⟨rfl, rfl⟩ | ⟨rfl, rfl⟩
  · rcases cases_of? h with hkind | ⟨rfl, x, rfl, hx⟩
    · cases v <;> cases own <;> cases hkind <;> exact ⟨.itself _, rfl⟩
    · obtain ⟨hwhole, hvalue⟩ := truncated?_of_isCount hx
      exact ⟨.whole hwhole hvalue, rfl⟩
  · exact ⟨.text v, rfl⟩
  · rcases cases_of? h with hkind | ⟨-, x, rfl, -⟩
    · cases v with
      | int n => exact ⟨.double n, rfl⟩
      | _ => cases hkind
    · exact ⟨.itself _, rfl⟩
  · rcases cases_of? h with hkind | ⟨hne, -⟩
    · cases v with
      | date d => exact ⟨.midnight d, rfl⟩
      | _ => cases hkind
    · cases hne

theorem kind_ne_null (t : ColumnType) : t.kind ≠ .null := by
  cases t <;> decide

/-- What a column stores for a cell that was among those its type was found from. -/
theorem coerce_detect {cells : List Value} (h : v ∈ cells) :
    StoredAs v ((detect (cells.map of?)).coerce v) ∧
      ((detect (cells.map of?)).coerce v = .null ↔ v.isEmpty = true) ∧
      (v.isEmpty = false →
        ((detect (cells.map of?)).coerce v).kind = (detect (cells.map of?)).kind) := by
  rcases hown : of? v with _ | own
  · have hempty := of?_eq_none_iff.mp hown
    rw [coerce_of_isEmpty hempty, hempty]
    refine ⟨?_, by simp, by simp⟩
    cases v with
    | null => exact .itself _
    | text s =>
      obtain rfl : s = "" := by simpa [Value.isEmpty] using hempty
      exact .empty
    | _ => cases hempty
  · have htype : own ∈ (cells.map of?).filterMap id :=
      List.mem_filterMap.mpr ⟨some own, List.mem_map.mpr ⟨v, h, hown⟩, rfl⟩
    obtain ⟨hstored, hkind⟩ := coerce_of_le hown (le_common htype)
    refine ⟨hstored, ?_, fun _ => hkind⟩
    rw [isEmpty_of_some hown]
    refine iff_of_false ?_ (by simp)
    intro hnull
    have hboth := congrArg Value.kind hnull
    exact kind_ne_null _ (hkind.symm.trans hboth)

end

end ColumnType

/-! ## Columns of a table -/

namespace Table

/-- A column holds the cells of its place, row by row. -/
theorem getElem?_transpose (width : Nat) (rows : List (List Value)) (i : Nat) :
    (transpose width rows)[i]? =
      if i < width then some (rows.map fun row => cellAt row i) else none := by
  induction rows with
  | nil => exact List.getElem?_replicate
  | cons row rows ih =>
    change (List.zipWith List.cons (fitCells width row) (transpose width rows))[i]? = _
    rw [List.getElem?_zipWith, getElem?_fitCells, ih]
    by_cases hi : i < width
    · simp only [if_pos hi, List.map_cons]
    · simp only [if_neg hi]

/-! ## Tables of grids -/

section

variable (names : List String) (rows : List (List Value))

theorem getElem?_columns_ofRows (i : Nat) :
    (ofRows names rows).columns[i]? = names[i]?.map fun name =>
      ⟨name, ColumnType.detect ((rows.map fun row => cellAt row i).map ColumnType.of?)⟩ := by
  unfold ofRows
  rw [List.getElem?_zipWith, getElem?_transpose]
  by_cases hi : i < names.length
  · rw [if_pos hi, List.getElem?_eq_getElem hi]
    rfl
  · rw [if_neg hi, List.getElem?_eq_none (Nat.le_of_not_lt hi)]
    rfl

theorem columnNames_ofRows : (ofRows names rows).columnNames = names := by
  apply List.ext_getElem?
  intro i
  unfold columnNames
  rw [List.getElem?_map, getElem?_columns_ofRows, Option.map_map]
  exact Option.map_id'

theorem length_columns_ofRows : (ofRows names rows).columns.length = names.length := by
  rw [← List.length_map (·.name)]
  exact congrArg List.length (columnNames_ofRows names rows)

end

/-- The names of the columns that a grid has, or a single one without any. -/
def namesFor (grid : List (List Value)) (header : Bool) : List String :=
  match grid with
  | [] => [positionName 0]
  | first :: _ =>
    if header then headerNames (fitCells (max first.length 1) first)
    else (List.range (max first.length 1)).map positionName

/-- The rows of a grid that hold values: without its header, if it has one. -/
def bodyOf (grid : List (List Value)) (header : Bool) : List (List Value) :=
  if header then grid.tail else grid

theorem ofGrid_eq (grid : List (List Value)) (header : Bool) :
    ofGrid grid header = ofRows (namesFor grid header) (bodyOf grid header) := by
  rcases grid with _ | ⟨first, rest⟩
  · cases header <;> rfl
  · cases header <;> rfl

/-- The rows of a table are those of the grid behind its header, in order. Each has one cell for
each column: null if the grid's cell is missing, null or the empty text, and otherwise a value of
the kind that the column's type stands for, which is the cell in a form that the column holds. -/
theorem stored_cells_have_the_type_of_their_column (grid : List (List Value)) (header : Bool) :
    (ofGrid grid header).rows.length = (bodyOf grid header).length ∧
    ∀ (i : Nat) (row : List Value), (bodyOf grid header)[i]? = some row →
      ∃ stored : List Value, (ofGrid grid header).rows[i]? = some stored ∧
        stored.length = (ofGrid grid header).columns.length ∧
        ∀ (j : Nat) (c : Column), (ofGrid grid header).columns[j]? = some c →
          ∃ v, stored[j]? = some v ∧ StoredAs (cellAt row j) v ∧
            (v = .null ↔ row[j]? = none ∨ row[j]? = some .null ∨ row[j]? = some (.text "")) ∧
            (v ≠ .null → v.kind = c.type.kind) := by
  rw [ofGrid_eq]
  generalize namesFor grid header = names
  generalize bodyOf grid header = rows
  refine ⟨List.length_map _, ?_⟩
  intro i row hrow
  refine ⟨_, (List.getElem?_map ..).trans (congrArg (Option.map _) hrow), ?_, ?_⟩
  · change (List.zipWith _ (ofRows names rows).columns (fitCells names.length row)).length = _
    rw [List.length_zipWith, length_fitCells, length_columns_ofRows, Nat.min_self]
  · intro j c hc
    have hwidth : j < names.length := by
      rw [← length_columns_ofRows names rows]
      exact (List.getElem?_eq_some_iff.mp hc).1
    have hcell : cellAt row j ∈ rows.map fun row => cellAt row j :=
      List.mem_map_of_mem (List.mem_of_getElem? hrow)
    obtain ⟨hstored, hnull, hkind⟩ := ColumnType.coerce_detect hcell
    have htype : c.type =
        ColumnType.detect ((rows.map fun row => cellAt row j).map ColumnType.of?) := by
      rw [getElem?_columns_ofRows] at hc
      obtain ⟨name, -, rfl⟩ := Option.map_eq_some_iff.mp hc
      rfl
    rw [← htype] at hstored hnull hkind
    refine ⟨c.type.coerce (cellAt row j), ?_, hstored, ?_, ?_⟩
    · change (List.zipWith _ (ofRows names rows).columns (fitCells names.length row))[j]? = _
      rw [List.getElem?_zipWith, hc, getElem?_fitCells, if_pos hwidth]
    · rw [hnull]
      unfold cellAt
      rcases row[j]? with _ | v
      · simp [Value.isEmpty]
      · cases v <;> simp [Value.isEmpty]
    · intro hpresent
      exact hkind (Bool.eq_false_iff.mpr (mt hnull.mpr hpresent))

/-- A ragged grid: the first column holds an integer, another number and an empty text, the second
one a day, a moment and nothing, and the cell behind them has no column. -/
theorem an_integer_and_a_day_are_stored_in_wider_columns :
    let noon : Timestamp := ⟨.epoch, .ofNanos 43200000000000⟩
    let grid : List (List Value) :=
      [[.int 1, .date .epoch], [.float 2.5, .timestamp noon, .bool true], [.text ""]]
    (bodyOf grid false)[0]? = some [.int 1, .date .epoch] ∧
      (ofGrid grid false).columns = [⟨"F1", .double⟩, ⟨"F2", .timestamp⟩] ∧
      (ofGrid grid false).rows[0]? = some [.float (Float.ofInt 1), .timestamp (.midnight .epoch)] := by
  intro noon grid
  have hcolumns : (ofGrid grid false).columns = [⟨"F1", .double⟩, ⟨"F2", .timestamp⟩] := by
    decide +kernel
  obtain ⟨-, hrows⟩ := stored_cells_have_the_type_of_their_column grid false
  obtain ⟨stored, hstored, hwidth, hcells⟩ := hrows 0 [.int 1, .date .epoch] rfl
  rw [hcolumns] at hwidth hcells
  obtain ⟨number, hnumber, hsame, hnull, hkind⟩ := hcells 0 _ rfl
  obtain ⟨moment, hmoment, hsame', hnull', hkind'⟩ := hcells 1 _ rfl
  have hnumber' : number = .float (Float.ofInt 1) := by
    have hpresent := hkind (by simp [hnull])
    cases hsame with
    | itself => cases hpresent
    | double => rfl
    | text => cases hpresent
  have hmoment' : moment = .timestamp (.midnight .epoch) := by
    have hpresent := hkind' (by simp [hnull'])
    cases hsame' with
    | itself => cases hpresent
    | midnight => rfl
    | text => cases hpresent
  have hlist : stored = [number, moment] := by
    rcases stored with _ | ⟨first, _ | ⟨second, _ | _⟩⟩
    · cases hnumber
    · cases hmoment
    · rw [Option.some.inj hnumber, Option.some.inj hmoment]
    · cases hwidth
  refine ⟨rfl, hcolumns, ?_⟩
  rw [hstored, hlist, hnumber', hmoment']

end Table

end GridQuery
