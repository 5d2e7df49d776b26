-- Comparing values as an order. Dates stand for their midnights; then values of
-- one kind are in one line, and no others compare. What holds of each line
-- holds of the values: a comparison turns round with its sides and carries on
-- from one value to the next. So an expression that compares two values is true
-- in exactly one of three ways, or null in all.
import GridQuery.Expr.Evaluate
import Mathlib.Data.String.Basic

namespace GridQuery

open Std

/-! ## The lines -/

/-- From one value to the next and on, unless one step is up and the other down. -/
theorem compare_chain {α : Type} {cmp : α → α → Ordering} [TransCmp cmp] {a b c : α}
    (h : cmp a b = cmp b c ∨ cmp a b = .eq ∨ cmp b c = .eq) :
    cmp a c = (cmp a b).then (cmp b c) := by
  rcases h with h | h | h
  · rw [← h, Ordering.then_self]
    rcases hab : cmp a b with _ | _ | _
    · exact TransCmp.lt_trans hab (h.symm.trans hab)
    · exact TransCmp.eq_trans hab (h.symm.trans hab)
    · exact TransCmp.gt_trans hab (h.symm.trans hab)
  · rw [TransCmp.congr_left h, h, Ordering.eq_then]
  · rw [← TransCmp.congr_right h, h, Ordering.then_eq]

/-- What is ordered by one of its parts. -/
theorem transCmp_part {α β : Type} (part : β → α) (cmp : α → α → Ordering) [TransCmp cmp] :
    TransCmp fun a b => cmp (part a) (part b) where
  eq_swap := OrientedCmp.eq_swap
  isLE_trans := TransCmp.isLE_trans

instance : TransCmp Date.compare :=
  inferInstanceAs (TransCmp (compareLex (compareOn Date.year)
    (compareLex (compareOn Date.month) (compareOn Date.day))))

instance : LawfulEqCmp Date.compare where
  eq_of_compare {a b} h := by
    simp only [Date.compare, Ordering.then_eq_eq, LawfulEqCmp.compare_eq_iff_eq] at h
    cases a
    cases b
    simpa using h

instance : TransCmp Time.compare :=
  inferInstanceAs (TransCmp (compareLex (compareOn Time.hour) (compareLex (compareOn Time.minute)
    (compareLex (compareOn Time.second) (compareOn Time.nano)))))

instance : LawfulEqCmp Time.compare where
  eq_of_compare {a b} h := by
    simp only [Time.compare, Ordering.then_eq_eq, LawfulEqCmp.compare_eq_iff_eq] at h
    cases a
    cases b
    simpa using h

instance : TransCmp Timestamp.compare :=
  have := transCmp_part Timestamp.date Date.compare
  have := transCmp_part Timestamp.time Time.compare
  inferInstanceAs (TransCmp (compareLex (fun a b : Timestamp => a.date.compare b.date)
    (fun a b : Timestamp => a.time.compare b.time)))

instance : LawfulEqCmp Timestamp.compare where
  eq_of_compare {a b} h := by
    simp only [Timestamp.compare, Ordering.then_eq_eq, LawfulEqCmp.compare_eq_iff_eq] at h
    cases a
    cases b
    simpa using h

instance : TransCmp compareText :=
  inferInstanceAs (TransCmp fun a b : String => Ord.compare a b)

instance : LawfulEqCmp compareText :=
  inferInstanceAs (LawfulEqCmp fun a b : String => Ord.compare a b)

instance lawfulEqCmp_toInt : LawfulEqCmp (compareOn Int64.toInt) where
  eq_of_compare h := Int64.toInt_inj.mp (LawfulEqOrd.eq_of_compare h)

instance lawfulEqCmp_toNat : LawfulEqCmp (compareOn Bool.toNat) where
  eq_of_compare {a b} h := by
    revert a b
    decide

/-! ## Dates -/

/-- The starts of two days are in the order of the days. -/
theorem Timestamp.compare_midnight (d e : Date) :
    (midnight d).compare (midnight e) = d.compare e := by
  have hsame : Time.midnight.compare Time.midnight = .eq := ReflCmp.compare_self
  unfold compare midnight
  rw [hsame, Ordering.then_eq]

namespace Value

/-- A date as the moment that it starts; all others as they are. -/
def atMidnight : Value → Value
  | date d => timestamp (.midnight d)
  | v => v

theorem compare_atMidnight (a b : Value) : a.atMidnight.compare b.atMidnight = a.compare b := by
  cases a with
  | date d =>
    cases b with
    | date e => exact congrArg some (Timestamp.compare_midnight d e)
    | _ => rfl
  | _ => cases b <;> rfl

/-! ## Values in line -/

/-- Two values in one line, and how the first stands to the second. No date is in a line. -/
inductive InLine : Value → Value → Ordering → Prop
  | int (m n : Int64) : InLine (int m) (int n) (compareOn Int64.toInt m n)
  | text (s t : String) : InLine (text s) (text t) (compareText s t)
  | bool (f g : Bool) : InLine (bool f) (bool g) (compareOn Bool.toNat f g)
  | timestamp (s t : Timestamp) : InLine (timestamp s) (timestamp t) (s.compare t)
  | time (s t : Time) : InLine (time s) (time t) (s.compare t)

namespace InLine

variable {a b c : Value} {o o' : Ordering}

theorem swap (h : InLine a b o) : InLine b a o.swap := by
  cases h with
  | int m n =>
    rw [← OrientedCmp.eq_swap]
    exact .int n m
  | text s t =>
    rw [← OrientedCmp.eq_swap]
    exact .text t s
  | bool f g =>
    rw [← OrientedCmp.eq_swap]
    exact .bool g f
  | timestamp s t =>
    rw [← OrientedCmp.eq_swap]
    exact .timestamp t s
  | time s t =>
    rw [← OrientedCmp.eq_swap]
    exact .time t s

theorem chain (hab : InLine a b o) (hbc : InLine b c o') (h : o = o' ∨ o = .eq ∨ o' = .eq) :
    InLine a c (o.then o') := by
  cases hab with
  | int m n => cases hbc with | int _ k => exact compare_chain h ▸ .int m k
  | text s t => cases hbc with | text _ u => exact compare_chain h ▸ .text s u
  | bool f g => cases hbc with | bool _ e => exact compare_chain h ▸ .bool f e
  | timestamp s t => cases hbc with | timestamp _ u => exact compare_chain h ▸ .timestamp s u
  | time s t => cases hbc with | time _ u => exact compare_chain h ▸ .time s u

theorem eq_iff (h : InLine a b o) : o = .eq ↔ a = b := by
  cases h with
  | int m n => simp only [LawfulEqCmp.compare_eq_iff_eq, Value.int.injEq]
  | text s t => simp only [LawfulEqCmp.compare_eq_iff_eq, Value.text.injEq]
  | bool f g => simp only [LawfulEqCmp.compare_eq_iff_eq, Value.bool.injEq]
  | timestamp s t => simp only [LawfulEqCmp.compare_eq_iff_eq, Value.timestamp.injEq]
  | time s t => simp only [LawfulEqCmp.compare_eq_iff_eq, Value.time.injEq]

end InLine

section

variable {a b c : Value} {o o' : Ordering}

theorem inLine_of_compare (ha : a.kind ≠ .double) (hb : b.kind ≠ .double)
    (hdate : a.kind ≠ .date) (hdate' : b.kind ≠ .date) (h : a.compare b = some o) :
    InLine a b o := by
  cases a with
  | null => cases b <;> cases h
  | float x => exact absurd rfl ha
  | date d => exact absurd rfl hdate
  | int m =>
    cases b with
    | int n => exact Option.some.inj h ▸ .int m n
    | float y => exact absurd rfl hb
    | _ => cases h
  | text s =>
    cases b with
    | text t => exact Option.some.inj h ▸ .text s t
    | _ => cases h
  | bool f =>
    cases b with
    | bool g => exact Option.some.inj h ▸ .bool f g
    | _ => cases h
  | timestamp s =>
    cases b with
    | timestamp t => exact Option.some.inj h ▸ .timestamp s t
    | date e => exact absurd rfl hdate'
    | _ => cases h
  | time s =>
    cases b with
    | time t => exact Option.some.inj h ▸ .time s t
    | _ => cases h

theorem compare_of_inLine (h : InLine a b o) : a.compare b = some o := by
  cases h <;> rfl

theorem kind_atMidnight (v : Value) :
    v.atMidnight.kind = if v.kind = .date then .timestamp else v.kind := by
  cases v <;> rfl

theorem kind_atMidnight_ne (h : a.kind ≠ .double) :
    a.atMidnight.kind ≠ .double ∧ a.atMidnight.kind ≠ .date := by
  rw [kind_atMidnight]
  split_ifs with hdate
  · decide
  · exact ⟨h, hdate⟩

/-- Values other than doubles compare if they are in line, dates as their midnights. -/
theorem compare_eq_some_iff (ha : a.kind ≠ .double) (hb : b.kind ≠ .double) :
    a.compare b = some o ↔ InLine a.atMidnight b.atMidnight o := by
  obtain ⟨ha, hda⟩ := kind_atMidnight_ne ha
  obtain ⟨hb, hdb⟩ := kind_atMidnight_ne hb
  rw [← compare_atMidnight]
  exact ⟨inLine_of_compare ha hb hda hdb, compare_of_inLine⟩

/-- Two values compare: they are of one kind and not null, or a date and a timestamp. -/
def Comparable (a b : Value) : Prop :=
  (a.kind = b.kind ∧ a.kind ≠ .null) ∨ (a.kind = .date ∧ b.kind = .timestamp) ∨
    (a.kind = .timestamp ∧ b.kind = .date)

/-- Which values compare depends on their kinds alone, so there is a case for each two kinds. -/
theorem exists_compare_iff (ha : a.kind ≠ .double) (hb : b.kind ≠ .double) :
    (∃ o, a.compare b = some o) ↔ a.Comparable b := by
  cases a <;> cases b <;> simp_all [Comparable, kind, compare, asFloat?]

theorem compare_eq_none (ha : a.kind ≠ .double) (hb : b.kind ≠ .double) (h : ¬ a.Comparable b) :
    a.compare b = none := by
  rcases hcompare : a.compare b with _ | o
  · rfl
  · exact absurd ((exists_compare_iff ha hb).mp ⟨o, hcompare⟩) h

theorem compare_eq_some_swap_iff (ha : a.kind ≠ .double) (hb : b.kind ≠ .double) :
    b.compare a = some o.swap ↔ a.compare b = some o := by
  rw [compare_eq_some_iff ha hb, compare_eq_some_iff hb ha]
  refine ⟨fun h => ?_, InLine.swap⟩
  have hback := h.swap
  rwa [Ordering.swap_swap] at hback

/-- Values that compare are equal in the order only if they are the same, dates as their
midnights. -/
theorem compare_eq_some_eq_iff (ha : a.kind ≠ .double) (hb : b.kind ≠ .double) :
    a.compare b = some .eq ↔ a.Comparable b ∧ a.atMidnight = b.atMidnight := by
  constructor
  · intro h
    have hline := (compare_eq_some_iff ha hb).mp h
    exact ⟨(exists_compare_iff ha hb).mp ⟨_, h⟩, hline.eq_iff.mp rfl⟩
  · rintro ⟨hcomparable, hsame⟩
    obtain ⟨o, ho⟩ := (exists_compare_iff ha hb).mpr hcomparable
    obtain rfl := ((compare_eq_some_iff ha hb).mp ho).eq_iff.mpr hsame
    exact ho

theorem compare_trans (ha : a.kind ≠ .double) (hb : b.kind ≠ .double) (hc : c.kind ≠ .double)
    (hturn : o = o' ∨ o = .eq ∨ o' = .eq) (hab : a.compare b = some o)
    (hbc : b.compare c = some o') : a.compare c = some (o.then o') := by
  rw [compare_eq_some_iff ha hb] at hab
  rw [compare_eq_some_iff hb hc] at hbc
  rw [compare_eq_some_iff ha hc]
  exact hab.chain hbc hturn

end

end Value

/-! ## Comparisons -/

namespace CompareOp

/-- The comparison that holds of two values that compare exactly if the other one fails. -/
def negation : CompareOp → CompareOp
  | eq => ne
  | ne => eq
  | lt => ge
  | ge => lt
  | gt => le
  | le => gt

theorem holds_negation (op : CompareOp) (o : Ordering) : op.negation.holds o = !op.holds o := by
  cases op <;> cases o <;> rfl

/-- Each outcome is that of one of the three comparisons. -/
theorem existsUnique_holds (o : Ordering) : ∃! op, op ∈ [lt, eq, gt] ∧ op.holds o = true := by
  cases o with
  | lt => exact ⟨lt, by decide, by rintro (_ | _) <;> simp [holds]⟩
  | eq => exact ⟨eq, by decide, by rintro (_ | _) <;> simp [holds]⟩
  | gt => exact ⟨gt, by decide, by rintro (_ | _) <;> simp [holds]⟩

end CompareOp

namespace Expr

/-- Values other than doubles are in order. A comparison turns round with its sides. Two values
compare exactly if they are of one kind and not null, or a date and a timestamp; dates stand for
their midnights, and values are equal in the order only if they are the same. Two steps that do not
turn back make one step: less and less, or less and equal either way round, make less, and equal and
equal make equal. An expression is true if its values compare as it says, so of values that compare
exactly one of less, equal and greater is true, and the other three comparisons negate these; of
values that do not compare all six are null. -/
theorem values_that_compare_are_in_one_order (a b c : Value) (ha : a.kind ≠ .double)
    (hb : b.kind ≠ .double) (hc : c.kind ≠ .double) :
    (∀ o, a.compare b = some o ↔ b.compare a = some o.swap) ∧
      ((∃ o, a.compare b = some o) ↔ a.Comparable b) ∧
      a.compare b = a.atMidnight.compare b.atMidnight ∧
      (a.compare b = some .eq ↔ a.Comparable b ∧ a.atMidnight = b.atMidnight) ∧
      (∀ o o', o = o' ∨ o = .eq ∨ o' = .eq → a.compare b = some o → b.compare c = some o' →
        a.compare c = some (o.then o')) ∧
      ∀ (m : ColumnMappings) (row : String → Value) (left right : Expr),
        left.evaluate m row = a → right.evaluate m row = b →
          let answer op := (compare left op right).evaluate m row
          (∀ o, a.compare b = some o → answer .lt = .bool (o == .lt) ∧
            answer .eq = .bool (o == .eq) ∧ answer .gt = .bool (o == .gt)) ∧
          (a.Comparable b →
            (∃! op, op ∈ [CompareOp.lt, .eq, .gt] ∧ answer op = .bool true) ∧
              ∀ op, ∃ flag, answer op = .bool flag ∧ answer op.negation = .bool !flag) ∧
          (¬ a.Comparable b → ∀ op, answer op = .null) := by
  refine ⟨fun o => (Value.compare_eq_some_swap_iff ha hb).symm, Value.exists_compare_iff ha hb,
    (Value.compare_atMidnight a b).symm, Value.compare_eq_some_eq_iff ha hb,
    fun o o' => Value.compare_trans ha hb hc, ?_⟩
  rintro m row left right rfl rfl answer
  have hanswer : ∀ op, answer op = Truth.toValue
      (((left.evaluate m row).compare (right.evaluate m row)).map op.holds) := by
    intro op
    simp only [answer, evaluate]
  refine ⟨fun o ho => ?_, ?_, ?_⟩
  · simp only [hanswer, ho]
    exact ⟨rfl, rfl, rfl⟩
  · intro hcomparable
    obtain ⟨o, ho⟩ := (Value.exists_compare_iff ha hb).mpr hcomparable
    simp only [ho, Option.map_some, Truth.toValue] at hanswer
    simp only [hanswer, Value.bool.injEq, CompareOp.holds_negation]
    exact ⟨CompareOp.existsUnique_holds o, fun op => ⟨_, rfl, rfl⟩⟩
  · intro hcomparable op
    rw [hanswer, Value.compare_eq_none ha hb hcomparable]
    rfl

/-- The beginning of a day is before its noon, and that before the beginning of the next day. -/
theorem a_day_its_noon_and_the_next_day :
    let day : Value := .date .epoch
    let noon : Value := .timestamp ⟨.epoch, .ofNanos 43200000000000⟩
    let next : Value := .date ⟨1970, 1, 2, by decide⟩
    let answer op := (compare (literal day) op (column "Noon")).evaluate {} fun _ => noon
    day.kind ≠ .double ∧ noon.kind ≠ .double ∧ next.kind ≠ .double ∧ day.Comparable noon ∧
      ¬ day.Comparable .null ∧ day.compare noon = some .lt ∧ noon.compare next = some .lt ∧
      noon.compare day = some .gt ∧ day.compare next = some .lt ∧ answer .lt = .bool true ∧
      (∃! op, op ∈ [CompareOp.lt, .eq, .gt] ∧ answer op = .bool true) ∧
      ∀ op, (compare (literal day) op (column "Noon")).evaluate {} (fun _ => .null) = .null := by
  intro day noon next answer
  have hday : day.kind ≠ .double := by decide
  have hnoon : noon.kind ≠ .double := by decide
  have hnext : next.kind ≠ .double := by decide
  have hcomparable : day.Comparable noon := .inr (.inl ⟨rfl, rfl⟩)
  have hnull : ¬ day.Comparable .null := by simp [Value.Comparable, Value.kind, day]
  have hbefore : day.compare noon = some .lt := by decide
  have hafter : noon.compare next = some .lt := by decide
  obtain ⟨hswap, -, -, -, hchain, hanswers⟩ :=
    values_that_compare_are_in_one_order day noon next hday hnoon hnext
  obtain ⟨-, -, -, -, -, hunknown⟩ :=
    values_that_compare_are_in_one_order day .null .null hday (by decide) (by decide)
  obtain ⟨htrue, hknown, -⟩ := hanswers {} (fun _ => noon) (literal day) (column "Noon") rfl rfl
  obtain ⟨-, -, hunknown⟩ := hunknown {} (fun _ => .null) (literal day) (column "Noon") rfl rfl
  exact ⟨hday, hnoon, hnext, hcomparable, hnull, hbefore, hafter, (hswap .lt).mp hbefore,
    hchain .lt .lt (.inl rfl) hbefore hafter, (htrue .lt hbefore).1, (hknown hcomparable).1,
    hunknown hnull⟩

end Expr

end GridQuery
