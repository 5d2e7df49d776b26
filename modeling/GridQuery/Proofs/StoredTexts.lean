-- Values in a column of texts. A whole number, a truth value, a date, a
-- timestamp or a time is stored there as its text, and the text converts to
-- what the value itself converts to, as that is written: a leap second that no
-- minute ends with comes back as the second that follows.
import GridQuery.Grid.ColumnType
import GridQuery.Proofs.WrittenMoments
import GridQuery.Value.Convert

namespace GridQuery

open GridQuery.Number GridQuery.Pattern

/-- A type of dates, timestamps or times. -/
def BaseType.isTemporal : BaseType → Bool
  | .date => true
  | .timestamp => true
  | .time => true
  | _ => false

namespace Value

/-- The type that a value converts to as it is. Doubles and texts are left out. -/
def ownType? : Value → Option BaseType
  | int _ => some .bigint
  | bool _ => some .bool
  | date _ => some .date
  | timestamp _ => some .timestamp
  | time _ => some .time
  | _ => none

/-- A date, a timestamp or a time. -/
def isTemporal (v : Value) : Bool := v.ownType?.any BaseType.isTemporal

/-- The value that the text of a date, a timestamp or a time stands for. -/
def asWritten : Value → Value
  | timestamp t => timestamp t.asWritten
  | time t => time t.asWritten
  | v => v

/-- A leap second, if the value has one, is at the end of a minute. -/
def LeapsAtMinuteEnd : Value → Prop
  | timestamp t => t.time.LeapsAtMinuteEnd
  | time t => t.LeapsAtMinuteEnd
  | _ => True

theorem asWritten_eq_iff (v : Value) : v.asWritten = v ↔ v.LeapsAtMinuteEnd := by
  cases v with
  | timestamp t =>
    rw [LeapsAtMinuteEnd, ← t.time.asWritten_eq_iff, asWritten, timestamp.injEq,
      Timestamp.mk.injEq]
    exact and_iff_right rfl
  | time t => rw [LeapsAtMinuteEnd, ← t.asWritten_eq_iff, asWritten, time.injEq]
  | _ => exact iff_of_true rfl trivial

/-! ## Texts of whole numbers and truth values -/

theorem toInt64_text (n : Int64) : (text (int64Text n)).toInt64 = .ok n := by
  have htrim : Text.trim (int64Text n).toList = (int64Text n).toList := by
    rw [int64Text, Text.intText, String.toList_ofList]
    exact trim_eq_self fun _ => not_isBlank_of_mem_integer
  simp only [toInt64, htrim, readInt64_int64Text]

theorem toBool_text (flag : Bool) : (text (bool flag).display).toBool = .ok flag := by
  cases flag <;> rfl

/-! ## Texts of dates, timestamps and times -/

/-- The text of a date or a timestamp stands for the day that it stands for itself. -/
theorem day?_text {v : Value} (hv : v.isTemporal = true) {d : Date} (h : v.day? = some d) :
    (text v.display).day? = some d := by
  cases v with
  | date d' =>
    obtain rfl := Option.some.inj h
    simp [day?, display, Date.text, anyDate_date]
  | timestamp t =>
    obtain rfl := Option.some.inj h
    simp [day?, display, Timestamp.text, anyDate_timestamp, anyStamp_timestamp]
  | time _ => cases h
  | _ => cases hv

theorem moment?_text {v : Value} (hv : v.isTemporal = true) {t : Timestamp}
    (h : v.moment? = some t) : (text v.display).moment? = some t.asWritten := by
  cases v with
  | date d =>
    obtain rfl := Option.some.inj h
    simp [moment?, display, Date.text, anyStamp_date]
  | timestamp t' =>
    obtain rfl := Option.some.inj h
    simp [moment?, display, Timestamp.text, anyStamp_timestamp]
  | time _ => cases h
  | _ => cases hv

theorem clock?_text {v : Value} (hv : v.isTemporal = true) {t : Time} (h : v.clock? = some t) :
    (text v.display).clock? = some t.asWritten := by
  cases v with
  | date _ => cases h
  | timestamp t' =>
    obtain rfl := Option.some.inj h
    simp [clock?, display, Timestamp.text, anyTime_timestamp, anyStamp_timestamp]
  | time t' =>
    obtain rfl := Option.some.inj h
    simp [clock?, display, Time.text, anyTime_time]
  | _ => cases hv

/-- The text of a value converts to what the value converts to, as that is written. -/
theorem convertTo_text {v x : Value} {target : BaseType} (hv : v.isTemporal = true)
    (htarget : target.isTemporal = true) (h : v.convertTo target = .ok x) :
    (text v.display).convertTo target = .ok x.asWritten := by
  cases target with
  | date =>
    simp only [convertTo] at h ⊢
    rcases hday : v.day? with _ | d
    · rw [hday] at h
      cases h
    · rw [hday] at h
      obtain rfl := Except.ok.inj h
      rw [day?_text hv hday]
      rfl
  | timestamp =>
    simp only [convertTo] at h ⊢
    rcases hmoment : v.moment? with _ | t
    · rw [hmoment] at h
      cases h
    · rw [hmoment] at h
      obtain rfl := Except.ok.inj h
      rw [moment?_text hv hmoment]
      rfl
  | time =>
    simp only [convertTo] at h ⊢
    rcases hclock : v.clock? with _ | t
    · rw [hclock] at h
      cases h
    · rw [hclock] at h
      obtain rfl := Except.ok.inj h
      rw [clock?_text hv hclock]
      rfl
  | _ => cases htarget

/-- A value converts to its own type as it is. -/
theorem convertTo_ownType {v : Value} {own : BaseType} (h : v.ownType? = some own) :
    v.convertTo own = .ok v := by
  cases v with
  | int _ | bool _ | date _ | timestamp _ | time _ =>
    obtain rfl := Option.some.inj h
    rfl
  | _ => cases h

theorem convertTo_ownType_text {v : Value} {own : BaseType} (h : v.ownType? = some own) :
    (text v.display).convertTo own = .ok v.asWritten := by
  cases v with
  | int n =>
    obtain rfl := Option.some.inj h
    simp [convertTo, display, toInt64_text, Except.map, asWritten]
  | bool flag =>
    obtain rfl := Option.some.inj h
    simp [convertTo, toBool_text, Except.map, asWritten]
  | date _ | timestamp _ | time _ =>
    have hown := convertTo_ownType h
    obtain rfl := Option.some.inj h
    exact convertTo_text rfl rfl hown
  | _ => cases h

/-! ## Columns of texts -/

theorem convert_of_not_null {v : Value} (h : v.isNull = false) (type : FieldType) :
    v.convert type = v.convertTo type.base := by
  simp [convert, h]

/-- A value that has a type of its own is stored in a column of texts as its text, which converts
to that type as the value that is written. The text of a date, a timestamp or a time converts to
each type of dates, timestamps and times that the value converts to, and gives that result as it is
written. Only a leap second that no minute ends with is written as another time. -/
theorem a_stored_text_converts_back_to_the_value (v : Value) (type : FieldType) :
    (v.ownType? = some type.base → ColumnType.varchar.coerce v = text v.display ∧
      (text v.display).convert type = .ok v.asWritten) ∧
    (v.isTemporal = true → type.base.isTemporal = true → ∀ x, v.convert type = .ok x →
      (text v.display).convert type = .ok x.asWritten) ∧
    ∀ x : Value, x.asWritten = x ↔ x.LeapsAtMinuteEnd := by
  refine ⟨?_, ?_, asWritten_eq_iff⟩
  · intro hown
    refine ⟨?_, ?_⟩
    · cases v with
      | int _ | bool _ | date _ | timestamp _ | time _ => rfl
      | _ => cases hown
    · rw [convert_of_not_null rfl]
      exact convertTo_ownType_text hown
  · intro hv htarget x h
    have hnull : v.isNull = false := by
      cases v with
      | null => cases hv
      | _ => rfl
    rw [convert_of_not_null hnull] at h
    rw [convert_of_not_null rfl]
    exact convertTo_text hv htarget h

/-- Half a second into a leap second, in a year that is written with its sign. -/
def lateLeapSecond : Timestamp where
  date := ⟨12345, 12, 31, by decide⟩
  time := ⟨23, 59, 59, 1500000000, by decide⟩

theorem the_text_of_a_leap_second_converts_back :
    (timestamp lateLeapSecond).ownType? = some .timestamp ∧
      (timestamp lateLeapSecond).display = "+12345-12-31 23:59:60.500" ∧
      (text "+12345-12-31 23:59:60.500").convert { base := .timestamp } =
        .ok (timestamp lateLeapSecond) ∧
      (timestamp lateLeapSecond).isTemporal = true ∧ BaseType.time.isTemporal = true ∧
      (timestamp lateLeapSecond).convert { base := .time, optional := true } =
        .ok (time lateLeapSecond.time) ∧
      (text "+12345-12-31 23:59:60.500").convert { base := .time, optional := true } =
        .ok (time lateLeapSecond.time) := by
  have htext : (timestamp lateLeapSecond).display = "+12345-12-31 23:59:60.500" := by
    decide +kernel
  obtain ⟨hown, -, hwritten⟩ := a_stored_text_converts_back_to_the_value
    (timestamp lateLeapSecond) { base := .timestamp }
  obtain ⟨-, htime, -⟩ := a_stored_text_converts_back_to_the_value (timestamp lateLeapSecond)
    { base := .time, optional := true }
  have hstamp := (hown rfl).2
  have hclock := htime rfl rfl (time lateLeapSecond.time) rfl
  rw [htext, (hwritten (timestamp lateLeapSecond)).mpr (.inr rfl)] at hstamp
  rw [htext, (hwritten (time lateLeapSecond.time)).mpr (.inr rfl)] at hclock
  exact ⟨rfl, htext, hstamp, rfl, rfl, rfl, hclock⟩

/-- Half a second into a leap second that no minute ends with. -/
def strayLeapSecond : Time := ⟨12, 0, 5, 1500000000, by decide⟩

/-- The text of such a time is that of another time, and converts to that one. -/
theorem the_text_of_a_stray_leap_second_is_of_another_time :
    (time strayLeapSecond).ownType? = some .time ∧
      ColumnType.varchar.coerce (time strayLeapSecond) = text "12:00:06.500" ∧
      (text "12:00:06.500").convert { base := .time } =
        .ok (time ⟨12, 0, 6, 500000000, by decide⟩) ∧
      (text "12:00:06.500").convert { base := .time } ≠ .ok (time strayLeapSecond) := by
  have htext : (time strayLeapSecond).display = "12:00:06.500" := by decide +kernel
  have hread : (text "12:00:06.500").convert { base := .time } =
      .ok (time ⟨12, 0, 6, 500000000, by decide⟩) := rfl
  refine ⟨rfl, congrArg text htext, hread, ?_⟩
  rw [hread]
  intro h
  have hsecond := congrArg Time.second (time.inj (Except.ok.inj h))
  exact absurd hsecond (by decide)

end Value

end GridQuery
