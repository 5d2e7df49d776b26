-- Times of day, to the nanosecond. A leap second belongs to the second before
-- it, whose nanoseconds it carries on; it is written as the next one.
import GridQuery.Text.Digits

namespace GridQuery

open GridQuery.Text

/-- The parts name a time of day. From 1000000000 on, the nanoseconds are those of a leap
second. -/
abbrev IsTime (hour minute second nano : Nat) : Prop :=
  hour < 24 ∧ minute < 60 ∧ second < 60 ∧ nano < 2000000000

/-- A time of day. -/
@[ext]
structure Time where
  hour : Nat
  minute : Nat
  second : Nat
  nano : Nat
  isTime : IsTime hour minute second nano
  deriving DecidableEq

namespace Time

/-- The time with the given parts, if there is one. -/
def of? (hour minute second nano : Nat) : Option Time :=
  if h : IsTime hour minute second nano then some ⟨hour, minute, second, nano, h⟩ else none

/-- The time on a clock, whose second 60 is a leap second. -/
def ofClock? (hour minute second nano : Nat) : Option Time :=
  if second = 60 then of? hour minute 59 (1000000000 + nano) else of? hour minute second nano

/-- The start of a day. -/
def midnight : Time := ⟨0, 0, 0, 0, by decide⟩

/-- Earlier times come first. -/
def compare (a b : Time) : Ordering :=
  (Ord.compare a.hour b.hour).then ((Ord.compare a.minute b.minute).then
    ((Ord.compare a.second b.second).then (Ord.compare a.nano b.nano)))

/-- The time that many nanoseconds after midnight; whole days do not count. -/
def ofNanos (n : Nat) : Time :=
  ⟨n / 3600000000000 % 24, n / 60000000000 % 60, n / 1000000000 % 60, n % 1000000000, by omega⟩

/-- The second that is written; a leap second is written as the one that follows. -/
def clockSecond (t : Time) : Nat := t.second + t.nano / 1000000000

/-- The nanoseconds that are written. -/
def clockNano (t : Time) : Nat := t.nano % 1000000000

/-- The time that the text of a time stands for. Only a leap second at the end of a minute is
told from the second that follows. -/
def asWritten (t : Time) : Time :=
  if h : t.clockSecond < 60 then
    ⟨t.hour, t.minute, t.clockSecond, t.clockNano, by
      obtain ⟨hhour, hminute, -⟩ := t.isTime
      exact ⟨hhour, hminute, h, Nat.lt_trans (Nat.mod_lt _ (by decide)) (by decide)⟩⟩
  else t

/-- A leap second, if the time has one, is at the end of a minute. -/
def LeapsAtMinuteEnd (t : Time) : Prop := t.nano < 1000000000 ∨ t.second = 59

/-- The time as it is written, cut to whole microseconds. -/
def toMicros (t : Time) : Time :=
  ⟨t.asWritten.hour, t.asWritten.minute, t.asWritten.second, t.asWritten.nano / 1000 * 1000, by
    obtain ⟨hhour, hminute, hsecond, hnano⟩ := t.asWritten.isTime
    exact ⟨hhour, hminute, hsecond, Nat.lt_of_le_of_lt (Nat.div_mul_le_self _ _) hnano⟩⟩

/-- The fraction of a second with 0, 3, 6 or 9 digits, the fewest that are exact. -/
def fractionChars (nano : Nat) : List Char :=
  if nano = 0 then []
  else if nano % 1000000 = 0 then '.' :: decimalPadded 3 (nano / 1000000)
  else if nano % 1000 = 0 then '.' :: decimalPadded 6 (nano / 1000)
  else '.' :: decimalPadded 9 nano

/-- The text of a time. -/
def chars (t : Time) : List Char :=
  decimalPadded 2 t.hour ++ ':' :: decimalPadded 2 t.minute ++
    ':' :: decimalPadded 2 t.clockSecond ++ fractionChars t.clockNano

/-- The text of a time as a string. -/
def text (t : Time) : String := String.ofList t.chars

theorem clockSecond_le (t : Time) : t.clockSecond ≤ 60 := by
  obtain ⟨-, -, hsecond, hnano⟩ := t.isTime
  unfold clockSecond
  omega

theorem clockNano_lt (t : Time) : t.clockNano < 1000000000 := Nat.mod_lt _ (by decide)

/-- What is written is read as the time that the text stands for. -/
theorem ofClock?_clock (t : Time) :
    ofClock? t.hour t.minute t.clockSecond t.clockNano = some t.asWritten := by
  unfold ofClock? asWritten
  by_cases h : t.clockSecond < 60
  · have hnano : t.clockNano < 2000000000 := Nat.lt_trans t.clockNano_lt (by decide)
    rw [if_neg (Nat.ne_of_lt h), dif_pos h]
    exact dif_pos ⟨t.isTime.1, t.isTime.2.1, h, hnano⟩
  · have hsecond : t.second = 59 ∧ 1000000000 + t.clockNano = t.nano := by
      obtain ⟨-, -, hsecond, hnano⟩ := t.isTime
      unfold clockSecond at h
      unfold clockNano
      omega
    rw [if_pos (Nat.le_antisymm t.clockSecond_le (Nat.le_of_not_lt h)), dif_neg h, hsecond.2,
      ← hsecond.1]
    exact dif_pos t.isTime

theorem asWritten_eq_iff (t : Time) : t.asWritten = t ↔ t.LeapsAtMinuteEnd := by
  obtain ⟨-, -, hsecond, hnano⟩ := t.isTime
  unfold asWritten LeapsAtMinuteEnd
  split
  · have hparts : t.clockSecond = t.second ∧ t.clockNano = t.nano ↔
        t.nano < 1000000000 ∨ t.second = 59 := by
      unfold clockSecond clockNano at *
      omega
    rw [← hparts]
    constructor
    · intro h
      exact ⟨congrArg second h, congrArg nano h⟩
    · rintro ⟨hclock, hfraction⟩
      exact Time.ext rfl rfl hclock hfraction
  · rename_i hlast
    refine iff_of_true rfl ?_
    unfold clockSecond at hlast
    omega

end Time

end GridQuery
