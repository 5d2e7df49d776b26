-- Timestamps: a date with a time of day.
import GridQuery.Calendar.Date
import GridQuery.Calendar.Time

namespace GridQuery

/-- A moment: a day and a time on it. -/
structure Timestamp where
  date : Date
  time : Time
  deriving DecidableEq

namespace Timestamp

/-- The start of a day. -/
def midnight (date : Date) : Timestamp := ⟨date, Time.midnight⟩

/-- Earlier moments come first. -/
def compare (a b : Timestamp) : Ordering :=
  (a.date.compare b.date).then (a.time.compare b.time)

/-- The moment that the text of a timestamp stands for. -/
def asWritten (t : Timestamp) : Timestamp := { t with time := t.time.asWritten }

@[simp] theorem date_asWritten (t : Timestamp) : t.asWritten.date = t.date := rfl

@[simp] theorem time_asWritten (t : Timestamp) : t.asWritten.time = t.time.asWritten := rfl

@[simp] theorem asWritten_midnight (date : Date) : (midnight date).asWritten = midnight date :=
  congrArg (mk date) (Time.midnight.asWritten_eq_iff.mpr (.inl (by decide)))

/-- The text of a timestamp: its date, a space and its time. -/
def chars (t : Timestamp) : List Char := t.date.chars ++ ' ' :: t.time.chars

/-- The text of a timestamp as a string. -/
def text (t : Timestamp) : String := String.ofList t.chars

/-- The moment that many nanoseconds after the start of a day, if the calendar reaches that far. -/
def after? (day : Int) (nanos : Nat) : Option Timestamp :=
  (Date.ofDayNumber? (day + (nanos / 86400000000000 : Nat))).map fun date =>
    ⟨date, Time.ofNanos nanos⟩

end Timestamp

end GridQuery
