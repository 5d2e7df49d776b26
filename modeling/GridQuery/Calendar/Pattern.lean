-- Reading dates and times by a pattern. A pattern is a list of items; each
-- takes its characters from the front of the text, and the whole text has to
-- be used up. White space before a number is skipped.
import GridQuery.Calendar.Timestamp
import GridQuery.Text.Blank

namespace GridQuery.Pattern

open GridQuery.Text

/-- One item of a pattern. -/
inductive Item
  /-- A year: up to four digits, or a sign and any number of digits. -/
  | year
  | month
  | day
  | hour
  /-- An hour from 1 to 12, completed by `meridiem`. -/
  | hour12
  | minute
  | second
  /-- A fraction of a second, which may be missing. -/
  | fraction
  /-- `AM` or `PM` in any case. -/
  | meridiem
  /-- Any amount of white space, none included. -/
  | gap
  /-- This character. -/
  | mark (c : Char)
  deriving DecidableEq, Repr

/-- What has been read so far. -/
structure Parts where
  year : Option Int := none
  month : Option Nat := none
  day : Option Nat := none
  hour : Option Nat := none
  hour12 : Option Nat := none
  afternoon : Option Bool := none
  minute : Option Nat := none
  second : Option Nat := none
  nano : Option Nat := none

/-- Reads a number of at most `width` digits after white space. -/
def readNumber (width : Nat) (cs : List Char) : Option (Nat × List Char) :=
  let cs := trimStart cs
  let digits := (cs.takeWhile isAsciiDigit).take width
  if digits.isEmpty then none else some (digitsValue digits, cs.drop digits.length)

/-- Reads a number between two bounds. -/
def readBetween (least greatest width : Nat) (cs : List Char) : Option (Nat × List Char) := do
  let (n, rest) ← readNumber width cs
  if least ≤ n && n ≤ greatest then some (n, rest) else none

/-- Reads all digits of a number that follows a sign. -/
def readSigned (cs : List Char) : Option (Nat × List Char) :=
  let (digits, rest) := spanDigits cs
  if digits.isEmpty then none else some (digitsValue digits, rest)

/-- Reads a year. -/
def readYear (cs : List Char) : Option (Int × List Char) :=
  match trimStart cs with
  | '-' :: rest => (readSigned rest).map fun (n, rest) => (-(n : Int), rest)
  | '+' :: rest => (readSigned rest).map fun (n, rest) => ((n : Int), rest)
  | rest => (readNumber 4 rest).map fun (n, rest) => ((n : Int), rest)

/-- Reads a fraction, in nanoseconds: a point and at least one digit. Digits past the
ninth are skipped. -/
def readFraction (cs : List Char) : Option (Nat × List Char) :=
  let (digits, rest) := spanDigits cs
  let counted := digits.take 9
  if digits.isEmpty then none
  else some (digitsValue counted * Nat.pow 10 (9 - counted.length), rest)

/-- Reads one item. -/
def readItem (parts : Parts) (cs : List Char) : Item → Option (Parts × List Char)
  | .year => (readYear cs).map fun (n, rest) => ({ parts with year := some n }, rest)
  | .month => (readBetween 1 12 2 cs).map fun (n, rest) => ({ parts with month := some n }, rest)
  | .day => (readBetween 1 31 2 cs).map fun (n, rest) => ({ parts with day := some n }, rest)
  | .hour => (readBetween 0 23 2 cs).map fun (n, rest) => ({ parts with hour := some n }, rest)
  | .hour12 => (readBetween 1 12 2 cs).map fun (n, rest) => ({ parts with hour12 := some n }, rest)
  | .minute => (readBetween 0 59 2 cs).map fun (n, rest) => ({ parts with minute := some n }, rest)
  | .second => (readBetween 0 60 2 cs).map fun (n, rest) => ({ parts with second := some n }, rest)
  | .fraction =>
    match cs with
    | '.' :: rest => (readFraction rest).map fun (n, rest) => ({ parts with nano := some n }, rest)
    | _ => some (parts, cs)
  | .meridiem =>
    match cs with
    | a :: m :: rest =>
      if m.toLower ≠ 'm' then none
      else if a.toLower = 'a' then some ({ parts with afternoon := some false }, rest)
      else if a.toLower = 'p' then some ({ parts with afternoon := some true }, rest)
      else none
    | _ => none
  | .gap => some (parts, trimStart cs)
  | .mark c =>
    match cs with
    | d :: rest => if d = c then some (parts, rest) else none
    | [] => none

/-- Reads the items one after another. -/
def readItems : List Item → Parts → List Char → Option (Parts × List Char)
  | [], parts, cs => some (parts, cs)
  | item :: items, parts, cs => do
    let (parts, rest) ← readItem parts cs item
    readItems items parts rest

/-- Reads a whole text by a pattern. -/
def read (items : List Item) (cs : List Char) : Option Parts :=
  match readItems items {} cs with
  | some (parts, []) => some parts
  | _ => none

/-- The date that was read. -/
def Parts.date? (p : Parts) : Option Date := do
  Date.of? (← p.year) (← p.month) (← p.day)

/-- The hour that was read: of 24, or of 12 with its half of the day. -/
def Parts.hour? (p : Parts) : Option Nat :=
  match p.hour, p.hour12, p.afternoon with
  | some h, _, _ => some h
  | none, some h, some afternoon => some (h % 12 + if afternoon then 12 else 0)
  | _, _, _ => none

/-- The time that was read. A missing second is zero. -/
def Parts.time? (p : Parts) : Option Time := do
  Time.ofClock? (← p.hour?) (← p.minute) (p.second.getD 0) (p.nano.getD 0)

/-- The timestamp that was read. -/
def Parts.timestamp? (p : Parts) : Option Timestamp := do
  return ⟨← p.date?, ← p.time?⟩

/-! ## The patterns -/

/-- Hour, minute and second, with an optional fraction. -/
def clock : List Item :=
  [.hour, .mark ':', .minute, .mark ':', .second, .fraction]

/-- Year, month and day with dashes. -/
def isoDay : List Item := [.year, .mark '-', .month, .mark '-', .day]

/-- Month, day and year with slashes. -/
def monthFirst : List Item := [.month, .mark '/', .day, .mark '/', .year]

/-- Year, month and day with slashes. -/
def yearFirst : List Item := [.year, .mark '/', .month, .mark '/', .day]

/-- A date and a time with white space between them. -/
def spacedStamp : List Item := isoDay ++ .gap :: clock

/-- A date and a time with a `T` between them. -/
def isoStamp : List Item := isoDay ++ .mark 'T' :: clock

/-- A date and a time without seconds. -/
def shortStamp : List Item := isoDay ++ [.gap, .hour, .mark ':', .minute]

/-- A date with slashes and a time without a fraction. -/
def slashedStamp : List Item :=
  monthFirst ++ [.gap, .hour, .mark ':', .minute, .mark ':', .second]

/-- Hour and minute. -/
def shortClock : List Item := [.hour, .mark ':', .minute]

/-- A time on a clock of twelve hours. -/
def halfDayClock : List Item :=
  [.hour12, .mark ':', .minute, .mark ':', .second, .gap, .meridiem]

/-! ## Reading by several patterns -/

/-- Reads a date by one pattern. -/
def dateBy (items : List Item) (cs : List Char) : Option Date := (read items cs).bind Parts.date?

/-- Reads a time by one pattern. -/
def timeBy (items : List Item) (cs : List Char) : Option Time := (read items cs).bind Parts.time?

/-- Reads a timestamp by one pattern. -/
def stampBy (items : List Item) (cs : List Char) : Option Timestamp :=
  (read items cs).bind Parts.timestamp?

/-- A date in any of the forms a cell may hold, white space around it. -/
def anyDate (cs : List Char) : Option Date :=
  [isoDay, monthFirst, yearFirst].findSome? (dateBy · (trim cs))

/-- A time in any of the forms a cell may hold, white space around it. -/
def anyTime (cs : List Char) : Option Time :=
  [clock, shortClock, halfDayClock].findSome? (timeBy · (trim cs))

/-- A timestamp in any of the forms a cell may hold; a date alone is its midnight. -/
def anyStamp (cs : List Char) : Option Timestamp :=
  ([spacedStamp, isoStamp, shortStamp, slashedStamp].findSome? (stampBy · (trim cs))).or
    ((anyDate cs).map Timestamp.midnight)

end GridQuery.Pattern
