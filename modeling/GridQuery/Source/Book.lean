-- Spreadsheet files as they are stored: typed cells at positions, with moments
-- written as serial numbers. Reading one gives a workbook of values.
import GridQuery.Calendar.Pattern
import GridQuery.Calendar.Serial
import GridQuery.Grid.Workbook

namespace GridQuery

open GridQuery.Number

/-- A stored cell. -/
inductive BookCell
  | text (text : String)
  | flag (flag : Bool)
  | number (number : Float)
  /-- A moment, as a number of days. -/
  | moment (serial : Float)
  /-- A span of time, as a number of days. -/
  | span (serial : Float)
  /-- A moment in words. -/
  | isoMoment (text : String)
  /-- A span of time in words. -/
  | isoSpan (text : String)
  /-- The error of a formula. -/
  | fault

/-- A stored worksheet. Cells that are not written are `none`. -/
structure BookSheet where
  name : String
  row : Nat := 0
  column : Nat := 0
  rows : List (List (Option BookCell)) := []

/-- A stored spreadsheet. -/
structure Book where
  /-- Days are counted from 1904. -/
  from1904 : Bool := false
  sheets : List BookSheet := []
  definedNames : List (String × String) := []

/-- The number of milliseconds in a day. -/
def dayMillis : Nat := 86400000

/-- The days from 30 December 1899 that a serial stands for. -/
def serialDays (from1904 : Bool) (serial : Float) : Float :=
  if from1904 then serial + 1462 else if serial < 60 then serial + 1 else serial

/-- The moment of a stored serial, to the millisecond. -/
def storedMoment? (from1904 : Bool) (serial : Float) : Option Timestamp := do
  let millis ← nearest? (serialDays from1904 serial * 86400000)
  Timestamp.after? (serialEpoch + millis / dayMillis) ((millis % dayMillis).toNat * 1000000)

/-- The value of a moment in words: a timestamp, a date or a time, else its text. -/
def isoValue (s : String) : Value :=
  (((Pattern.stampBy Pattern.isoStamp s.toList).map Value.timestamp).or <|
    ((Pattern.dateBy Pattern.isoDay s.toList).map Value.date).or
      ((Pattern.timeBy Pattern.clock s.toList).map Value.time)).getD (.text s)

namespace BookCell

/-- The value of a stored moment. Below one day it is a time, without a fraction a date. -/
def momentValue (from1904 : Bool) (serial : Float) : Value :=
  match storedMoment? from1904 serial with
  | none => .float serial
  | some t =>
    if serial < 1 then .time t.time
    else if isWhole serial then .date t.date
    else .timestamp t

/-- The value of a cell. -/
def value (from1904 : Bool) : BookCell → Value
  | text s => .text s
  | flag b => .bool b
  | number x => .float x
  | moment serial => momentValue from1904 serial
  | span serial => .float serial
  | isoMoment s => isoValue s
  | isoSpan s => .text s
  | fault => .null

end BookCell

namespace BookSheet

/-- The places of the written entries of a list. -/
def writtenPlaces {α : Type} (cells : List (Option α)) : List Nat :=
  cells.zipIdx.filterMap fun (c, i) => c.map fun _ => i

/-- The places of the rows that have a written cell. -/
def writtenRows (s : BookSheet) : List Nat :=
  s.rows.zipIdx.filterMap fun (cells, i) => if cells.any Option.isSome then some i else none

/-- The places of the columns that have a written cell. -/
def writtenColumns (s : BookSheet) : List Nat := s.rows.flatMap writtenPlaces

/-- The smallest area with all written cells. -/
def used (from1904 : Bool) (s : BookSheet) : Sheet :=
  match s.writtenRows.min?, s.writtenRows.max?, s.writtenColumns.min?, s.writtenColumns.max? with
  | some top, some bottom, some left, some right =>
    { name := s.name
      row := s.row + top
      column := s.column + left
      rows := ((s.rows.take (bottom + 1)).drop top).map fun cells =>
        (between left right).map fun i =>
          match cells[i]? with
          | some (some cell) => cell.value from1904
          | _ => .null }
  | _, _, _, _ => { name := s.name }

end BookSheet

/-- The workbook that is stored. -/
def Book.read (b : Book) : Workbook :=
  { sheets := b.sheets.map (BookSheet.used b.from1904), definedNames := b.definedNames }

end GridQuery
