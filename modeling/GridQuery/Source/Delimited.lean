-- Delimited text: records of fields with commas between them, a record a
-- line. A field in quotes may hold commas and line ends, and a quote written
-- twice. Fields are typed by what they look like.
import GridQuery.Calendar.Pattern
import GridQuery.Grid.Sheet
import GridQuery.Text.Ascii

namespace GridQuery.Delimited

open GridQuery.Text

/-! ## Typing fields -/

/-- Reads a finite double that has a digit. -/
def readNumber (cs : List Char) : Option Float :=
  (Number.readFloat cs).filter fun x => Number.isFinite x && cs.any isAsciiDigit

/-- Reads a truth value in any case. -/
def readFlag (cs : List Char) : Option Bool :=
  let word := cs.map Char.toLower
  if word = "true".toList then some true
  else if word = "false".toList then some false
  else none

/-- Reads a timestamp with a space or a `T` between date and time. -/
def readStamp (cs : List Char) : Option Timestamp :=
  (Pattern.stampBy Pattern.spacedStamp cs).or (Pattern.stampBy Pattern.isoStamp cs)

/-- The typed value that a text without white space around it is written as, if any. -/
def readTyped (cs : List Char) : Option Value :=
  ((Number.readInt64 cs).map Value.int).or <|
    ((readNumber cs).map Value.float).or <|
      ((readFlag cs).map Value.bool).or <|
        ((Pattern.dateBy Pattern.isoDay cs).map Value.date).or <|
          ((readStamp cs).map Value.timestamp).or
            ((Pattern.timeBy Pattern.clock cs).map Value.time)

/-- The value of a field; a text that looks like no other type is kept as it is. -/
def fieldValue (s : String) : Value :=
  let cs := trim s.toList
  if cs.isEmpty then .text s else (readTyped cs).getD (.text s)

/-! ## Splitting text -/

/-- A field, and whether it was in quotes. -/
structure Field where
  text : List Char
  isQuoted : Bool := false

/-- Where the reader is. -/
inductive Place
  /-- Outside quotes. -/
  | plain
  | inQuotes
  /-- After a quote inside quotes: it closes them unless another follows. -/
  | afterQuote
  deriving DecidableEq

/-- What has been read: whole records, the fields of the record in progress and the
characters of the field in progress, each in reverse. -/
structure Progress where
  records : List (List Field) := []
  fields : List Field := []
  chars : List Char := []
  isQuoted : Bool := false
  place : Place := .plain

namespace Progress

/-- The field in progress. -/
def field (p : Progress) : Field := ⟨p.chars.reverse, p.isQuoted⟩

/-- Nothing of the record in progress has been read. -/
def atStart (p : Progress) : Bool := p.fields.isEmpty && p.chars.isEmpty && !p.isQuoted

/-- Ends the field in progress. -/
def endField (p : Progress) : Progress := { records := p.records, fields := p.field :: p.fields }

/-- Ends the record in progress. -/
def endRecord (p : Progress) : Progress :=
  { records := (p.field :: p.fields).reverse :: p.records }

/-- Takes a character outside quotes. -/
def takePlain (p : Progress) (c : Char) : Progress :=
  if c = ',' then p.endField
  else if c = '\n' then p.endRecord
  else if c = '"' && p.chars.isEmpty then { p with place := .inQuotes, isQuoted := true }
  else { p with chars := c :: p.chars, place := .plain }

/-- Takes a character. -/
def take (p : Progress) (c : Char) : Progress :=
  match p.place with
  | .plain => p.takePlain c
  | .inQuotes =>
    if c = '"' then { p with place := .afterQuote } else { p with chars := c :: p.chars }
  | .afterQuote =>
    if c = '"' then { p with chars := c :: p.chars, place := .inQuotes }
    else { p with place := .plain }.takePlain c

end Progress

/-- The text with each line end written as a line feed. -/
def unifyLineEnds : List Char → List Char
  | '\r' :: '\n' :: cs => '\n' :: unifyLineEnds cs
  | c :: cs => c :: unifyLineEnds cs
  | [] => []

/-- The records of a text. A line end at the end of the text begins no record. -/
def records (cs : List Char) : List (List Field) :=
  let p := (unifyLineEnds cs).foldl Progress.take {}
  (if p.atStart then p else p.endRecord).records.reverse

/-- The value of a field as it was split off; an empty one without quotes is null. -/
def Field.value (f : Field) : Value :=
  if f.text.isEmpty && !f.isQuoted then .null else fieldValue (String.ofList f.text)

/-- The record of an empty line. -/
def isBlankRecord (fields : List Field) : Bool :=
  match fields with
  | [f] => f.text.isEmpty && !f.isQuoted
  | _ => false

/-- The length of the longest record. -/
def widest (records : List (List Field)) : Nat :=
  records.foldl (fun w fields => max w fields.length) 0

/-- The grid of a text. Short records are filled up with nulls, and empty lines do not count
where records have several fields. -/
def grid (cs : List Char) : List (List Value) :=
  let all := records cs
  let width := widest all
  let kept := if width ≤ 1 then all else all.filter fun fields => !isBlankRecord fields
  kept.map fun fields =>
    fields.map Field.value ++ List.replicate (width - fields.length) .null

end GridQuery.Delimited
