-- Converting values to the declared types of record fields, and the errors
-- of values that do not convert.
import GridQuery.Calendar.Pattern
import GridQuery.Calendar.Serial
import GridQuery.Value.Basic

namespace GridQuery

open GridQuery.Number

/-- A type a field can be declared with. -/
inductive BaseType
  | text
  /-- 64-bit integers. -/
  | bigint
  /-- 32-bit integers. -/
  | integer
  | double
  | bool
  | timestamp
  | date
  | time
  /-- Any value, as it is. -/
  | value
  /-- Any value, as a cell. -/
  | cell
  deriving DecidableEq, Repr

/-- The name of a type in messages. -/
def BaseType.label : BaseType → String
  | .text => "text"
  | .bigint => "bigint"
  | .integer => "integer"
  | .double => "double"
  | .bool => "bool"
  | .timestamp => "timestamp"
  | .date => "date"
  | .time => "time"
  | .value => "value"
  | .cell => "cell"

/-- A declared type: a base type, or a base type or nothing. -/
structure FieldType where
  base : BaseType
  optional : Bool := false
  deriving DecidableEq, Repr

/-- Why a field has no converted value. -/
inductive ConversionError
  | incompatible (value : String) (kind : Kind) (target : BaseType)
  | outOfRange (value : String) (target : BaseType)
  /-- A transformation of the field failed. -/
  | transform (text : String)
  deriving DecidableEq, Repr

/-- The error in words. -/
def ConversionError.message : ConversionError → String
  | incompatible value kind target =>
    "Cannot convert " ++ kind.label ++ " value '" ++ value ++ "' to " ++ target.label
  | outOfRange value target => "Value '" ++ value ++ "' is out of range for " ++ target.label
  | transform text => "Transformation failed: " ++ text

namespace Value

/-- The value does not convert to the type. -/
def incompatible (v : Value) (target : BaseType) : ConversionError :=
  .incompatible v.display v.kind target

/-- The nearest 64-bit integer to a double. A double that rounds to 2^63 counts as in range
and gives the greatest integer; one farther out, or not finite, gives its error. -/
def roundFloat (x : Float) : Except ConversionError Int64 :=
  match nearest? x with
  | none => .error (incompatible (float x) .bigint)
  | some n =>
    if leastInt64 ≤ n ∧ n ≤ greatestInt64 + 1 then .ok (clampInt64 n)
    else .error (.outOfRange (floatText x) .bigint)

/-- Converts to a 64-bit integer. A text is read as an integer or else as a double. -/
def toInt64 (v : Value) : Except ConversionError Int64 :=
  match v with
  | null => .ok 0
  | int n => .ok n
  | bool flag => .ok (if flag then 1 else 0)
  | float x => roundFloat x
  | text s =>
    match readInt64 (Text.trim s.toList) with
    | some n => .ok n
    | none =>
      match readFloat (Text.trim s.toList) with
      | none => .error (v.incompatible .bigint)
      | some x =>
        match roundFloat x with
        | .ok n => .ok n
        | .error _ => .error (v.incompatible .bigint)
  | _ => .error (v.incompatible .bigint)

/-- Converts to a 32-bit integer by way of the 64-bit one. -/
def toInt32 (v : Value) : Except ConversionError Int64 :=
  match v.toInt64 with
  | .ok n =>
    if -2147483648 ≤ n.toInt ∧ n.toInt < 2147483648 then .ok n
    else .error (.outOfRange v.display .integer)
  | .error (.incompatible value kind _) => .error (.incompatible value kind .integer)
  | .error e => .error e

/-- Converts to a double. -/
def toFloat (v : Value) : Except ConversionError Float :=
  match v with
  | null => .ok 0
  | int n => .ok (Float.ofInt n.toInt)
  | float x => .ok x
  | text s =>
    match readFloat (Text.trim s.toList) with
    | some x => .ok x
    | none => .error (v.incompatible .double)
  | _ => .error (v.incompatible .double)

/-- The truth value that a text names, in any ASCII case and with white space around it. -/
def readBool (s : String) : Option Bool :=
  let word := Text.asciiLower (Text.trimmed s)
  if word = "true" ∨ word = "1" ∨ word = "yes" then some true
  else if word = "false" ∨ word = "0" ∨ word = "no" then some false
  else none

/-- Converts to a truth value. -/
def toBool (v : Value) : Except ConversionError Bool :=
  match v with
  | null => .ok false
  | bool flag => .ok flag
  | int n =>
    if n = 0 then .ok false else if n = 1 then .ok true else .error (v.incompatible .bool)
  | text s =>
    match readBool s with
    | some flag => .ok flag
    | none => .error (v.incompatible .bool)
  | _ => .error (v.incompatible .bool)

/-- The moment a value stands for. Numbers are serials. -/
def moment? : Value → Option Timestamp
  | null => some (Timestamp.midnight Date.epoch)
  | timestamp t => some t
  | date d => some (Timestamp.midnight d)
  | int n => ofSerial? (Float.ofInt n.toInt)
  | float x => ofSerial? x
  | text s => Pattern.anyStamp s.toList
  | _ => none

/-- The day a value stands for. -/
def day? : Value → Option Date
  | null => some Date.epoch
  | date d => some d
  | timestamp t => some t.date
  | int n => (ofSerial? (Float.ofInt n.toInt)).map (·.date)
  | float x => (ofSerial? x).map (·.date)
  | text s => (Pattern.anyDate s.toList).or ((Pattern.anyStamp s.toList).map (·.date))
  | _ => none

/-- The time of day a value stands for; a double is the fraction of a day. -/
def clock? : Value → Option Time
  | null => some Time.midnight
  | time t => some t
  | timestamp t => some t.time
  | float x => (ofSerial? (fraction x)).map (·.time)
  | text s => (Pattern.anyTime s.toList).or ((Pattern.anyStamp s.toList).map (·.time))
  | _ => none

/-- Converts to a base type. -/
def convertTo (v : Value) (target : BaseType) : Except ConversionError Value :=
  match target with
  | .text => .ok (text v.display)
  | .bigint => v.toInt64.map int
  | .integer => v.toInt32.map int
  | .double => v.toFloat.map float
  | .bool => v.toBool.map bool
  | .timestamp =>
    match v.moment? with
    | some t => .ok (timestamp t)
    | none => .error (v.incompatible .timestamp)
  | .date =>
    match v.day? with
    | some d => .ok (date d)
    | none => .error (v.incompatible .date)
  | .time =>
    match v.clock? with
    | some t => .ok (time t)
    | none => .error (v.incompatible .time)
  | .value => .ok v
  | .cell => .ok v

/-- Converts to a declared type. Null stays null where nothing is allowed. -/
def convert (v : Value) (target : FieldType) : Except ConversionError Value :=
  if target.optional && v.isNull then .ok null else v.convertTo target.base

end Value

/-- The value a field has before anything is assigned to it. -/
def FieldType.default (t : FieldType) : Value :=
  if t.optional then .null
  else
    match t.base with
    | .text => .text ""
    | .bigint => .int 0
    | .integer => .int 0
    | .double => .float 0
    | .bool => .bool false
    | .timestamp => .timestamp (Timestamp.midnight Date.epoch)
    | .date => .date Date.epoch
    | .time => .time Time.midnight
    | .value => .null
    | .cell => .null

end GridQuery
