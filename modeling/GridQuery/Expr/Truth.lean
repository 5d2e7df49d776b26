-- Three-valued logic: true, false and unknown.
import GridQuery.Value.Order

namespace GridQuery

/-- A truth value, or `none` for unknown. -/
abbrev Truth := Option Bool

namespace Truth

/-- False if one side is false, true if both are true. -/
def and : Truth → Truth → Truth
  | some false, _ => some false
  | _, some false => some false
  | some true, some true => some true
  | _, _ => none

/-- True if one side is true, false if both are false. -/
def or : Truth → Truth → Truth
  | some true, _ => some true
  | _, some true => some true
  | some false, some false => some false
  | _, _ => none

/-- Unknown stays unknown. -/
def not : Truth → Truth := Option.map (! ·)

/-- A truth value as a value; unknown is null. -/
def toValue : Truth → Value
  | some flag => .bool flag
  | none => .null

end Truth

/-- The truth of a value. Whatever is not a truth value counts as unknown. -/
def Value.truth : Value → Truth
  | .bool flag => some flag
  | _ => none

end GridQuery
