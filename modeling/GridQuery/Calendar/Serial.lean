-- Serial numbers: spreadsheets write a moment as a number of days. The count
-- starts at 30 December 1899; below 60 it is one day late, because 1900 is
-- taken for a leap year there.
import GridQuery.Calendar.Timestamp
import GridQuery.Number.Binary64

namespace GridQuery

open GridQuery.Number

/-- The day number of 30 December 1899. -/
def serialEpoch : Int := -25569

/-- The moment of a serial number, to the microsecond; negative serials have none. -/
def ofSerial? (serial : Float) : Option Timestamp := do
  if serial < 0 then none
  let days ← truncated? serial
  let micros ← nearest? (fraction serial * 86400000000)
  Timestamp.after? (serialEpoch + days + (if days < 60 then 1 else 0)) (micros.toNat * 1000)

end GridQuery
