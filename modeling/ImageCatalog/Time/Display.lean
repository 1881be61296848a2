import ImageCatalog.Time.Calendar
import ImageCatalog.Fault

/-!
# Showing a time

A time in epoch milliseconds shown to the minute in UTC:
`YYYY-MM-DD HH:MM UTC`, the year without padding below 1000, and `-` for the
unknown time 0.

`showMinute?` also keeps to the limits of the calendar: years 1 to 9999,
a year count that fits 32 bits, and seconds that fit 64 bits.
-/

namespace ImageCatalog.Time

/-- A number with at least two digits. -/
def twoDigits (n : Nat) : String := if n < 10 then "0" ++ toString n else toString n

/-- The UTC minute of an epoch time in milliseconds. -/
def showMinute (epochMs : Int) : String :=
  if epochMs == 0 then "-"
  else
    let secs := Int.fdiv epochMs 1000
    let days := Int.fdiv secs 86400
    let inDay := (secs - days * 86400).toNat
    let (y, m, d) := civilFromDays days
    toString y ++ "-" ++ twoDigits m ++ "-" ++ twoDigits d ++ " " ++
      twoDigits (inDay / 3600) ++ ":" ++ twoDigits (inDay % 3600 / 60) ++ " UTC"

/-- The UTC minute of an epoch time in milliseconds, refusing times beyond
the calendar: seconds beyond 64 bits or a quotient beyond floating point
are too large, a year whose distance from 1900 does not fit 32 bits is
beyond the system, and a year outside 1 to 9999 is out of range. -/
def showMinute? (epochMs : Int) : Except Fault String :=
  if epochMs == 0 then pure "-"
  else
    let secs := Int.fdiv epochMs 1000
    if secs.natAbs ≥ Nat.pow 2 1024 then throw (.tooLarge "integer division result too large for a float")
    else if secs < -Int.pow 2 63 || secs ≥ Int.pow 2 63 then throw (.tooLarge "timestamp out of range for platform time_t")
    else
      let (y, _, _) := civilFromDays (Int.fdiv secs 86400)
      if y - 1900 > 2147483647 || y - 1900 < -2147483648 then
        throw (.systemLimit "[Errno 75] Value too large for defined data type")
      else if y < 1 || y > 9999 then throw (.invalidValue ("year " ++ toString y ++ " is out of range"))
      else pure (showMinute epochMs)

end ImageCatalog.Time
