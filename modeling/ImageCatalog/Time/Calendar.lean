/-!
# The proleptic Gregorian calendar

Dates as year, month and day, counted as days from the Unix epoch
(1970-01-01 is day 0) and back, with leap years every fourth year except
centuries not divisible by 400.
-/

namespace ImageCatalog.Time

/-- Whether a year has 366 days. -/
def isLeap (y : Int) : Bool := y % 4 == 0 && (y % 100 != 0 || y % 400 == 0)

/-- The number of days of a month (1 to 12) of a year; 0 for other months. -/
def daysInMonth (y : Int) (m : Nat) : Nat :=
  match m with
  | 1 | 3 | 5 | 7 | 8 | 10 | 12 => 31
  | 4 | 6 | 9 | 11 => 30
  | 2 => if isLeap y then 29 else 28
  | _ => 0

/-- Days from 1970-01-01 to a date (negative before it). -/
def daysFromCivil (y : Int) (m d : Nat) : Int :=
  let y' := if m ≤ 2 then y - 1 else y
  let era := Int.fdiv y' 400
  let yoe := y' - era * 400
  let mp : Int := if m > 2 then m - 3 else m + 9
  let doy := (153 * mp + 2) / 5 + (d : Int) - 1
  let doe := yoe * 365 + yoe / 4 - yoe / 100 + doy
  era * 146097 + doe - 719468

/-- The date of a day counted from 1970-01-01: year, month, day. -/
def civilFromDays (z : Int) : Int × Nat × Nat :=
  let z := z + 719468
  let era := Int.fdiv z 146097
  let doe := z - era * 146097
  let yoe := (doe - doe / 1460 + doe / 36524 - doe / 146096) / 365
  let y := yoe + era * 400
  let doy := doe - (365 * yoe + yoe / 4 - yoe / 100)
  let mp := (5 * doy + 2) / 153
  let d := doy - (153 * mp + 2) / 5 + 1
  let m := if mp < 10 then mp + 3 else mp - 9
  ((if m ≤ 2 then y + 1 else y), m.toNat, d.toNat)

/-- The day of the week of a day counted from the epoch: 0 for Monday to 6
for Sunday. -/
def weekday (days : Int) : Nat := ((days + 3) % 7).toNat

/-- The Monday that starts week 1 of an ISO year: the Monday of the week
that holds the year's first Thursday. -/
def isoWeekOneMonday (y : Int) : Int :=
  let first := daysFromCivil y 1 1
  let wd := weekday first
  if wd > 3 then first - wd + 7 else first - wd

/-- Whether an ISO year has 53 weeks: it starts on a Thursday, or it is a
leap year that starts on a Wednesday. -/
def hasWeek53 (y : Int) : Bool :=
  let wd := weekday (daysFromCivil y 1 1)
  wd == 3 || (wd == 2 && isLeap y)

end ImageCatalog.Time
