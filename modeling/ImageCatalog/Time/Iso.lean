import ImageCatalog.Time.Calendar

/-!
# ISO 8601 timestamps

`readStamp` reads a date and an optional time with an optional UTC offset
(a `Stamp`), and `readIsoInstant` gives the instant of a stamp that names a
real date and time, in microseconds from the epoch; a time without offset is
taken as UTC. The accepted forms:

* dates `YYYY-MM-DD`, `YYYYMMDD`, and ISO week dates `YYYY-Www`, `YYYY-Www-D`,
  `YYYYWww`, `YYYYWwwD` (day 1 when missing);
* any one character between date and time;
* times `HH`, `HH:MM`, `HH:MM:SS`, `HHMM`, `HHMMSS`, each optionally
  followed by `.` or `,` and fraction digits (kept to six, the rest cut);
* offsets `Z`, or `+`/`-` followed by a time of the same forms.

The text is read as ASCII: any other character makes it unreadable. Where
the pieces of the text stand is found from the characters at fixed places,
and the pieces are read from those places; a piece may end where the next
begins. The values must then form a real date and time (hours below 24,
minutes and seconds below 60) and the offset must be less than a day. An
offset of whole seconds zero is UTC, whatever its fraction.
-/

namespace ImageCatalog.Time

/-- The characters of the text as an array. -/
abbrev Chars := Array Char

/-- The character at `i`, or NUL past the end. -/
def Chars.at (s : Chars) (i : Nat) : Char := s.getD i (Char.ofNat 0)

/-- The value of `n` ASCII digits at `i`, if all are digits. -/
def digitsAt (s : Chars) (i : Nat) : Nat → Option Nat
  | 0 => some 0
  | n + 1 =>
    let c := s.at i
    if c.isDigit then (digitsAt s (i + 1) n).map (fun v => (c.toNat - '0'.toNat) * Nat.pow 10 n + v)
    else none

/-- The first index from `i` on that does not hold an ASCII digit. -/
def skipDigits (s : Chars) (i : Nat) : Nat → Nat
  | 0 => i
  | fuel + 1 => if (s.at i).isDigit then skipDigits s (i + 1) fuel else i

/-- Where the date ends and the separator stands, or `none` when the text
cannot be a date and time. -/
def separatorIndex (s : Chars) : Option Nat :=
  let len := s.size
  if len == 7 then some 7
  else if s.at 4 == '-' then
    if s.at 5 == 'W' then
      if len < 8 then none
      else if len > 8 && s.at 8 == '-' then
        if len == 9 then none
        else if len > 10 && (s.at 10).isDigit then some 8 else some 10
      else some 8
    else some 10
  else if s.at 4 == 'W' then
    let idx := skipDigits s 7 len
    if idx < 9 then some idx else if idx % 2 == 0 then some 7 else some 8
  else some 8

/-- The date of an ISO week date, if the week and day exist in that year. -/
def weekDate (year : Int) (week day : Nat) : Option (Int × Nat × Nat) :=
  if (week == 0 || week ≥ 53) && !(week == 53 && hasWeek53 year) then none
  else if day == 0 || day ≥ 8 then none
  else some (civilFromDays (isoWeekOneMonday year + ((week : Int) - 1) * 7 + day - 1))

/-- Reads the date in the first `len` characters: year, month and day, not
yet checked to exist (week dates excepted, which are checked). -/
def readDate (s : Chars) (len : Nat) : Option (Int × Nat × Nat) := do
  if len < 7 then none
  let year ← digitsAt s 0 4
  let dashed := s.at 4 == '-'
  let i := if dashed then 5 else 4
  if s.at i == 'W' then
    let week ← digitsAt s (i + 1) 2
    let j := i + 3
    if j < len then
      if dashed && s.at j != '-' then none
      let k := if dashed then j + 1 else j
      let day ← digitsAt s k 1
      weekDate year week day
    else weekDate year week 1
  else
    let month ← digitsAt s i 2
    let j := i + 2
    if dashed && s.at j != '-' then none
    let k := if dashed then j + 1 else j
    let day ← digitsAt s k 2
    some (year, month, day)

/-- A clock time read from text: hours, minutes, seconds, microseconds, and
whether characters follow it in the text (the reader's end-of-text flag). -/
structure ClockRead where
  hour : Nat
  minute : Nat
  second : Nat
  micro : Nat
  more : Bool

/-- Reads the fraction at `p` of a time that ends at `stop`: up to six
digits, scaled to microseconds, further digits skipped. -/
def readFraction (s : Chars) (p stop : Nat) (h m sec : Nat) : Option ClockRead := do
  let count := min 6 (stop - p)
  let v ← digitsAt s p count
  let micro := v * Nat.pow 10 (6 - count)
  let q := skipDigits s (p + count) s.size
  some ⟨h, m, sec, micro, s.at q != Char.ofNat 0⟩

/-- Reads `HH[:MM[:SS]][.fff]` or its forms without colons, from `p` to
`stop`; `vals` holds the fields read so far and `sep` whether the first field
was followed by a colon. -/
def readClockFields (s : Chars) (stop : Nat) : Nat → List Nat → Bool → Nat → Option ClockRead
  | 0, _, _, _ => none
  | fuel + 1, vals, sep, p => do
    let v ← digitsAt s p 2
    let vals := vals ++ [v]
    let c := s.at (p + 2)
    let q := p + 3
    let sep := if vals.length == 1 then c == ':' else sep
    let field (i : Nat) : Nat := vals.getD i 0
    if q ≥ stop then
      some ⟨field 0, field 1, field 2, 0, c != Char.ofNat 0⟩
    else
      let next := if sep && c == ':' then some q
        else if c == '.' || c == ',' then none
        else if !sep then some (q - 1)
        else some 0
      match next with
      | none => readFraction s q stop (field 0) (field 1) (field 2)
      | some n =>
        if sep && c != ':' && !(c == '.' || c == ',') then none
        else if vals.length == 3 then readFraction s n stop (field 0) (field 1) (field 2)
        else readClockFields s stop fuel vals sep n

/-- Reads a time from `p` up to `stop`. -/
def readClock (s : Chars) (p stop : Nat) : Option ClockRead :=
  readClockFields s stop 3 [] true p

/-- A UTC offset as the text writes it: a sign (`1` or `-1`) and a size. -/
structure OffsetRead where
  sign : Int
  size : ClockRead

/-- The offset `Z`. -/
def OffsetRead.utc : OffsetRead := ⟨1, ⟨0, 0, 0, 0, false⟩⟩

/-- The offset in microseconds. An offset of zero whole seconds is UTC,
whatever its fraction. -/
def OffsetRead.micros (o : OffsetRead) : Int :=
  let secs : Int := o.sign * ((o.size.hour * 3600 + o.size.minute * 60 + o.size.second : Nat) : Int)
  if secs == 0 then 0 else secs * 1000000 + o.sign * o.size.micro

/-- Reads the time part of `len` characters at `start`: the clock and the
offset, if any. -/
def readTime (s : Chars) (start len : Nat) : Option (ClockRead × Option OffsetRead) := do
  if len == 0 then none
  let stop := start + len
  let tz := ((List.range len).map (start + ·)).find? (fun i => s.at i == 'Z' || s.at i == '+' || s.at i == '-')
  let tzPos := tz.getD stop
  let clock ← readClock s start tzPos
  if tzPos == stop then
    if clock.more then none else some (clock, none)
  else if s.at tzPos == 'Z' then
    if s.at (tzPos + 1) != Char.ofNat 0 then none else some (clock, some .utc)
  else
    let sign : Int := if s.at tzPos == '-' then -1 else 1
    let off ← readClock s (tzPos + 1) stop
    if off.more then none
    some (clock, some ⟨sign, off⟩)

/-- The parts of a timestamp as its text gives them, not yet checked to form
a real date and time: the date, the clock time and the UTC offset, if any. -/
structure Stamp where
  year : Int
  month : Nat
  day : Nat
  clock : ClockRead
  offset : Option OffsetRead

/-- Reads the parts of a timestamp. -/
def readStamp (text : String) : Option Stamp := do
  let cs := text.toList
  if cs.length < 7 || cs.any (fun c => c.toNat ≥ 0x80) then none
  let s := cs.toArray
  let sep ← separatorIndex s
  if sep > s.size then none
  let (year, month, day) ← readDate s sep
  let (clock, offset) ←
    if s.size > sep then readTime s (sep + 1) (s.size - sep - 1)
    else some (⟨0, 0, 0, 0, false⟩, none)
  some ⟨year, month, day, clock, offset⟩

/-- The offset of a stamp in microseconds; a time without offset is UTC. -/
def Stamp.offsetMicros (st : Stamp) : Int := (st.offset.map OffsetRead.micros).getD 0

/-- Whether a stamp names a real date of the years 1 to 9999 and a real time
(hours below 24, minutes and seconds below 60), with an offset of less than a
day. -/
def Stamp.inRange (st : Stamp) : Bool :=
  1 ≤ st.year && st.year ≤ 9999 && 1 ≤ st.month && st.month ≤ 12 && 1 ≤ st.day &&
    st.day ≤ daysInMonth st.year st.month && st.clock.hour ≤ 23 && st.clock.minute ≤ 59 &&
    st.clock.second ≤ 59 && -86400000000 < st.offsetMicros && st.offsetMicros < 86400000000

/-- The instant of a stamp, in microseconds from the epoch. -/
def Stamp.instant (st : Stamp) : Int :=
  (daysFromCivil st.year st.month st.day * 86400 +
    ((st.clock.hour * 3600 + st.clock.minute * 60 + st.clock.second : Nat) : Int)) * 1000000 +
    st.clock.micro - st.offsetMicros

/-- The instant a timestamp denotes, in microseconds from the epoch. -/
def readIsoInstant (text : String) : Option Int := do
  let st ← readStamp text
  if st.inRange then some st.instant else none

/-- Milliseconds from the epoch of a timestamp, rounded down. -/
def readIsoMillis (text : String) : Option Int :=
  (readIsoInstant text).map (fun us => Int.fdiv us 1000)

end ImageCatalog.Time
