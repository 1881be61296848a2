import ImageCatalog.Config.Value
import ImageCatalog.Time.Calendar

/-!
# TOML lexical rules

The character classes of TOML and the shapes of its scalar values, shared by
the strict reader and the layout-keeping document: blanks, bare key
characters, control characters that strings and comments may not hold,
numbers (decimal with optional fraction and exponent, or hexadecimal,
octal and binary with a `0x`, `0o`, `0b` prefix; single underscores between
digits), and dates, times and date-times.

Each `match…` function looks at a source position and returns where the
shape ends, or `none` when it is not there.

A basic text is written with `\b`, `\t`, `\n`, `\f`, `\r`, `\"`, `\\` and
`\u00XX` for the other control characters (`escapeBasic`).
-/

namespace ImageCatalog.Toml

open ImageCatalog.Config

/-- Source text as characters. -/
abbrev Src := Array Char

/-- The characters of a text with every carriage return and line feed pair
taken as a line feed. -/
def crlfToLf : List Char → List Char
  | '\r' :: '\n' :: rest => '\n' :: crlfToLf rest
  | c :: rest => c :: crlfToLf rest
  | [] => []

/-- The characters of a text with every line end (a carriage return and line
feed pair, or a carriage return alone) taken as a line feed. -/
def lineEndsToLf : List Char → List Char
  | '\r' :: '\n' :: rest => '\n' :: lineEndsToLf rest
  | '\r' :: rest => '\n' :: lineEndsToLf rest
  | c :: rest => c :: lineEndsToLf rest
  | [] => []

/-- A blank within a line. -/
def isBlank (c : Char) : Bool := c == ' ' || c == '\t'

/-- A blank or a line end. -/
def isBlankOrNewline (c : Char) : Bool := isBlank c || c == '\n'

/-- A character of a bare key. -/
def isBareKeyChar (c : Char) : Bool := c.isAlphanum || c == '-' || c == '_'

/-- A control character. -/
def isControl (c : Char) : Bool := c.toNat < 32 || c.toNat == 127

/-- A character that a one-line string or a comment may not hold. -/
def illegalInLine (c : Char) : Bool := isControl c && c != '\t'

/-- A character that a multi-line string may not hold. -/
def illegalInLines (c : Char) : Bool := isControl c && c != '\t' && c != '\n'

/-- A hexadecimal digit. -/
def isHexDigit (c : Char) : Bool := c.isDigit || ('a' ≤ c && c ≤ 'f') || ('A' ≤ c && c ≤ 'F')

/-- The characters from `a` up to `b`. -/
def slice (s : Src) (a b : Nat) : String := String.ofList (s.extract a b).toList

/-- Whether the source has `pat` at `pos`. -/
def startsAt (s : Src) (pos : Nat) (pat : String) : Bool :=
  pat.toList.zipIdx.all fun (c, i) => s[pos + i]? == some c

/-- Whether the character at `pos` passes `p`. -/
def charIs (s : Src) (pos : Nat) (p : Char → Bool) : Bool :=
  match s[pos]? with
  | some c => p c
  | none => false

/-- The first position at or after `pos` whose character fails `p`. -/
def skipWhile (s : Src) (p : Char → Bool) (pos : Nat) : Nat :=
  if h : pos < s.size then
    if p s[pos] then skipWhile s p (pos + 1) else pos
  else pos
termination_by s.size - pos

/-- The first position at or after `pos` where `pat` starts. -/
def indexFrom (s : Src) (pat : String) (pos : Nat) : Option Nat :=
  if pos < s.size ∧ pos + pat.length ≤ s.size then
    if startsAt s pos pat then some pos else indexFrom s pat (pos + 1)
  else none
termination_by s.size - pos

/-- The end of a run of digits of a class starting at `pos`, with single
underscores between digits. -/
def digitRunFrom (s : Src) (isD : Char → Bool) (pos : Nat) : Nat :=
  if h : pos < s.size then
    if isD s[pos] then digitRunFrom s isD (pos + 1)
    else if s[pos] == '_' && charIs s (pos + 1) isD then digitRunFrom s isD (pos + 2)
    else pos
  else pos
termination_by s.size - pos

/-- A run of digits of a class that starts with a digit at `pos`. -/
def digitRun (s : Src) (isD : Char → Bool) (pos : Nat) : Option Nat :=
  if charIs s pos isD then some (digitRunFrom s isD (pos + 1)) else none

/-- A number at `pos`: its end, and whether it has a fraction or exponent. -/
def matchNumber (s : Src) (pos : Nat) : Option (Nat × Bool) :=
  let prefixed : Option Nat :=
    if s[pos]? == some '0' then
      match s[pos + 1]? with
      | some 'x' => digitRun s isHexDigit (pos + 2)
      | some 'b' => digitRun s (fun c => c == '0' || c == '1') (pos + 2)
      | some 'o' => digitRun s (fun c => '0' ≤ c && c ≤ '7') (pos + 2)
      | _ => none
    else none
  match prefixed with
  | some e => some (e, false)
  | none =>
    let p := if charIs s pos (fun c => c == '+' || c == '-') then pos + 1 else pos
    let intEnd : Option Nat :=
      if s[p]? == some '0' then some (p + 1)
      else if charIs s p (fun c => '1' ≤ c && c ≤ '9') then some (digitRunFrom s Char.isDigit (p + 1))
      else none
    match intEnd with
    | none => none
    | some ie =>
      let fracEnd := if s[ie]? == some '.' && charIs s (ie + 1) Char.isDigit then
          digitRunFrom s Char.isDigit (ie + 2) else ie
      let expEnd :=
        if charIs s fracEnd (fun c => c == 'e' || c == 'E') then
          let q := if charIs s (fracEnd + 1) (fun c => c == '+' || c == '-') then fracEnd + 2 else fracEnd + 1
          (digitRun s Char.isDigit q).getD fracEnd
        else fracEnd
      some (expEnd, expEnd > ie)

/-- The value of a digit string in a base. -/
def digitsValue (base : Nat) (ds : List Char) : Nat :=
  ds.foldl (fun n c =>
    let d := if c.isDigit then c.toNat - 48 else if c ≤ 'F' then c.toNat - 55 else c.toNat - 87
    n * base + d) 0

/-- The integer an integer literal denotes. -/
def integerValue (text : String) : Int :=
  let cs := text.toList.filter (· != '_')
  match cs with
  | '0' :: 'x' :: ds => digitsValue 16 ds
  | '0' :: 'o' :: ds => digitsValue 8 ds
  | '0' :: 'b' :: ds => digitsValue 2 ds
  | '-' :: ds => -(digitsValue 10 ds : Int)
  | '+' :: ds => digitsValue 10 ds
  | ds => digitsValue 10 ds

/-- Where a positive decimal `digits · 10 ^ shift` lies against the range of
double floats: `.lt` when it rounds to zero (it is at most half the
smallest positive double), `.gt` when it rounds to infinity (it is at least
halfway from the largest double to `2 ^ 1024`), `.eq` between. -/
def floatRange (digits : Nat) (count : Nat) (shift : Int) : Ordering :=
  let top := count + shift
  if top < -330 then .lt
  else if top > 310 then .gt
  else if shift ≥ 0 then
    if digits * Nat.pow 10 shift.toNat ≥ Nat.pow 2 1024 - Nat.pow 2 970 then .gt else .eq
  else
    let den := Nat.pow 10 shift.natAbs
    if digits * Nat.pow 2 1075 ≤ den then .lt
    else if digits ≥ (Nat.pow 2 1024 - Nat.pow 2 970) * den then .gt
    else .eq

/-- The decimal a float literal denotes, as a mantissa and a scale of at
least one, so that it is written with a fraction. A value beyond the range
of doubles is infinite, one that rounds to zero is zero. -/
def decimalValue (text : String) : Value :=
  let cs := text.toList.filter (· != '_')
  let (neg, cs) := match cs with
    | '-' :: r => (true, r)
    | '+' :: r => (false, r)
    | r => (false, r)
  let mantissaPart := cs.takeWhile (fun c => c != 'e' && c != 'E')
  let expPart := (cs.dropWhile (fun c => c != 'e' && c != 'E')).drop 1
  let intDigits := mantissaPart.takeWhile (· != '.')
  let fracDigits := (mantissaPart.dropWhile (· != '.')).drop 1
  let exp : Int := match expPart with
    | '-' :: ds => -(digitsValue 10 ds : Int)
    | '+' :: ds => digitsValue 10 ds
    | ds => digitsValue 10 ds
  let significant := (intDigits ++ fracDigits).dropWhile (· == '0')
  let digits := digitsValue 10 significant
  let shift : Int := exp - fracDigits.length
  let sign : Int := if neg then -1 else 1
  if digits == 0 then .decimal 0 1
  else match floatRange digits significant.length shift with
    | .lt => .decimal 0 1
    | .gt => .infinite neg
    | .eq =>
      if shift ≥ 0 then .decimal (sign * (digits * Nat.pow 10 (shift.toNat + 1) : Nat)) 1
      else .decimal (sign * digits) shift.natAbs

/-- A clock time: hour, minute, second and microsecond. -/
structure ClockTime where
  hour : Nat
  minute : Nat
  second : Nat
  micros : Nat

/-- Two digits at `pos`, if the first passes `first` and the second `second`. -/
def twoDigits (s : Src) (pos : Nat) (first second : Char → Bool) : Option Nat :=
  match s[pos]?, s[pos + 1]? with
  | some a, some b => if first a && second b then some ((a.toNat - 48) * 10 + (b.toNat - 48)) else none
  | _, _ => none

/-- An hour `00` to `23` at `pos`. -/
def matchHour (s : Src) (pos : Nat) : Option Nat :=
  match twoDigits s pos (fun c => c == '0' || c == '1') Char.isDigit with
  | some h => some h
  | none => twoDigits s pos (· == '2') (fun c => '0' ≤ c && c ≤ '3')

/-- A minute or second `00` to `59` at `pos`. -/
def matchSixty (s : Src) (pos : Nat) : Option Nat :=
  twoDigits s pos (fun c => '0' ≤ c && c ≤ '5') Char.isDigit

/-- A time `HH:MM:SS[.fraction]` at `pos`, and its end; the fraction keeps
six digits. -/
def matchTime (s : Src) (pos : Nat) : Option (Nat × ClockTime) := do
  let h ← matchHour s pos
  guard (s[pos + 2]? == some ':')
  let m ← matchSixty s (pos + 3)
  guard (s[pos + 5]? == some ':')
  let sec ← matchSixty s (pos + 6)
  let p := pos + 8
  if s[p]? == some '.' && charIs s (p + 1) Char.isDigit then
    let e := skipWhile s Char.isDigit (p + 1)
    let digits := (s.extract (p + 1) (min e (p + 7))).toList
    let micros := digitsValue 10 (digits ++ List.replicate (6 - digits.length) '0')
    some (e, ⟨h, m, sec, micros⟩)
  else some (p, ⟨h, m, sec, 0⟩)

/-- A time zone offset: `Z`, or a sign with hours and minutes. -/
inductive Offset where
  | utc
  | shift (negative : Bool) (hours minutes : Nat)

/-- A date, with a time and offset when given. -/
structure Moment where
  year : Nat
  month : Nat
  day : Nat
  time : Option (ClockTime × Option Offset)

/-- The offset at `pos`, if any, and its end. -/
def matchOffset (s : Src) (pos : Nat) : Option (Nat × Offset) :=
  if charIs s pos (fun c => c == 'Z' || c == 'z') then some (pos + 1, .utc)
  else if charIs s pos (fun c => c == '+' || c == '-') then do
    let h ← matchHour s (pos + 1)
    guard (s[pos + 3]? == some ':')
    let m ← matchSixty s (pos + 4)
    some (pos + 6, .shift (s[pos]? == some '-') h m)
  else none

/-- A date or date-time at `pos`, and its end. -/
def matchMoment (s : Src) (pos : Nat) : Option (Nat × Moment) := do
  guard ((List.range 4).all fun i => charIs s (pos + i) Char.isDigit)
  guard (s[pos + 4]? == some '-')
  let month ← match twoDigits s (pos + 5) (· == '0') (fun c => '1' ≤ c && c ≤ '9') with
    | some m => some m
    | none => twoDigits s (pos + 5) (· == '1') (fun c => '0' ≤ c && c ≤ '2')
  guard (s[pos + 7]? == some '-')
  let day ← match twoDigits s (pos + 8) (· == '0') (fun c => '1' ≤ c && c ≤ '9') with
    | some d => some d
    | none =>
      match twoDigits s (pos + 8) (fun c => c == '1' || c == '2') Char.isDigit with
      | some d => some d
      | none => twoDigits s (pos + 8) (· == '3') (fun c => c == '0' || c == '1')
  let year := digitsValue 10 (s.extract pos (pos + 4)).toList
  let dateEnd := pos + 10
  let timed : Option (Nat × ClockTime × Option Offset) :=
    if charIs s dateEnd (fun c => c == 'T' || c == 't' || c == ' ') then
      match matchTime s (dateEnd + 1) with
      | some (te, t) =>
        match matchOffset s te with
        | some (oe, o) => some (oe, t, some o)
        | none => some (te, t, none)
      | none => none
    else none
  match timed with
  | some (e, t, o) => some (e, ⟨year, month, day, some (t, o)⟩)
  | none => some (dateEnd, ⟨year, month, day, none⟩)

/-- Whether a date exists. -/
def Moment.valid (m : Moment) : Bool :=
  m.year ≥ 1 && m.day ≤ Time.daysInMonth m.year m.month

/-- A number written with at least `width` digits. -/
def padded (width n : Nat) : String :=
  let t := toString n
  String.ofList (List.replicate (width - t.length) '0') ++ t

/-- The written form of a clock time: `HH:MM:SS`, with microseconds when
there are any. -/
def ClockTime.render (t : ClockTime) : String :=
  padded 2 t.hour ++ ":" ++ padded 2 t.minute ++ ":" ++ padded 2 t.second ++
    (if t.micros == 0 then "" else "." ++ padded 6 t.micros)

/-- The written form of a date or date-time. -/
def Moment.render (m : Moment) : String :=
  let date := padded 4 m.year ++ "-" ++ padded 2 m.month ++ "-" ++ padded 2 m.day
  match m.time with
  | none => date
  | some (t, o) =>
    let zone := match o with
      | none => ""
      | some .utc => "+00:00"
      | some (.shift neg h mi) =>
        (if neg && (h != 0 || mi != 0) then "-" else "+") ++ padded 2 h ++ ":" ++ padded 2 mi
    date ++ " " ++ t.render ++ zone

/-! ## Writing basic texts -/

/-- A character inside a basic text. -/
def escapeChar (c : Char) : String :=
  match c with
  | '\x08' => "\\b"
  | '\t' => "\\t"
  | '\n' => "\\n"
  | '\x0c' => "\\f"
  | '\r' => "\\r"
  | '"' => "\\\""
  | '\\' => "\\\\"
  | c => if c.toNat < 0x20 || c.toNat == 0x7f then "\\u" ++ Text.hexDigits 4 c.toNat else String.singleton c

/-- The inside of a basic text. -/
def escapeBasic (s : String) : String := s.toList.foldl (fun acc c => acc ++ escapeChar c) ""

end ImageCatalog.Toml
