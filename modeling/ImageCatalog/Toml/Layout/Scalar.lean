import ImageCatalog.Toml.Layout.Scan
import ImageCatalog.Text.Integer
import ImageCatalog.Time.Calendar

/-!
# Scalars of an editable document

Texts, numbers, dates and times as the layout-keeping reader takes them in.

* A text is basic (`"…"`, with escapes) or literal (`'…'`), on one line or,
  between tripled quotes, over several. Control characters other than tab
  (and, in multi-line texts, line ends) are refused; a backslash at the end
  of a line in a multi-line basic text drops the line end and the blanks
  after it; one or two quotes before the closing three belong to the text.
* A number is checked after the fact on its whole written form: a sign, no
  leading zero, underscores only between digits, a `0x`, `0o` or `0b` prefix
  without a sign, no point at the end of the digits before an exponent, and
  then an integer or a float in the usual notation (`inf` and `nan` too).
* Dates, times and date-times follow RFC 3339; a date-time may separate the
  date and the time by a blank.
-/

namespace ImageCatalog.Toml.Layout

open ImageCatalog.Toml

/-! ## Texts -/

/-- Moves on `n` times; false as soon as a move runs past the end. -/
def advanceTimes : Nat → Scan Bool
  | 0 => pure true
  | n + 1 => do
    if ← advance then advanceTimes n else pure false

/-- The value of a hexadecimal numeral: blanks around, a sign, an optional
`0x` prefix (an underscore may follow it) and digits with single
underscores between them. -/
def hexNumber? (t : String) : Option Int :=
  let cs := (Text.trim t).toList
  let (neg, cs) := match cs with
    | '-' :: r => (true, r)
    | '+' :: r => (false, r)
    | r => (false, r)
  let cs := match cs with
    | '0' :: x :: r => if x == 'x' || x == 'X' then (match r with | '_' :: r' => r' | r' => r') else cs
    | _ => cs
  let rec digits : List Char → Bool → Bool
    | [], afterDigit => afterDigit
    | '_' :: r, afterDigit => afterDigit && (match r with | d :: _ => isHexDigit d | [] => false) && digits r false
    | c :: r, _ => isHexDigit c && digits r true
  if digits cs false then
    let v : Int := digitsValue 16 (cs.filter (· != '_'))
    some (if neg then -v else v)
  else none

/-- The character of a `\u` (four digits) or `\U` (eight digits) escape at
the cursor, which stands on the `u`; the cursor does not move. -/
def peekUnicode (long : Bool) : Scan (Option Char) := lookAhead do
  let _ ← advance
  setMark
  let n := if long then 8 else 4
  if !(← advanceTimes n) then pure none
  else
    let cs := (← taken).toList
    if (cs.headD ' ').toLower == 'd' && !"01234567".toList.contains (cs.getD 1 ' ') then pure none
    else
      match hexNumber? (String.ofList cs) with
      | some v => if 0 ≤ v && v ≤ 0x10FFFF then pure (some (Char.ofNat v.toNat)) else pure none
      | none => pure none

/-- The character a one-letter escape stands for. -/
def escapeOf : Char → Option String
  | 'b' => some "\x08"
  | 't' => some "\t"
  | 'n' => some "\n"
  | 'f' => some "\x0c"
  | 'r' => some "\r"
  | '"' => some "\""
  | '\\' => some "\\"
  | _ => none

/-- The blanks and line ends at the cursor, taken in; the end of the
document may not come first. -/
def takeWs : Nat → String → Scan String
  | 0, acc => pure acc
  | fuel + 1, acc => do
    let c ← current
    if isWs c then
      advanceOrEnd
      takeWs fuel (acc.push c)
    else pure acc

/-- The text an escape stands for; the cursor stands after the backslash. -/
def escapedChar (multiline : Bool) : Scan String := do
  let c ← current
  let n := (← read).size + 1
  if multiline && isWs c then
    let ws ← takeWs n ""
    if !ws.toList.contains '\n' then fail (.invalidCharInString (← current))
    pure ""
  else
    match escapeOf c with
    | some e =>
      advanceOrEnd
      pure e
    | none =>
      if c == 'u' || c == 'U' then
        match ← peekUnicode (c == 'U') with
        | some ch =>
          let _ ← advanceTimes ((if c == 'U' then 8 else 4) + 1)
          pure (String.singleton ch)
        | none => fail .invalidUnicode
      else fail (.invalidCharInString c)

/-- Whether a character may not stand unescaped in a text. -/
def forbiddenInText (multiline : Bool) (c : Char) : Bool :=
  let code := c.toNat
  code == 0x7f || (code ≤ 0x1f && code != 9 && (!multiline || (code != 10 && code != 13)))

/-- The rest of a text after its opening quotes, read into `value`. -/
def textBody (unit : Char) (basic multiline : Bool) : Nat → Bool → String → Scan String
  | 0, _, _ => fail .unexpectedEnd
  | fuel + 1, escaped, value => do
    let c ← current
    if !escaped && forbiddenInText multiline c then fail (.controlChar c.toNat "strings")
    else if !escaped && c == unit then
      if multiline then
        let s ← read
        let start := (← get).idx
        let stop := skipWhile s (· == unit) start
        modify fun cur => { cur with idx := stop }
        let close := stop - start
        let quotes := String.ofList (List.replicate close unit)
        if close < 3 then textBody unit basic multiline fuel false (value ++ quotes)
        else if close == 3 then pure value
        else if close ≥ 6 then fail (.invalidCharInString (← current))
        else pure (value ++ String.ofList (List.replicate (close - 3) unit))
      else
        let _ ← advance
        pure value
    else if basic && escaped then
      let e ← escapedChar multiline
      textBody unit basic multiline fuel false (value ++ e)
    else if basic && c == '\\' then
      advanceOrEnd
      textBody unit basic multiline fuel true value
    else
      advanceOrEnd
      textBody unit basic multiline fuel false (value.push c)

/-- A text whose opening quote is at the cursor: its value and whether it
spans lines. -/
def readText (unit : Char) (basic : Bool) : Scan (String × Bool) := do
  advanceOrEnd
  let mut multiline := false
  if (← current) == unit then
    let more ← advance
    if !more then return ("", false)
    if (← current) != unit then return ("", false)
    advanceOrEnd
    multiline := true
  setMark
  if multiline && (← current) == '\n' then advanceOrEnd
  let v ← textBody unit basic multiline ((← read).size + 2) false ""
  pure (v, multiline)

/-! ## Numbers -/

/-- The characters without the underscores that stand between two digits of
a class. -/
def dropJoiners (isD : Char → Bool) : List Char → List Char
  | a :: '_' :: b :: rest =>
    if isD a && isD b then a :: dropJoiners isD (b :: rest)
    else a :: dropJoiners isD ('_' :: b :: rest)
  | c :: rest => c :: dropJoiners isD rest
  | [] => []

/-- Whether a text is a float in the usual notation: digits with an optional
fraction, or a fraction alone, then an optional exponent; or `inf`,
`infinity`, `nan`; a sign may lead and blanks may surround it. -/
def isFloatText (t : String) : Bool :=
  let cs := (Text.trim t).toList.map Char.toLower
  let cs := match cs with
    | '+' :: r | '-' :: r => r
    | r => r
  if cs == "inf".toList || cs == "infinity".toList || cs == "nan".toList then true
  else
    let intPart := cs.takeWhile Char.isDigit
    let afterInt := cs.dropWhile Char.isDigit
    let (fracPart, rest) : List Char × List Char := match afterInt with
      | '.' :: r => (r.takeWhile Char.isDigit, r.dropWhile Char.isDigit)
      | r => ([], r)
    if intPart.isEmpty && fracPart.isEmpty then false
    else
      match rest with
      | [] => true
      | 'e' :: r =>
        let r := match r with
          | '+' :: r' | '-' :: r' => r'
          | r' => r'
        !r.isEmpty && r.all Char.isDigit
      | _ => false

/-- Whether a bare value's text is a number. -/
def isNumberText (raw : String) : Bool :=
  let cs := raw.toList
  let (signed, body) := match cs with
    | c :: r => if c == '+' || c == '-' then (true, r) else (false, cs)
    | [] => (false, [])
  let starts (p : String) : Bool := p.toList.isPrefixOf body
  let prefixed := starts "0o" || starts "0x" || starts "0b"
  if body.length > 1 &&
      ((starts "0" && !(starts "0." || prefixed || starts "0e")) || (signed && starts ".")) then false
  else if prefixed && signed then false
  else
    let isD : Char → Bool :=
      if starts "0b" then (fun c => c == '0' || c == '1')
      else if starts "0o" then (fun c => '0' ≤ c && c ≤ '7')
      else if starts "0x" then isHexDigit
      else Char.isDigit
    let clean := (dropJoiners isD body).map Char.toLower
    let signText := if signed then [cs.headD '+'] else []
    if clean.contains '_' then false
    else if clean.getLast? == some '.' ||
        (!"0x".toList.isPrefixOf clean && (clean.takeWhile (· != 'e')).getLast? == some '.') then false
    else if prefixed then
      let digits := clean.drop 2
      !digits.isEmpty && digits.all isD
    else
      (Text.parseInteger? (String.ofList (signText ++ clean))).isSome ||
        isFloatText (String.ofList (signText ++ clean))

/-! ## Dates and times -/

/-- Two ASCII digits and their value. -/
def twoDigitsL : List Char → Option (Nat × List Char)
  | a :: b :: r => if a.isDigit && b.isDigit then some ((a.toNat - 48) * 10 + (b.toNat - 48), r) else none
  | _ => none

/-- A time offset `Z` or `±HH:MM` that ends the text (or nothing at all). -/
def offsetEnds : List Char → Bool
  | [] => true
  | [c] => c == 'Z' || c == 'z'
  | s :: rest =>
    (s == '+' || s == '-' || s == '|') &&
      match twoDigitsL rest with
      | some (h, ':' :: r) =>
        h ≤ 23 && match twoDigitsL r with
          | some (m, []) => m ≤ 59
          | _ => false
      | _ => false

/-- `HH:MM:SS` with any two digits, a fraction, and an offset, to the end. -/
def looseTime (cs : List Char) : Bool :=
  let cs := match cs with
    | c :: r => if c == 'T' || c == 't' || c == ' ' then r else cs
    | [] => []
  match twoDigitsL cs with
  | some (_, ':' :: r) =>
    match twoDigitsL r with
    | some (_, ':' :: r) =>
      match twoDigitsL r with
      | some (_, r) =>
        let r := match r with
          | '.' :: d :: r' => if d.isDigit then r'.dropWhile Char.isDigit else r
          | _ => r
        offsetEnds r
      | none => false
    | _ => false
  | _ => false

/-- A date `Y…-MM-DD` with any two-digit month and day, and the rest. -/
def looseDate (cs : List Char) : Option (List Char) :=
  let year := cs.takeWhile Char.isDigit
  match cs.dropWhile Char.isDigit with
  | '-' :: r =>
    if year.isEmpty then none
    else match twoDigitsL r with
      | some (_, '-' :: r) => (twoDigitsL r).map Prod.snd
      | _ => none
  | _ => none

/-- What a bare value that starts with a digit looks like: a date, a time,
or both. -/
def dateShape (raw : String) : Option (Bool × Bool) :=
  let cs := raw.toList
  match looseDate cs with
  | some [] => some (true, false)
  | some rest => if looseTime rest then some (true, true) else if looseTime cs then some (false, true) else none
  | none => if looseTime cs then some (false, true) else none

/-- A strict date: year, month and day, and the rest. -/
def strictDate (cs : List Char) : Option ((Nat × Nat × Nat) × List Char) := do
  let year := cs.takeWhile Char.isDigit
  guard (!year.isEmpty)
  match cs.dropWhile Char.isDigit with
  | '-' :: r =>
    let (month, r) ← twoDigitsL r
    guard (1 ≤ month && month ≤ 12)
    match r with
    | '-' :: r =>
      let (day, r) ← twoDigitsL r
      guard (1 ≤ day && day ≤ 31)
      pure ((digitsValue 10 year, month, day), r)
    | _ => none
  | _ => none

/-- A strict time `HH:MM:SS` (seconds up to 60) with an optional fraction,
its seconds, and the rest. -/
def strictTime (cs : List Char) : Option (Nat × List Char) := do
  let (h, r) ← twoDigitsL cs
  guard (h ≤ 23)
  match r with
  | ':' :: r =>
    let (m, r) ← twoDigitsL r
    guard (m ≤ 59)
    match r with
    | ':' :: r =>
      let (sec, r) ← twoDigitsL r
      guard (sec ≤ 60)
      let r := match r with
        | '.' :: d :: r' => if d.isDigit then r'.dropWhile Char.isDigit else r
        | _ => r
      pure (sec, r)
    | _ => none
  | _ => none

/-- Whether a date exists: years 1 to 9999. -/
def dateExists (d : Nat × Nat × Nat) : Bool :=
  let (y, m, day) := d
  1 ≤ y && y ≤ 9999 && day ≤ Time.daysInMonth y m

/-- Whether a text is a valid date-time. -/
def isDateTimeText (t : String) : Bool :=
  match strictDate t.toList with
  | some (d, c :: r) =>
    (c == 'T' || c == 't' || c == ' ') &&
      match strictTime r with
      | some (sec, r) => offsetEnds r && dateExists d && sec ≤ 59
      | none => false
  | _ => false

/-- Whether a text is a valid date. -/
def isDateText (t : String) : Bool :=
  match strictDate t.toList with
  | some (d, []) => dateExists d
  | _ => false

/-- Whether a text is a valid time. -/
def isTimeText (t : String) : Bool :=
  match strictTime t.toList with
  | some (sec, []) => sec ≤ 59
  | _ => false

end ImageCatalog.Toml.Layout
