import ImageCatalog.Toml.Layout.Scalar

/-!
# Documents kept as laid out

A `Sheet` is a TOML document taken in for editing: its top level is a list of
entries, each with its own text, so that writing the sheet back gives the
document character for character. The entries are blank lines, comment
lines, key/value lines (a plain key keeps the text before and after its
value apart, so that the value can be replaced), lines with a dotted key,
and tables with everything under them.

Reading checks the syntax and that no name is given twice. The names of a
table (or of the top level, or of an inline table) are checked as they come:
a plain value may not reuse a name; a table header may not repeat an
explicit table, a value or an array of tables, and may not reopen a table
made by dotted keys; an array-of-tables header starts a fresh element. A
clash at the top level is reported with the line and column where reading
stood; a clash inside a table or an inline table has no place.
-/

namespace ImageCatalog.Toml.Layout

open ImageCatalog.Toml

/-! ## Names -/

/-- How a name in a table is taken. -/
inductive Use where
  /-- By a value. -/
  | value
  /-- By a table made by a dotted key. -/
  | dotted
  /-- By a table made as the parent of a header. -/
  | implicit
  /-- By a table with its own header. -/
  | explicit
  /-- By an array of tables. -/
  | series
  deriving BEq, Repr

/-- The names taken in a table and below it, by path. -/
abbrev Names := List (List String × Use)

namespace Names

/-- How a path is taken, if it is. -/
def find (ns : Names) (p : List String) : Option Use := (ns.find? (·.1 == p)).map (·.2)

/-- Records how a path is taken. -/
def put (ns : Names) (p : List String) (u : Use) : Names := ns.filter (·.1 != p) ++ [(p, u)]

/-- Opens the tables on the way to a path as `u`; a value on the way clashes. -/
def openWay (ns : Names) (p : List String) (u : Use) : Except Problem Names :=
  (List.range (p.length - 1)).foldlM (fun ns i =>
    let q := p.take (i + 1)
    match ns.find q with
    | some .value => throw (.keyExists (q.getLastD ""))
    | some _ => pure ns
    | none => pure (ns.put q u)) ns

/-- Takes a path for a value. -/
def addValue (ns : Names) (p : List String) : Except Problem Names := do
  let ns ← ns.openWay p .dotted
  if (ns.find p).isSome then throw (.keyExists (p.getLastD ""))
  pure (ns.put p .value)

/-- Takes a path for a table header. -/
def addTable (ns : Names) (p : List String) : Except Problem Names := do
  let ns ← ns.openWay p .implicit
  match ns.find p with
  | none | some .implicit => pure (ns.put p .explicit)
  | some .dotted => throw .tableRedefined
  | some _ => throw (.keyExists (p.getLastD ""))

/-- Takes a path for an array-of-tables header: a new element forgets the
names of the one before. -/
def addSeries (ns : Names) (p : List String) : Except Problem Names := do
  let ns ← ns.openWay p .implicit
  match ns.find p with
  | none => pure (ns.put p .series)
  | some .series => pure (ns.filter fun (q, _) => !(p.isPrefixOf q && q.length > p.length))
  | some _ => throw (.keyExists (p.getLastD ""))

end Names

/-- Applies a check of names; a clash fails with a place when `placed`. -/
def checkNames (placed : Bool) (r : Except Problem Names) : Scan Names :=
  match r with
  | .ok ns => pure ns
  | .error p => if placed then fail p else failPlain p

/-! ## Keys and comments -/

/-- A key: names separated by dots, each bare or quoted, with blanks around. -/
def readKey : Nat → Scan (List String)
  | 0 => fail .unexpectedEnd
  | fuel + 1 => do
    setMark
    skipWhileC isSpace
    let c ← current
    if c == '"' || c == '\'' then
      let (name, multiline) ← readText c (c == '"')
      if multiline then fail (.unexpected (String.ofList (List.replicate 3 c)))
      setMark
      skipWhileC isSpace
      if (← current) == '.' then
        let _ ← advance
        let rest ← readKey fuel
        pure (name :: rest)
      else pure [name]
    else
      skipWhileC (fun c => isBareKeyChar c || isSpace c)
      let name := Text.trim (← taken)
      if name.isEmpty then fail .emptyKey
      if name.toList.contains ' ' then fail (.invalidKey name)
      if (← current) == '.' then
        let _ ← advance
        let rest ← readKey fuel
        pure (name :: rest)
      else pure [name]

/-- The characters of a comment after its `#`, up to the line end. -/
def commentBody : Nat → Scan Unit
  | 0 => pure ()
  | fuel + 1 => do
    let c ← current
    if c == '\x00' || c == '\n' || c == '\r' then pure ()
    else if c.toNat == 0x7f || (c.toNat ≤ 0x1f && c.toNat != 9) then fail (.controlChar c.toNat "comments")
    else if ← advance then commentBody fuel
    else pure ()

/-- Blanks, a comment and the line end after a value; with `withTrail`, also
the blanks and line end after it. Returns whether what was taken after the
comment holds a line end. -/
def commentTrail (withTrail : Bool) : Scan Bool := do
  if ← atEnd then return false
  setMark
  let n := (← read).size + 1
  let rec before : Nat → Scan Unit
    | 0 => pure ()
    | fuel + 1 => do
      let c ← current
      if c == '\n' then pure ()
      else if c == '#' then
        setMark
        let _ ← advance
        commentBody n
        setMark
      else if c == ' ' || c == '\t' || c == '\r' then
        let _ ← advance
        if ← atEnd then pure () else before fuel
      else fail (.unexpected (String.singleton c))
  before n
  if !withTrail then return false
  skipWhileC isSpace
  if (← current) == '\r' then
    let _ ← advance
  if (← current) == '\n' then
    let _ ← advance
  let t ← taken
  pure (t.toList.contains '\n')

/-- A key/value separator character. -/
def isKvSep (c : Char) : Bool := c == '=' || c == ' ' || c == '\t'

/-- The separators between a key and its value: exactly one `=`. -/
def separators : Nat → Bool → Scan Bool
  | 0, found => pure found
  | fuel + 1, found => do
    if !isKvSep (← current) then return found
    if !(← advance) then return found
    if (← current) == '=' then
      if found then fail (.unexpected "=")
      separators fuel true
    else separators fuel found

/-- The longest run (up to `n`) of characters at the cursor that do not end a
bare value, without moving. -/
def peekWord (n : Nat) : Scan String := do
  let s ← read
  let i := (← get).idx
  let stop := skipWhile s (fun c => !endsBareValue c && c != '\x00') i
  pure (slice s i (min stop (i + n)))

/-- Takes exactly the characters of a word. -/
def expectWord (w : String) : Scan Unit := w.toList.forM expectChar

/-! ## Values -/

/-- A bare value starting with a digit: a date, a time, a date-time or a
number. Returns where its own text ends. -/
def readBareDigits : Scan Nat := do
  skipWhileC (fun c => !endsBareValue c)
  let raw ← taken
  match dateShape raw with
  | some (true, true) =>
    if isDateTimeText raw then pure (← get).idx else fail .invalidDateTime
  | some (true, false) =>
    if !isDateText raw then fail .invalidDate
    let dateEnd := (← get).idx
    setMark
    skipWhileC (fun c => !(c == '\t' || c == '\n' || c == '\r' || c == '#' || c == ',' || c == ']' || c == '}'))
    let timeRaw := (← taken).toList
    let timePart := (timeRaw.reverse.dropWhile Text.isBlank).reverse
    if timePart.isEmpty then pure dateEnd
    else if isDateTimeText (raw ++ String.ofList timePart) then pure (dateEnd + timePart.length)
    else fail .invalidDate
  | some (false, true) => if isTimeText raw then pure (← get).idx else fail .invalidTime
  | _ => if isNumberText raw then pure (← get).idx else fail .invalidNumber

mutual
/-- A value at the cursor. Returns where its own text ends. -/
def readValue : Nat → Scan Nat
  | 0 => fail .unexpectedEnd
  | fuel + 1 => do
    setMark
    let c ← current
    if c == '"' || c == '\'' then
      let _ ← guarded (readText c (c == '"'))
      pure (← get).idx
    else if c == 't' || c == 'f' then
      guarded (expectWord (if c == 't' then "true" else "false"))
      pure (← get).idx
    else if c == '[' then readArray fuel
    else if c == '{' then readInlineTable fuel
    else
      let w ← peekWord 4
      if c == '+' || c == '-' || ["+inf", "-inf", "inf", "+nan", "-nan", "nan"].contains w then
        skipWhileC (fun c => !endsBareValue c)
        if isNumberText (← taken) then pure (← get).idx else fail .invalidNumber
      else if c.isDigit then readBareDigits
      else fail (.unexpected (String.singleton c))

/-- An array whose opening bracket is at the cursor. -/
def readArray : Nat → Scan Nat
  | 0 => fail .unexpectedEnd
  | fuel + 1 => do
    advanceOrEnd
    arrayItems fuel false

/-- The items of an array; `afterValue` says whether a value was just read. -/
def arrayItems : Nat → Bool → Scan Nat
  | 0, _ => fail .unexpectedEnd
  | fuel + 1, afterValue => do
    let s ← read
    let m := (← get).idx
    skipWhileC isWs
    let gap := slice s m (← get).idx
    if gap.any (fun c => c == '\n' || c == '\r') then arrayItems fuel afterValue
    else if (← current) == '#' then
      let _ ← commentTrail false
      arrayItems fuel afterValue
    else if !gap.isEmpty then arrayItems fuel afterValue
    else
      let took ← if afterValue then pure false else
        tryCatch (do let _ ← readValue fuel; pure true) fun h =>
          match h.failure.problem with
          | .unexpected _ => do
            set h.cursor
            pure false
          | _ => throw h
      if took then arrayItems fuel true
      else
        let c ← current
        if afterValue && c == ',' then
          advanceOrEnd
          arrayItems fuel false
        else if c == ']' then
          let _ ← advance
          pure (← get).idx
        else fail (.unexpected (String.singleton c))

/-- An inline table whose opening brace is at the cursor. -/
def readInlineTable : Nat → Scan Nat
  | 0 => fail .unexpectedEnd
  | fuel + 1 => do
    advanceOrEnd
    inlineEntries fuel [] none

/-- The entries of an inline table; `comma` says whether the last entry was
followed by a comma (`none` before the first entry). -/
def inlineEntries : Nat → Names → Option Bool → Scan Nat
  | 0, _, _ => fail .unexpectedEnd
  | fuel + 1, names, comma => do
    skipWhileC isSpace
    let c ← current
    if comma != some true then
      if c == '}' then
        let _ ← advance
        return (← get).idx
      if comma == some false || (comma == none && c == ',') then fail (.unexpected (String.singleton c))
    else if c == '}' || c == ',' then fail (.unexpected (String.singleton c))
    let (key, _, _) ← readPair fuel false
    let names ← checkNames false (names.addValue key)
    skipWhileC isSpace
    let more := (← current) == ','
    if more then advanceOrEnd
    inlineEntries fuel names (some more)

/-- A key, `=` and a value, with the rest of the line when `withComment`.
Returns the key and where the value's text starts and ends. -/
def readPair : Nat → Bool → Scan (List String × Nat × Nat)
  | 0, _ => fail .unexpectedEnd
  | fuel + 1, withComment => do
    let n := (← read).size + 1
    setMark
    skipWhileC isSpace
    let key ← readKey n
    setMark
    let found ← separators n ((← current) == '=')
    if !found then fail (.unexpected (String.singleton (← current)))
    let start := (← get).idx
    let stop ← readValue fuel
    if withComment then
      let _ ← commentTrail true
    pure (key, start, stop)
end

/-! ## Tables -/

/-- What a line of a table body holds. -/
inductive Piece where
  | blank
  | note
  | pair (key : List String) (valueStart valueEnd : Nat)

/-- The blanks at the start of a line, then what follows: a blank line, a
comment, or a key/value pair; `none` at a table header. -/
def readPiece (fuel : Nat) : Scan (Option Piece) := do
  setMark
  let start := (← get).idx
  let n := (← read).size + 1
  let rec go : Nat → Scan (Option Piece)
    | 0 => pure (some .blank)
    | k + 1 => do
      let c ← current
      if c == '\n' then
        let _ ← advance
        pure (some .blank)
      else if c == ' ' || c == '\t' || c == '\r' then
        if ← advance then go k else pure (some .blank)
      else if c == '#' then
        let _ ← commentTrail true
        pure (some .note)
      else if c == '[' then pure none
      else
        modify fun cur => { cur with idx := start }
        let (key, a, b) ← readPair fuel true
        pure (some (.pair key a b))
  go n

/-- The header at the cursor, read without moving: whether it opens an array
of tables, and its key. -/
def peekHeader : Scan (Bool × List String) := lookAhead do
  let _ ← advance
  let mut series := false
  if (← current) == '[' then
    let _ ← advance
    series := true
  let n := (← read).size + 1
  let key ← tryCatch (readKey n) fun h =>
    if h.failure.problem == .emptyKey then do
      set h.cursor
      fail .emptyTableName
    else throw h
  pure (series, key)

/-- Whether a key names a table strictly below another. -/
def isBelow (parent child : List String) : Bool := parent != child && parent.isPrefixOf child

/-- What reading a table header and its body gave. -/
structure Outcome where
  /-- The full key of the header. -/
  key : List String
  /-- The header opens an array of tables. -/
  series : Bool
  /-- The table itself ends with a blank line. -/
  endsBlank : Bool
  /-- The header line ends with a line end. -/
  headerLineEnd : Bool

/-- Registers a header read below `parent` among the names of its parent. -/
def Outcome.register (o : Outcome) (parent : List String) (ns : Names) : Except Problem Names :=
  let rel := o.key.drop parent.length
  if o.series then ns.addSeries rel else ns.addTable rel

mutual
/-- A table whose header is at the cursor, read below `parent`; `opened` holds
the arrays of tables being read, innermost first. -/
def readTable : Nat → List (List String) → List String → Scan Outcome
  | 0, _, _ => fail .unexpectedEnd
  | fuel + 1, opened, parent => do
    let _ ← advance
    if ← atEnd then fail .unexpectedEnd
    let mut series := false
    if (← current) == '[' then
      if !(← advance) then fail .unexpectedEnd
      series := true
    let n := (← read).size + 1
    let key ← tryCatch (readKey n) fun h =>
      if h.failure.problem == .emptyKey then do
        set h.cursor
        fail .emptyTableName
      else throw h
    if ← atEnd then fail .unexpectedEnd
    let c ← current
    if c != ']' then fail (.unexpected (String.singleton c))
    let rel := key.drop parent.length
    let _ ← advance
    if series then
      let _ ← advance
    let lineEnd ← commentTrail true
    let lastBlank ← tableBody fuel opened key [] false
    if series && rel.length ≤ 1 && opened.head? != some key then
      seriesSiblings fuel (key :: opened) key
    pure ⟨key, series, lastBlank && rel.length ≤ 1 && !series, lineEnd || series⟩

/-- The lines of a table with full key `key`, then the tables below it. -/
def tableBody : Nat → List (List String) → List String → Names → Bool → Scan Bool
  | 0, _, _, _, lastBlank => pure lastBlank
  | fuel + 1, opened, key, names, lastBlank => do
    if ← atEnd then return lastBlank
    match ← readPiece fuel with
    | some .blank => tableBody fuel opened key names true
    | some .note => tableBody fuel opened key names false
    | some (.pair k _ _) =>
      let names ← checkNames false (names.addValue k)
      tableBody fuel opened key names false
    | none =>
      let (_, next) ← peekHeader
      if isBelow key next then
        subTables fuel opened key names
        pure false
      else pure lastBlank

/-- The tables below `key`, one after the other. -/
def subTables : Nat → List (List String) → List String → Names → Scan Unit
  | 0, _, _, _ => pure ()
  | fuel + 1, opened, key, names => do
    let o ← readTable fuel opened key
    let names ← checkNames false (o.register key names)
    if ← atEnd then return
    let (_, next) ← peekHeader
    if isBelow key next then subTables fuel opened key names

/-- The further elements of the array of tables `key`. -/
def seriesSiblings : Nat → List (List String) → List String → Scan Unit
  | 0, _, _ => pure ()
  | fuel + 1, opened, key => do
    if ← atEnd then return
    let (series, next) ← peekHeader
    if series && next == key then
      let _ ← readTable fuel opened key
      seriesSiblings fuel opened key
end

/-! ## Sheets -/

/-- An entry at the top level of a sheet. -/
inductive Entry where
  /-- Blank lines. -/
  | blank (text : String)
  /-- A comment line. -/
  | note (text : String)
  /-- A key/value line with a plain key: the text before the value, the
  value, and the text after it. -/
  | pair (key : String) (front value back : String)
  /-- A key/value line with a dotted key; `key` is its first name. -/
  | dotted (key : String) (text : String)
  /-- A table or array of tables named `key`, with all under it. -/
  | table (key : String) (text : String) (series endsBlank headerLineEnd : Bool)
  /-- An entry that was removed. -/
  | gone
  deriving Repr, BEq, Inhabited

/-- A document kept as laid out: its top-level entries in order. -/
structure Sheet where
  entries : Array Entry := #[]
  deriving Repr, Inhabited

/-- The text of an entry. -/
def Entry.text : Entry → String
  | .blank t | .note t | .dotted _ t => t
  | .pair _ f v b => f ++ v ++ b
  | .table _ t _ _ _ => t
  | .gone => ""

/-- The text of a sheet. -/
def Sheet.render (sh : Sheet) : String := sh.entries.foldl (fun acc e => acc ++ e.text) ""

/-- The key/value lines and comments before the first table; returns where
the tables start. -/
def topLines : Nat → Names → Array Entry → Scan (Names × Array Entry × Nat)
  | 0, ns, es => do pure (ns, es, (← get).idx)
  | fuel + 1, ns, es => do
    let s ← read
    let start := (← get).idx
    if (← atEnd) || (← current) == '[' then return (ns, es, start)
    match ← readPiece (4 * s.size + 8) with
    | none => pure (ns, es, start)
    | some piece =>
      let stop := (← get).idx
      let text := slice s start stop
      let (ns, es) ← match piece with
        | .blank =>
          match es.back? with
          | some (.blank t) => pure (ns, es.pop.push (.blank (t ++ text)))
          | _ => pure (ns, es.push (.blank text))
        | .note => pure (ns, es.push (.note text))
        | .pair key a b => do
          let ns ← checkNames true (ns.addValue key)
          match key with
          | [k] => pure (ns, es.push (.pair k (slice s start a) (slice s a b) (slice s b stop)))
          | _ => pure (ns, es.push (.dotted (key.headD "") text))
      setMark
      topLines fuel ns es

/-- The tables of the top level from `start` on. -/
def topTables : Nat → Names → Array Entry → Nat → Scan (Array Entry)
  | 0, _, es, _ => pure es
  | fuel + 1, ns, es, start => do
    let s ← read
    if ← atEnd then return es
    let o ← readTable (4 * s.size + 8) [] []
    let finished ← atEnd
    let mark := (← get).mark
    let stop := if finished then s.size else mark
    let ns ← checkNames true (o.register [] ns)
    let es := es.push (.table (o.key.headD "") (slice s start stop) (o.series && o.key.length ≤ 1)
      o.endsBlank o.headerLineEnd)
    topTables fuel ns es stop

/-- Reads a document for editing. Line ends are taken as line feeds. -/
def Sheet.read (text : String) : Except Failure Sheet :=
  let s : Src := (lineEndsToLf text.toList).toArray
  let run : Scan (Array Entry) := do
    let (ns, es, start) ← topLines (s.size + 1) [] #[]
    topTables (s.size + 1) ns es start
  match (run.run s).run {} with
  | .ok (es, _) => .ok ⟨es⟩
  | .error h => .error h.failure

end ImageCatalog.Toml.Layout
