import ImageCatalog.Toml.Text
import ImageCatalog.Text.Quote

/-!
# Reading TOML documents

A strict reader for TOML 1.0 documents. A document is a sequence of
statements, one a line: a key/value pair, a table header `[a.b]` or an
array-of-tables header `[[a.b]]`; blanks and `#` comments may stand around
them. Values are texts (basic, literal and multi-line), truth values,
numbers, dates and times, arrays and inline tables.

Tables keep their entries in the order they were first written. The reader
refuses a document that writes a key twice, reopens a table, extends an
inline table or array after the fact, or breaks a lexical rule; the failure
names its cause (`Problem`) and where it stands (`Spot`): a line and a
column counted from one, or the end of the document.

Dates and times are kept as their written form (`1979-05-27 07:32:00+00:00`).
-/

namespace ImageCatalog.Toml

open ImageCatalog.Config

/-- A table: its entries in the order they were first written. -/
abbrev Table := List (String × Value)

/-- A dotted key: the names from the outermost table in. -/
abbrev Key := List String

/-- Why a document cannot be read. -/
inductive Problem where
  | invalidStatement
  | expectedLineEnd
  | invalidValue
  | overwrite
  | badKeyStart
  | expectedEquals
  | unclosedArray
  | unclosedInlineTable
  | duplicateInlineKey (name : String)
  | unterminatedString
  | illegalCharacter (c : Char)
  | strayBackslash
  | invalidHex
  | notScalar
  | expected (text : String)
  | invalidCharacter (c : Char)
  | declaredTwice (key : Key)
  | immutable (key : Key)
  | redefined (key : Key)
  | unclosedHeader
  | unclosedArrayHeader
  | invalidDate
  deriving Repr, BEq

/-- A key as messages show it: a parenthesized list of quoted names, with a
trailing comma after a single name. -/
def keyText : Key → String
  | [k] => "(" ++ Text.quote k ++ ",)"
  | ks => "(" ++ ", ".intercalate (ks.map Text.quote) ++ ")"

/-- The text of a problem. -/
def Problem.message : Problem → String
  | .invalidStatement => "Invalid statement"
  | .expectedLineEnd => "Expected newline or end of document after a statement"
  | .invalidValue => "Invalid value"
  | .overwrite => "Cannot overwrite a value"
  | .badKeyStart => "Invalid initial character for a key part"
  | .expectedEquals => "Expected '=' after a key in a key/value pair"
  | .unclosedArray => "Unclosed array"
  | .unclosedInlineTable => "Unclosed inline table"
  | .duplicateInlineKey k => "Duplicate inline table key " ++ Text.quote k
  | .unterminatedString => "Unterminated string"
  | .illegalCharacter c => "Illegal character " ++ Text.quote (String.singleton c)
  | .strayBackslash => "Unescaped '\\' in a string"
  | .invalidHex => "Invalid hex value"
  | .notScalar => "Escaped character is not a Unicode scalar value"
  | .expected t => "Expected " ++ Text.quote t
  | .invalidCharacter c => "Found invalid character " ++ Text.quote (String.singleton c)
  | .declaredTwice k => "Cannot declare " ++ keyText k ++ " twice"
  | .immutable k => "Cannot mutate immutable namespace " ++ keyText k
  | .redefined k => "Cannot redefine namespace " ++ keyText k
  | .unclosedHeader => "Expected ']' at the end of a table declaration"
  | .unclosedArrayHeader => "Expected ']]' at the end of an array declaration"
  | .invalidDate => "Invalid date or datetime"

/-- A place in a document. -/
inductive Spot where
  | lineColumn (line column : Nat)
  | endOfDocument
  deriving Repr, BEq

/-- The spot of a position: its line, and its column counted from one (from
the last line end before it). -/
def spotOf (s : Src) (pos : Nat) : Spot :=
  if pos < s.size then
    let before := (s.extract 0 pos).toList
    .lineColumn (before.count '\n' + 1) ((before.reverse.takeWhile (· != '\n')).length + 1)
  else .endOfDocument

/-- The text of a spot. -/
def Spot.text : Spot → String
  | .lineColumn l c => "line " ++ toString l ++ ", column " ++ toString c
  | .endOfDocument => "end of document"

/-- A document that cannot be read: the cause and where it stands. -/
structure ReadFailure where
  problem : Problem
  spot : Spot
  deriving Repr, BEq

/-- The text of a failure. -/
def ReadFailure.message (f : ReadFailure) : String :=
  f.problem.message ++ " (at " ++ f.spot.text ++ ")"

/-- A step of reading: the failure holds the position it happened at. -/
abbrev Read := Except (Problem × Nat)

/-- Fails at a position. -/
def failAt (pos : Nat) (p : Problem) : Read α := throw (p, pos)

/-! ## Gaps and comments -/

/-- The first position in `[pos, stop)` whose character passes `p`. -/
def findIn (s : Src) (p : Char → Bool) (pos stop : Nat) : Option (Nat × Char) :=
  if h : pos < stop ∧ pos < s.size then
    if p s[pos] then some (pos, s[pos]) else findIn s p (pos + 1) stop
  else none
termination_by stop - pos

/-- The position where `pat` next starts, refusing any character of `bad`
before it; without `pat` the end of the document, or a failure when
`needed`. -/
def skipUntil (s : Src) (pos : Nat) (pat : String) (bad : Char → Bool) (needed : Bool) :
    Read Nat := do
  let stop ← match indexFrom s pat pos with
    | some i => pure i
    | none => if needed then failAt s.size (.expected pat) else pure s.size
  match findIn s bad pos stop with
  | some (i, c) => failAt i (.invalidCharacter c)
  | none => pure stop

/-- The position after a comment at `pos`, if there is one. -/
def skipComment (s : Src) (pos : Nat) : Read Nat :=
  if s[pos]? == some '#' then skipUntil s (pos + 1) "\n" illegalInLine false else pure pos

/-- The position after blanks, line ends and comments between array items. -/
def skipArrayGaps (s : Src) : Nat → Nat → Read Nat
  | 0, pos => pure pos
  | fuel + 1, pos => do
    let p ← skipComment s (skipWhile s isBlankOrNewline pos)
    if p == pos then pure pos else skipArrayGaps s fuel p

/-- `skipArrayGaps` with room for every character of the document. -/
def skipGaps (s : Src) (pos : Nat) : Read Nat := skipArrayGaps s (s.size + 1) pos

/-! ## Texts -/

/-- A literal text whose opening quote is at `pos`. -/
def readLiteral (s : Src) (pos : Nat) : Read (Nat × String) := do
  let e ← skipUntil s (pos + 1) "'" illegalInLine true
  pure (e + 1, slice s (pos + 1) e)

/-- The character of a `\u` or `\U` escape whose `n` digits start at `pos`. -/
def readHexChar (s : Src) (pos n : Nat) : Read (Nat × String) :=
  let hex := (s.extract pos (pos + n)).toList
  if hex.length != n || !hex.all isHexDigit then failAt pos .invalidHex
  else
    let v := digitsValue 16 hex
    if v ≤ 0xD7FF || (0xE000 ≤ v && v ≤ 0x10FFFF) then pure (pos + n, String.singleton (Char.ofNat v))
    else failAt (pos + n) .notScalar

/-- The text an escape at `pos` stands for. In a multi-line text a
backslash at the end of a line drops the line end and the blanks after it. -/
def readEscape (s : Src) (pos : Nat) (multiline : Bool) : Read (Nat × String) :=
  let next := s[pos + 1]?
  let after := pos + 2
  if multiline && (next == some ' ' || next == some '\t' || next == some '\n') then
    if next == some '\n' then pure (skipWhile s isBlankOrNewline after, "")
    else
      let p := skipWhile s isBlank after
      match s[p]? with
      | none => pure (p, "")
      | some c =>
        if c != '\n' then failAt p .strayBackslash
        else pure (skipWhile s isBlankOrNewline (p + 1), "")
  else
    match next with
    | some 'u' => readHexChar s after 4
    | some 'U' => readHexChar s after 8
    | some 'b' => pure (after, "\x08")
    | some 't' => pure (after, "\t")
    | some 'n' => pure (after, "\n")
    | some 'f' => pure (after, "\x0c")
    | some 'r' => pure (after, "\r")
    | some '"' => pure (after, "\"")
    | some '\\' => pure (after, "\\")
    | _ => failAt after .strayBackslash

/-- The rest of a basic text from `pos`, whose plain run since `start` is not
yet taken into `acc`. -/
def readBasicFrom (s : Src) (multiline : Bool) : Nat → Nat → Nat → String → Read (Nat × String)
  | 0, pos, _, _ => failAt pos .unterminatedString
  | fuel + 1, pos, start, acc =>
    match s[pos]? with
    | none => failAt pos .unterminatedString
    | some c =>
      if c == '"' then
        if !multiline then pure (pos + 1, acc ++ slice s start pos)
        else if startsAt s pos "\"\"\"" then pure (pos + 3, acc ++ slice s start pos)
        else readBasicFrom s multiline fuel (pos + 1) start acc
      else if c == '\\' then do
        let (p, e) ← readEscape s pos multiline
        readBasicFrom s multiline fuel p p (acc ++ slice s start pos ++ e)
      else if (if multiline then illegalInLines c else illegalInLine c) then
        failAt pos (.illegalCharacter c)
      else readBasicFrom s multiline fuel (pos + 1) start acc

/-- A basic text whose body starts at `pos`. -/
def readBasic (s : Src) (pos : Nat) (multiline : Bool) : Read (Nat × String) :=
  readBasicFrom s multiline (s.size + 1) pos pos ""

/-- A multi-line text whose opening quotes are at `pos`. A line end right
after them is dropped; one or two quotes before the closing three belong to
the text. -/
def readMultiline (s : Src) (pos : Nat) (literal : Bool) : Read (Nat × String) := do
  let p := pos + 3
  let p := if s[p]? == some '\n' then p + 1 else p
  let delim := if literal then '\'' else '"'
  let (p, body) ←
    if literal then do
      let e ← skipUntil s p "'''" illegalInLines true
      pure (e + 3, slice s p e)
    else readBasic s p true
  if s[p]? != some delim then pure (p, body)
  else if s[p + 1]? != some delim then pure (p + 1, body.push delim)
  else pure (p + 2, body.push delim |>.push delim)

/-! ## Keys -/

/-- One part of a key: bare, literal or basic. -/
def readKeyPart (s : Src) (pos : Nat) : Read (Nat × String) :=
  match s[pos]? with
  | some c =>
    if isBareKeyChar c then
      let e := skipWhile s isBareKeyChar pos
      pure (e, slice s pos e)
    else if c == '\'' then readLiteral s pos
    else if c == '"' then readBasic s (pos + 1) false
    else failAt pos .badKeyStart
  | none => failAt pos .badKeyStart

/-- The further dotted parts of a key. -/
def readKeyRest (s : Src) : Nat → Nat → Key → Read (Nat × Key)
  | 0, pos, key => pure (pos, key)
  | fuel + 1, pos, key =>
    if s[pos]? == some '.' then do
      let (p, part) ← readKeyPart s (skipWhile s isBlank (pos + 1))
      readKeyRest s fuel (skipWhile s isBlank p) (key ++ [part])
    else pure (pos, key)

/-- A dotted key and the blanks after it. -/
def readKey (s : Src) (pos : Nat) : Read (Nat × Key) := do
  let (p, first) ← readKeyPart s pos
  readKeyRest s (s.size + 1) (skipWhile s isBlank p) [first]

/-! ## Tables -/

/-- Why a value cannot go where a key points. -/
inductive Clash where
  /-- The path runs through a value that is not a table. -/
  | blocked
  /-- The key already has a value. -/
  | taken

/-- The table with the entry `k` set to `v`. -/
def Table.replace (t : Table) (k : String) (v : Value) : Table :=
  t.map fun (k', v') => if k' == k then (k', v) else (k', v')

/-- Changes the table at `path` below `t` by `f`, creating missing tables on
the way. When `throughArrays` is set, an array of tables stands for its last
table. -/
def Table.updateAt (throughArrays : Bool) (f : Table → Except Clash Table) :
    Key → Table → Except Clash Table
  | [], t => f t
  | k :: rest, t =>
    match t.lookup k with
    | none => do
      let inner ← Table.updateAt throughArrays f rest []
      pure (t ++ [(k, .table inner)])
    | some (.table inner) => do
      let inner ← Table.updateAt throughArrays f rest inner
      pure (t.replace k (.table inner))
    | some (.list items) =>
      match throughArrays, items.getLast? with
      | true, some (.table inner) => do
        let inner ← Table.updateAt throughArrays f rest inner
        pure (t.replace k (.list (items.dropLast ++ [.table inner])))
      | _, _ => throw .blocked
    | some _ => throw .blocked

/-- Adds a new entry. -/
def Table.addEntry (k : String) (v : Value) (t : Table) : Except Clash Table :=
  if (t.lookup k).isSome then throw .taken else pure (t ++ [(k, v)])

/-- Starts a new table at the end of the array of tables `k`. -/
def Table.addArrayTable (k : String) (t : Table) : Except Clash Table :=
  match t.lookup k with
  | none => pure (t ++ [(k, .list [.table []])])
  | some (.list items) => pure (t.replace k (.list (items ++ [.table []])))
  | some _ => throw .blocked

/-- Whether a value is a table or an array. -/
def isContainer : Value → Bool
  | .table _ | .list _ => true
  | _ => false

/-! ## Values -/

/-- A date, time, number, `inf` or `nan` at `pos`. -/
def readScalar (s : Src) (pos : Nat) : Read (Nat × Value) :=
  match matchMoment s pos with
  | some (e, m) => if m.valid then pure (e, .str m.render) else failAt pos .invalidDate
  | none =>
    match matchTime s pos with
    | some (e, t) => pure (e, .str t.render)
    | none =>
      match matchNumber s pos with
      | some (e, fractional) =>
        let t := slice s pos e
        pure (e, if fractional then decimalValue t else .int (integerValue t))
      | none =>
        if startsAt s pos "inf" || startsAt s pos "+inf" then
          pure (if s[pos]? == some '+' then pos + 4 else pos + 3, .infinite false)
        else if startsAt s pos "-inf" then pure (pos + 4, .infinite true)
        else if startsAt s pos "nan" then pure (pos + 3, .notANumber)
        else if startsAt s pos "-nan" || startsAt s pos "+nan" then pure (pos + 4, .notANumber)
        else failAt pos .invalidValue

mutual
/-- A value at `pos`. -/
def readValue (s : Src) : Nat → Nat → Read (Nat × Value)
  | 0, pos => failAt pos .invalidValue
  | fuel + 1, pos =>
    match s[pos]? with
    | some '"' =>
      if startsAt s pos "\"\"\"" then (fun (p, t) => (p, Value.str t)) <$> readMultiline s pos false
      else (fun (p, t) => (p, Value.str t)) <$> readBasic s (pos + 1) false
    | some '\'' =>
      if startsAt s pos "'''" then (fun (p, t) => (p, Value.str t)) <$> readMultiline s pos true
      else (fun (p, t) => (p, Value.str t)) <$> readLiteral s pos
    | some 't' => if startsAt s pos "true" then pure (pos + 4, .bool true) else readScalar s pos
    | some 'f' => if startsAt s pos "false" then pure (pos + 5, .bool false) else readScalar s pos
    | some '[' => readArray s fuel (pos + 1)
    | some '{' => readInlineTable s fuel (pos + 1)
    | _ => readScalar s pos

/-- An array whose opening bracket is just before `pos`. -/
def readArray (s : Src) : Nat → Nat → Read (Nat × Value)
  | 0, pos => failAt pos .unclosedArray
  | fuel + 1, pos => do
    let p ← skipGaps s pos
    if s[p]? == some ']' then pure (p + 1, .list [])
    else readItems s fuel p []

/-- The items of an array from `pos`, after those in `acc`. A comma may
follow the last item. -/
def readItems (s : Src) : Nat → Nat → List Value → Read (Nat × Value)
  | 0, pos, _ => failAt pos .unclosedArray
  | fuel + 1, pos, acc => do
    let (p, v) ← readValue s fuel pos
    let acc := acc ++ [v]
    let p ← skipGaps s p
    match s[p]? with
    | some ']' => pure (p + 1, .list acc)
    | some ',' =>
      let p ← skipGaps s (p + 1)
      if s[p]? == some ']' then pure (p + 1, .list acc) else readItems s fuel p acc
    | _ => failAt p .unclosedArray

/-- An inline table whose opening brace is just before `pos`. -/
def readInlineTable (s : Src) : Nat → Nat → Read (Nat × Value)
  | 0, pos => failAt pos .unclosedInlineTable
  | fuel + 1, pos =>
    let p := skipWhile s isBlank pos
    if s[p]? == some '}' then pure (p + 1, .table [])
    else readEntries s fuel p [] []

/-- The entries of an inline table from `pos`, after those in `acc`;
`sealed` are the keys of tables and arrays given as values, which later
entries may not extend. -/
def readEntries (s : Src) : Nat → Nat → Table → List Key → Read (Nat × Value)
  | 0, pos, _, _ => failAt pos .unclosedInlineTable
  | fuel + 1, pos, acc, sealed => do
    let (p, key, v) ← readPair s fuel pos
    if sealed.any (·.isPrefixOf key) then failAt p (.immutable key)
    let stem := key.getLastD ""
    let acc ← match acc.updateAt false (Table.addEntry stem v) key.dropLast with
      | .ok t => pure t
      | .error .blocked => failAt p .overwrite
      | .error .taken => failAt p (.duplicateInlineKey stem)
    let p := skipWhile s isBlank p
    match s[p]? with
    | some '}' => pure (p + 1, .table acc)
    | some ',' =>
      let sealed := if isContainer v then sealed ++ [key] else sealed
      readEntries s fuel (skipWhile s isBlank (p + 1)) acc sealed
    | _ => failAt p .unclosedInlineTable

/-- A key, an equals sign and a value. -/
def readPair (s : Src) : Nat → Nat → Read (Nat × Key × Value)
  | 0, pos => failAt pos .invalidValue
  | fuel + 1, pos => do
    let (p, key) ← readKey s pos
    if s[p]? != some '=' then failAt p .expectedEquals
    let (p, v) ← readValue s fuel (skipWhile s isBlank (p + 1))
    pure (p, key, v)
end

/-! ## Statements -/

/-- Marks on keys that limit later statements. -/
inductive Mark where
  /-- Given as a value: nothing may be added to it. -/
  | frozen
  /-- Opened as a table: it may not be opened again. -/
  | explicit
  deriving BEq

/-- A mark on a key; a recursive mark covers every key below it too. -/
structure KeyMark where
  key : Key
  mark : Mark
  recursive : Bool

/-- The marks of a document so far, and the tables that dotted keys opened
under the current header, which become explicit at the next header. -/
structure Marks where
  marks : List KeyMark := []
  pending : List Key := []

namespace Marks

/-- Whether a key carries a mark, itself or through a recursive mark above it. -/
def has (m : Marks) (key : Key) (k : Mark) : Bool :=
  !key.isEmpty && m.marks.any fun x =>
    x.mark == k && (x.key == key || (x.recursive && x.key.length < key.length && x.key.isPrefixOf key))

/-- Adds a mark. -/
def add (m : Marks) (key : Key) (k : Mark) (recursive : Bool) : Marks :=
  { m with marks := m.marks ++ [⟨key, k, recursive⟩] }

/-- Turns the pending tables into explicit ones. -/
def settle (m : Marks) : Marks :=
  { marks := m.marks ++ m.pending.map (⟨·, .explicit, false⟩), pending := [] }

/-- Drops every mark on a key and below it. -/
def clear (m : Marks) (key : Key) : Marks :=
  { m with marks := m.marks.filter fun x => !key.isPrefixOf x.key }

end Marks

/-- A document read so far: its root table, its marks and the current header. -/
structure Progress where
  root : Table := []
  marks : Marks := {}
  header : Key := []

/-- Puts a value at `header ++ key`. The tables a dotted key passes through
may not be tables opened by a header, and its parent may not be frozen. -/
def Progress.assign (d : Progress) (p : Nat) (key : Key) (v : Value) : Read Progress := do
  let marks ← (List.range' 1 (key.length - 1)).foldlM (fun (m : Marks) i => do
    let inner := d.header ++ key.take i
    if m.has inner .explicit then failAt p (.redefined inner)
    pure { m with pending := m.pending ++ [inner] }) d.marks
  let parent := d.header ++ key.dropLast
  if marks.has parent .frozen then failAt p (.immutable parent)
  let root ← match d.root.updateAt true (Table.addEntry (key.getLastD "") v) parent with
    | .ok t => pure t
    | .error _ => failAt p .overwrite
  let marks := if isContainer v then marks.add (d.header ++ key) .frozen true else marks
  pure { d with root, marks }

/-- A table header whose bracket is at `pos`. -/
def Progress.openTable (s : Src) (d : Progress) (pos : Nat) : Read (Nat × Progress) := do
  let (p, key) ← readKey s (skipWhile s isBlank (pos + 1))
  if d.marks.has key .explicit || d.marks.has key .frozen then failAt p (.declaredTwice key)
  let marks := d.marks.add key .explicit false
  let root ← match d.root.updateAt true pure key with
    | .ok t => pure t
    | .error _ => failAt p .overwrite
  if s[p]? != some ']' then failAt p .unclosedHeader
  pure (p + 1, { root, marks, header := key })

/-- An array-of-tables header whose brackets start at `pos`. -/
def Progress.openArrayTable (s : Src) (d : Progress) (pos : Nat) : Read (Nat × Progress) := do
  let (p, key) ← readKey s (skipWhile s isBlank (pos + 2))
  if d.marks.has key .frozen then failAt p (.immutable key)
  let marks := (d.marks.clear key).add key .explicit false
  let root ← match d.root.updateAt true (Table.addArrayTable (key.getLastD "")) key.dropLast with
    | .ok t => pure t
    | .error _ => failAt p .overwrite
  if !startsAt s p "]]" then failAt p .unclosedArrayHeader
  pure (p + 2, { root, marks, header := key })

/-- A statement at `pos`, which is not blank, and the blanks after it. -/
def Progress.statement (s : Src) (fuel : Nat) (d : Progress) (pos : Nat) (c : Char) :
    Read (Nat × Progress) :=
  if isBareKeyChar c || c == '"' || c == '\'' then do
    let (p, key, v) ← readPair s fuel pos
    let d ← d.assign p key v
    pure (skipWhile s isBlank p, d)
  else if c == '[' then do
    let d := { d with marks := d.marks.settle }
    let (p, d) ← if s[pos + 1]? == some '[' then d.openArrayTable s pos else d.openTable s pos
    pure (skipWhile s isBlank p, d)
  else if c != '#' then failAt pos .invalidStatement
  else pure (pos, d)

/-- The statements from `pos` on. -/
def readStatements (s : Src) (fuel : Nat) : Nat → Nat → Progress → Read Progress
  | 0, _, d => pure d
  | n + 1, pos, d =>
    let pos := skipWhile s isBlank pos
    match s[pos]? with
    | none => pure d
    | some '\n' => readStatements s fuel n (pos + 1) d
    | some c => do
      let (p, d) ← d.statement s fuel pos c
      let p ← skipComment s p
      match s[p]? with
      | none => pure d
      | some '\n' => readStatements s fuel n (p + 1) d
      | some _ => failAt p .expectedLineEnd

/-- The root table of a document. Line ends written as a carriage return
and a line feed count as a line feed. -/
def readTable (text : String) : Except ReadFailure Table :=
  let s := (crlfToLf text.toList).toArray
  match readStatements s (3 * s.size + 3) (s.size + 1) 0 {} with
  | .ok d => .ok d.root
  | .error (p, pos) => .error ⟨p, spotOf s pos⟩

end ImageCatalog.Toml
