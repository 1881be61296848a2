import ImageCatalog.Toml.Text
import ImageCatalog.Text.Quote

/-!
# Scanning a document for editing

The layout-keeping reader walks a document with a cursor: the position of
the current character and a mark where the text being taken in began. Past
the end the current character reads as NUL, and a NUL reads as the end.

A failure names its cause (`Problem`) and, for a syntax error, the line and
column of the cursor when it was found. Lines are the pieces between line
boundaries (line feed, vertical tab, form feed, the separators U+001C to
U+001E, U+0085, U+2028 and U+2029), counted from one; columns are counted
from zero. A cursor past the last line stands at column zero of the last
line.

A failure also carries the cursor it leaves behind, because some steps undo
their moves before the failure travels on, and a caller may go on from
there.
-/

namespace ImageCatalog.Toml.Layout

open ImageCatalog.Toml

/-- Why a document cannot be taken in or written. -/
inductive Problem where
  | unexpected (text : String)
  | unexpectedEnd
  | emptyKey
  | emptyTableName
  | invalidKey (text : String)
  | invalidNumber
  | invalidDate
  | invalidTime
  | invalidDateTime
  | invalidUnicode
  | invalidCharInString (c : Char)
  | controlChar (code : Nat) (place : String)
  | keyExists (name : String)
  | tableRedefined
  | unconvertible (kind : String)
  deriving Repr, BEq

/-- The text of a problem. -/
def Problem.message : Problem → String
  | .unexpected t => "Unexpected character: " ++ Text.quote t
  | .unexpectedEnd => "Unexpected end of file"
  | .emptyKey => "Empty key"
  | .emptyTableName => "Empty table name"
  | .invalidKey t => "Invalid key \"" ++ t ++ "\""
  | .invalidNumber => "Invalid number"
  | .invalidDate => "Invalid date"
  | .invalidTime => "Invalid time"
  | .invalidDateTime => "Invalid datetime"
  | .invalidUnicode => "Invalid unicode value"
  | .invalidCharInString c => "Invalid character " ++ Text.quote (String.singleton c) ++ " in string"
  | .controlChar code place =>
    "Control characters (codes less than 0x1f and 0x7f) are not allowed in " ++ place ++
      ", use \\u00" ++ (if code < 16 then "0" else "") ++ String.ofList (Nat.toDigits 16 code) ++
      " instead"
  | .keyExists k => "Key \"" ++ k ++ "\" already exists."
  | .tableRedefined => "Redefinition of an existing table"
  | .unconvertible kind => "Unable to convert an object of <class '" ++ kind ++ "'> to a TOML item"

/-- A failure: the cause, and the line and column where a syntax error was
found. -/
structure Failure where
  problem : Problem
  place : Option (Nat × Nat) := none
  deriving Repr, BEq

/-- The text of a failure. -/
def Failure.message (f : Failure) : String :=
  match f.place with
  | some (l, c) => f.problem.message ++ " at line " ++ toString l ++ " col " ++ toString c
  | none => f.problem.message

/-- A character that ends a line for counting lines. -/
def isLineBoundary (c : Char) : Bool :=
  c == '\n' || c == '\r' || c == '\x0b' || c == '\x0c' || c == '\x1c' || c == '\x1d' ||
    c == '\x1e' || c == '\x85' || c == '\u2028' || c == '\u2029'

/-- The lengths of the lines of a text, given the length `n` of the line
being read; a boundary at the very end opens no further line. -/
def lineLengths : List Char → Nat → List Nat
  | [], n => if n == 0 then [] else [n]
  | c :: rest, n => if isLineBoundary c then n :: lineLengths rest 0 else lineLengths rest (n + 1)

/-- The line (from one) and column (from zero) of a position. -/
def placeOf (s : Src) (pos : Nat) : Nat × Nat :=
  let rec walk : List Nat → Nat → Nat → Nat × Nat
    | [], i, _ => (i, 0)
    | len :: rest, i, cur => if cur + len + 1 > pos then (i + 1, pos - cur) else walk rest (i + 1) (cur + len + 1)
  walk (lineLengths s.toList 0) 0 0

/-- The cursor: where the current character is and where the text being
taken in began. -/
structure Cursor where
  idx : Nat := 0
  mark : Nat := 0
  deriving Repr, BEq, Inhabited

/-- A failure on its way, with the cursor it leaves behind. -/
structure Halt where
  failure : Failure
  cursor : Cursor

/-- A scanning step over a source text. -/
abbrev Scan := ReaderT Src (StateT Cursor (Except Halt))

/-- The current character; NUL past the end. -/
def current : Scan Char := do
  let s ← read
  pure (s[(← get).idx]?.getD '\x00')

/-- Whether the scan is at the end (or at a NUL). -/
def atEnd : Scan Bool := return (← current) == '\x00'

/-- Moves to the next character; false when that runs past the end. -/
def advance : Scan Bool := do
  let s ← read
  let c ← get
  let i := min (c.idx + 1) s.size
  set { c with idx := i }
  pure (i < s.size)

/-- Sets the mark at the cursor. -/
def setMark : Scan Unit := modify fun c => { c with mark := c.idx }

/-- The text from the mark to the cursor. -/
def taken : Scan String := do
  let c ← get
  pure (slice (← read) c.mark c.idx)

/-- Fails with a syntax error at the cursor. -/
def fail (p : Problem) : Scan α := do
  let c ← get
  throw ⟨⟨p, some (placeOf (← read) c.idx)⟩, c⟩

/-- Fails without a place. -/
def failPlain (p : Problem) : Scan α := do
  throw ⟨⟨p, none⟩, ← get⟩

/-- Moves on, failing at the end of the document. -/
def advanceOrEnd : Scan Unit := do
  if !(← advance) then fail .unexpectedEnd

/-- Moves while the current character passes `p`. -/
def skipWhileC (p : Char → Bool) : Scan Unit := do
  let s ← read
  modify fun c => { c with idx := skipWhile s p c.idx }

/-- Runs a step; when it fails, the cursor goes back to where it was, while
the mark and the failure stay. -/
def guarded (x : Scan α) : Scan α := do
  let saved ← get
  tryCatch x fun h => throw { h with cursor := { h.cursor with idx := saved.idx } }

/-- Runs a step and puts cursor and mark back afterwards. -/
def lookAhead (x : Scan α) : Scan α := do
  let saved ← get
  let r ← tryCatch x fun h => throw { h with cursor := saved }
  set saved
  pure r

/-- Runs a step and puts the cursor, not the mark, back afterwards. -/
def peekKeepMark (x : Scan α) : Scan α := do
  let saved ← get
  let r ← tryCatch x fun h => throw { h with cursor := { h.cursor with idx := saved.idx } }
  modify fun c => { c with idx := saved.idx }
  pure r

/-- Takes exactly the character `want`: otherwise fails at the character
found. -/
def expectChar (want : Char) : Scan Unit := do
  let c ← current
  if c == want then
    let _ ← advance
    pure ()
  else fail (.unexpected (String.singleton c))

/-- Spaces and tabs. -/
def isSpace (c : Char) : Bool := c == ' ' || c == '\t'

/-- Spaces, tabs and line ends. -/
def isWs (c : Char) : Bool := c == ' ' || c == '\t' || c == '\n' || c == '\r'

/-- The characters that end a bare value. -/
def endsBareValue (c : Char) : Bool :=
  c == ' ' || c == '\t' || c == '\n' || c == '\r' || c == '#' || c == ',' || c == ']' || c == '}'

end ImageCatalog.Toml.Layout
