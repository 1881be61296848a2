import ImageCatalog.Pattern.Syntax
import ImageCatalog.Text.Integer
import ImageCatalog.Text.Quote
import ImageCatalog.Text.Word

/-!
# Reading patterns

`parsePattern` reads the text of a pattern into its items, or reports the
first error with the offset where it was found.

The text is read token by token: a token is one character, or a backslash
with the character after it (a backslash at the very end is an error as soon
as the reader reaches it). Literal characters, escapes, sets, repetitions
and groups are read as the pattern syntax says; flags set at the start of
the pattern apply to all of it, and the verbose flag makes blanks and `#`
comments outside sets insignificant.
-/

namespace ImageCatalog.Pattern

open ImageCatalog.Text

/-- A token: a character, or a character escaped by a backslash. -/
inductive Tok where
  | plain (c : Char)
  | esc (c : Char)
  deriving BEq, Inhabited

/-- The number of characters of a token. -/
def Tok.len : Tok → Nat
  | .plain _ => 1
  | .esc _ => 2

/-- The text of a token. -/
def Tok.text : Tok → String
  | .plain c => String.singleton c
  | .esc c => String.ofList ['\\', c]

/-- Whether a token is the plain character `c`. -/
def Tok.is (t : Option Tok) (c : Char) : Bool := t == some (.plain c)

/-- Whether a token is a plain character of `cs`. -/
def Tok.oneOf (t : Option Tok) (cs : List Char) : Bool :=
  match t with
  | some (.plain c) => cs.contains c
  | _ => false

/-- The reading state: the pattern, the reading position and the token
ahead, the flags, and what is known of the groups. -/
structure Reader where
  chars : Array Char
  index : Nat := 0
  next : Option Tok := none
  flags : Nat := 0
  names : List (String × Nat) := []
  widths : GroupWidths := #[none]
  lookbehind : Option Nat := none
  refPos : List (Nat × Nat) := []

/-- Reading a pattern. -/
abbrev ReadP := StateT Reader (Except PatternError)

/-- The offset of the token ahead. -/
def Reader.tell (r : Reader) : Nat :=
  match r.next with
  | some t => r.index - t.len
  | none => r.index

/-- Fails with `msg` at `offset` characters before the token ahead. -/
def fail {α : Type} (msg : String) (offset : Nat := 0) : ReadP α := do
  let r ← get
  throw { msg := msg, pos := some (r.tell - offset) }

/-- Reads the token at `index` into the lookahead. -/
def loadAt (i : Nat) : ReadP Unit := do
  let r ← get
  match r.chars[i]? with
  | none => set { r with index := i, next := none }
  | some c =>
    if c == '\\' then
      match r.chars[i + 1]? with
      | some d => set { r with index := i + 2, next := some (.esc d) }
      | none => throw { msg := "bad escape (end of pattern)", pos := some (r.chars.size - 1) }
    else set { r with index := i + 1, next := some (.plain c) }

/-- The token ahead, then the next one is read. -/
def take : ReadP (Option Tok) := do
  let r ← get
  loadAt r.index
  return r.next

/-- The token ahead. -/
def peek : ReadP (Option Tok) := return (← get).next

/-- Takes the token ahead when it is the plain character `c`. -/
def accept (c : Char) : ReadP Bool := do
  if Tok.is (← peek) c then
    let _ ← take
    return true
  else return false

/-- Reads at most `n` plain characters of `cs`. -/
def takeWhileIn (n : Nat) (cs : List Char) : ReadP String := do
  let mut acc := ""
  for _ in [0:n] do
    match ← peek with
    | some (.plain c) =>
      if cs.contains c then
        acc := acc.push c
        let _ ← take
      else break
    | _ => break
  return acc

/-- Reads tokens up to `stop`, for a name called `what`. -/
def takeUntil (stop : Char) (what : String) : ReadP String := do
  let mut acc := ""
  let bound := (← get).chars.size + 1
  for _ in [0:bound] do
    let t ← take
    match t with
    | none =>
      if acc.isEmpty then fail ("missing " ++ what)
      else fail ("missing " ++ String.singleton stop ++ ", unterminated name") acc.length
    | some tok =>
      if tok == .plain stop then
        if acc.isEmpty then fail ("missing " ++ what) 1
        return acc
      acc := acc ++ tok.text
  return acc

/-- Moves the reading position back to `i`. -/
def seek (i : Nat) : ReadP Unit := loadAt i

/-- The number of groups opened so far, group 0 included. -/
def groupCount : ReadP Nat := return (← get).widths.size

/-- Whether group `g` exists and is closed. -/
def groupClosed (g : Nat) : ReadP Bool := do
  let r ← get
  return g < r.widths.size && (r.widths.getD g none).isSome

/-- A reference to group `g` from inside a look-behind must be to a closed
group opened before the look-behind. -/
def checkLookbehindRef (g : Nat) : ReadP Unit := do
  match (← get).lookbehind with
  | none => pure ()
  | some lb =>
    if !(← groupClosed g) then fail "cannot refer to an open group"
    if g ≥ lb then fail "cannot refer to group defined in the same lookbehind subpattern"

/-- Whether a group name is an identifier. -/
def isIdentifier (s : String) : Bool :=
  match s.toList with
  | [] => false
  | c :: rest =>
    (c == '_' || (isAlnum c && !c.isDigit && (digitValue? c).isNone)) && rest.all isWordChar

/-- Whether a token is a letter. -/
def Tok.isAlpha : Tok → Bool
  | .plain c => isAlnum c && (digitValue? c).isNone
  | .esc _ => false

def digitChars : List Char := "0123456789".toList
def octChars : List Char := "01234567".toList
def hexChars : List Char := "0123456789abcdefABCDEF".toList

/-- The value of a hexadecimal numeral. -/
def hexValue (s : String) : Nat :=
  s.toList.foldl (fun n c =>
    n * 16 + (if c.isDigit then c.toNat - 48 else if c ≤ 'F' then c.toNat - 55 else c.toNat - 87)) 0

/-- The value of an octal numeral. -/
def octValue (s : String) : Nat := s.toList.foldl (fun n c => n * 8 + (c.toNat - 48)) 0

/-- The value of a decimal numeral. -/
def decValue (s : String) : Nat := s.toList.foldl (fun n c => n * 10 + (c.toNat - 48)) 0

/-- The control escapes `\a \f \n \r \t \v \\`, and `\b` (backspace) inside
sets. -/
def controlEscape (inSet : Bool) : Char → Option Nat
  | 'a' => some 7
  | 'b' => if inSet then some 8 else none
  | 'f' => some 12
  | 'n' => some 10
  | 'r' => some 13
  | 't' => some 9
  | 'v' => some 11
  | '\\' => some 92
  | _ => none

/-- The class escapes `\d \D \s \S \w \W`. -/
def classEscape : Char → Option Category
  | 'd' => some .digit
  | 'D' => some .notDigit
  | 's' => some .space
  | 'S' => some .notSpace
  | 'w' => some .word
  | 'W' => some .notWord
  | _ => none

/-- Reads the digits of a `\x`, `\u` or `\U` escape: `n` hexadecimal digits. -/
def hexEscape (c : Char) (n : Nat) : ReadP Nat := do
  let digits ← takeWhileIn n hexChars
  let escape := String.ofList ['\\', c] ++ digits
  if digits.length != n then fail ("incomplete escape " ++ escape) escape.length
  let v := hexValue digits
  if v > 0x10FFFF then fail ("bad escape " ++ escape) escape.length
  return v

/-- A member read from an escape inside a set. -/
def setEscape (c : Char) : ReadP Member := do
  if let some v := controlEscape true c then return .lit v
  if let some k := classEscape c then return .category k
  if c == 'x' then return .lit (← hexEscape c 2)
  if c == 'u' then return .lit (← hexEscape c 4)
  if c == 'U' then return .lit (← hexEscape c 8)
  if c == 'N' then
    if !(← accept '\x7b') then fail "missing \x7b"
    let name ← takeUntil '\x7d' "character name"
    fail ("undefined character name " ++ quote name) (name.length + 4)
  if octChars.contains c then
    let more ← takeWhileIn 2 octChars
    let escape := String.ofList ['\\', c] ++ more
    let v := octValue (String.singleton c ++ more)
    if v > 0o377 then fail ("octal escape value " ++ escape ++ " outside of range 0-0o377") escape.length
    return .lit v
  if c.isDigit || (c.toNat < 128 && c.isAlpha) then fail ("bad escape " ++ String.ofList ['\\', c]) 2
  return .lit c.toNat

/-- An item read from an escape outside sets. -/
def itemEscape (c : Char) : ReadP Item := do
  match c with
  | 'A' => return .anchor .beginningString
  | 'Z' => return .anchor .endString
  | 'b' => return .anchor .boundary
  | 'B' => return .anchor .nonBoundary
  | _ => pure ()
  if let some k := classEscape c then return .set false [.category k]
  if let some v := controlEscape false c then return .lit v
  if c == 'x' then return .lit (← hexEscape c 2)
  if c == 'u' then return .lit (← hexEscape c 4)
  if c == 'U' then return .lit (← hexEscape c 8)
  if c == 'N' then
    if !(← accept '\x7b') then fail "missing \x7b"
    let name ← takeUntil '\x7d' "character name"
    fail ("undefined character name " ++ quote name) (name.length + 4)
  if c == '0' then
    let more ← takeWhileIn 2 octChars
    return .lit (octValue more)
  if c.isDigit then
    let mut escape := String.ofList ['\\', c]
    if Tok.oneOf (← peek) digitChars then
      let d ← take
      let d := match d with
        | some (.plain x) => x
        | _ => '0'
      escape := escape.push d
      if octChars.contains c && octChars.contains d && Tok.oneOf (← peek) octChars then
        let e ← take
        let e := match e with
          | some (.plain x) => x
          | _ => '0'
        escape := escape.push e
        let v := octValue (String.ofList [c, d, e])
        if v > 0o377 then
          fail ("octal escape value " ++ escape ++ " outside of range 0-0o377") escape.length
        return .lit v
    let g := decValue (escape.drop 1).toString
    if g < (← groupCount) then
      if !(← groupClosed g) then fail "cannot refer to an open group" escape.length
      checkLookbehindRef g
      return .backref g
    fail ("invalid group reference " ++ toString g) (escape.length - 1)
  if c.toNat < 128 && c.isAlpha then fail ("bad escape " ++ String.ofList ['\\', c]) 2
  return .lit c.toNat

/-- Reads inline flags after `(?`, starting with `first`: `none` for flags
of the whole pattern (ended by `)`), else the flags switched on and off for
a group (ended by `:`). -/
def readFlags (first : Tok) : ReadP (Option (Nat × Nat)) := do
  let mut add := 0
  let mut del := 0
  let mut cur := first
  let bound := (← get).chars.size + 1
  if cur != .plain '-' then
    for _ in [0:bound] do
      let flag := match cur with
        | .plain ch => (flagOfLetter ch).getD 0
        | _ => 0
      if cur == .plain 'L' then fail "bad inline flags: cannot use 'L' flag with a str pattern"
      add := add ||| flag
      if flag &&& typeFlags != 0 && add &&& typeFlags != flag then
        fail "bad inline flags: flags 'a', 'u' and 'L' are incompatible"
      match ← take with
      | none => fail "missing -, : or )"
      | some t =>
        cur := t
        if Tok.oneOf (some t) [')', '-', ':'] then break
        let known := match t with
          | .plain ch => (flagOfLetter ch).isSome
          | _ => false
        if !known then fail (if t.isAlpha then "unknown flag" else "missing -, : or )") t.len
  if cur == .plain ')' then
    modify fun r => { r with flags := r.flags ||| add }
    return none
  if add &&& globalFlags != 0 then fail "bad inline flags: cannot turn on global flag" 1
  if cur == .plain '-' then
    match ← take with
    | none => fail "missing flag"
    | some t =>
      cur := t
      let known := match t with
        | .plain ch => (flagOfLetter ch).isSome
        | _ => false
      if !known then fail (if t.isAlpha then "unknown flag" else "missing flag") t.len
    for _ in [0:bound] do
      let flag := match cur with
        | .plain ch => (flagOfLetter ch).getD 0
        | _ => 0
      if flag &&& typeFlags != 0 then fail "bad inline flags: cannot turn off flags 'a', 'u' and 'L'"
      del := del ||| flag
      match ← take with
      | none => fail "missing :"
      | some t =>
        cur := t
        if t == .plain ':' then break
        let known := match t with
          | .plain ch => (flagOfLetter ch).isSome
          | _ => false
        if !known then fail (if t.isAlpha then "unknown flag" else "missing :") t.len
  if del &&& globalFlags != 0 then fail "bad inline flags: cannot turn off global flag" 1
  if add &&& del != 0 then fail "bad inline flags: flag turned on and off" 1
  return some (add, del)

/-- Reads a set after `[`, which stands at `here`. -/
def readSet (here : Nat) : ReadP Item := do
  let negate ← accept '^'
  let mut members : Array Member := #[]
  let bound := (← get).chars.size + 1
  for _ in [0:bound] do
    let this ← take
    match this with
    | none =>
      let r ← get
      fail "unterminated character set" (r.tell - here)
    | some tok =>
      if tok == .plain ']' && !members.isEmpty then break
      let code1 ← match tok with
        | .esc c => setEscape c
        | .plain c => pure (Member.lit c.toNat)
      if ← accept '-' then
        match ← take with
        | none =>
          let r ← get
          fail "unterminated character set" (r.tell - here)
        | some that =>
          if that == .plain ']' then
            members := members.push code1 |>.push (.lit 45)
            break
          let code2 ← match that with
            | .esc c => setEscape c
            | .plain c => pure (Member.lit c.toNat)
          let msg := "bad character range " ++ tok.text ++ "-" ++ that.text
          match code1, code2 with
          | .lit lo, .lit hi =>
            if hi < lo then fail msg (tok.len + 1 + that.len)
            members := members.push (.range lo hi)
          | _, _ => fail msg (tok.len + 1 + that.len)
      else members := members.push code1
  let ms := members.toList.eraseDups
  match ms with
  | [.lit c] => return if negate then .notLit c else .lit c
  | _ => return .set negate ms

/-- Splices the non-capturing groups without flags into their sequence. -/
def unpackGroups (items : List Item) : List Item :=
  items.flatMap fun it =>
    match it with
    | .group none 0 0 body => body
    | other => [other]

mutual
/-- Reads alternatives separated by `|` (a sub-pattern). `depth` bounds the
nesting of groups. -/
def readAlternatives (depth : Nat) (verbose : Bool) (nested : Nat) : ReadP (List Item) := do
  let mut alts : Array (List Item) := #[]
  let bound := (← get).chars.size + 1
  for _ in [0:bound] do
    let seq ← readSequence depth verbose (nested + 1) (nested == 0 && alts.isEmpty)
    alts := alts.push seq
    if !(← accept '|') then break
  match alts.toList with
  | [one] => return one
  | many => return [.branch many]
termination_by 2 * depth + 1

/-- Reads a sequence of items up to `|`, `)` or the end. -/
def readSequence (depth : Nat) (verbose : Bool) (nested : Nat) (first : Bool) :
    ReadP (List Item) := do
  let mut items : Array Item := #[]
  let mut verbose := verbose
  let bound := (← get).chars.size + 1
  for _ in [0:bound] do
    let ahead ← peek
    match ahead with
    | none => break
    | some this =>
    if Tok.oneOf ahead ['|', ')'] then break
    let _ ← take
    if verbose && Tok.oneOf ahead [' ', '\t', '\n', '\r', '\x0b', '\x0c'] then continue
    if verbose && this == .plain '#' then
      for _ in [0:bound] do
        match ← take with
        | none => break
        | some t => if t == .plain '\n' then break
      continue
    match this with
    | .esc c => items := items.push (← itemEscape c)
    | .plain c =>
      if !".\\[\x7b()*+?^$|".toList.contains c then items := items.push (.lit c.toNat)
      else if c == '[' then
        let here := (← get).tell - 1
        items := items.push (← readSet here)
      else if c == '*' || c == '+' || c == '?' || c == '\x7b' then
        let here := (← get).tell
        let mut lo := 0
        let mut hi := maxRepeat
        let mut literal := false
        if c == '?' then hi := 1
        else if c == '+' then lo := 1
        else if c == '\x7b' then
          if Tok.is (← peek) '\x7d' then
            literal := true
          else
            let loText ← takeWhileIn bound digitChars
            let hiText ← if ← accept ',' then takeWhileIn bound digitChars else pure loText
            if !(← accept '\x7d') then
              seek here
              literal := true
            else
              if !loText.isEmpty then
                lo := decValue loText
                if lo ≥ maxRepeat then throw { msg := "the repetition number is too large", kind := .tooLarge }
              if !hiText.isEmpty then
                hi := decValue hiText
                if hi ≥ maxRepeat then throw { msg := "the repetition number is too large", kind := .tooLarge }
                if hi < lo then
                  let r ← get
                  fail "min repeat greater than max repeat" (r.tell - here)
        if literal then items := items.push (.lit c.toNat)
        else
          let r ← get
          let offset := r.tell - here + 1
          match items.back? with
          | none => fail "nothing to repeat" offset
          | some (.anchor _) => fail "nothing to repeat" offset
          | some (.rep _ _ _ _) => fail "multiple repeat" offset
          | some last =>
            let body := match last with
              | .group none 0 0 b => b
              | other => [other]
            let lazy ← accept '?'
            let possessive ← if lazy then pure false else accept '+'
            let mode := if lazy then RepeatMode.lazy
              else if possessive then RepeatMode.possessive else RepeatMode.greedy
            items := items.pop.push (.rep lo hi mode body)
      else if c == '.' then items := items.push .any
      else if c == '^' then items := items.push (.anchor .beginning)
      else if c == '$' then items := items.push (.anchor .ending)
      else if c == '(' then
        match depth with
        | 0 => fail "too many nested groups"
        | d + 1 =>
        let start := (← get).tell - 1
        let mut capture := true
        let mut atomic := false
        let mut name : Option String := none
        let mut addF := 0
        let mut delF := 0
        let mut handled := false
        if ← accept '?' then
          match ← take with
          | none => fail "unexpected end of pattern"
          | some ch =>
            if ch == .plain 'P' then
              if ← accept '<' then
                let n ← takeUntil '>' "group name"
                if !isIdentifier n then fail ("bad character in group name " ++ quote n) (n.length + 1)
                name := some n
              else if ← accept '=' then
                let n ← takeUntil ')' "group name"
                if !isIdentifier n then fail ("bad character in group name " ++ quote n) (n.length + 1)
                match (← get).names.find? (·.1 == n) with
                | none => fail ("unknown group name " ++ quote n) (n.length + 1)
                | some (_, g) =>
                  if !(← groupClosed g) then fail "cannot refer to an open group" (n.length + 1)
                  checkLookbehindRef g
                  items := items.push (.backref g)
                  handled := true
              else
                match ← take with
                | none => fail "unexpected end of pattern"
                | some t => fail ("unknown extension ?P" ++ t.text) (t.len + 2)
            else if ch == .plain ':' then capture := false
            else if ch == .plain '#' then
              for _ in [0:bound] do
                if (← peek).isNone then
                  let r ← get
                  fail "missing ), unterminated comment" (r.tell - start)
                if (← take) == some (.plain ')') then break
              handled := true
            else if Tok.oneOf (some ch) ['=', '!', '<'] then
              let mut kind := ch
              let mut behind := false
              let saved := (← get).lookbehind
              if ch == .plain '<' then
                match ← take with
                | none => fail "unexpected end of pattern"
                | some t =>
                  if !Tok.oneOf (some t) ['=', '!'] then fail ("unknown extension ?<" ++ t.text) (t.len + 2)
                  kind := t
                  behind := true
                  if saved.isNone then
                    let n ← groupCount
                    modify fun r => { r with lookbehind := some n }
              let body ← readAlternatives d verbose (nested + 1)
              if behind && saved.isNone then modify fun r => { r with lookbehind := none }
              if !(← accept ')') then
                let r ← get
                fail "missing ), unterminated subpattern" (r.tell - start)
              items := items.push (.assert behind (kind == .plain '!') body)
              handled := true
            else if ch == .plain '(' then
              let condName ← takeUntil ')' "group name"
              let mut condGroup := 0
              if isIdentifier condName then
                match (← get).names.find? (·.1 == condName) with
                | none => fail ("unknown group name " ++ quote condName) (condName.length + 1)
                | some (_, g) => condGroup := g
              else
                match parseInteger? condName with
                | some v =>
                  if v < 0 then fail ("bad character in group name " ++ quote condName) (condName.length + 1)
                  if v == 0 then fail "bad group number" (condName.length + 1)
                  if v ≥ maxGroups then
                    fail ("invalid group reference " ++ toString v) (condName.length + 1)
                  condGroup := v.toNat
                  let r ← get
                  if !(r.refPos.any (·.1 == condGroup)) then
                    set { r with refPos := r.refPos ++ [(condGroup, r.tell - condName.length - 1)] }
                | none => fail ("bad character in group name " ++ quote condName) (condName.length + 1)
              checkLookbehindRef condGroup
              let yes ← readSequence d verbose (nested + 1) false
              let no ← if ← accept '|' then
                  let n ← readSequence d verbose (nested + 1) false
                  if Tok.is (← peek) '|' then fail "conditional backref with more than two branches"
                  pure (some n)
                else pure none
              if !(← accept ')') then
                let r ← get
                fail "missing ), unterminated subpattern" (r.tell - start)
              items := items.push (.cond condGroup yes no)
              handled := true
            else if ch == .plain '>' then
              capture := false
              atomic := true
            else if ch == .plain '-' || (match ch with
                | .plain x => (flagOfLetter x).isSome
                | _ => false) then
              match ← readFlags ch with
              | none =>
                if !first || !items.isEmpty then
                  let r ← get
                  fail "global flags not at the start of the expression" (r.tell - start)
                verbose := hasFlag (← get).flags flagVerbose
                handled := true
              | some (a, dl) =>
                addF := a
                delF := dl
                capture := false
            else fail ("unknown extension ?" ++ ch.text) (ch.len + 1)
        if !handled then
          let mut group : Option Nat := none
          if capture then
            let g ← groupCount
            match name with
            | some n =>
              match (← get).names.find? (·.1 == n) with
              | some (_, og) =>
                fail ("redefinition of group name " ++ quote n ++ " as group " ++ toString g ++
                  "; was group " ++ toString og) (n.length + 1)
              | none => modify fun r => { r with names := r.names ++ [(n, g)] }
            | none => pure ()
            modify fun r => { r with widths := r.widths.push none }
            group := some g
          let subVerbose := (verbose || hasFlag addF flagVerbose) && !hasFlag delF flagVerbose
          let body ← readAlternatives d subVerbose (nested + 1)
          if !(← accept ')') then
            let r ← get
            fail "missing ), unterminated subpattern" (r.tell - start)
          if let some g := group then
            let w := seqWidth (← get).widths body
            modify fun r => { r with widths := r.widths.set! g (some w) }
          if atomic then items := items.push (.atomic body)
          else items := items.push (.group group addF delF body)
      else pure ()
  return unpackGroups items.toList
termination_by 2 * depth
end

/-- Settles the character classes of a pattern: unicode unless ASCII is
asked for; the locale flag and ASCII with unicode are refused. -/
def settleFlags (flags : Nat) : Except PatternError Nat :=
  if hasFlag flags flagLocale then
    throw { msg := "cannot use LOCALE flag with a str pattern", kind := .badFlags }
  else if !hasFlag flags flagAscii then pure (flags ||| flagUnicode)
  else if hasFlag flags flagUnicode then
    throw { msg := "ASCII and UNICODE flags are incompatible", kind := .badFlags }
  else pure flags

/-- The items of a pattern read with the flags `flags`, with the flags the
pattern sets for itself added. -/
def parsePattern (pattern : String) (flags : Nat) : Except PatternError (List Item × Nat × GroupWidths) :=
  let run : ReadP (List Item × Nat × GroupWidths) := do
    modify fun r => { r with flags := flags }
    loadAt 0
    let items ← readAlternatives (pattern.length + 1) (hasFlag flags flagVerbose) 0
    let settled ← match settleFlags (← get).flags with
      | .ok f => pure f
      | .error e => throw e
    modify fun r => { r with flags := settled }
    if (← peek).isSome then fail "unbalanced parenthesis"
    let r ← get
    for (g, pos) in r.refPos do
      if g ≥ r.widths.size then
        throw { msg := "invalid group reference " ++ toString g, pos := some pos }
    return (items, r.flags, r.widths)
  (run.run { chars := pattern.toList.toArray }).map (·.1)

end ImageCatalog.Pattern
