import ImageCatalog.Xml.ReadError
import ImageCatalog.Xml.NameChar

/-!
# Tokens of a document

The scanners that cut a document into its tokens: start tags with their raw
attributes, end tags, references, comments, processing instructions,
character data sections, and the tokens that may stand outside the root
element. Each scanner walks the characters once, and reports the first
character that cannot continue its token (`invalidToken` at that character)
or the end of the input inside a token (`unclosedToken` at the token's
start).
-/

namespace ImageCatalog.Xml

/-- Characters that may occur in a document. -/
def isXmlChar (c : Char) : Bool :=
  let n := c.toNat
  n == 0x9 || n == 0xA || n == 0xD || (0x20 ≤ n && n ≤ 0xD7FF) ||
    (0xE000 ≤ n && n ≤ 0xFFFD) || 0x10000 ≤ n

/-- Code points that a character reference may denote. -/
def isCharCode (n : Nat) : Bool :=
  n == 0x9 || n == 0xA || n == 0xD || (0x20 ≤ n && n ≤ 0xD7FF) ||
    (0xE000 ≤ n && n ≤ 0xFFFD) || (0x10000 ≤ n && n ≤ 0x10FFFF)

/-- The blanks of markup: space, tab, line feed, carriage return. -/
def isXmlSpace (c : Char) : Bool := c == ' ' || c == '\t' || c == '\n' || c == '\r'

/-- Hexadecimal digits. -/
def hexValue? (c : Char) : Option Nat :=
  if '0' ≤ c ∧ c ≤ '9' then some (c.toNat - '0'.toNat)
  else if 'a' ≤ c ∧ c ≤ 'f' then some (c.toNat - 'a'.toNat + 10)
  else if 'A' ≤ c ∧ c ≤ 'F' then some (c.toNat - 'A'.toNat + 10)
  else none

/-- The outcome of a scan: a value, or the fault that stops reading. -/
abbrev Scan := Except ReadFault

/-- Stops reading with `e` at offset `pos`. -/
def Scan.fail {α : Type} (e : ReadError) (pos : Nat) : Scan α :=
  .error { error := e, offset := pos }

/-- The characters at the front of `cs` that satisfy `p`, with the rest and
the offset after them. -/
def skipWhile (p : Char → Bool) : List Char → Nat → List Char × Nat
  | [], pos => ([], pos)
  | c :: rest, pos => if p c then skipWhile p rest (pos + 1) else (c :: rest, pos)

/-! ## References -/

/-- A reference: to a named entity, or to a character by its code. -/
inductive Ref where
  | entity (name : String)
  | char (code : Nat)
  deriving Repr

/-- Where a reference scan stands: after `&`, in a name, after `&#`, in a
decimal number, after `&#x`, or in a hexadecimal number. -/
inductive RefMode where
  | amp | name | hash | dec | hexStart | hex
  deriving BEq

/-- One step of a reference scan: the next mode, or `none` when `c` cannot
continue the reference. `;` ends it (mode kept and reported by the caller). -/
def RefMode.step : RefMode → Char → Option RefMode
  | .amp, c => if isNameStart c then some .name else if c == '#' then some .hash else none
  | .name, c => if isNameChar c then some .name else none
  | .hash, c => if c == 'x' then some .hexStart else if c.isDigit then some .dec else none
  | .dec, c => if c.isDigit then some .dec else none
  | .hexStart, c => if (hexValue? c).isSome then some .hex else none
  | .hex, c => if (hexValue? c).isSome then some .hex else none

/-- Whether `;` may end a reference in this mode. -/
def RefMode.complete : RefMode → Bool
  | .name | .dec | .hex => true
  | _ => false

/-- Reads a reference whose `&` stands at `start`; `acc` holds the characters
after `&` read so far, last first. -/
def scanRef (start : Nat) (mode : RefMode) (acc : List Char) :
    List Char → Nat → Scan (Ref × List Char × Nat)
  | [], _ => Scan.fail .unclosedToken start
  | c :: rest, pos =>
    if c == ';' && mode.complete then
      let body := acc.reverse
      let ref := match body with
        | '#' :: 'x' :: digits => Ref.char (digits.foldl (fun n d => n * 16 + (hexValue? d).getD 0) 0)
        | '#' :: digits => Ref.char (digits.foldl (fun n d => n * 10 + (d.toNat - '0'.toNat)) 0)
        | name => Ref.entity (String.ofList name)
      .ok (ref, rest, pos + 1)
    else
      match mode.step c with
      | some m => scanRef start m (c :: acc) rest (pos + 1)
      | none => Scan.fail .invalidToken pos

/-! ## Start tags -/

/-- An attribute as written: its name, the offset of the name, its value
between the quotes, and the offset of the value's first character. -/
structure RawAttr where
  name : List Char
  namePos : Nat
  value : List Char
  valuePos : Nat
  deriving Inhabited

/-- A start tag as written. -/
structure RawTag where
  name : List Char
  attrs : List RawAttr
  empty : Bool
  deriving Inhabited

/-- Where a start-tag scan stands. A name's `colon` is 0 before any colon,
1 right after one (a name-start character must follow), 2 after that. -/
inductive TagMode where
  | elemName (acc : List Char) (colon : Nat)
  | beforeAttr
  | attrName (acc : List Char) (colon : Nat) (namePos : Nat)
  | beforeEq (name : List Char) (namePos : Nat)
  | beforeValue (name : List Char) (namePos : Nat)
  | value (name : List Char) (namePos : Nat) (quote : Char) (acc : List Char)
      (ref : Option RefMode) (valuePos : Nat)
  | afterValue
  | slash

/-- The next mode of a name scan on `c`, or `none` when `c` ends the name. An
invalid continuation after a colon is `some none`. -/
def nameStep (colon : Nat) (c : Char) : Option (Option Nat) :=
  if colon == 1 then some (if isNameStart c then some 2 else none)
  else if isNameChar c then some (some colon)
  else if c == ':' then some (if colon == 2 then none else some 1)
  else none

/-- Reads a start tag whose `<` stands at `start`, up to its `>`. The element
name is kept in the mode; `attrs` holds the attributes read, last first. -/
def scanTag (start : Nat) (elem : List Char) (attrs : List RawAttr) :
    TagMode → List Char → Nat → Scan (RawTag × List Char × Nat)
  | _, [], _ => Scan.fail .unclosedToken start
  | mode, c :: rest, pos =>
    let done (empty : Bool) : Scan (RawTag × List Char × Nat) :=
      .ok ({ name := elem, attrs := attrs.reverse, empty := empty }, rest, pos + 1)
    match mode with
    | .elemName acc colon =>
      match nameStep colon c with
      | some (some k) => scanTag start elem attrs (.elemName (c :: acc) k) rest (pos + 1)
      | some none => Scan.fail .invalidToken pos
      | none =>
        let name := acc.reverse
        if isXmlSpace c then scanTag start name attrs .beforeAttr rest (pos + 1)
        else if c == '>' then .ok ({ name := name, attrs := [], empty := false }, rest, pos + 1)
        else if c == '/' then scanTag start name attrs .slash rest (pos + 1)
        else Scan.fail .invalidToken pos
    | .beforeAttr =>
      if isXmlSpace c then scanTag start elem attrs .beforeAttr rest (pos + 1)
      else if isNameStart c then scanTag start elem attrs (.attrName [c] 0 pos) rest (pos + 1)
      else if c == '>' then done false
      else if c == '/' then scanTag start elem attrs .slash rest (pos + 1)
      else Scan.fail .invalidToken pos
    | .attrName acc colon namePos =>
      match nameStep colon c with
      | some (some k) => scanTag start elem attrs (.attrName (c :: acc) k namePos) rest (pos + 1)
      | some none => Scan.fail .invalidToken pos
      | none =>
        if isXmlSpace c then scanTag start elem attrs (.beforeEq acc.reverse namePos) rest (pos + 1)
        else if c == '=' then scanTag start elem attrs (.beforeValue acc.reverse namePos) rest (pos + 1)
        else Scan.fail .invalidToken pos
    | .beforeEq name namePos =>
      if isXmlSpace c then scanTag start elem attrs (.beforeEq name namePos) rest (pos + 1)
      else if c == '=' then scanTag start elem attrs (.beforeValue name namePos) rest (pos + 1)
      else Scan.fail .invalidToken pos
    | .beforeValue name namePos =>
      if isXmlSpace c then scanTag start elem attrs (.beforeValue name namePos) rest (pos + 1)
      else if c == '"' || c == '\'' then
        scanTag start elem attrs (.value name namePos c [] none (pos + 1)) rest (pos + 1)
      else Scan.fail .invalidToken pos
    | .value name namePos quote acc ref valuePos =>
      match ref with
      | none =>
        if c == quote then
          let attr : RawAttr := ⟨name, namePos, acc.reverse, valuePos⟩
          scanTag start elem (attr :: attrs) .afterValue rest (pos + 1)
        else if !isXmlChar c || c == '<' then Scan.fail .invalidToken pos
        else if c == '&' then
          scanTag start elem attrs (.value name namePos quote (c :: acc) (some .amp) valuePos) rest (pos + 1)
        else scanTag start elem attrs (.value name namePos quote (c :: acc) none valuePos) rest (pos + 1)
      | some m =>
        if c == ';' && m.complete then
          scanTag start elem attrs (.value name namePos quote (c :: acc) none valuePos) rest (pos + 1)
        else
          match m.step c with
          | some m' =>
            scanTag start elem attrs (.value name namePos quote (c :: acc) (some m') valuePos) rest (pos + 1)
          | none => Scan.fail .invalidToken pos
    | .afterValue =>
      if isXmlSpace c then scanTag start elem attrs .beforeAttr rest (pos + 1)
      else if c == '>' then done false
      else if c == '/' then scanTag start elem attrs .slash rest (pos + 1)
      else Scan.fail .invalidToken pos
    | .slash =>
      if c == '>' then done true else Scan.fail .invalidToken pos

/-! ## End tags -/

/-- Where an end-tag scan stands: at the first name character, inside the
name, or in the blanks after it. -/
inductive EndMode where
  | first | name | blanks

/-- Reads an end tag whose `<` stands at `start`, from after `</` up to
`>`; returns the name as written. -/
def scanEndTag (start : Nat) (acc : List Char) :
    EndMode → List Char → Nat → Scan (List Char × List Char × Nat)
  | _, [], _ => Scan.fail .unclosedToken start
  | .first, c :: rest, pos =>
    if isNameStart c then scanEndTag start [c] .name rest (pos + 1)
    else Scan.fail .invalidToken pos
  | .name, c :: rest, pos =>
    if isNameChar c || c == ':' then scanEndTag start (c :: acc) .name rest (pos + 1)
    else if isXmlSpace c then scanEndTag start acc .blanks rest (pos + 1)
    else if c == '>' then .ok (acc.reverse, rest, pos + 1)
    else Scan.fail .invalidToken pos
  | .blanks, c :: rest, pos =>
    if isXmlSpace c then scanEndTag start acc .blanks rest (pos + 1)
    else if c == '>' then .ok (acc.reverse, rest, pos + 1)
    else Scan.fail .invalidToken pos

/-! ## Comments, processing instructions, character data sections -/

/-- Reads a comment body after `<!--` up to `-->`. `dashes` counts the dashes
just read; two dashes must be followed by `>`. -/
def scanComment (start : Nat) (dashes : Nat) : List Char → Nat → Scan (List Char × Nat)
  | [], _ => Scan.fail .unclosedToken start
  | c :: rest, pos =>
    if dashes == 2 then
      if c == '>' then .ok (rest, pos + 1) else Scan.fail .invalidToken pos
    else if c == '-' then scanComment start (dashes + 1) rest (pos + 1)
    else if !isXmlChar c then Scan.fail .invalidToken pos
    else scanComment start 0 rest (pos + 1)

/-- Whether a target spells `xml` with some capital letters, which no
processing instruction may use. -/
def isReservedTarget (target : List Char) : Bool :=
  target.length == 3 && target.map Char.toLower == ['x', 'm', 'l'] && target != ['x', 'm', 'l']

/-- A processing instruction: its target and what follows the target up to
`?>`, the blank after the target included. -/
structure RawInstruction where
  target : List Char
  body : List Char

/-- Where a processing-instruction scan stands: in the target, in the body,
after a `?` in the body, or after a `?` that ends the target. -/
inductive PiMode where
  | target | body | bodyQuest | targetQuest

/-- Reads a processing instruction after `<?`, up to `?>`. The first target
character has been checked by the caller. -/
def scanPi (start : Nat) (target body : List Char) :
    PiMode → List Char → Nat → Scan (RawInstruction × List Char × Nat)
  | _, [], _ => Scan.fail .unclosedToken start
  | .target, c :: rest, pos =>
    if isNameChar c then scanPi start (c :: target) body .target rest (pos + 1)
    else if isXmlSpace c then
      if isReservedTarget target.reverse then Scan.fail .invalidToken pos
      else scanPi start target (c :: body) .body rest (pos + 1)
    else if c == '?' then
      if isReservedTarget target.reverse then Scan.fail .invalidToken pos
      else scanPi start target body .targetQuest rest (pos + 1)
    else Scan.fail .invalidToken pos
  | .targetQuest, c :: rest, pos =>
    if c == '>' then .ok (⟨target.reverse, []⟩, rest, pos + 1)
    else Scan.fail .invalidToken pos
  | .body, c :: rest, pos =>
    if c == '?' then scanPi start target body .bodyQuest rest (pos + 1)
    else if !isXmlChar c then Scan.fail .invalidToken pos
    else scanPi start target (c :: body) .body rest (pos + 1)
  | .bodyQuest, c :: rest, pos =>
    if c == '>' then .ok (⟨target.reverse, body.reverse⟩, rest, pos + 1)
    else if c == '?' then scanPi start target ('?' :: body) .bodyQuest rest (pos + 1)
    else if !isXmlChar c then Scan.fail .invalidToken pos
    else scanPi start target (c :: '?' :: body) .body rest (pos + 1)

/-- Checks the keyword `CDATA[` after `<![`. -/
def scanCdataOpen (start : Nat) : List Char → List Char → Nat → Scan (List Char × Nat)
  | [], cs, pos => .ok (cs, pos)
  | _ :: _, [], _ => Scan.fail .unclosedToken start
  | k :: ks, c :: rest, pos =>
    if c == k then scanCdataOpen start ks rest (pos + 1) else Scan.fail .invalidToken pos

/-- Reads the body of a character data section up to `]]>`. Line ends are
read as line feeds. At the end of the input the section is unclosed, at the
offset of a trailing `]` or `]]` if there is one. -/
def scanCdata (acc : List Char) : List Char → Nat → Scan (List Char × List Char × Nat)
  | [], pos => Scan.fail .unclosedCdata pos
  | [']'], pos => Scan.fail .unclosedCdata pos
  | [']', ']'], pos => Scan.fail .unclosedCdata pos
  | ']' :: ']' :: '>' :: rest, pos => .ok (acc.reverse, rest, pos + 3)
  | '\r' :: '\n' :: rest, pos => scanCdata ('\n' :: acc) rest (pos + 2)
  | c :: rest, pos =>
    if c == '\r' then scanCdata ('\n' :: acc) rest (pos + 1)
    else if !isXmlChar c then Scan.fail .invalidToken pos
    else scanCdata (c :: acc) rest (pos + 1)

/-! ## Tokens outside the root element -/

/-- A token outside the root element that neither opens an element nor is
a comment, instruction or blank: a complete token, a parameter-entity
reference, a character that no token can hold, or an unfinished token. -/
inductive Stray where
  | token
  | paramRef
  | invalidAt (pos : Nat)
  | unfinished

/-- Reads a quoted literal after its opening quote; the character after the
closing quote must be one that may follow a literal. -/
def scanLiteral (quote : Char) : List Char → Nat → Stray
  | [], _ => .unfinished
  | c :: rest, pos =>
    if c == quote then
      match rest with
      | [] => .token
      | d :: _ =>
        if isXmlSpace d || d == '>' || d == '%' || d == '[' then .token else .invalidAt (pos + 1)
    else if !isXmlChar c then .invalidAt pos
    else scanLiteral quote rest (pos + 1)

/-- Reads the rest of a name or name token: `prefixed` tells whether a name
has had its colon, `nmtoken` whether it is a name token rather than a name.
Blanks and the delimiters `> ) , | [ %` end it; `+ * ?` end a name. -/
def scanNameToken (nmtoken prefixed : Bool) : List Char → Nat → Stray
  | [], _ => .token
  | c :: rest, pos =>
    if isNameChar c then scanNameToken nmtoken prefixed rest (pos + 1)
    else if c == ':' then
      if nmtoken || prefixed then scanNameToken true prefixed rest (pos + 1)
      else match rest with
        | [] => .unfinished
        | d :: _ =>
          if isNameChar d then scanNameToken false true rest (pos + 1)
          else scanNameToken true prefixed rest (pos + 1)
    else if isXmlSpace c || c == '>' || c == ')' || c == ',' || c == '|' || c == '[' || c == '%' then
      .token
    else if c == '+' || c == '*' || c == '?' then
      if nmtoken then .invalidAt pos else .token
    else .invalidAt pos

/-- Reads the rest of a name after `#` or `%`, up to one of the characters
that may end it (`endsWith`); `%` names end with `;` (`paramRef`). -/
def scanMarkedName (isParam : Bool) : List Char → Nat → Stray
  | [], _ => if isParam then .unfinished else .token
  | c :: rest, pos =>
    if isNameChar c then scanMarkedName isParam rest (pos + 1)
    else if isParam then (if c == ';' then .paramRef else .invalidAt pos)
    else if isXmlSpace c || c == ')' || c == '>' || c == '%' || c == '|' then .token
    else .invalidAt pos

/-- Reads a token that starts with `c` at `pos`, outside the root element. -/
def scanStray (c : Char) (rest : List Char) (pos : Nat) : Stray :=
  if c == '"' || c == '\'' then scanLiteral c rest (pos + 1)
  else if c == '%' then
    match rest with
    | [] => .unfinished
    | d :: more =>
      if isXmlSpace d || d == '%' then .token
      else if isNameStart d then scanMarkedName true more (pos + 2)
      else .invalidAt (pos + 1)
  else if c == '#' then
    match rest with
    | [] => .unfinished
    | d :: more => if isNameStart d then scanMarkedName false more (pos + 2) else .invalidAt (pos + 1)
  else if c == '[' || c == ']' || c == '(' || c == '|' || c == ',' || c == '>' then .token
  else if c == ')' then
    match rest with
    | [] => .token
    | d :: _ =>
      if d == '*' || d == '?' || d == '+' || isXmlSpace d || d == '>' || d == ',' || d == '|' || d == ')'
      then .token else .invalidAt (pos + 1)
  else if isNameStart c then scanNameToken false false rest (pos + 1)
  else if isNameChar c || c == ':' then scanNameToken true false rest (pos + 1)
  else .invalidAt pos

/-- Reads the keyword of a declaration after `<!`: letters up to a blank or
`%`. -/
def scanDeclKeyword (start : Nat) (acc : List Char) : List Char → Nat → Scan (List Char × List Char × Nat)
  | [], _ => Scan.fail .unclosedToken start
  | c :: rest, pos =>
    if c.isAlpha || c == '_' then scanDeclKeyword start (c :: acc) rest (pos + 1)
    else if isXmlSpace c then .ok (acc.reverse, c :: rest, pos)
    else if c == '%' then
      match rest with
      | [] => Scan.fail .unclosedToken start
      | d :: _ =>
        if isXmlSpace d || d == '%' then Scan.fail .invalidToken pos else .ok (acc.reverse, c :: rest, pos)
    else Scan.fail .invalidToken pos

end ImageCatalog.Xml
