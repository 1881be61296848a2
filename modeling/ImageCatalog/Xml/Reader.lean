import ImageCatalog.Xml.Element
import ImageCatalog.Xml.Scan

/-!
# Reading a document

`readDocument` turns a text into its root element, or reports the first
fault in reading order, as a well-formedness checking reader with namespace
processing does:

* before the root element only blanks, comments, processing instructions, one
  XML declaration at the very start and one document type declaration may
  stand;
* every start tag is read whole before its attributes are checked: a repeated
  attribute name, a reference to an undefined entity or to a character that
  may not occur, and the namespace declarations, in attribute order; then the
  prefixes of attributes and of the element name;
* an end tag must repeat the name of the open element as written;
* after the root element again only blanks, comments and instructions.

Text is gathered as a tree builder does: the text before an element's first
child is its `text`, and the text after a child is that child's `tail`.
Line ends in text are read as line feeds; in attribute values every blank
becomes a space.
-/

namespace ImageCatalog.Xml

/-- The namespace bindings in force: prefixes, innermost first, and the
default namespace. -/
structure Scope where
  prefixes : List (String × String)
  default : Option String

/-- The bindings in force at the root: only `xml` is bound. -/
def Scope.initial : Scope := ⟨[("xml", xmlNamespace)], none⟩

/-- The namespace bound to a prefix. -/
def Scope.lookup (s : Scope) (p : String) : Option String :=
  (s.prefixes.find? (·.1 == p)).map (·.2)

/-- What the document type declaration tells the reader: entities declared
in it, and whether undefined entities are tolerated because an external
subset may declare them. -/
structure Declarations where
  entities : List (String × String) := []
  external : Bool := false

/-- The character a predefined entity stands for. -/
def predefinedEntity : String → Option Char
  | "lt" => some '<'
  | "gt" => some '>'
  | "amp" => some '&'
  | "quot" => some '"'
  | "apos" => some '\''
  | _ => none

/-- Splits a written name at its first colon. -/
def splitPrefix (name : List Char) : Option (String × String) :=
  match name.span (· ≠ ':') with
  | (pre, ':' :: loc) => some (String.ofList pre, String.ofList loc)
  | _ => none

/-- The replacement of the reference `ref` whose `&` is at `pos`: the text it
stands for, or `none` for an undefined entity that may be skipped. A bad
character reference is reported at `pos`, an undefined entity at
`undefinedAt` (the reference itself in text, the start of the tag in an
attribute value). -/
def resolveRef (decls : Declarations) (ref : Ref) (pos undefinedAt : Nat) : Scan (Option String) :=
  match ref with
  | .char n =>
    if isCharCode n then .ok (some (String.singleton (Char.ofNat n)))
    else Scan.fail .badCharRef pos
  | .entity name =>
    match predefinedEntity name with
    | some c => .ok (some (String.singleton c))
    | none =>
      match decls.entities.find? (·.1 == name) with
      | some (_, v) => .ok (some v)
      | none => if decls.external then .ok none else Scan.fail .undefinedEntity undefinedAt

/-- Normalizes an attribute value as written, whose first character is at
offset `pos`, in a tag that starts at `tagStart`: references are replaced,
each blank becomes a space, and a carriage return before a line feed is
dropped. -/
def normalizeValue (decls : Declarations) (tagStart : Nat) (acc : String) : List Char → Nat → Scan String
  | [], _ => .ok acc
  | '&' :: rest, pos =>
    match scanRef pos .amp [] rest (pos + 1) with
    | .error e => .error e
    | .ok (ref, more, pos') =>
      match resolveRef decls ref pos tagStart with
      | .error e => .error e
      | .ok r =>
        -- the reference scan consumed at least the `;`
        if more.length < rest.length then
          normalizeValue decls tagStart (acc ++ r.getD "") more pos'
        else .ok acc
  | '\r' :: '\n' :: rest, pos => normalizeValue decls tagStart (acc.push ' ') rest (pos + 2)
  | c :: rest, pos =>
    normalizeValue decls tagStart (acc.push (if isXmlSpace c then ' ' else c)) rest (pos + 1)
termination_by cs => cs.length

/-- Checks a namespace declaration of `pre` (none for the default namespace)
as `uri`, and returns the scope with it. -/
def bindNamespace (scope : Scope) (pre : Option String) (uri : String) (start : Nat) : Scan Scope :=
  let isXml := uri == xmlNamespace
  let isXmlns := uri == xmlnsNamespace
  match pre with
  | some p =>
    if uri.isEmpty then Scan.fail .undeclaringPrefix start
    else if p == "xmlns" then Scan.fail .reservedXmlnsPrefix start
    else if uri.toList.contains '\x7d' then Scan.fail .badSyntax start
    else if (p == "xml") != isXml then
      Scan.fail (if p == "xml" then .reservedXmlPrefix else .reservedNamespace) start
    else if isXmlns then Scan.fail .reservedNamespace start
    else .ok { scope with prefixes := (p, uri) :: scope.prefixes }
  | none =>
    if uri.toList.contains '\x7d' then Scan.fail .badSyntax start
    else if isXml || isXmlns then Scan.fail .reservedNamespace start
    else .ok { scope with default := if uri.isEmpty then none else some uri }

/-- Checks the attributes of a start tag in order: repeated names, values,
namespace declarations. Returns the scope with the declarations and the
other attributes with their values, in order. -/
def checkAttrs (decls : Declarations) (start : Nat) (seen : List (List Char)) (scope : Scope)
    (kept : List (List Char × String)) : List RawAttr → Scan (Scope × List (List Char × String))
  | [] => .ok (scope, kept.reverse)
  | a :: rest =>
    if seen.contains a.name then Scan.fail .duplicateAttribute a.namePos
    else
      match normalizeValue decls start "" a.value a.valuePos with
      | .error e => .error e
      | .ok v =>
        let seen' := a.name :: seen
        if a.name == "xmlns".toList then
          match bindNamespace scope none v start with
          | .ok scope' => checkAttrs decls start seen' scope' kept rest
          | .error e => .error e
        else
          match splitPrefix a.name with
          | some ("xmlns", p) =>
            match bindNamespace scope (some p) v start with
            | .ok scope' => checkAttrs decls start seen' scope' kept rest
            | .error e => .error e
          | _ => checkAttrs decls start seen' scope ((a.name, v) :: kept) rest

/-- Resolves attribute names in the scope of their element: a prefixed name
takes the namespace of its prefix, and no two may then be equal. -/
def resolveAttrs (scope : Scope) (start : Nat) (acc : List (QName × String)) :
    List (List Char × String) → Scan (List (QName × String))
  | [] => .ok acc.reverse
  | (raw, v) :: rest =>
    match splitPrefix raw with
    | some (p, loc) =>
      match scope.lookup p with
      | none => Scan.fail .unboundPrefix start
      | some uri =>
        let q : QName := ⟨some uri, loc⟩
        if acc.any (·.1 == q) then Scan.fail .duplicateAttribute start
        else resolveAttrs scope start ((q, v) :: acc) rest
    | none => resolveAttrs scope start ((QName.plain (String.ofList raw), v) :: acc) rest

/-- The expanded name of an element written `raw` in `scope`. -/
def resolveElement (scope : Scope) (raw : List Char) (start : Nat) : Scan QName :=
  match splitPrefix raw with
  | some (p, loc) =>
    match scope.lookup p with
    | some uri => .ok ⟨some uri, loc⟩
    | none => Scan.fail .unboundPrefix start
  | none => .ok ⟨scope.default, String.ofList raw⟩

/-- An element whose end tag has not been read yet. -/
structure OpenElement where
  raw : List Char
  name : QName
  attrs : List (QName × String)
  text : Option String
  children : Array Element
  scope : Scope

/-- Adds text to an open element: to its text before the first child, else
to the tail of its last child. -/
def OpenElement.addText (o : OpenElement) (s : String) : OpenElement :=
  if s.isEmpty then o
  else if o.children.isEmpty then { o with text := some (o.text.getD "" ++ s) }
  else
    let i := o.children.size - 1
    { o with children := o.children.modify i (fun c => c.withTail (some (c.tail.getD "" ++ s))) }

/-- The finished element of an open one. -/
def OpenElement.close (o : OpenElement) : Element :=
  .mk o.name o.attrs o.text o.children.toList none

/-- Adds the pending text (last character first) to the innermost open element. -/
def flushText (stack : List OpenElement) (pending : List Char) : List OpenElement :=
  match pending, stack with
  | [], _ => stack
  | _, [] => stack
  | _, o :: rest => o.addText (String.ofList pending.reverse) :: rest

/-- Adds a finished element to the innermost open element. -/
def addChild (stack : List OpenElement) (e : Element) : List OpenElement :=
  match stack with
  | [] => []
  | o :: rest => { o with children := o.children.push e } :: rest

/-- Reads the content of the root element and returns it with the rest of
the input. `stack` holds the open elements, innermost first, and `pending`
the text read since the last markup, last character first. Every step
consumes input, so `fuel` above the input's length suffices. -/
def readContent (decls : Declarations) : Nat → List OpenElement → List Char → List Char → Nat →
    Scan (Element × List Char × Nat)
  | 0, _, _, _, pos => Scan.fail .noElement pos
  | fuel + 1, stack, pending, cs, pos =>
    match cs with
    | [] => Scan.fail .noElement pos
    | '<' :: '/' :: rest =>
      let stack := flushText stack pending
      match scanEndTag pos [] .first rest (pos + 2) with
      | .error e => .error e
      | .ok (raw, more, pos') =>
        match stack with
        | [] => Scan.fail .tagMismatch (pos + 2)
        | o :: outer =>
          if o.raw != raw then Scan.fail .tagMismatch (pos + 2)
          else match outer with
            | [] => .ok (o.close, more, pos')
            | _ => readContent decls fuel (addChild outer o.close) [] more pos'
    | '<' :: '!' :: rest =>
      match rest with
      | '-' :: '-' :: body =>
        match scanComment pos 0 body (pos + 4) with
        | .error e => .error e
        | .ok (more, pos') => readContent decls fuel stack pending more pos'
      | ['-'] => Scan.fail .unclosedToken pos
      | '-' :: _ => Scan.fail .invalidToken (pos + 3)
      | '[' :: body =>
        match scanCdataOpen pos "CDATA[".toList body (pos + 3) with
        | .error e => .error e
        | .ok (inner, pos1) =>
          match scanCdata [] inner pos1 with
          | .error e => .error e
          | .ok (text, more, pos') =>
            readContent decls fuel stack (text.reverse ++ pending) more pos'
      | [] => Scan.fail .unclosedToken pos
      | _ => Scan.fail .invalidToken (pos + 2)
    | '<' :: '?' :: rest =>
      match rest with
      | [] => Scan.fail .unclosedToken pos
      | c :: body =>
        if isNameStart c then
          match scanPi pos [c] [] .target body (pos + 3) with
          | .error e => .error e
          | .ok (pi, more, pos') =>
            if pi.target == "xml".toList then Scan.fail .misplacedDeclaration pos
            else readContent decls fuel stack pending more pos'
        else Scan.fail .invalidToken (pos + 2)
    | '<' :: c :: rest =>
      if isNameStart c then
        let stack := flushText stack pending
        let scope := match stack with
          | o :: _ => o.scope
          | [] => Scope.initial
        match scanTag pos [] [] (.elemName [c] 0) rest (pos + 2) with
        | .error e => .error e
        | .ok (tag, more, pos') =>
          match checkAttrs decls pos [] scope [] tag.attrs with
          | .error e => .error e
          | .ok (scope', kept) =>
            match resolveAttrs scope' pos [] kept with
            | .error e => .error e
            | .ok attrs =>
              match resolveElement scope' tag.name pos with
              | .error e => .error e
              | .ok name =>
                let o : OpenElement := ⟨tag.name, name, attrs, none, #[], scope'⟩
                if tag.empty then
                  match stack with
                  | [] => .ok (o.close, more, pos')
                  | _ => readContent decls fuel (addChild stack o.close) [] more pos'
                else readContent decls fuel (o :: stack) [] more pos'
      else Scan.fail .invalidToken (pos + 1)
    | ['<'] => Scan.fail .unclosedToken pos
    | '&' :: rest =>
      match scanRef pos .amp [] rest (pos + 1) with
      | .error e => .error e
      | .ok (ref, more, pos') =>
        match ref with
        | .entity name =>
          if decls.external && (predefinedEntity name).isNone &&
              (decls.entities.find? (·.1 == name)).isNone then
            .error { error := .undefinedEntity, offset := pos, reference := some ("&" ++ name ++ ";") }
          else
            match resolveRef decls ref pos pos with
            | .error e => .error e
            | .ok r => readContent decls fuel stack ((r.getD "").toList.reverse ++ pending) more pos'
        | .char _ =>
          match resolveRef decls ref pos pos with
          | .error e => .error e
          | .ok r => readContent decls fuel stack ((r.getD "").toList.reverse ++ pending) more pos'
    | ']' :: ']' :: '>' :: _ => Scan.fail .invalidToken (pos + 2)
    | '\r' :: '\n' :: rest => readContent decls fuel stack ('\n' :: pending) rest (pos + 2)
    | c :: rest =>
      if c == '\r' then readContent decls fuel stack ('\n' :: pending) rest (pos + 1)
      else if isXmlChar c then readContent decls fuel stack (c :: pending) rest (pos + 1)
      else Scan.fail .invalidToken pos

/-! ## The XML declaration -/

/-- The characters a pseudo-attribute value may hold. -/
def isDeclValueChar (c : Char) : Bool :=
  c.isAlphanum || c == '.' || c == '-' || c == '_'

/-- Reads one pseudo-attribute `name = 'value'` after a blank. `none` when
only blanks are left; a failure carries the offset of the offending
character. -/
def readPseudoAttr (cs : List Char) (pos : Nat) :
    Except Nat (Option (String × Nat × String × Nat) × List Char × Nat) :=
  match cs with
  | [] => .ok (none, [], pos)
  | c :: _ =>
    if !isXmlSpace c then .error pos
    else
      let (cs1, p1) := skipWhile isXmlSpace cs pos
      if cs1.isEmpty then .ok (none, [], p1)
      else
        let (name, cs2) := cs1.span (fun d => d != '=' && !isXmlSpace d && d.toNat < 0x80)
        let p2 := p1 + name.length
        match cs2 with
        | [] => .error p2
        | d :: _ =>
          if d.toNat ≥ 0x80 then .error p2
          else
            let (cs3, p3) := skipWhile isXmlSpace cs2 p2
            match cs3 with
            | '=' :: after =>
              if name.isEmpty then .error p2
              else
                let (cs4, p4) := skipWhile isXmlSpace after (p3 + 1)
                match cs4 with
                | q :: body =>
                  if q == '"' || q == '\'' then
                    let (value, cs5) := body.span (· != q)
                    let p5 := p4 + 1 + value.length
                    match value.findIdx? (fun v => !isDeclValueChar v) with
                    | some i => .error (p4 + 1 + i)
                    | none =>
                      match cs5 with
                      | _ :: more => .ok (some (String.ofList name, p1, String.ofList value, p4 + 1), more, p5 + 1)
                      | [] => .error p5
                  else .error p4
                | [] => .error p4
            | _ => .error p3

/-- Checks an XML declaration whose text after `<?xml` (up to `?>`) is `cs`,
starting at offset `pos`: a version, then optionally an encoding that starts
with a letter, then optionally `standalone` with `yes` or `no`. -/
def checkDeclaration (cs : List Char) (pos : Nat) : Scan Unit :=
  let bad {α : Type} (p : Nat) : Scan α := Scan.fail .malformedDeclaration p
  match readPseudoAttr cs pos with
  | .error p => bad p
  | .ok (none, _, _) => bad pos
  | .ok (some (n1, np1, _, _), cs1, p1) =>
    if n1 != "version" then bad np1
    else
      match readPseudoAttr cs1 p1 with
      | .error p => bad p
      | .ok (none, _, _) => .ok ()
      | .ok (some (n2, np2, v2, vp2), cs2, p2) =>
        let afterEncoding : Scan (Option (String × Nat × String × Nat) × List Char × Nat) :=
          if n2 == "encoding" then
            if !(v2.toList.head?.map Char.isAlpha).getD false then bad vp2
            else match readPseudoAttr cs2 p2 with
              | .error p => bad p
              | .ok r => .ok r
          else .ok (some (n2, np2, v2, vp2), cs2, p2)
        match afterEncoding with
        | .error e => .error e
        | .ok (none, _, _) => .ok ()
        | .ok (some (n3, np3, v3, vp3), cs3, p3) =>
          if n3 != "standalone" then bad np3
          else if v3 != "yes" && v3 != "no" then bad vp3
          else
            let (cs4, p4) := skipWhile isXmlSpace cs3 p3
            if cs4.isEmpty then .ok () else bad p4

/-! ## The document type declaration -/

/-- Reads a quoted value up to its closing quote. -/
def readQuoted (q : Char) (acc : List Char) : List Char → Nat → Option (String × List Char × Nat)
  | [], _ => none
  | c :: rest, pos =>
    if c == q then some (String.ofList acc.reverse, rest, pos + 1)
    else readQuoted q (c :: acc) rest (pos + 1)

/-- Skips a document type declaration after `<!DOCTYPE`, up to its closing
`>` outside brackets and quotes. General entities declared in the internal
subset with a quoted value are collected, and a `SYSTEM` or `PUBLIC`
identifier before the internal subset marks an external subset. -/
def skipDoctype (start : Nat) (fuel : Nat) (decls : Declarations) (inSubset : Bool) (word : List Char) :
    List Char → Nat → Scan (Declarations × List Char × Nat)
  | [], _ => Scan.fail .unclosedToken start
  | c :: rest, pos =>
    match fuel with
    | 0 => Scan.fail .unclosedToken start
    | fuel + 1 =>
      let word' := if c.isAlpha then c :: word else []
      let decls :=
        if !inSubset && !c.isAlpha && (word.reverse == "SYSTEM".toList || word.reverse == "PUBLIC".toList)
        then { decls with external := true } else decls
      if c == '"' || c == '\'' then
        match readQuoted c [] rest (pos + 1) with
        | some (_, more, pos') => skipDoctype start fuel decls inSubset [] more pos'
        | none => Scan.fail .unclosedToken start
      else if c == '[' && !inSubset then skipDoctype start fuel decls true [] rest (pos + 1)
      else if c == ']' && inSubset then skipDoctype start fuel decls false [] rest (pos + 1)
      else if c == '>' && !inSubset then .ok (decls, rest, pos + 1)
      else if c == '<' && inSubset then
        match rest with
        | '!' :: '-' :: '-' :: body =>
          match scanComment pos 0 body (pos + 4) with
          | .ok (more, pos') => skipDoctype start fuel decls inSubset [] more pos'
          | .error e => .error e
        | '!' :: 'E' :: 'N' :: 'T' :: 'I' :: 'T' :: 'Y' :: body =>
          let (cs1, p1) := skipWhile isXmlSpace body (pos + 8)
          let (name, cs2) := cs1.span (fun d => isNameChar d || d == ':')
          let (cs3, p3) := skipWhile isXmlSpace cs2 (p1 + name.length)
          match cs3 with
          | q :: more =>
            if (q == '"' || q == '\'') && !name.isEmpty then
              match readQuoted q [] more (p3 + 1) with
              | some (value, more', pos') =>
                let decls := if (decls.entities.find? (·.1 == String.ofList name)).isSome then decls
                  else { decls with entities := decls.entities ++ [(String.ofList name, value)] }
                skipDoctype start fuel decls inSubset [] more' pos'
              | none => Scan.fail .unclosedToken start
            else skipDoctype start fuel decls inSubset [] cs3 p3
          | [] => Scan.fail .unclosedToken start
        | _ => skipDoctype start fuel decls inSubset [] rest (pos + 1)
      else skipDoctype start fuel decls inSubset word' rest (pos + 1)

/-! ## The whole document -/

/-- Where the reading before the root element stands: at the very start
(where an XML declaration may stand), after other markup, or after the
document type declaration. -/
inductive PrologStage where
  | start | misc | afterDoctype
  deriving BEq

/-- Reads the markup after the root element: only blanks, comments and
processing instructions may follow it. -/
def readEpilog : Nat → List Char → Nat → Scan Unit
  | 0, _, _ => .ok ()
  | _, [], _ => .ok ()
  | fuel + 1, c :: rest, pos =>
    if isXmlSpace c then readEpilog fuel rest (pos + 1)
    else if c == '<' then
      match rest with
      | [] => Scan.fail .unclosedToken pos
      | '?' :: more =>
        match more with
        | [] => Scan.fail .unclosedToken pos
        | d :: body =>
          if isNameStart d then
            match scanPi pos [d] [] .target body (pos + 3) with
            | .error e => .error e
            | .ok (pi, more', pos') =>
              if pi.target == "xml".toList then Scan.fail .junkAfterRoot pos
              else readEpilog fuel more' pos'
          else Scan.fail .invalidToken (pos + 2)
      | '!' :: more =>
        match more with
        | '-' :: '-' :: body =>
          match scanComment pos 0 body (pos + 4) with
          | .error e => .error e
          | .ok (more', pos') => readEpilog fuel more' pos'
        | ['-'] => Scan.fail .unclosedToken pos
        | '-' :: _ => Scan.fail .invalidToken (pos + 3)
        | '[' :: _ => Scan.fail .junkAfterRoot pos
        | [] => Scan.fail .unclosedToken pos
        | d :: _ =>
          if d.isAlpha || d == '_' then
            match scanDeclKeyword pos [] more (pos + 2) with
            | .error e => .error e
            | .ok _ => Scan.fail .junkAfterRoot pos
          else Scan.fail .invalidToken (pos + 2)
      | d :: _ => if isNameStart d then Scan.fail .junkAfterRoot pos else Scan.fail .invalidToken (pos + 1)
    else
      match scanStray c rest pos with
      | .token | .paramRef => Scan.fail .junkAfterRoot pos
      | .invalidAt p => Scan.fail .invalidToken p
      | .unfinished => Scan.fail .unclosedToken pos

/-- Reads the markup before the root element, then the root element and the
markup after it. -/
def readProlog (total : Nat) : Nat → PrologStage → Declarations → List Char → Nat → Scan Element
  | 0, _, _, _, pos => Scan.fail .noElement pos
  | _, _, _, [], pos => Scan.fail .noElement pos
  | fuel + 1, stage, decls, c :: rest, pos =>
    let next := if stage == .start then PrologStage.misc else stage
    if isXmlSpace c then readProlog total fuel next decls rest (pos + 1)
    else if c == '<' then
      match rest with
      | [] => Scan.fail .unclosedToken pos
      | '?' :: more =>
        match more with
        | [] => Scan.fail .unclosedToken pos
        | d :: body =>
          if isNameStart d then
            match scanPi pos [d] [] .target body (pos + 3) with
            | .error e => .error e
            | .ok (pi, more', pos') =>
              if pi.target == "xml".toList then
                if stage == .start then
                  match checkDeclaration pi.body (pos + 5) with
                  | .error e => .error e
                  | .ok () => readProlog total fuel next decls more' pos'
                else Scan.fail .misplacedDeclaration pos
              else readProlog total fuel next decls more' pos'
          else Scan.fail .invalidToken (pos + 2)
      | '!' :: more =>
        match more with
        | '-' :: '-' :: body =>
          match scanComment pos 0 body (pos + 4) with
          | .error e => .error e
          | .ok (more', pos') => readProlog total fuel next decls more' pos'
        | ['-'] => Scan.fail .unclosedToken pos
        | '-' :: _ => Scan.fail .invalidToken (pos + 3)
        | '[' :: _ => Scan.fail .badSyntax pos
        | [] => Scan.fail .unclosedToken pos
        | d :: _ =>
          if d.isAlpha || d == '_' then
            match scanDeclKeyword pos [] more (pos + 2) with
            | .error e => .error e
            | .ok (kw, more', pos') =>
              if kw == "DOCTYPE".toList && stage != .afterDoctype then
                match skipDoctype pos total decls false [] more' pos' with
                | .error e => .error e
                | .ok (decls', more'', pos'') => readProlog total fuel .afterDoctype decls' more'' pos''
              else Scan.fail .badSyntax pos
          else Scan.fail .invalidToken (pos + 2)
      | d :: _ =>
        if isNameStart d then
          match readContent decls total [] [] (c :: rest) pos with
          | .error e => .error e
          | .ok (root, more, pos') =>
            match readEpilog total more pos' with
            | .error e => .error e
            | .ok () => .ok root
        else Scan.fail .invalidToken (pos + 1)
    else if c.toNat == 0xFEFF && pos == 0 then readProlog total fuel stage decls rest (pos + 1)
    else
      match scanStray c rest pos with
      | .token => Scan.fail .badSyntax pos
      | .paramRef => Scan.fail .paramEntityRef pos
      | .invalidAt p => Scan.fail .invalidToken p
      | .unfinished => Scan.fail .unclosedToken pos

/-- Reads a document: its root element, or the first fault. -/
def readDocument (input : String) : Except ReadFault Element :=
  let cs := input.toList
  readProlog (cs.length + 1) (cs.length + 1) .start {} cs 0

end ImageCatalog.Xml
