/-!
# Reading errors

Every way a text can fail to be a namespace-well-formed XML document, with
the wording a reader reports for it, and the place of the failure as a line
(counted from 1) and a column (counted from 0, in characters). A line ends
at a line feed, at a carriage return, or at the pair of them.
-/

namespace ImageCatalog.Xml

/-- Why a text is not a well-formed document. -/
inductive ReadError where
  | badSyntax
  | noElement
  | invalidToken
  | unclosedToken
  | tagMismatch
  | duplicateAttribute
  | junkAfterRoot
  | paramEntityRef
  | undefinedEntity
  | badCharRef
  | misplacedDeclaration
  | malformedDeclaration
  | unclosedCdata
  | unboundPrefix
  | undeclaringPrefix
  | reservedXmlPrefix
  | reservedXmlnsPrefix
  | reservedNamespace
  deriving BEq, Repr, Inhabited

/-- The wording of a reading error. -/
def ReadError.message : ReadError → String
  | .badSyntax => "syntax error"
  | .noElement => "no element found"
  | .invalidToken => "not well-formed (invalid token)"
  | .unclosedToken => "unclosed token"
  | .tagMismatch => "mismatched tag"
  | .duplicateAttribute => "duplicate attribute"
  | .junkAfterRoot => "junk after document element"
  | .paramEntityRef => "illegal parameter entity reference"
  | .undefinedEntity => "undefined entity"
  | .badCharRef => "reference to invalid character number"
  | .misplacedDeclaration => "XML or text declaration not at start of entity"
  | .malformedDeclaration => "XML declaration not well-formed"
  | .unclosedCdata => "unclosed CDATA section"
  | .unboundPrefix => "unbound prefix"
  | .undeclaringPrefix => "must not undeclare prefix"
  | .reservedXmlPrefix =>
    "reserved prefix (xml) must not be undeclared or bound to another namespace name"
  | .reservedXmlnsPrefix => "reserved prefix (xmlns) must not be declared or undeclared"
  | .reservedNamespace => "prefix must not be bound to one of the reserved namespace names"

/-- A reading error at a character offset of the input. An undefined entity
met where an external subset could have declared it carries the reference
as written. -/
structure ReadFault where
  error : ReadError
  offset : Nat
  reference : Option String := none
  deriving Repr, Inhabited

/-- Line and column after reading `n` characters; `cr` says whether the
character just read was a carriage return, so that a line feed right after
it ends no second line. -/
def positionAfter : List Char → Nat → Nat → Nat → Bool → Nat × Nat
  | [], _, line, col, _ => (line, col)
  | _, 0, line, col, _ => (line, col)
  | c :: rest, n + 1, line, col, cr =>
    if c == '\n' then
      if cr then positionAfter rest n line col false else positionAfter rest n (line + 1) 0 false
    else if c == '\r' then positionAfter rest n (line + 1) 0 true
    else positionAfter rest n line (col + 1) false

/-- Line (from 1) and column (from 0) of a character offset of `input`. -/
def positionOf (input : List Char) (offset : Nat) : Nat × Nat :=
  positionAfter input offset 1 0 false

/-- The report of a reading error: its wording and place. -/
def ReadFault.render (f : ReadFault) (input : List Char) : String :=
  let (line, col) := positionOf input f.offset
  let what := match f.reference with
    | some r => f.error.message ++ " " ++ r
    | none => f.error.message
  what ++ ": line " ++ toString line ++ ", column " ++ toString col

end ImageCatalog.Xml
