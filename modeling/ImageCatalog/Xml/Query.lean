import ImageCatalog.Xml.Element
import ImageCatalog.Text.Case
import ImageCatalog.Text.Blank

/-!
# Looking up elements by local name

Documents are searched by local name alone, ignoring namespaces and prefixes
and the letter case of names, so that the same lookups serve every spelling a
server uses for its names.

* `Element.findAll` — every element of the tree, the root included, whose
  local name is the given one, in document order; `findFirst` the first.
* `Element.childrenNamed`, `Element.firstChild` — the same among the direct
  children.
* `Element.dispatch` — pairs each direct child with the handler registered
  under its local name, in child order.
* `Element.attrValue` — an attribute's value, trimmed; `textOf` the trimmed
  text of an element, `none` when empty.
-/

namespace ImageCatalog.Xml

open ImageCatalog.Text

/-- Whether an element's local name is `n`, ignoring letter case. -/
def Element.named (e : Element) (n : String) : Bool :=
  lower e.name.localPart == lower n

namespace Element

/-- Every element of the tree named `n`, root included, in document order. -/
def findAll (root : Element) (n : String) : List Element :=
  root.iter.filter (·.named n)

/-- The first element of the tree named `n`, in document order. -/
def findFirst (root : Element) (n : String) : Option Element :=
  root.iter.find? (·.named n)

/-- The direct children named `n`. -/
def childrenNamed (e : Element) (n : String) : List Element :=
  e.children.filter (·.named n)

/-- The first direct child named `n`. -/
def firstChild (e : Element) (n : String) : Option Element :=
  e.children.find? (·.named n)

/-- The trimmed value of the attribute written `n`. -/
def attrValue (e : Element) (n : String) : Option String :=
  (e.get? n).map trim

/-- The non-empty target (`href`) of a link. -/
def target (e : Element) : Option String := (e.attrValue "href").filter (!·.isEmpty)

/-- Whether a link goes in direction `rel` (any letter case) to a document
of `mediaType`. -/
def linksTo (e : Element) (rel mediaType : String) : Bool :=
  lower ((e.attrValue "rel").getD "") == rel && e.attrValue "type" == some mediaType

/-- The handler of a child: the last handler whose key is the child's local
name, ignoring letter case. -/
def handlerFor {α : Type} (handlers : List (String × α)) (c : Element) : Option α :=
  (handlers.reverse.find? (fun h => lower h.1 == lower c.name.localPart)).map (·.2)

/-- Each direct child that has a handler, with that handler, in child order. -/
def dispatch {α : Type} (e : Element) (handlers : List (String × α)) : List (α × Element) :=
  e.children.filterMap (fun c => (handlerFor handlers c).map (·, c))

end Element

/-- The trimmed text of an element; `none` when there is no element, no text,
or only blanks. -/
def textOf : Option Element → Option String
  | none => none
  | some e =>
    match e.text with
    | none => none
    | some t => let v := trim t; if v.isEmpty then none else some v

end ImageCatalog.Xml
