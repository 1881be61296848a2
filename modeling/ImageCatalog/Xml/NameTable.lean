import ImageCatalog.Xml.Element
import ImageCatalog.Text.Case

/-!
# The name table of a document

Elements are looked up by the lower case of their local name. A document
keeps that lower-cased local name per written tag, so that each tag is
stripped and lowered once: the table is seeded from every element of the
tree, and learns the tag of any other element the first time it is asked
about one.
-/

namespace ImageCatalog.Xml

/-- Lower-cased local names, by written tag (`{uri}local` or `local`). -/
structure NameTable where
  entries : List (String × String) := []

namespace NameTable

/-- The lower-cased local name of an element, read from the table, or
computed and remembered when its tag is new. -/
def nameOf (t : NameTable) (e : Element) : String × NameTable :=
  let tag := e.name.written
  match t.entries.lookup tag with
  | some name => (name, t)
  | none =>
    let name := Text.lower (localName tag)
    (name, ⟨(tag, name) :: t.entries⟩)

/-- Whether an element's local name is `n`, ignoring letter case, with the
table after the lookup. -/
def isNamed (t : NameTable) (e : Element) (n : String) : Bool × NameTable :=
  let (name, t') := t.nameOf e
  (name == Text.lower n, t')

/-- The table of a document: the names of all its elements, in document
order. -/
def ofRoot (root : Element) : NameTable :=
  root.iter.foldl (fun t e => (t.nameOf e).2) {}

/-- The lower-cased local names the table holds. -/
def localNames (t : NameTable) : List String :=
  t.entries.map (·.2)

end NameTable

end ImageCatalog.Xml
