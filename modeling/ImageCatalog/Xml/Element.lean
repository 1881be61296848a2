import ImageCatalog.Xml.Name

/-!
# Element trees

A parsed document is a tree of elements. Each element has its expanded name,
its attributes in document order, the text before its first child, its child
elements, and the tail: the text that follows the element inside its parent,
up to the next sibling. Comments and processing instructions are not kept;
the text around them is joined.
-/

namespace ImageCatalog.Xml

/-- An element with its attributes, text, children and tail. -/
inductive Element where
  | mk (name : QName) (attrs : List (QName × String)) (text : Option String)
      (children : List Element) (tail : Option String)
  deriving Inhabited

namespace Element

/-- The element's expanded name. -/
def name : Element → QName
  | mk n _ _ _ _ => n

/-- The element's attributes, in document order. -/
def attrs : Element → List (QName × String)
  | mk _ a _ _ _ => a

/-- The text before the first child, if any. -/
def text : Element → Option String
  | mk _ _ t _ _ => t

/-- The child elements. -/
def children : Element → List Element
  | mk _ _ _ c _ => c

/-- The text after the element, up to the next sibling. -/
def tail : Element → Option String
  | mk _ _ _ _ t => t

/-- The element with another tail. -/
def withTail (e : Element) (t : Option String) : Element :=
  mk e.name e.attrs e.text e.children t

mutual
/-- The element and all its descendants, in document order (pre-order). -/
def iter : Element → List Element
  | mk n a t cs tl => mk n a t cs tl :: iterList cs

/-- The elements of a list of trees, in document order. -/
def iterList : List Element → List Element
  | [] => []
  | e :: es => iter e ++ iterList es
end

/-- The value of the attribute whose written name is `key`. -/
def get? (e : Element) (key : String) : Option String :=
  (e.attrs.find? (fun p => p.1.written == key)).map (·.2)

end Element

end ImageCatalog.Xml
