/-!
# Expanded names

After namespace processing an element or attribute name is a namespace URI
(or none) and a local part. Such a name is written in the braces notation
`{uri}local`, or as the bare local part when it has no namespace.

`localName` recovers the local part of a written name: the text after the
last `}` of a name that starts with `{`, otherwise the text after the first
`:` (a prefixed name), otherwise the whole name.
-/

namespace ImageCatalog.Xml

/-- The namespace URI reserved for the `xml` prefix. -/
def xmlNamespace : String := "http://www.w3.org/XML/1998/namespace"

/-- The namespace URI reserved for namespace declarations. -/
def xmlnsNamespace : String := "http://www.w3.org/2000/xmlns/"

/-- A name after namespace processing. -/
structure QName where
  uri : Option String
  localPart : String
  deriving BEq, Inhabited, Repr

namespace QName

/-- A name without namespace. -/
def plain (s : String) : QName := ⟨none, s⟩

/-- The name in braces notation: `{uri}local`, or `local` without namespace. -/
def written : QName → String
  | ⟨some u, l⟩ => "\x7b" ++ u ++ "\x7d" ++ l
  | ⟨none, l⟩ => l

end QName

/-- The text after the last occurrence of `c`, or all of `cs` if there is none. -/
def afterLast (c : Char) (cs : List Char) : List Char :=
  (cs.reverse.takeWhile (· ≠ c)).reverse

/-- The local part of a written name. -/
def localName (name : String) : String :=
  match name.toList with
  | '\x7b' :: rest => String.ofList (afterLast '\x7d' ('\x7b' :: rest))
  | cs =>
    match cs.dropWhile (· ≠ ':') with
    | ':' :: after => String.ofList after
    | _ => name

end ImageCatalog.Xml
