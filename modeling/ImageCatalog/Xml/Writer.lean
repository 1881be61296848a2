import ImageCatalog.Xml.Element

/-!
# Writing an element

`Element.render` writes an element and its descendants back as text:

* every namespace gets a prefix, in the order in which the names of the
  tree use it (each element's name first, then its attributes' names): a
  well-known namespace keeps its usual prefix (`xml`, `xsi`, …), any other
  one is `ns` followed by the number of namespaces met before it; the
  declarations stand on the written element, ordered by prefix;
* attributes keep their order and are written with double quotes;
* an element without text and children is written `<name />`;
* text escapes `&`, `<` and `>`; attribute values escape `"` as well, and
  carriage return, line feed and tab as character references;
* the element's tail follows it.
-/

namespace ImageCatalog.Xml

/-- The usual prefix of a well-known namespace. -/
def knownPrefix : String → Option String
  | "http://www.w3.org/XML/1998/namespace" => some "xml"
  | "http://www.w3.org/1999/xhtml" => some "html"
  | "http://www.w3.org/1999/02/22-rdf-syntax-ns#" => some "rdf"
  | "http://schemas.xmlsoap.org/wsdl/" => some "wsdl"
  | "http://www.w3.org/2001/XMLSchema" => some "xs"
  | "http://www.w3.org/2001/XMLSchema-instance" => some "xsi"
  | "http://purl.org/dc/elements/1.1/" => some "dc"
  | _ => none

/-- Namespaces with their prefixes, in the order they were met. -/
abbrev PrefixTable := List (String × String)

/-- The prefix of a namespace in the table, or the one it gets when met now. -/
def PrefixTable.prefixOf (t : PrefixTable) (uri : String) : String :=
  match t.find? (·.1 == uri) with
  | some (_, p) => p
  | none => (knownPrefix uri).getD ("ns" ++ toString t.length)

/-- Meets a name: a new namespace enters the table, except the one of `xml`,
which is never declared. -/
def PrefixTable.meet (t : PrefixTable) (q : QName) : PrefixTable :=
  match q.uri with
  | none => t
  | some u =>
    if t.any (·.1 == u) then t
    else
      let p := t.prefixOf u
      if p == "xml" then t else t ++ [(u, p)]

/-- Meets the names of the elements in document order. -/
def PrefixTable.meetAll (t : PrefixTable) (es : List Element) : PrefixTable :=
  es.foldl (fun acc e => (e.attrs.map (·.1)).foldl PrefixTable.meet (acc.meet e.name)) t

/-- A name as written with the prefixes of the table. -/
def PrefixTable.spell (t : PrefixTable) (q : QName) : String :=
  match q.uri with
  | none => q.localPart
  | some u => t.prefixOf u ++ ":" ++ q.localPart

/-- Text with `&`, `<` and `>` escaped. -/
def escapeText (s : String) : String :=
  s.foldl (fun acc c =>
    match c with
    | '&' => acc ++ "&amp;"
    | '<' => acc ++ "&lt;"
    | '>' => acc ++ "&gt;"
    | c => acc.push c) ""

/-- An attribute value with `&`, `<`, `>` and `"` escaped, and carriage
return, line feed and tab written as character references. -/
def escapeAttr (s : String) : String :=
  s.foldl (fun acc c =>
    match c with
    | '&' => acc ++ "&amp;"
    | '<' => acc ++ "&lt;"
    | '>' => acc ++ "&gt;"
    | '"' => acc ++ "&quot;"
    | '\r' => acc ++ "&#13;"
    | '\n' => acc ++ "&#10;"
    | '\t' => acc ++ "&#09;"
    | c => acc.push c) ""

/-- Text for a request body: `&`, `<`, `>` and `"` escaped. -/
def escapeMarkup (s : String) : String :=
  s.foldl (fun acc c =>
    match c with
    | '&' => acc ++ "&amp;"
    | '<' => acc ++ "&lt;"
    | '>' => acc ++ "&gt;"
    | '"' => acc ++ "&quot;"
    | c => acc.push c) ""

/-- Whether an optional text holds something. -/
def hasText : Option String → Bool
  | some s => !s.isEmpty
  | none => false

/-- The namespace declarations of the written element, ordered by prefix. -/
def declarations (t : PrefixTable) : String :=
  let sorted := t.toArray.qsort (fun a b => a.2 < b.2)
  sorted.foldl (fun acc (u, p) => acc ++ " xmlns:" ++ p ++ "=\"" ++ escapeAttr u ++ "\"") ""

mutual
/-- Writes an element with the prefixes of `t`; `decls` is written inside
the start tag. -/
def writeElement (t : PrefixTable) (decls : String) : Element → String
  | .mk name attrs text children tail =>
    let tag := t.spell name
    let open_ := attrs.foldl
      (fun acc (k, v) => acc ++ " " ++ t.spell k ++ "=\"" ++ escapeAttr v ++ "\"")
      ("<" ++ tag ++ decls)
    let body :=
      if hasText text || !children.isEmpty then
        open_ ++ ">" ++ (if hasText text then escapeText (text.getD "") else "") ++
          writeChildren t children ++ "</" ++ tag ++ ">"
      else open_ ++ " />"
    body ++ (if hasText tail then escapeText (tail.getD "") else "")

/-- Writes a list of elements. -/
def writeChildren (t : PrefixTable) : List Element → String
  | [] => ""
  | e :: es => writeElement t "" e ++ writeChildren t es
end

/-- The text of an element, its descendants and its tail. -/
def Element.render (e : Element) : String :=
  let t := PrefixTable.meetAll [] e.iter
  writeElement t (declarations t) e

end ImageCatalog.Xml
