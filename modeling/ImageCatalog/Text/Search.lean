/-!
# Searching text

Whether one text occurs inside another, as a run of consecutive characters.
-/

namespace ImageCatalog.Text

/-- Whether `sub` occurs in `cs` as consecutive characters. -/
def occursIn (sub : List Char) : List Char → Bool
  | [] => sub.isEmpty
  | c :: rest => sub.isPrefixOf (c :: rest) || occursIn sub rest

/-- Whether `sub` occurs in `s`. -/
def hasInfix (s sub : String) : Bool := occursIn sub.toList s.toList

end ImageCatalog.Text
