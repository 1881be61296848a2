/-!
# Blank characters and trimming

The blank characters are the Unicode white space of the standard's
`White_Space` property together with the four information separators
U+001C to U+001F. Trimming removes them from both ends of a text.
-/

namespace ImageCatalog.Text

/-- Blank characters: tab to carriage return, the information separators,
the space separators and the line and paragraph separators. -/
def isBlank (c : Char) : Bool :=
  let n := c.toNat
  (0x09 ≤ n && n ≤ 0x0D) || (0x1C ≤ n && n ≤ 0x20) || n == 0x85 || n == 0xA0 ||
    n == 0x1680 || (0x2000 ≤ n && n ≤ 0x200A) || n == 0x2028 || n == 0x2029 ||
    n == 0x202F || n == 0x205F || n == 0x3000

/-- Drops blank characters from the front of a character list. -/
def dropBlanks (cs : List Char) : List Char := cs.dropWhile isBlank

/-- The text without blank characters at either end. -/
def trim (s : String) : String :=
  String.ofList (dropBlanks (dropBlanks s.toList).reverse).reverse

/-- Whether a text holds blank characters only (or nothing). -/
def isAllBlank (s : String) : Bool := s.toList.all isBlank

end ImageCatalog.Text
