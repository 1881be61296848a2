import ImageCatalog.Text.LowerMap
import ImageCatalog.Text.Cased

/-!
# Lower case of a text

A text is lowered character by character with the simple mapping, except for
two characters whose lower case depends on more than themselves:

* `İ` (U+0130) becomes `i` followed by a combining dot above (U+0307);
* a capital sigma becomes the final sigma `ς` when it ends a word, that is
  when a cased letter stands before it and none after it, case-ignorable
  characters in between being skipped on both sides; otherwise `σ`.
-/

namespace ImageCatalog.Text

/-- Whether a cased letter comes first in `cs` once case-ignorable characters
are skipped. -/
def casedFirst : List Char → Bool
  | [] => false
  | c :: rest => if isCaseIgnorable c then casedFirst rest else isCasedLetter c

/-- The lower case of a capital sigma, given the characters before it (nearest
first) and the characters after it. -/
def sigmaLower (before after : List Char) : Char :=
  if casedFirst before && !casedFirst after then 'ς' else 'σ'

/-- Lowers a character list; `before` holds the characters already passed,
nearest first. -/
def lowerList (before : List Char) : List Char → List Char
  | [] => []
  | c :: rest =>
    let lowered :=
      if c.toNat == 0x130 then ['i', Char.ofNat 0x307]
      else if c.toNat == 0x3A3 then [sigmaLower before rest]
      else [lowerChar c]
    lowered ++ lowerList (c :: before) rest

/-- The full lower case of a text. -/
def lower (s : String) : String :=
  if s.toList.all (fun c => c.toNat < 0x80) then s.map Char.toLower
  else String.ofList (lowerList [] s.toList)

/-- Lower-case equality of two texts. -/
def lowerEq (a b : String) : Bool := lower a == lower b

/-- The upper case of an ASCII letter, every other character kept. Used only
to compare with an ASCII word: no character outside ASCII has an upper case
made of the ASCII letters of such a word other than the letters themselves. -/
def upperAscii (s : String) : String := s.map Char.toUpper

end ImageCatalog.Text
