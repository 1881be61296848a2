import ImageCatalog.Text.LowerMap
import ImageCatalog.Text.Range

/-!
# Case folding for patterns

A pattern that ignores case compares the simple lower cases of characters,
as Unicode 14.0 defines them. A few lower-case letters have other lower-case
letters that fold to the same capital or title case (`i` and dotless `ı`,
`s` and long `ſ`, the Greek letters and their symbol forms, …); those
equivalences are `foldPartners`.

`lowerPreimages` are the characters whose lower case is a given character:
they are found from the runs of the lower-case mapping.
-/

namespace ImageCatalog.Pattern

open ImageCatalog.Text

/-- Characters with a case: those that differ from their lower or their
upper case. -/
def casedRanges : CodeRanges where
  ranges := #[
    (0x0041, 0x005A), (0x0061, 0x007A), (0x00B5, 0x00B5), (0x00C0, 0x00D6),
    (0x00D8, 0x00F6), (0x00F8, 0x0137), (0x0139, 0x018C), (0x018E, 0x019A),
    (0x019C, 0x01A9), (0x01AC, 0x01B9), (0x01BC, 0x01BD), (0x01BF, 0x01BF),
    (0x01C4, 0x0220), (0x0222, 0x0233), (0x023A, 0x0254), (0x0256, 0x0257),
    (0x0259, 0x0259), (0x025B, 0x025C), (0x0260, 0x0261), (0x0263, 0x0263),
    (0x0265, 0x0266), (0x0268, 0x026C), (0x026F, 0x026F), (0x0271, 0x0272),
    (0x0275, 0x0275), (0x027D, 0x027D), (0x0280, 0x0280), (0x0282, 0x0283),
    (0x0287, 0x028C), (0x0292, 0x0292), (0x029D, 0x029E), (0x0345, 0x0345),
    (0x0370, 0x0373), (0x0376, 0x0377), (0x037B, 0x037D), (0x037F, 0x037F),
    (0x0386, 0x0386), (0x0388, 0x038A), (0x038C, 0x038C), (0x038E, 0x03A1),
    (0x03A3, 0x03D1), (0x03D5, 0x03F5), (0x03F7, 0x03FB), (0x03FD, 0x0481),
    (0x048A, 0x052F), (0x0531, 0x0556), (0x0561, 0x0587), (0x10A0, 0x10C5),
    (0x10C7, 0x10C7), (0x10CD, 0x10CD), (0x10D0, 0x10FA), (0x10FD, 0x10FF),
    (0x13A0, 0x13F5), (0x13F8, 0x13FD), (0x1C80, 0x1C88), (0x1C90, 0x1CBA),
    (0x1CBD, 0x1CBF), (0x1D79, 0x1D79), (0x1D7D, 0x1D7D), (0x1D8E, 0x1D8E),
    (0x1E00, 0x1E9B), (0x1E9E, 0x1E9E), (0x1EA0, 0x1F15), (0x1F18, 0x1F1D),
    (0x1F20, 0x1F45), (0x1F48, 0x1F4D), (0x1F50, 0x1F57), (0x1F59, 0x1F59),
    (0x1F5B, 0x1F5B), (0x1F5D, 0x1F5D), (0x1F5F, 0x1F7D), (0x1F80, 0x1FB4),
    (0x1FB6, 0x1FBC), (0x1FBE, 0x1FBE), (0x1FC2, 0x1FC4), (0x1FC6, 0x1FCC),
    (0x1FD0, 0x1FD3), (0x1FD6, 0x1FDB), (0x1FE0, 0x1FEC), (0x1FF2, 0x1FF4),
    (0x1FF6, 0x1FFC), (0x2126, 0x2126), (0x212A, 0x212B), (0x2132, 0x2132),
    (0x214E, 0x214E), (0x2160, 0x217F), (0x2183, 0x2184), (0x24B6, 0x24E9),
    (0x2C00, 0x2C70), (0x2C72, 0x2C73), (0x2C75, 0x2C76), (0x2C7E, 0x2CE3),
    (0x2CEB, 0x2CEE), (0x2CF2, 0x2CF3), (0x2D00, 0x2D25), (0x2D27, 0x2D27),
    (0x2D2D, 0x2D2D), (0xA640, 0xA66D), (0xA680, 0xA69B), (0xA722, 0xA72F),
    (0xA732, 0xA76F), (0xA779, 0xA787), (0xA78B, 0xA78D), (0xA790, 0xA794),
    (0xA796, 0xA7AE), (0xA7B0, 0xA7CA), (0xA7D0, 0xA7D1), (0xA7D6, 0xA7D9),
    (0xA7F5, 0xA7F6), (0xAB53, 0xAB53), (0xAB70, 0xABBF), (0xFB00, 0xFB06),
    (0xFB13, 0xFB17), (0xFF21, 0xFF3A), (0xFF41, 0xFF5A), (0x10400, 0x1044F),
    (0x104B0, 0x104D3), (0x104D8, 0x104FB), (0x10570, 0x1057A), (0x1057C, 0x1058A),
    (0x1058C, 0x10592), (0x10594, 0x10595), (0x10597, 0x105A1), (0x105A3, 0x105B1),
    (0x105B3, 0x105B9), (0x105BB, 0x105BC), (0x10C80, 0x10CB2), (0x10CC0, 0x10CF2),
    (0x118A0, 0x118DF), (0x16E40, 0x16E7F), (0x1E900, 0x1E943)]

/-- Whether a code point has a case. -/
def isCased (n : Nat) : Bool :=
  n < 0x110000 && casedRanges.contains (Char.ofNat n)

/-- Lower-case letters and the other lower-case letters that share their
case class. -/
def foldPartnerTable : List (Nat × List Nat) := [
    (0x0069, [0x0131]),
    (0x0073, [0x017F]),
    (0x00B5, [0x03BC]),
    (0x0131, [0x0069]),
    (0x017F, [0x0073]),
    (0x0345, [0x03B9, 0x1FBE]),
    (0x0390, [0x1FD3]),
    (0x03B0, [0x1FE3]),
    (0x03B2, [0x03D0]),
    (0x03B5, [0x03F5]),
    (0x03B8, [0x03D1]),
    (0x03B9, [0x0345, 0x1FBE]),
    (0x03BA, [0x03F0]),
    (0x03BC, [0x00B5]),
    (0x03C0, [0x03D6]),
    (0x03C1, [0x03F1]),
    (0x03C2, [0x03C3]),
    (0x03C3, [0x03C2]),
    (0x03C6, [0x03D5]),
    (0x03D0, [0x03B2]),
    (0x03D1, [0x03B8]),
    (0x03D5, [0x03C6]),
    (0x03D6, [0x03C0]),
    (0x03F0, [0x03BA]),
    (0x03F1, [0x03C1]),
    (0x03F5, [0x03B5]),
    (0x0432, [0x1C80]),
    (0x0434, [0x1C81]),
    (0x043E, [0x1C82]),
    (0x0441, [0x1C83]),
    (0x0442, [0x1C84, 0x1C85]),
    (0x044A, [0x1C86]),
    (0x0463, [0x1C87]),
    (0x1C80, [0x0432]),
    (0x1C81, [0x0434]),
    (0x1C82, [0x043E]),
    (0x1C83, [0x0441]),
    (0x1C84, [0x0442, 0x1C85]),
    (0x1C85, [0x0442, 0x1C84]),
    (0x1C86, [0x044A]),
    (0x1C87, [0x0463]),
    (0x1C88, [0xA64B]),
    (0x1E61, [0x1E9B]),
    (0x1E9B, [0x1E61]),
    (0x1FBE, [0x0345, 0x03B9]),
    (0x1FD3, [0x0390]),
    (0x1FE3, [0x03B0]),
    (0xA64B, [0x1C88]),
    (0xFB05, [0xFB06]),
    (0xFB06, [0xFB05])]

/-- The other lower-case letters that share the case class of `n`. -/
def foldPartners (n : Nat) : List Nat :=
  match foldPartnerTable.find? (·.1 == n) with
  | some (_, ps) => ps
  | none => []

/-- The simple lower case of a code point. -/
def lowerCode (n : Nat) : Nat :=
  if n < 0x110000 && !(0xD800 ≤ n && n ≤ 0xDFFF) then (lowerChar (Char.ofNat n)).toNat else n

/-- The code points other than `y` whose lower case is `y`. -/
def lowerPreimages (y : Nat) : List Nat :=
  lowerRuns.toList.filterMap fun r =>
    let c : Int := (y : Int) - r.shift
    if c < 0 || c == y then none
    else
      let c := c.toNat
      if r.first ≤ c && c ≤ r.last && (c - r.first) % r.stride == 0 then some c else none

/-- The lower case of an ASCII letter; every other code point is kept. -/
def asciiLower (n : Nat) : Nat := if 0x41 ≤ n && n ≤ 0x5A then n + 32 else n

/-- Whether a code point is an ASCII letter. -/
def isAsciiLetter (n : Nat) : Bool := (0x41 ≤ n && n ≤ 0x5A) || (0x61 ≤ n && n ≤ 0x7A)

end ImageCatalog.Pattern
