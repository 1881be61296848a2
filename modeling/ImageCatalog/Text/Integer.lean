import ImageCatalog.Text.Blank
import ImageCatalog.Text.Digit

/-!
# Integer literals

An integer literal is an optional sign and decimal digits of any script,
single underscores allowed between digits, with white space allowed
around it: `" +1_000 "` is 1000 and `"١"` is 1, while `"4.0"`, `"1__0"`,
`"_1"` and `""` are not integers.

The white space around a literal is Unicode's `White_Space`: the blank
characters of trimming less the information separators U+001C to U+001F,
which trimming removes and a literal may not carry. A literal of more than
`maxDigits` digits is refused whatever its value, so that no text costs
more than a bounded conversion.
-/

namespace ImageCatalog.Text

/-- Unicode `White_Space`: the blank characters less the information
separators. -/
def isWhiteSpace (c : Char) : Bool :=
  isBlank c && !(0x1C ≤ c.toNat && c.toNat ≤ 0x1F)

/-- The most digits an integer literal may have. -/
def maxDigits : Nat := 4300

/-- Reads digits with single underscores between them, accumulating into
`acc`; `none` when the list is not of that form. `afterDigit` says whether
the previous character was a digit. -/
def readDigits (acc : Nat) (afterDigit : Bool) : List Char → Option Nat
  | [] => if afterDigit then some acc else none
  | c :: rest =>
    if c == '_' then
      if afterDigit then
        match rest with
        | d :: _ => if (digitValue? d).isSome then readDigits acc false rest else none
        | [] => none
      else none
    else
      match digitValue? c with
      | some v => readDigits (acc * 10 + v) true rest
      | none => none

/-- The number the digits of a literal denote, refused when there are more
than `maxDigits` of them. -/
def readNumeral (cs : List Char) : Option Nat :=
  if (cs.filter (· != '_')).length ≤ maxDigits then readDigits 0 false cs else none

/-- The integer a literal denotes, or `none` when the text is no literal. -/
def parseInteger? (s : String) : Option Int :=
  let body := ((s.toList.dropWhile isWhiteSpace).reverse.dropWhile isWhiteSpace).reverse
  match body with
  | '-' :: rest => (readNumeral rest).map (fun n => -(n : Int))
  | '+' :: rest => (readNumeral rest).map (fun n => (n : Int))
  | rest => (readNumeral rest).map (fun n => (n : Int))

end ImageCatalog.Text
