import ImageCatalog.Text.Printable

/-!
# Quoted text

A text written as a quoted literal, the way error messages show a value:
in single quotes, or in double quotes when the text holds a single quote and
no double quote. The chosen quote and the backslash are escaped with a
backslash; tab, line feed and carriage return are written `\t`, `\n`, `\r`;
other characters that are not printable are written as `\x`, `\u` or `\U`
escapes of two, four or eight lower-case hexadecimal digits.
-/

namespace ImageCatalog.Text

/-- The lower-case hexadecimal digits of `n`, padded with zeros to `width`. -/
def hexDigits (width n : Nat) : String :=
  let ds := Nat.toDigits 16 n
  String.ofList (List.replicate (width - ds.length) '0' ++ ds)

/-- The written form of one character inside a literal quoted with `q`. -/
def quoteChar (q c : Char) : String :=
  if c == q || c == '\\' then String.ofList ['\\', c]
  else if c == '\t' then "\\t"
  else if c == '\n' then "\\n"
  else if c == '\r' then "\\r"
  else if isPrintable c then String.singleton c
  else if c.toNat ≤ 0xFF then "\\x" ++ hexDigits 2 c.toNat
  else if c.toNat ≤ 0xFFFF then "\\u" ++ hexDigits 4 c.toNat
  else "\\U" ++ hexDigits 8 c.toNat

/-- The quoted literal of a text. -/
def quote (s : String) : String :=
  let cs := s.toList
  let q := if cs.contains '\'' && !cs.contains '"' then '"' else '\''
  let body := cs.foldl (fun acc c => acc ++ quoteChar q c) ""
  String.singleton q ++ body ++ String.singleton q

end ImageCatalog.Text
