import ImageCatalog.Pattern.Match
import ImageCatalog.Text.Decimal

/-!
# Redacting secrets

Text built from an exchange with the platform may carry secrets: the session
header, an authorization header, a password or a token assignment. Before
such text is logged or reported, `redact` replaces each secret value by
`[REDACTED]`, keeping the name and separator in front of it. The four kinds
are redacted one after the other, ignoring case. `shorten` redacts and then
cuts the text to a limit, marking a cut with `...`.
-/

namespace ImageCatalog.Redact

open ImageCatalog.Pattern

/-- The marker that stands for a redacted value. -/
def marker : String := "[REDACTED]"

/-- The patterns of secrets, in the order they are redacted. The first group
is the text kept in front of the value; the second is the value. -/
def secretPatterns : List String :=
  [ "(x-vcloud-authorization[\"']?\\s*[:=]\\s*[\"']?)([^\\s\"'&,\\)]+)",
    "(Authorization[\"']?\\s*[:=]\\s*[\"']?(?:Basic|Bearer)\\s+)([^\\s\"']+)",
    "(password[\"']?\\s*[:=]\\s*[\"']?)([^\\s\"'&,\\)]+)",
    "([^a-zA-Z]token[\"']?\\s*[:=]\\s*[\"']?)([^\\s\"'&,\\)]+)" ]

/-- The compiled secret patterns. -/
def secretRegexes : List Regex :=
  secretPatterns.filterMap fun p =>
    match Regex.compile p flagIgnoreCase with
    | .ok r => some r
    | .error _ => none

/-- Replaces every match of `r` in `text` by its first group and the marker. -/
def redactWith (r : Regex) (text : String) : String :=
  r.replaceAll text fun chars mt => mt.groupText chars 1 ++ marker

/-- A text with every secret value replaced by the marker. -/
def redact (text : String) : String :=
  secretRegexes.foldl (fun acc r => redactWith r acc) text

/-- What may be given to redact: a text, or a number that is written out
first. -/
inductive Message where
  | text (s : String)
  | absent
  | truth (b : Bool)
  | integer (n : Int)
  | decimal (mantissa : Int) (scale : Nat)

/-- The text of a message. -/
def Message.render : Message → String
  | .text s => s
  | .absent => "None"
  | .truth b => if b then "True" else "False"
  | .integer n => toString n
  | .decimal m s => Text.floatText m s

/-- The first `limit` characters of a list; a negative limit counts from the
end. -/
def cutAt (cs : List Char) (limit : Int) : List Char :=
  if limit ≥ 0 then cs.take limit.toNat else cs.take (cs.length - limit.natAbs)

/-- A redacted text cut to `limit` characters, with `...` after a cut. -/
def shorten (text : String) (limit : Int := 500) : String :=
  let r := redact text
  if (r.length : Int) > limit then String.ofList (cutAt r.toList limit) ++ "..." else r

end ImageCatalog.Redact
