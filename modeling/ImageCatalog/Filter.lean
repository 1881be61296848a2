import ImageCatalog.Image
import ImageCatalog.Fault
import ImageCatalog.Pattern.Match

/-!
# Image filters

A filter for listings: a name pattern, a platform, an architecture and an
owner, each optional; an image passes when it meets every criterion that is
set, so the empty filter passes everything. The name pattern ignores case
and may match anywhere in the name; an empty pattern is no criterion.
-/

namespace ImageCatalog

open ImageCatalog.Pattern

/-- The platform with a given name; any other name is refused. -/
def Platform.read (s : String) : Except Fault Platform :=
  match Platform.ofName? s with
  | some p => pure p
  | none => throw (.invalidValue (Text.quote s ++ " is not a valid Platform"))

/-- The architecture with a given name; any other name is refused. -/
def Architecture.read (s : String) : Except Fault Architecture :=
  match Architecture.ofName? s with
  | some a => pure a
  | none => throw (.invalidValue (Text.quote s ++ " is not a valid Architecture"))

/-- The criteria of a filter. -/
structure ImageFilter where
  namePattern : Option String := none
  platform : Option Platform := none
  architecture : Option Architecture := none
  ownerId : Option String := none
  deriving Repr, Inhabited

/-- A filter whose name pattern has been compiled. -/
structure ReadyFilter where
  criteria : ImageFilter
  nameRegex : Option Regex

/-- The fault for a pattern that does not compile. -/
def patternFault (pattern : String) (e : PatternError) : Fault :=
  match e.kind with
  | .malformed => .badPattern pattern (e.render pattern)
  | .tooLarge => .tooLarge e.msg
  | .badFlags => .invalidValue e.msg

/-- Compiles the name pattern of a filter, ignoring case. -/
def ImageFilter.prepare (f : ImageFilter) : Except Fault ReadyFilter :=
  match f.namePattern with
  | some p =>
    if p.isEmpty then pure { criteria := f, nameRegex := none }
    else
      match Regex.compile p flagIgnoreCase with
      | .ok r => pure { criteria := f, nameRegex := some r }
      | .error e => throw (patternFault p e)
  | none => pure { criteria := f, nameRegex := none }

/-- Whether an image meets every criterion of a filter. -/
def ReadyFilter.matches (f : ReadyFilter) (img : Image) : Bool :=
  (match f.nameRegex with
    | some r => r.occursIn img.name
    | none => true) &&
  (match f.criteria.platform with
    | some p => img.platform == p
    | none => true) &&
  (match f.criteria.architecture with
    | some a => img.architecture == a
    | none => true) &&
  (match f.criteria.ownerId with
    | some o => img.ownerId == o
    | none => true)

end ImageCatalog
