import ImageCatalog.Text.Quote

/-!
# Faults

Everything that can go wrong in the library, by cause. Platform faults
(`cloud`, and `unreadable` for a response that is no document) are the ones
that a caller who talks to the platform expects and handles; a bad listing
pattern, an internal inconsistency and a bad configuration are faults of
their own kinds.
-/

namespace ImageCatalog

/-- A fault, by cause. -/
inductive Fault where
  /-- The platform reported or caused a failure. -/
  | cloud (message : String)
  /-- A response body is not a well-formed document; `detail` says why and where. -/
  | unreadable (detail : String)
  /-- A listing filter's name pattern does not compile. -/
  | badPattern (pattern : String) (reason : String)
  /-- The library found itself in an inconsistent state. -/
  | internal (message : String)
  /-- The configuration cannot be read, written or used. -/
  | config (message : String)
  /-- A number given in the input is beyond what can be represented. -/
  | tooLarge (message : String)
  /-- An argument has a value that is never acceptable. -/
  | invalidValue (message : String)
  /-- The system cannot represent a value (such as a date far beyond any calendar year). -/
  | systemLimit (message : String)
  deriving Repr, BEq, DecidableEq, Inhabited

namespace Fault

/-- Whether the fault comes from the platform. -/
def isCloud : Fault → Bool
  | .cloud _ | .unreadable _ => true
  | _ => false

/-- The message of a fault. -/
def message : Fault → String
  | .cloud m => m
  | .unreadable d => "Unable to parse response document: " ++ d
  | .badPattern p r => "Invalid name pattern " ++ Text.quote p ++ ": " ++ r
  | .internal m => m
  | .config m => m
  | .tooLarge m => m
  | .invalidValue m => m
  | .systemLimit m => m

end Fault

end ImageCatalog
