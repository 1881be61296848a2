/-!
# Catalogs

A catalog of an organization: its id, its name if it has one, whether it is
published to other organizations, and the name of the organization that owns
it. A catalog whose owner cannot be found is owned by `publicOwner`.
-/

namespace ImageCatalog

/-- The owner of catalogs without a resolvable organization. -/
def publicOwner : String := "--public--"

/-- A catalog. -/
structure Catalog where
  catalogId : String
  name : Option String
  published : Bool
  owner : String
  deriving Repr, BEq, DecidableEq, Inhabited

/-- The account and organization a session acts in; the organization is
the region of its images. -/
structure Scope where
  account : String
  region : String
  deriving Repr, BEq, DecidableEq, Inhabited

/-- The key under which cached data of a scope is kept: `account:region`. -/
def Scope.key (s : Scope) : String := s.account ++ ":" ++ s.region

end ImageCatalog
