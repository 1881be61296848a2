import ImageCatalog.Connection

/-!
# The catalog directory

The catalogs of an organization, public or private. A listing reads the
organization's document and every catalog it links to (links that go down
to a catalog), and keeps the list for the scope in the cache of that
visibility for the connection's catalog lifetime; while the list is cached,
no request is made.

A catalog document tells whether it is published, and links up to the
organization that owns it; the owner is that organization's name, or
`publicOwner` when it cannot be read.
-/

namespace ImageCatalog

open ImageCatalog.Xml ImageCatalog.Remote

/-- The parts of a catalog document that the directory reads. -/
inductive CatalogPart where
  | published | link

/-- The name of the cache of catalogs of a visibility. -/
def catalogCache (published : Bool) : String :=
  if published then "publicCatalogs" else "privateCatalogs"

namespace Connection

/-- The name of the organization at an address. -/
def orgName (cn : Connection) (href : String) : Session (Option String) := do
  match ← cn.client.get "org" (cn.client.toId href) with
  | none => return none
  | some xml =>
    let root ← orFail (parseDocument xml)
    return (root.findFirst "Org").bind (·.attrValue "name")

/-- The catalog at an address, if it has the visibility asked for. -/
def catalogAt (cn : Connection) (published : Bool) (href : String) : Session (Option Catalog) := do
  let id := cn.client.toId href
  match ← cn.client.get "catalog" id with
  | none => return none
  | some xml =>
    let root ← orFail (parseDocument xml)
    for node in root.findAll "Catalog" do
      if node.children.isEmpty then continue
      let mut isPublished := false
      let mut owner := publicOwner
      for (part, child) in node.dispatch [("IsPublished", CatalogPart.published), ("Link", .link)] do
        match part with
        | .published => isPublished := Text.lower ((textOf (some child)).getD "") == "true"
        | .link =>
          if child.linksTo "up" MediaType.org then
            if let some h := child.target then
              owner := ((← cn.orgName h).filter (!·.isEmpty)).getD publicOwner
      if isPublished == published then
        return some { catalogId := id, name := node.attrValue "name", published := published, owner := owner }
    return none

/-- The catalogs of the organization with a visibility, from the cache when
it holds them. -/
def catalogs (cn : Connection) (published : Bool) : Session (List Catalog) := do
  let cache := catalogCache published
  if let some (.catalogs cs) ← cacheGet cache cn.catalogTtl cn.scope.key then return cs
  let mut found : Array Catalog := #[]
  match ← cn.client.get "org" cn.scope.region with
  | none => pure ()
  | some xml =>
    let root ← orFail (parseDocument xml)
    for link in root.findAll "Link" do
      if !link.linksTo "down" MediaType.catalog then continue
      match link.target with
      | none => continue
      | some h =>
        if let some c ← cn.catalogAt published h then found := found.push c
  cachePut cache cn.catalogTtl cn.scope.key (.catalogs found.toList)
  return found.toList

/-- The item ids of a catalog, in document order; `none` when the catalog
is gone. -/
def catalogItemIds (cn : Connection) (catalog : Catalog) : Session (Option (List String)) := do
  match ← cn.client.get "catalog" catalog.catalogId with
  | none => return none
  | some xml =>
    let root ← orFail (parseDocument xml)
    return some ((root.findAll "Catalog").flatMap fun node =>
      (node.childrenNamed "CatalogItems").flatMap fun wrapper =>
        (wrapper.childrenNamed "CatalogItem").filterMap fun item =>
          item.target.map cn.client.toId)

/-- Forgets the cached catalogs of the scope, of both visibilities. -/
def forgetCatalogs (cn : Connection) : Session Unit := do
  cacheDrop (catalogCache true) cn.catalogTtl cn.scope.key
  cacheDrop (catalogCache false) cn.catalogTtl cn.scope.key

end Connection

end ImageCatalog
