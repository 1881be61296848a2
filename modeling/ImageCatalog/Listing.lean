import ImageCatalog.Catalog.Directory
import ImageCatalog.Template.Loader
import ImageCatalog.Filter

/-!
# Image listings

The images of an account are the templates in its private catalogs. A full
listing reads every private catalog and every item in it, so the unfiltered
list is kept in the cache `listImages` for the scope, for the connection's
image-list lifetime; a filter is applied to the cached list and never
stored. A refresh runs under the scope's mutex, kept in the cache
`listImagesLock`.

`Connection.scanCatalog` loads every item of one catalog, skips items that
are missing, expired or filtered out, and stamps each image with the
catalog's owner and the item's id.
-/

namespace ImageCatalog

open ImageCatalog.Remote

/-- The name of the cache of image lists. -/
def imageListCache : String := "listImages"

/-- The name of the cache of the mutexes that serialise refreshes of image
lists. -/
def imageListLockCache : String := "listImagesLock"

/-- The lifetime of the refresh mutexes, five hundred weeks: longer than any
process. -/
def permanentTtl : Int := 500 * 7 * 24 * 3600

/-- Whether a filter, if any, passes an image. -/
def passes (filter : Option ReadyFilter) (img : Image) : Bool :=
  match filter with
  | some f => f.matches img
  | none => true

namespace Connection

/-- The images of a catalog that pass a filter. -/
def scanCatalog (cn : Connection) (catalog : Catalog) (filter : Option ReadyFilter := none) :
    Session (List Image) := do
  match ← cn.catalogItemIds catalog with
  | none => return []
  | some ids =>
    let mut found : Array Image := #[]
    for itemId in ids do
      match ← cn.loadTemplate catalog.owner itemId catalog.published with
      | none => continue
      | some img =>
        if !passes filter img then continue
        found := found.push ({ img with ownerId := catalog.owner }.setTag Tag.catalogItemId itemId)
    return found.toList

/-- The images of every private catalog, read afresh: the catalogs in order,
each scanned in full. -/
def scanPrivate (cn : Connection) : Session (List Image) := do
  let mut found : List Image := []
  for catalog in ← cn.catalogs false do
    found := found ++ (← cn.scanCatalog catalog)
  return found

/-- The images of the account's private catalogs, from the cache when it
holds them, then filtered. -/
def images (cn : Connection) (filter : Option ReadyFilter := none) : Session (List Image) := do
  let all ← match ← cacheGet imageListCache cn.imageListTtl cn.scope.key with
    | some (.images is) => pure is
    | _ => do
      -- a refresh holds the scope's mutex and looks at the cache once more
      let _ ← cacheGetOrCreate imageListLockCache permanentTtl cn.scope.key .refreshLock
      match ← cacheGet imageListCache cn.imageListTtl cn.scope.key with
      | some (.images is) => pure is
      | _ => do
        let found ← cn.scanPrivate
        cachePut imageListCache cn.imageListTtl cn.scope.key (.images found)
        pure found
  return all.filter (passes filter)

/-- Forgets the cached image list of the scope. -/
def forgetImages (cn : Connection) : Session Unit :=
  cacheDrop imageListCache cn.imageListTtl cn.scope.key

end Connection

end ImageCatalog
