import ImageCatalog.Catalog.Directory
import ImageCatalog.Xml.Writer

/-!
# Publishing templates

A captured template goes into the account's private "Standard Catalog", or
else the first private catalog the account owns. When the account owns
none, a "Standard Catalog" is created (unpublished) and read back. When no
catalog can be found or created, publishing fails: it never does nothing.

Publishing adds a catalog item that refers to the template, and records the
new item's id on the image as the `catalog_item_id` tag.
-/

namespace ImageCatalog

open ImageCatalog.Xml ImageCatalog.Remote

/-- The name of the catalog templates are published into. -/
def standardCatalogName : String := "Standard Catalog"

/-- The description of a created standard catalog. -/
def standardCatalogDescription : String := "Standard catalog for custom vApp templates"

/-- The namespace of schema instance attributes. -/
def xsiNamespace : String := "http://www.w3.org/2001/XMLSchema-instance"

/-- The request body that creates the standard catalog. -/
def createCatalogBody : String :=
  "<AdminCatalog xmlns=\"" ++ cloudNamespace ++ "\" name=\"" ++ escapeMarkup standardCatalogName ++ "\">" ++
  "<Description>" ++ escapeMarkup standardCatalogDescription ++ "</Description>" ++
  "<IsPublished>false</IsPublished></AdminCatalog>"

/-- The request body of a catalog item for an image's template. -/
def catalogItemBody (templateUrl : String) (img : Image) : String :=
  "<CatalogItem xmlns=\"" ++ cloudNamespace ++ "\" xmlns:xsi=\"" ++ xsiNamespace ++ "\" " ++
  "name=\"" ++ escapeMarkup img.name ++ "\">" ++
  "<Description>" ++ escapeMarkup img.description ++ "</Description>" ++
  "<Entity href=\"" ++ templateUrl ++ "\" name=\"" ++ escapeMarkup img.name ++ "\" " ++
  "type=\"" ++ MediaType.vAppTemplate ++ "\" xsi:type=\"ResourceReferenceType\"/>" ++
  "</CatalogItem>"

namespace Connection

/-- The account's catalog to publish into, without creating one. -/
def findCatalog (cn : Connection) : Session (Option Catalog) := do
  let owned := (← cn.catalogs false).filter (·.owner == cn.scope.account)
  match owned.find? (·.name == some standardCatalogName) with
  | some c => return some c
  | none => return owned.head?

/-- Creates the standard catalog and reads it back. -/
def createCatalog (cn : Connection) : Session (Option Catalog) := do
  let url := cn.client.toAdminUrl "org" cn.scope.region ++ "/catalogs"
  let response ← cn.client.post "createCatalog" url MediaType.adminCatalog createCatalogBody
  let root ← orFail (parseDocument response)
  orFail (checkError root)
  let href := (root.findFirst "AdminCatalog").bind (·.attrValue "href")
  cn.client.waitFor (some response)
  cn.forgetCatalogs
  match href with
  | none => return none
  | some h => cn.catalogAt false h

/-- The catalog to publish into, created if needed. -/
def resolveCatalog (cn : Connection) : Session Catalog := do
  let found ← match ← cn.findCatalog with
    | some c => pure (some c)
    | none => cn.createCatalog
  match found with
  | some c => return c
  | none => cloudFault ("Unable to identify a catalog for " ++ cn.scope.account ++ " in " ++ cn.scope.region)

/-- Adds a catalog item for an image's template; the image gains the item's
id as a tag. -/
def publish (cn : Connection) (img : Image) : Session Image := do
  let catalog ← cn.resolveCatalog
  let templateUrl := cn.client.toUrl "vAppTemplate" img.imageId
  let url := cn.client.toUrl "catalog" catalog.catalogId ++ "/catalogItems"
  let response ← cn.client.post "addCatalogItem" url MediaType.catalogItem (catalogItemBody templateUrl img)
  let root ← orFail (parseDocument response)
  orFail (checkError root)
  let img := match (root.findFirst "CatalogItem").bind (·.target) with
    | some h => img.setTag Tag.catalogItemId (cn.client.toId h)
    | none => img
  cn.client.waitFor (some response)
  return img

end Connection

end ImageCatalog
