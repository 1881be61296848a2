import ImageCatalog.Listing
import ImageCatalog.Capture

/-!
# Image operations of an account

The operations a consumer of machine images needs, over one connection:
listing the account's images (cached), searching public catalogs (not
cached), finding an image by id (private images first, then public ones),
telling whether an image is shared with the public, capturing a VM (the
cached image list is forgotten afterwards, whatever the outcome), and
removing an image with its catalog item.

`capabilities` states what the platform supports: VMDK images, no sharing,
custom images, capture into volumes, and a public library of machine
images.
-/

namespace ImageCatalog

open ImageCatalog.Remote

/-- What the platform supports for images. -/
structure Capabilities where
  formats : List String := ["vmdk"]
  shares : List String := []
  term : String := "vApp Template"
  customImages : Bool := true
  captureVolume : Bool := true
  captureStorage : Bool := false
  publicMachine : Bool := true
  publicKernel : Bool := false
  publicRamdisk : Bool := false
  deriving Repr, Inhabited

/-- The capabilities of the platform. -/
def capabilities : Capabilities := {}

namespace Connection

/-- The images of every public catalog that pass a filter. -/
def publicImages (cn : Connection) (filter : Option ReadyFilter := none) : Session (List Image) := do
  let mut found : List Image := []
  for catalog in ← cn.catalogs true do
    found := found ++ (← cn.scanCatalog catalog filter)
  return found

/-- The image with an id: among the account's images first, then among
public ones. -/
def findImage (cn : Connection) (imageId : String) : Session (Option Image) := do
  if let some img := (← cn.images).find? (·.imageId == imageId) then return some img
  return (← cn.publicImages).find? (·.imageId == imageId)

/-- Whether an image is shared with the public. -/
def isShared (cn : Connection) (imageId : String) : Session Bool := do
  match ← cn.findImage imageId with
  | some img => return img.tag? Tag.published == some "true"
  | none => return false

/-- Captures a VM, then forgets the cached image list. -/
def captureImage (cn : Connection) (o : CaptureOptions) : CaptureRun Image := do
  let result ← outcome (cn.capture o)
  onPlatform cn.forgetImages
  match result with
  | .ok img => return img
  | .error e => throw e

/-- Removes an image's template and, when known, its catalog item; the
cached image list is forgotten afterwards. -/
def remove (cn : Connection) (imageId : String) : Session Unit := do
  let img ← match ← cn.findImage imageId with
    | some img => pure img
    | none => cloudFault ("No such image: " ++ imageId)
  let itemId := img.tag? Tag.catalogItemId
  let result ← tryCatch (do
      cn.client.delete "vAppTemplate" imageId
      if let some i := itemId then cn.client.delete "catalogItem" i
      pure (Except.ok ())) fun e => pure (.error e)
  cn.forgetImages
  orFail result

end Connection

end ImageCatalog
