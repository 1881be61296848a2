import ImageCatalog.Platform

/-!
# Machine images

A vApp template seen as a machine image: its ids, names, architecture,
platform, creation time (epoch milliseconds, 0 when unknown), the ids of the
VMs it holds, and tags: string attributes in the order they were first set.
-/

namespace ImageCatalog

/-- The processor architecture of an image. -/
inductive Architecture where
  | i32 | i64
  deriving BEq, DecidableEq, Repr, Inhabited

/-- The name of an architecture. -/
def Architecture.name : Architecture → String
  | .i32 => "i32"
  | .i64 => "i64"

/-- The architecture with a given name. -/
def Architecture.ofName? : String → Option Architecture
  | "i32" => some .i32
  | "i64" => some .i64
  | _ => none

/-- Whether an operating system description names a 32-bit system: it
mentions `32`, or mentions `x86` without `64`. -/
def Architecture.isThirtyTwoBit (desc : String) : Bool :=
  Text.hasInfix desc "32" || (Text.hasInfix desc "x86" && !Text.hasInfix desc "64")

namespace Tag
/-- The catalog item that holds the image's template. -/
def catalogItemId : String := "catalog_item_id"
/-- Set to `true` on images of published catalogs. -/
def published : String := "public"
/-- The ids of the template's VMs, joined by commas. -/
def childVmIds : String := "child_vm_ids"
/-- The static default network. -/
def defaultNetwork : String := "default_network_name"
/-- The DHCP default network. -/
def defaultNetworkDhcp : String := "default_network_name_dhcp"
/-- The written network configuration of the template. -/
def networkConfig : String := "network_config"
/-- The parent network's reference. -/
def parentNetworkHref : String := "parent_network_href"
/-- The parent network's id. -/
def parentNetworkId : String := "parent_network_id"
/-- The parent network's name. -/
def parentNetworkName : String := "parent_network_name"
end Tag

/-- A machine image. Loaded images are always active. -/
structure Image where
  imageId : String
  ownerId : String
  regionId : String
  name : String
  description : String
  architecture : Architecture := .i64
  platform : Platform := .unknown
  createdAt : Int := 0
  childVmIds : List String := []
  tags : List (String × String) := []
  deriving Repr, Inhabited, BEq, DecidableEq

namespace Image

/-- Sets a tag: a new key goes last, an existing one keeps its place. -/
def setTag (img : Image) (key value : String) : Image :=
  if img.tags.any (·.1 == key) then
    { img with tags := img.tags.map (fun kv => if kv.1 == key then (key, value) else kv) }
  else { img with tags := img.tags ++ [(key, value)] }

/-- Sets a tag when a value is given. -/
def setTag? (img : Image) (key : String) : Option String → Image
  | some v => img.setTag key v
  | none => img

/-- The value of a tag. -/
def tag? (img : Image) (key : String) : Option String :=
  (img.tags.find? (·.1 == key)).map (·.2)

end Image

end ImageCatalog
