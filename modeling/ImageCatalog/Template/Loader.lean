import ImageCatalog.Connection
import ImageCatalog.Network
import ImageCatalog.Platform
import ImageCatalog.Xml.Writer

/-!
# Loading templates as images

A catalog item points at a vApp template through its `Entity` link. Loading
an item reads both documents and gathers what the image needs into
`TemplateFacts`: name, description, creation time, the product and
operating system of the VMs (which decide the platform and architecture),
the ids of the VMs, the default networks of the first VM, the network
configuration and its parent network, and whether the storage lease has run
out. A template whose lease has run out is reported as absent.

`TemplateFacts.toImage` fills what the template does not say from what the
caller knows: the name falls back to the caller's name and then to the id,
the description to the caller's description and then to the name, and the
platform is guessed from the product, then the operating system, then the
name and description together.
-/

namespace ImageCatalog

open ImageCatalog.Xml ImageCatalog.Remote

/-- What a template document says about its image. -/
structure TemplateFacts where
  name : Option String := none
  description : Option String := none
  createdAt : Int := 0
  product : Option String := none
  osDescription : Option String := none
  architecture : Architecture := .i64
  childVmIds : List String := []
  vmCount : Nat := 0
  network : Option NetworkDefaults := none
  networkConfig : Option String := none
  parentHref : Option String := none
  parentId : Option String := none
  parentName : Option String := none
  expired : Bool := false
  deriving Repr, Inhabited

/-- A non-empty text, if any. -/
def given (s : Option String) : Option String := s.filter (!·.isEmpty)

/-- Epoch milliseconds of a timestamp text, 0 when it cannot be read. -/
def millisOf (value : String) : Int := (readTimestamp (some value)).toOption.getD 0

/-- The sections of a template that are read. -/
inductive TemplatePart where
  | description | networkConfig | children | dateCreated | lease

/-- The sections of a VM that are read. -/
inductive VmPart where
  | product | os | connections

namespace TemplateFacts

/-- Reads the product, operating system and (for the first VM) the default
networks of a VM. -/
def readVm (f : TemplateFacts) (vm : Element) (firstVm : Bool) : TemplateFacts :=
  (vm.dispatch [("ProductSection", VmPart.product), ("OperatingSystemSection", .os),
      ("NetworkConnectionSection", .connections)]).foldl (fun f (part, sec) =>
    match part with
    | .product =>
      (sec.childrenNamed "Product").foldl (fun f p =>
        match textOf (some p) with
        | some v => if f.product.isNone then { f with product := some v } else f
        | none => f) f
    | .os =>
      (sec.childrenNamed "Description").foldl (fun f d =>
        match textOf (some d) with
        | some v =>
          let f := if f.osDescription.isNone then { f with osDescription := some v } else f
          if Architecture.isThirtyTwoBit v then { f with architecture := .i32 } else f
        | none => f) f
    | .connections =>
      if firstVm then { f with network := some (NetworkDefaults.ofSection sec) } else f) f

/-- Reads the VMs of a template's children section. -/
def readChildren (f : TemplateFacts) (c : Client) (sec : Element) : TemplateFacts :=
  (sec.childrenNamed "Vm").foldl (fun f vm =>
    let f := match vm.target with
      | some h => { f with childVmIds := f.childVmIds ++ [c.toId h] }
      | none => f
    let firstVm := f.vmCount == 0
    ({ f with vmCount := f.vmCount + 1 }).readVm vm firstVm) f

/-- Reads a network configuration section: the written configuration and
its parent network. -/
def readNetworkConfig (f : TemplateFacts) (sec : Element) : TemplateFacts :=
  (sec.childrenNamed "NetworkConfig").foldl (fun f config =>
    let f := { f with networkConfig := some config.render }
    (config.childrenNamed "Configuration").foldl (fun f conf =>
      match conf.firstChild "ParentNetwork" with
      | some p => { f with parentHref := p.attrValue "href", parentId := p.attrValue "id",
                           parentName := p.attrValue "name" }
      | none => f) f) f

/-- Reads a lease section: the lease has run out when its storage lease
expired before `nowMs`. -/
def readLease (f : TemplateFacts) (nowMs : Int) (sec : Element) : TemplateFacts :=
  match textOf (sec.firstChild "StorageLeaseExpiration") with
  | some e => if millisOf e < nowMs then { f with expired := true } else f
  | none => f

/-- Reads the sections of a template. -/
def readTemplate (f : TemplateFacts) (c : Client) (nowMs : Int) (t : Element) : TemplateFacts :=
  (t.dispatch [("Description", TemplatePart.description), ("NetworkConfigSection", .networkConfig),
      ("Children", .children), ("DateCreated", .dateCreated),
      ("LeaseSettingsSection", .lease)]).foldl (fun f (part, sec) =>
    match part with
    | .description =>
      match textOf (some sec) with
      | some v => { f with description := some v }
      | none => f
    | .networkConfig => f.readNetworkConfig sec
    | .children => f.readChildren c sec
    | .dateCreated =>
      match textOf (some sec) with
      | some v => { f with createdAt := millisOf v }
      | none => f
    | .lease => f.readLease nowMs sec) f

/-- The platform of an image: from the product, the operating system, or
else the name and description. -/
def platformFor (f : TemplateFacts) (name description : String) : Platform :=
  let fromText := [f.product, f.osDescription].filterMap given |>.map (fun t => Platform.guess (some t))
  match fromText.find? (· != .unknown) with
  | some p => p
  | none => Platform.guess (some (name ++ " " ++ description))

/-- The image a template describes, with the caller's fallbacks. -/
def toImage (f : TemplateFacts) (imageId owner region : String) (published : Bool)
    (name description : Option String) (createdAt : Int) : Image :=
  let finalName := ((given f.name).orElse fun _ => given name).getD imageId
  let finalDescription := ((given f.description).orElse fun _ => given description).getD finalName
  let vms := f.childVmIds.eraseDups.mergeSort (fun a b => decide (a ≤ b))
  let img : Image :=
    { imageId := imageId, ownerId := owner, regionId := region, name := finalName,
      description := finalDescription, architecture := f.architecture,
      platform := f.platformFor finalName finalDescription,
      createdAt := if f.createdAt != 0 then f.createdAt else createdAt,
      childVmIds := vms }
  let img := img.setTag Tag.childVmIds (",".intercalate vms)
  let img := if published then img.setTag Tag.published "true" else img
  let img := match f.network with
    | some n => (img.setTag? Tag.defaultNetwork n.static).setTag? Tag.defaultNetworkDhcp n.dhcp
    | none => img
  let img := img.setTag? Tag.networkConfig f.networkConfig
  let img := img.setTag? Tag.parentNetworkHref f.parentHref
  let img := img.setTag? Tag.parentNetworkId f.parentId
  img.setTag? Tag.parentNetworkName f.parentName

end TemplateFacts

/-- The parts of a catalog item that are read. -/
inductive ItemPart where
  | description | dateCreated | entity

namespace Connection

/-- Loads a vApp template as an image; `none` when it is missing or its
lease has run out. -/
def loadVapp (cn : Connection) (templateId owner : String) (published : Bool)
    (name description : Option String := none) (createdAt : Int := 0) : Session (Option Image) := do
  match ← cn.client.get "vAppTemplate" templateId with
  | none => return none
  | some xml =>
    let root ← orFail (parseDocument xml)
    match root.findFirst "VAppTemplate" with
    | none => return none
    | some t =>
      let nowMs := (← now) * 1000
      let facts := ({ name := given (t.attrValue "name") } : TemplateFacts).readTemplate cn.client nowMs t
      if facts.expired then return none
      return some (facts.toImage templateId owner cn.scope.region published name description createdAt)

/-- Loads the template of a catalog item as an image; `none` when the item,
its entity link or its template is missing. -/
def loadTemplate (cn : Connection) (owner itemId : String) (published : Bool) : Session (Option Image) := do
  match ← cn.client.get "catalogItem" itemId with
  | none => return none
  | some xml =>
    let root ← orFail (parseDocument xml)
    match root.findFirst "CatalogItem" with
    | none => return none
    | some item =>
      let name := given (item.attrValue "name")
      let (facts, entities) := (item.dispatch [("Description", ItemPart.description),
          ("DateCreated", .dateCreated), ("Entity", .entity)]).foldl (fun (acc : TemplateFacts × List String) (part, child) =>
        let (f, es) := acc
        match part with
        | .description =>
          match textOf (some child) with
          | some v => ({ f with description := some v, name := f.name.orElse fun _ => some v }, es)
          | none => (f, es)
        | .dateCreated =>
          match textOf (some child) with
          | some v => ({ f with createdAt := millisOf v }, es)
          | none => (f, es)
        | .entity =>
          match child.target with
          | some h => (f, es ++ [cn.client.toId h])
          | none => (f, es)) (({ name := name, description := name } : TemplateFacts), [])
      match entities.getLast? with
      | none => return none
      | some templateId => cn.loadVapp templateId owner published facts.name facts.description facts.createdAt

end Connection

end ImageCatalog
