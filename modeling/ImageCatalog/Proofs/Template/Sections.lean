import ImageCatalog.Proofs.Template.Loading
import Mathlib

/-!
# What a template's sections say

Besides the headline facts of `Loading`, the fold of `TemplateFacts.readTemplate`
over a template's sections gathers two groups of facts. The VMs of its
children sections give the product, the operating system, the architecture,
the VM ids and the default networks; its network configuration sections give
the written configuration and the parent network. Each group is the fold of a
closed-form step over the parts of the template it reads (`addVm` over
`Element.vms`, `addNetworkConfig` over `Element.networkConfigs`), and every
other reader leaves the group alone (the `_frame` lemmas).

Results:

* `TemplateFacts.readVm_eq`: reading one VM, as a record update.
* `TemplateFacts.readTemplate_machines`, `foldl_addVm`: the VM facts are the
  first product and operating system, "32-bit if any operating system says
  so", the ids in document order and the first VM's default networks.
* `TemplateFacts.readTemplate_networking`, `foldl_addNetworkConfig`: the last
  configuration is the one written, and the last parent network named gives
  the parent.
-/

namespace ImageCatalog

open ImageCatalog.Xml ImageCatalog.Remote ImageCatalog.Text

section Folds

variable {α β : Type}

/-- Folding "the first value given wins" keeps the first value given. -/
theorem foldl_or_findSome? (g : α → Option β) (l : List α) (o : Option β) :
    l.foldl (fun o x => o.or (g x)) o = o.or (l.findSome? g) := by
  induction l generalizing o with
  | nil => simp
  | cons x l ih =>
    rw [List.foldl_cons, ih, List.findSome?_cons]
    cases g x with
    | none => simp
    | some b => simp

/-- Folding "set `c` when the test holds" sets `c` when the test holds of some member. -/
theorem foldl_ite_any (q : α → Bool) (c : β) (l : List α) (b : β) :
    l.foldl (fun b x => if q x = true then c else b) b = if l.any q then c else b := by
  induction l generalizing b with
  | nil => simp
  | cons x l ih =>
    rw [List.foldl_cons, ih, List.any_cons]
    by_cases hx : q x <;> simp [hx]

/-- Folding "the last value wins" keeps the last value. -/
theorem foldl_some_getLast? (φ : α → β) (l : List α) (o : Option β) :
    l.foldl (fun _ x => some (φ x)) o = (l.getLast?.map φ).or o := by
  induction l generalizing o with
  | nil => simp
  | cons x l ih =>
    rw [List.foldl_cons, ih, List.getLast?_cons]
    cases l.getLast? <;> simp

end Folds

namespace Xml.Element

/-- The non-empty texts of the `item` children of the `part` children of an
element, in document order. -/
def partTexts (e : Element) (part item : String) : List String :=
  (e.childrenNamed part).flatMap fun sec => (sec.childrenNamed item).filterMap fun c => textOf (some c)

/-- The VMs of a template: the `Vm` children of its children sections, in
document order. -/
def vms (t : Element) : List Element := (t.childrenNamed "Children").flatMap (·.childrenNamed "Vm")

/-- The network configurations of a template: the `NetworkConfig` children of
its network configuration sections, in document order. -/
def networkConfigs (t : Element) : List Element :=
  (t.childrenNamed "NetworkConfigSection").flatMap (·.childrenNamed "NetworkConfig")

/-- The parent networks that a template's configurations name: the first
`ParentNetwork` child of each `Configuration` of its network configurations
that has one, in document order. -/
def parentNetworks (t : Element) : List Element :=
  (t.networkConfigs.flatMap (·.childrenNamed "Configuration")).filterMap (·.firstChild "ParentNetwork")

/-- The product names that a template's VMs give, in document order. -/
def productTexts (t : Element) : List String := t.vms.flatMap (·.partTexts "ProductSection" "Product")

/-- The operating system descriptions that a template's VMs give, in document
order. -/
def osTexts (t : Element) : List String := t.vms.flatMap (·.partTexts "OperatingSystemSection" "Description")

/-- The network connection section of a VM that decides its default networks:
the last one. -/
def lastConnections (vm : Element) : Option Element := (vm.childrenNamed "NetworkConnectionSection").getLast?

/-- The default networks that the first VM of a template gives, from its last
network connection section. -/
def firstVmNetworks (t : Element) : Option NetworkDefaults :=
  (t.vms.head?.bind lastConnections).map NetworkDefaults.ofSection

end Xml.Element

namespace VmPart

/-- The local name that a VM's sections of this kind are read under. -/
def key : VmPart → String
  | .product => "ProductSection"
  | .os => "OperatingSystemSection"
  | .connections => "NetworkConnectionSection"

/-- No two kinds of VM section are read under one name, in any letter case. -/
theorem lower_key_inj {p q : VmPart} (h : lower p.key = lower q.key) : p = q := by
  cases p <;> cases q <;> simp [key, lower, ← String.toList_inj, String.toList_map] at h ⊢

/-- A section of a VM is read as the kind whose name it has. -/
theorem handlerFor_iff (c : Element) (p : VmPart) :
    Element.handlerFor [("ProductSection", VmPart.product), ("OperatingSystemSection", .os),
      ("NetworkConnectionSection", .connections)] c = some p ↔ c.named p.key := by
  have hlist : [("ProductSection", VmPart.product), ("OperatingSystemSection", .os),
      ("NetworkConnectionSection", .connections)] = [VmPart.product, .os, .connections].map fun q => (q.key, q) := rfl
  rw [hlist]
  exact Element.handlerFor_keyed_iff key (fun _ _ _ _ h => lower_key_inj h) c (by cases p <;> simp)

end VmPart

namespace TemplateFacts

variable (f : TemplateFacts) (vm : Element) (firstVm : Bool)

/-- Reading a VM changes its product, operating system, architecture and
default networks, and nothing else. -/
theorem readVm_frame {γ : Type} (F : TemplateFacts → γ)
    (hp : ∀ x v, F { x with product := v } = F x) (ho : ∀ x v, F { x with osDescription := v } = F x)
    (ha : ∀ x v, F { x with architecture := v } = F x) (hn : ∀ x v, F { x with network := v } = F x) :
    F (f.readVm vm firstVm) = F f := by
  unfold readVm
  refine foldl_view_fixed F (fun g ps => ?_) _ f
  obtain ⟨part, sec⟩ := ps
  cases part with
  | product =>
    refine foldl_view_fixed F (fun g p => ?_) _ g
    cases textOf (some p) with
    | none => rfl
    | some v => dsimp only; split <;> simp only [hp]
  | os =>
    refine foldl_view_fixed F (fun g d => ?_) _ g
    cases textOf (some d) with
    | none => rfl
    | some v =>
      dsimp only
      split <;> split
      · exact (ha { g with osDescription := some v } _).trans (ho g _)
      · exact ha g _
      · exact ho g _
      · rfl
  | connections => dsimp only; split <;> simp only [hn]

theorem readVm_product :
    (f.readVm vm firstVm).product = f.product.or (vm.partTexts "ProductSection" "Product").head? := by
  unfold readVm
  rw [Element.foldl_dispatch_field (VmPart.handlerFor_iff · .product) product
    (g := fun o sec => o.or ((sec.childrenNamed "Product").findSome? fun p => textOf (some p))),
    foldl_or_findSome?]
  · simp [Element.partTexts, VmPart.key, List.head?_flatMap, List.head?_filterMap]
  · intro x sec
    refine (List.foldl_hom product fun g p => ?_).symm.trans (foldl_or_findSome? _ _ _)
    cases textOf (some p) with
    | none => simp
    | some v => cases hg : g.product <;> simp [hg]
  · intro x a' sec ha
    cases a' with
    | product => exact absurd rfl ha
    | os =>
      refine foldl_view_fixed product (fun g d => ?_) _ x
      cases textOf (some d) with
      | none => rfl
      | some v => dsimp only; split <;> split <;> rfl
    | connections => dsimp only; split <;> rfl

theorem readVm_osDescription :
    (f.readVm vm firstVm).osDescription =
      f.osDescription.or (vm.partTexts "OperatingSystemSection" "Description").head? := by
  unfold readVm
  rw [Element.foldl_dispatch_field (VmPart.handlerFor_iff · .os) osDescription
    (g := fun o sec => o.or ((sec.childrenNamed "Description").findSome? fun d => textOf (some d))),
    foldl_or_findSome?]
  · simp [Element.partTexts, VmPart.key, List.head?_flatMap, List.head?_filterMap]
  · intro x sec
    refine (List.foldl_hom osDescription fun g d => ?_).symm.trans (foldl_or_findSome? _ _ _)
    cases textOf (some d) with
    | none => simp
    | some v => cases hg : g.osDescription <;> dsimp only <;> split <;> simp [hg]
  · intro x a' sec ha
    cases a' with
    | os => exact absurd rfl ha
    | product =>
      refine foldl_view_fixed osDescription (fun g p => ?_) _ x
      cases textOf (some p) with
      | none => rfl
      | some v => dsimp only; split <;> rfl
    | connections => dsimp only; split <;> rfl

theorem readVm_architecture :
    (f.readVm vm firstVm).architecture =
      if (vm.partTexts "OperatingSystemSection" "Description").any Architecture.isThirtyTwoBit then .i32
      else f.architecture := by
  unfold readVm
  rw [Element.foldl_dispatch_field (VmPart.handlerFor_iff · .os) architecture
    (g := fun a sec => if (sec.childrenNamed "Description").any
      (fun d => (textOf (some d)).any Architecture.isThirtyTwoBit) = true then .i32 else a),
    foldl_ite_any]
  · congr 1
    simp only [Element.partTexts, VmPart.key, List.any_flatMap, List.any_filterMap]
    rfl
  · intro x sec
    refine (List.foldl_hom architecture fun g d => ?_).symm.trans (foldl_ite_any _ _ _ _)
    cases textOf (some d) with
    | none => simp
    | some v =>
      dsimp only
      by_cases h32 : Architecture.isThirtyTwoBit v
      · simp [h32]
      · simp only [h32, Option.any_some, Bool.false_eq_true, if_false]
        split <;> rfl
  · intro x a' sec ha
    cases a' with
    | os => exact absurd rfl ha
    | product =>
      refine foldl_view_fixed architecture (fun g p => ?_) _ x
      cases textOf (some p) with
      | none => rfl
      | some v => dsimp only; split <;> rfl
    | connections => dsimp only; split <;> rfl

theorem readVm_network :
    (f.readVm vm firstVm).network =
      if firstVm then (vm.lastConnections.map NetworkDefaults.ofSection).or f.network else f.network := by
  unfold readVm
  rw [Element.foldl_dispatch_field (VmPart.handlerFor_iff · .connections) network
    (g := fun n sec => if firstVm = true then some (NetworkDefaults.ofSection sec) else n)]
  · cases firstVm with
    | true => exact foldl_some_getLast? _ _ _
    | false => exact List.foldl_fixed _
  · intro x sec
    dsimp only
    split <;> rfl
  · intro x a' sec ha
    cases a' with
    | connections => exact absurd rfl ha
    | product =>
      refine foldl_view_fixed network (fun g p => ?_) _ x
      cases textOf (some p) with
      | none => rfl
      | some v => dsimp only; split <;> rfl
    | os =>
      refine foldl_view_fixed network (fun g d => ?_) _ x
      cases textOf (some d) with
      | none => rfl
      | some v => dsimp only; split <;> split <;> rfl

/-- What reading a VM does: its first product and operating system are kept
unless already known, a 32-bit operating system makes the template 32-bit,
and the last connection section of the first VM gives the default networks. -/
theorem readVm_eq : f.readVm vm firstVm = { f with
    product := f.product.or (vm.partTexts "ProductSection" "Product").head?,
    osDescription := f.osDescription.or (vm.partTexts "OperatingSystemSection" "Description").head?,
    architecture := if (vm.partTexts "OperatingSystemSection" "Description").any Architecture.isThirtyTwoBit
      then .i32 else f.architecture,
    network := if firstVm then (vm.lastConnections.map NetworkDefaults.ofSection).or f.network else f.network } := by
  have hrest := readVm_frame f vm firstVm
    (fun x => { x with product := none, osDescription := none, architecture := .i64, network := none })
    (fun _ _ => rfl) (fun _ _ => rfl) (fun _ _ => rfl) (fun _ _ => rfl)
  rw [← readVm_product f vm firstVm, ← readVm_osDescription f vm firstVm, ← readVm_architecture f vm firstVm,
    ← readVm_network f vm firstVm]
  generalize f.readVm vm firstVm = r at hrest ⊢
  cases r
  cases f
  simp only [TemplateFacts.mk.injEq] at hrest ⊢
  simp only [hrest, and_self]

/-- One VM of a children section read into the facts: its id when it has a
reference, one more VM counted, and what its sections say. -/
def addVm (c : Client) (f : TemplateFacts) (vm : Element) : TemplateFacts :=
  { f with
    product := f.product.or (vm.partTexts "ProductSection" "Product").head?,
    osDescription := f.osDescription.or (vm.partTexts "OperatingSystemSection" "Description").head?,
    architecture := if (vm.partTexts "OperatingSystemSection" "Description").any Architecture.isThirtyTwoBit
      then .i32 else f.architecture,
    childVmIds := f.childVmIds ++ (vm.target.map c.toId).toList,
    vmCount := f.vmCount + 1,
    network := if f.vmCount = 0 then (vm.lastConnections.map NetworkDefaults.ofSection).or f.network
      else f.network }

theorem readChildren_eq (c : Client) (sec : Element) :
    f.readChildren c sec = (sec.childrenNamed "Vm").foldl (addVm c) f := by
  unfold readChildren
  congr 1
  funext g vm
  rw [readVm_eq]
  cases h : vm.target <;> simp [addVm, h]

/-- A network configuration section sets the configuration and its parent
network, and nothing else. -/
theorem readNetworkConfig_frame {γ : Type} (F : TemplateFacts → γ)
    (hc : ∀ x v, F { x with networkConfig := v } = F x)
    (hp : ∀ x h i n, F { x with parentHref := h, parentId := i, parentName := n } = F x) (sec : Element) :
    F (f.readNetworkConfig sec) = F f := by
  unfold readNetworkConfig
  refine foldl_view_fixed F (fun g config => ?_) _ f
  refine (foldl_view_fixed F (fun g conf => ?_) _ _).trans (hc g _)
  split
  · exact hp _ _ _ _
  · rfl

/-- A lease section can only mark the template expired. -/
theorem readLease_frame {γ : Type} (F : TemplateFacts → γ) (he : ∀ x, F { x with expired := true } = F x)
    (nowMs : Int) (sec : Element) : F (f.readLease nowMs sec) = F f := by
  unfold readLease
  split
  · split
    · exact he f
    · rfl
  · rfl

/-- A children section changes only what its VMs decide. -/
theorem readChildren_frame {γ : Type} (F : TemplateFacts → γ)
    (hm : ∀ x p o a ids n net, F { x with
      product := p, osDescription := o, architecture := a, childVmIds := ids, vmCount := n, network := net } = F x)
    (c : Client) (sec : Element) :
    F (f.readChildren c sec) = F f := by
  rw [readChildren_eq]
  exact foldl_view_fixed F (fun g vm => hm g _ _ _ _ _ _) _ f

/-- The facts that the VMs of a template decide. -/
def machines (f : TemplateFacts) : TemplateFacts :=
  { product := f.product, osDescription := f.osDescription, architecture := f.architecture,
    childVmIds := f.childVmIds, vmCount := f.vmCount, network := f.network }

/-- What a template's VMs decide is read from them one after the other, in
document order, across all its children sections. -/
theorem readTemplate_machines (c : Client) (nowMs : Int) (t : Element) :
    (f.readTemplate c nowMs t).machines = t.vms.foldl (addVm c) f.machines := by
  unfold readTemplate
  rw [Element.foldl_dispatch_field (TemplatePart.handlerFor_iff · .children) machines
    (g := fun m sec => (sec.childrenNamed "Vm").foldl (addVm c) m), Element.vms, List.foldl_flatMap]
  · rfl
  · intro x sec
    dsimp only
    rw [readChildren_eq]
    exact (List.foldl_hom machines fun _ _ => rfl).symm
  · intro x a' sec ha
    cases a' with
    | children => exact absurd rfl ha
    | description | dateCreated => dsimp only; cases textOf (some sec) <;> rfl
    | networkConfig => exact readNetworkConfig_frame x machines (fun _ _ => rfl) (fun _ _ _ _ => rfl) sec
    | lease => exact readLease_frame x machines (fun _ => rfl) nowMs sec

/-- Reading VMs one after the other: the first product and operating system
win, any 32-bit operating system makes the template 32-bit, the ids are
gathered in order, and the first VM alone gives the default networks. -/
theorem foldl_addVm (c : Client) (vms : List Element) : vms.foldl (addVm c) f = { f with
    product := f.product.or (vms.flatMap (·.partTexts "ProductSection" "Product")).head?,
    osDescription := f.osDescription.or (vms.flatMap (·.partTexts "OperatingSystemSection" "Description")).head?,
    architecture := if (vms.flatMap (·.partTexts "OperatingSystemSection" "Description")).any
      Architecture.isThirtyTwoBit then .i32 else f.architecture,
    childVmIds := f.childVmIds ++ vms.filterMap (fun vm => vm.target.map c.toId),
    vmCount := f.vmCount + vms.length,
    network := if f.vmCount = 0
      then ((vms.head?.bind Element.lastConnections).map NetworkDefaults.ofSection).or f.network
      else f.network } := by
  induction vms generalizing f with
  | nil => cases f; simp
  | cons vm vms ih =>
    rw [List.foldl_cons, ih]
    simp only [addVm, List.flatMap_cons, List.head?_append, Option.or_assoc, List.any_append, List.filterMap_cons,
      List.append_assoc, List.length_cons, List.head?_cons, Option.bind_some, TemplateFacts.mk.injEq]
    refine ⟨trivial, trivial, trivial, trivial, trivial, ?_, ?_, by omega, ?_⟩
    · -- the template is 32-bit if this VM or a later one says so
      by_cases hvm : (vm.partTexts "OperatingSystemSection" "Description").any Architecture.isThirtyTwoBit
      · simp [hvm]
      · simp [hvm]
    · cases vm.target <;> rfl
    · -- after the first VM the count is never zero
      by_cases h0 : f.vmCount = 0 <;> simp [h0]

/-- The facts that the network configuration of a template decides. -/
def networking (f : TemplateFacts) : TemplateFacts :=
  { networkConfig := f.networkConfig, parentHref := f.parentHref, parentId := f.parentId,
    parentName := f.parentName }

/-- One network configuration read into the facts: it is the written
configuration, and the last parent network its configurations name gives the
parent's reference, id and name. -/
def addNetworkConfig (f : TemplateFacts) (config : Element) : TemplateFacts :=
  let parent := ((config.childrenNamed "Configuration").filterMap (·.firstChild "ParentNetwork")).getLast?
  { f with
    networkConfig := some config.render,
    parentHref := (parent.map (·.attrValue "href")).getD f.parentHref,
    parentId := (parent.map (·.attrValue "id")).getD f.parentId,
    parentName := (parent.map (·.attrValue "name")).getD f.parentName }

/-- Folding "the last parent network named wins", for any step that sets the
parent network a configuration names and otherwise keeps the facts. -/
theorem foldl_parentNetwork {s : TemplateFacts → Element → TemplateFacts}
    (hs : ∀ x conf, s x conf = ((conf.firstChild "ParentNetwork").map fun p => { x with
      parentHref := p.attrValue "href", parentId := p.attrValue "id", parentName := p.attrValue "name" }).getD x)
    (confs : List Element) :
    confs.foldl s f =
      let parent := (confs.filterMap (·.firstChild "ParentNetwork")).getLast?
      { f with
        parentHref := (parent.map (·.attrValue "href")).getD f.parentHref,
        parentId := (parent.map (·.attrValue "id")).getD f.parentId,
        parentName := (parent.map (·.attrValue "name")).getD f.parentName } := by
  induction confs generalizing f with
  | nil => cases f; rfl
  | cons conf confs ih =>
    rw [List.foldl_cons, ih, hs, List.filterMap_cons]
    cases hp : conf.firstChild "ParentNetwork" with
    | none => rfl
    | some p =>
      dsimp only
      rw [List.getLast?_cons]
      cases (confs.filterMap (·.firstChild "ParentNetwork")).getLast? <;> rfl

/-- Reading a network configuration section reads its configurations one after
the other. -/
theorem readNetworkConfig_eq (sec : Element) :
    f.readNetworkConfig sec = (sec.childrenNamed "NetworkConfig").foldl addNetworkConfig f := by
  unfold readNetworkConfig
  congr 1
  funext g config
  rw [foldl_parentNetwork]
  · rfl
  · intro x conf
    cases conf.firstChild "ParentNetwork" <;> rfl

/-- What a template's network configuration decides is read from its network
configurations one after the other, in document order. -/
theorem readTemplate_networking (c : Client) (nowMs : Int) (t : Element) :
    (f.readTemplate c nowMs t).networking = t.networkConfigs.foldl addNetworkConfig f.networking := by
  unfold readTemplate
  rw [Element.foldl_dispatch_field (TemplatePart.handlerFor_iff · .networkConfig) networking
    (g := fun m sec => (sec.childrenNamed "NetworkConfig").foldl addNetworkConfig m), Element.networkConfigs,
    List.foldl_flatMap]
  · rfl
  · intro x sec
    dsimp only
    rw [readNetworkConfig_eq]
    exact (List.foldl_hom networking fun _ _ => rfl).symm
  · intro x a' sec ha
    cases a' with
    | networkConfig => exact absurd rfl ha
    | description | dateCreated => dsimp only; cases textOf (some sec) <;> rfl
    | children => exact readChildren_frame x networking (fun _ _ _ _ _ _ _ => rfl) c sec
    | lease => exact readLease_frame x networking (fun _ => rfl) nowMs sec

/-- Reading network configurations one after the other: the last one is the
written configuration, and the last parent network named gives the parent. -/
theorem foldl_addNetworkConfig (configs : List Element) :
    configs.foldl addNetworkConfig f =
      let parent := ((configs.flatMap (·.childrenNamed "Configuration")).filterMap
        (·.firstChild "ParentNetwork")).getLast?
      { f with
        networkConfig := (configs.getLast?.map (·.render)).or f.networkConfig,
        parentHref := (parent.map (·.attrValue "href")).getD f.parentHref,
        parentId := (parent.map (·.attrValue "id")).getD f.parentId,
        parentName := (parent.map (·.attrValue "name")).getD f.parentName } := by
  induction configs generalizing f with
  | nil => cases f; rfl
  | cons config configs ih =>
    rw [List.foldl_cons, ih, List.flatMap_cons, List.filterMap_append, List.getLast?_append, List.getLast?_cons]
    dsimp only [addNetworkConfig]
    -- a parent network named here counts only when no later configuration names one
    generalize ((configs.flatMap (·.childrenNamed "Configuration")).filterMap
      (·.firstChild "ParentNetwork")).getLast? = later
    cases later <;> cases configs.getLast? <;> rfl

end TemplateFacts

end ImageCatalog
