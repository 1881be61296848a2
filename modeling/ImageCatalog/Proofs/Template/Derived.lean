import ImageCatalog.Proofs.Template.Sections
import ImageCatalog.Proofs.Remote.Served

/-!
# The machines and networks of a loaded template

What the image of a template says about its machines, as a function of the
template's sections (`Template.Sections`): the platform is the first known
family that a product or an operating system of its VMs names, or else the
family guessed from the image's name and description; the architecture is
32-bit exactly when an operating system description says so; the VM ids are
sorted, without duplicates; the network tags come from the first VM's last
connection section and from the last network configuration.

Results:

* `Platform.guess_eq_iff`: the family guessed from a text is the first of the
  keyword table one of whose keywords occurs in the lower-cased text.
* `Architecture.isThirtyTwoBit_iff`: the 32-bit rule on a description.
* `Connection.loadVapp_image`: a loaded image is the image of the facts read
  from the template that was fetched.
* `Connection.loadVapp_architecture_platform`,
  `Connection.loadVapp_vms_networks`: the fields and tags above, for every
  image that `loadVapp` returns.
-/

namespace ImageCatalog

open ImageCatalog.Xml ImageCatalog.Remote ImageCatalog.Text

/-- `occursIn` finds exactly the runs of consecutive characters. -/
theorem Text.occursIn_iff (sub cs : List Char) : occursIn sub cs = true ↔ sub <:+: cs := by
  induction cs with
  | nil => simp [occursIn]
  | cons c rest ih =>
    rw [occursIn, Bool.or_eq_true, List.isPrefixOf_iff_prefix, ih, List.infix_cons_iff]

/-- `hasInfix` is the infix relation on the characters. -/
theorem Text.hasInfix_iff (s sub : String) : hasInfix s sub = true ↔ sub.toList <:+: s.toList :=
  occursIn_iff _ _

/-! ## Guessing the platform -/

namespace Platform

/-- The family a text names, when it names a known one. -/
def recognised? (text : Option String) : Option Platform :=
  (text.map fun s => guess (some s)).filter (· != .unknown)

theorem guess_some (s : String) : guess (some s) = guessLowered (lower s) := by
  show (if s.isEmpty then .unknown else guessLowered (lower s)) = _
  split
  · next h =>
    -- no keyword is inside the empty text
    rw [String.isEmpty_iff.mp h]
    simp [lower, guessLowered, keywords, hasInfix, occursIn]
  · rfl

/-- The family guessed from a text is the first family of the keyword table
with a keyword inside the lowered text, and `unknown` when there is none. -/
theorem guess_eq_iff (s : String) (p : Platform) :
    guess (some s) = p ↔
      (∃ pre ks post, keywords = pre ++ (p, ks) :: post ∧ (∃ k ∈ ks, k.toList <:+: (lower s).toList) ∧
        ∀ e ∈ pre, ∀ k ∈ e.2, ¬ k.toList <:+: (lower s).toList) ∨
      (p = .unknown ∧ ∀ e ∈ keywords, ∀ k ∈ e.2, ¬ k.toList <:+: (lower s).toList) := by
  -- a family matches when one of its keywords is inside the lowered text
  have hmatch : ∀ e : Platform × List String,
      (e.2.any (hasInfix (lower s) ·) = true) ↔ ∃ k ∈ e.2, k.toList <:+: (lower s).toList := by
    intro e
    simp [Text.hasInfix_iff]
  have hmiss : ∀ e : Platform × List String,
      (!e.2.any (hasInfix (lower s) ·)) = true ↔ ∀ k ∈ e.2, ¬ k.toList <:+: (lower s).toList := by
    intro e
    rw [Bool.not_eq_true', ← Bool.not_eq_true, hmatch]
    simp
  rw [guess_some, guessLowered]
  split
  · next q ks hfind =>
    obtain ⟨hq, pre, post, hsplit, hpre⟩ := List.find?_eq_some_iff_append.mp hfind
    constructor
    · rintro rfl
      exact .inl ⟨pre, ks, post, hsplit, (hmatch (q, ks)).mp hq, fun e he => (hmiss e).mp (hpre e he)⟩
    · rintro (⟨pre', ks', post', hsplit', hks', hpre'⟩ | ⟨-, hnone⟩)
      · -- the search passes over the families before `p` and stops at `p`
        rw [hsplit', List.find?_append, List.find?_eq_none.mpr fun e he h =>
          (hmatch e).mp h |>.elim fun k ⟨hk, hin⟩ => hpre' e he k hk hin, Option.none_or,
          List.find?_cons_of_pos] at hfind
        · exact (Prod.mk.inj (Option.some.inj hfind)).1.symm
        · exact (hmatch (p, ks')).mpr hks'
      · exact absurd ((hmatch (q, ks)).mp hq) fun ⟨k, hk, hin⟩ =>
          hnone (q, ks) (List.mem_of_find?_eq_some hfind) k hk hin
  · next hfind =>
    rw [List.find?_eq_none] at hfind
    constructor
    · rintro rfl
      exact .inr ⟨rfl, fun e he k hk hin => hfind e he ((hmatch e).mpr ⟨k, hk, hin⟩)⟩
    · rintro (⟨pre, ks, post, hsplit, hks, -⟩ | ⟨rfl, -⟩)
      · exact absurd ((hmatch (p, ks)).mpr hks) (hfind (p, ks) (by rw [hsplit]; simp))
      · rfl

end Platform

/-- A 32-bit system is one whose description mentions `32`, or mentions `x86`
without `64`. -/
theorem Architecture.isThirtyTwoBit_iff (d : String) :
    Architecture.isThirtyTwoBit d = true ↔
      "32".toList <:+: d.toList ∨ ("x86".toList <:+: d.toList ∧ ¬ "64".toList <:+: d.toList) := by
  have h64 : (!hasInfix d "64") = true ↔ ¬ "64".toList <:+: d.toList := by
    rw [Bool.not_eq_true', ← Bool.not_eq_true, hasInfix_iff]
  rw [isThirtyTwoBit, Bool.or_eq_true, Bool.and_eq_true, h64, hasInfix_iff, hasInfix_iff]

namespace TemplateFacts

variable (f : TemplateFacts)

/-- Guessing from the given texts of a list, the first family recognised is
the first that one of the texts names: an empty text names none. -/
theorem find?_guess_given (l : List (Option String)) :
    ((l.filterMap given).map fun t => Platform.guess (some t)).find? (· != .unknown) =
      l.findSome? Platform.recognised? := by
  induction l with
  | nil => rfl
  | cons o l ih =>
    cases o with
    | none =>
      rw [List.filterMap_cons_none rfl, ih, List.findSome?_cons]
      rfl
    | some s =>
      by_cases hs : s = ""
      · -- an empty text is skipped, and it names no family
        subst hs
        rw [List.filterMap_cons_none rfl, ih, List.findSome?_cons]
        rfl
      · have hgiven : given (some s) = some s := by simp [given, hs]
        rw [List.filterMap_cons_some hgiven, List.map_cons, List.find?_cons, List.findSome?_cons]
        by_cases hu : Platform.guess (some s) = .unknown
        · have hb : (Platform.guess (some s) != .unknown) = false := by rw [hu]; rfl
          simp only [Platform.recognised?, Option.map_some, Option.filter_some, hb, ih]
          rfl
        · have hb : (Platform.guess (some s) != .unknown) = true := by
            revert hu
            cases Platform.guess (some s) <;> decide
          simp only [Platform.recognised?, Option.map_some, Option.filter_some, hb]
          rfl

/-- The platform of an image is the family its product names, else the one
its operating system names, else the one guessed from its name and
description. -/
theorem platformFor_eq (name description : String) :
    f.platformFor name description =
      ((Platform.recognised? f.product).or (Platform.recognised? f.osDescription)).getD
        (Platform.guess (some (name ++ " " ++ description))) := by
  unfold platformFor
  dsimp only
  rw [find?_guess_given]
  simp only [List.findSome?_cons, List.findSome?_nil]
  cases Platform.recognised? f.product <;> cases Platform.recognised? f.osDescription <;> rfl

end TemplateFacts

/-! ## The image's VM ids and tags -/

/-- Erasing duplicates leaves no duplicate. -/
theorem nodup_eraseDups {α : Type} [BEq α] [LawfulBEq α] : ∀ l : List α, l.eraseDups.Nodup
  | [] => List.nodup_nil
  | a :: as => by
    rw [List.eraseDups_cons]
    refine List.nodup_cons.mpr ⟨fun h => ?_, nodup_eraseDups _⟩
    rw [List.mem_eraseDups, List.mem_filter] at h
    simp at h
termination_by l => l.length
decreasing_by exact Nat.lt_succ_of_le (List.length_filter_le _ as)

/-- Texts without duplicates, in increasing order: each strictly below the next,
and the same texts as given. -/
theorem sortedIds_spec (l : List String) :
    (l.eraseDups.mergeSort fun a b => decide (a ≤ b)).Pairwise (· < ·) ∧
      ∀ x, x ∈ l.eraseDups.mergeSort (fun a b => decide (a ≤ b)) ↔ x ∈ l := by
  have hperm := List.mergeSort_perm l.eraseDups fun a b => decide (a ≤ b)
  refine ⟨?_, fun x => by rw [hperm.mem_iff, List.mem_eraseDups]⟩
  have hle : (l.eraseDups.mergeSort fun a b => decide (a ≤ b)).Pairwise fun a b => decide (a ≤ b) :=
    List.pairwise_mergeSort (fun a b c hab hbc => by simp only [decide_eq_true_eq] at *; exact le_trans hab hbc)
    (fun a b => by simpa using le_total a b) l.eraseDups
  have hne := hperm.nodup_iff.mpr (nodup_eraseDups l)
  exact (hle.and hne).imp fun ⟨hab, hne⟩ => lt_of_le_of_ne (by simpa using hab) hne

namespace Image

theorem tag?_of_tags_nil {img : Image} (h : img.tags = []) (k : String) : img.tag? k = none := by
  rw [tag?, h]
  rfl

theorem tag?_setTag? (img : Image) (key k : String) (v : Option String) :
    (img.setTag? key v).tag? k = if k = key then v.or (img.tag? k) else img.tag? k := by
  cases v with
  | none => split <;> rfl
  | some v =>
    show (img.setTag key v).tag? k = _
    rw [tag?_setTag]
    split <;> rfl

end Image

namespace TemplateFacts

variable (f : TemplateFacts) (imageId owner region : String) (published : Bool)
  (name description : Option String) (createdAt : Int)

theorem toImage_childVmIds :
    (f.toImage imageId owner region published name description createdAt).childVmIds =
      f.childVmIds.eraseDups.mergeSort (fun a b => decide (a ≤ b)) :=
  congrArg Image.childVmIds (toImage_untagged ..)

/-- The platform of the image of a template is guessed from its facts, with
the image's own name and description as the last resort. -/
theorem toImage_platform :
    let img := f.toImage imageId owner region published name description createdAt
    img.platform = f.platformFor img.name img.description := by
  intro img
  have hu := toImage_untagged f imageId owner region published name description createdAt
  let finalName := ((given f.name).orElse fun _ => given name).getD imageId
  let finalDescription := ((given f.description).orElse fun _ => given description).getD finalName
  have hp : img.platform = f.platformFor finalName finalDescription := congrArg Image.platform hu
  have hn : img.name = finalName := congrArg Image.name hu
  have hd : img.description = finalDescription := congrArg Image.description hu
  rw [hp, hn, hd]

/-- The tags of the image of a template: its VM ids joined by commas, the
default networks it has, its network configuration and the parent network it
names. -/
theorem toImage_tags :
    let img := f.toImage imageId owner region published name description createdAt
    img.tag? Tag.childVmIds = some (",".intercalate img.childVmIds) ∧
      img.tag? Tag.defaultNetwork = f.network.bind (·.static) ∧
      img.tag? Tag.defaultNetworkDhcp = f.network.bind (·.dhcp) ∧
      img.tag? Tag.networkConfig = f.networkConfig ∧
      img.tag? Tag.parentNetworkHref = f.parentHref ∧
      img.tag? Tag.parentNetworkId = f.parentId ∧
      img.tag? Tag.parentNetworkName = f.parentName := by
  intro img
  rw [show img.childVmIds = _ from toImage_childVmIds ..]
  unfold img toImage
  cases f.network <;> cases published <;>
    simp [Image.tag?_setTag?, Image.tag?_setTag, Tag.childVmIds, Tag.published, Tag.defaultNetwork,
      Tag.defaultNetworkDhcp, Tag.networkConfig, Tag.parentNetworkHref, Tag.parentNetworkId, Tag.parentNetworkName,
      Image.tag?_of_tags_nil]

/-- What a template's VMs decide, read by the loader (from its name alone):
the first product and operating system of any VM, 32-bit exactly when some
operating system of some VM says so, the ids of the VMs that have a reference,
in order, and the default networks of the first VM. -/
theorem loaded_machines (n : Option String) (c : Client) (nowMs : Int) (t : Element) :
    let facts := ({ name := n } : TemplateFacts).readTemplate c nowMs t
    facts.product = t.productTexts.head? ∧ facts.osDescription = t.osTexts.head? ∧
      facts.architecture = (if t.osTexts.any Architecture.isThirtyTwoBit then .i32 else .i64) ∧
      facts.childVmIds = t.vms.filterMap (fun vm => vm.target.map c.toId) ∧
      facts.network = t.firstVmNetworks := by
  intro facts
  have h := readTemplate_machines ({ name := n } : TemplateFacts) c nowMs t
  rw [foldl_addVm] at h
  refine ⟨congrArg product h, congrArg osDescription h, congrArg architecture h, ?_, ?_⟩
  · exact (congrArg childVmIds h).trans (List.nil_append _)
  · simpa [machines, Element.firstVmNetworks] using congrArg network h

/-- What a template's network configuration decides, read by the loader: the
last network configuration, written, and the reference, id and name of the
last parent network named. -/
theorem loaded_networking (n : Option String) (c : Client) (nowMs : Int) (t : Element) :
    let facts := ({ name := n } : TemplateFacts).readTemplate c nowMs t
    facts.networkConfig = t.networkConfigs.getLast?.map (·.render) ∧
      facts.parentHref = t.parentNetworks.getLast?.bind (·.attrValue "href") ∧
      facts.parentId = t.parentNetworks.getLast?.bind (·.attrValue "id") ∧
      facts.parentName = t.parentNetworks.getLast?.bind (·.attrValue "name") := by
  intro facts
  have h := readTemplate_networking ({ name := n } : TemplateFacts) c nowMs t
  rw [foldl_addNetworkConfig, show (t.networkConfigs.flatMap (·.childrenNamed "Configuration")).filterMap
    (·.firstChild "ParentNetwork") = t.parentNetworks from rfl] at h
  refine ⟨(congrArg networkConfig h).trans Option.or_none, (congrArg parentHref h).trans ?_,
    (congrArg parentId h).trans ?_, (congrArg parentName h).trans ?_⟩ <;>
  · -- the facts start with no parent network
    cases t.parentNetworks.getLast? <;> rfl

end TemplateFacts
namespace Connection

variable (cn : Connection) (templateId owner : String) (published : Bool) (name description : Option String)
  (createdAt : Int) (w : World)

/-- The template that a load of `templateId` from `w` reads: the first
`VAppTemplate` element of the document that its read answers. -/
def ReadsTemplate (t : Element) : Prop :=
  ∃ xml root, ((cn.client.get "vAppTemplate" templateId).run.run w).1 = .ok (some xml) ∧
    parseDocument xml = .ok root ∧ root.findFirst "VAppTemplate" = some t

/-- An image that a load returns is the image of the facts that the loader
reads from the template it found. -/
theorem loadVapp_image {img : Image}
    (h : ((cn.loadVapp templateId owner published name description createdAt).run.run w).1 = .ok (some img)) :
    ∃ t, cn.ReadsTemplate templateId w t ∧
      img = (({ name := given (t.attrValue "name") } : TemplateFacts).readTemplate cn.client (w.clock * 1000) t).toImage
        templateId owner cn.scope.region published name description createdAt := by
  rw [loadVapp_run] at h
  rcases hread : (cn.client.get "vAppTemplate" templateId).run.run w with ⟨r, w'⟩
  rw [hread] at h
  cases r with
  | error e => cases h
  | ok found =>
    cases found with
    | none => cases h
    | some xml =>
      cases hdoc : parseDocument xml with
      | error e => simp [Except.bind, Except.map, hdoc] at h
      | ok root =>
        cases ht : root.findFirst "VAppTemplate" with
        | none => simp [Except.bind, Except.map, hdoc, ht] at h
        | some t =>
          refine ⟨t, ⟨xml, root, by rw [hread], hdoc, ht⟩, ?_⟩
          simp only [Except.bind, Except.map, hdoc, ht, Option.bind_some, Except.ok.injEq] at h
          split at h
          · cases h
          · exact (Option.some.inj h).symm

/-- A template that a load reads, and whose lease has not run out, is loaded:
the load returns the image of the facts read from it. -/
theorem loadVapp_of_readsTemplate {t : Element} (hread : cn.ReadsTemplate templateId w t)
    (hlive : (({ name := given (t.attrValue "name") } : TemplateFacts).readTemplate cn.client (w.clock * 1000)
      t).expired = false) :
    ((cn.loadVapp templateId owner published name description createdAt).run.run w).1 =
      .ok (some ((({ name := given (t.attrValue "name") } : TemplateFacts).readTemplate cn.client (w.clock * 1000)
        t).toImage templateId owner cn.scope.region published name description createdAt)) := by
  obtain ⟨xml, root, hget, hparse, hfind⟩ := hread
  rw [loadVapp_run]
  rcases hrun : (cn.client.get "vAppTemplate" templateId).run.run w with ⟨r, w'⟩
  rw [hrun] at hget
  subst hget
  simp only [Except.bind, Except.map, hparse, hfind, Option.bind_some, hlive]
  rfl

/-- The architecture and platform of a loaded image. A family is guessed from
a text as the first family of the keyword table with a keyword inside the
lowered text, and `unknown` when there is none; a system is 32-bit when its
description mentions `32`, or `x86` without `64`. The image is 32-bit exactly
when some operating system description of some VM of its template names a
32-bit system. Its platform is the family that the first product of the VMs
names, else the family that their first operating system names, else the one
guessed from the image's name and description. -/
theorem loadVapp_architecture_platform :
    (∀ s p, Platform.guess (some s) = p ↔
      (∃ pre ks post, Platform.keywords = pre ++ (p, ks) :: post ∧
        (∃ k ∈ ks, k.toList <:+: (Text.lower s).toList) ∧
        ∀ e ∈ pre, ∀ k ∈ e.2, ¬ k.toList <:+: (Text.lower s).toList) ∨
      (p = .unknown ∧ ∀ e ∈ Platform.keywords, ∀ k ∈ e.2, ¬ k.toList <:+: (Text.lower s).toList)) ∧
    (∀ d, Architecture.isThirtyTwoBit d = true ↔
      "32".toList <:+: d.toList ∨ ("x86".toList <:+: d.toList ∧ ¬ "64".toList <:+: d.toList)) ∧
    ∀ img, ((cn.loadVapp templateId owner published name description createdAt).run.run w).1 = .ok (some img) →
      ∃ t, cn.ReadsTemplate templateId w t ∧
        img.architecture = (if t.osTexts.any Architecture.isThirtyTwoBit then .i32 else .i64) ∧
        img.platform = ((Platform.recognised? t.productTexts.head?).or (Platform.recognised? t.osTexts.head?)).getD
          (Platform.guess (some (img.name ++ " " ++ img.description))) := by
  refine ⟨Platform.guess_eq_iff, Architecture.isThirtyTwoBit_iff, fun img himg => ?_⟩
  obtain ⟨t, hread, rfl⟩ := loadVapp_image cn templateId owner published name description createdAt w himg
  obtain ⟨hproduct, hos, harch, -, -⟩ :=
    TemplateFacts.loaded_machines (given (t.attrValue "name")) cn.client (w.clock * 1000) t
  -- the fields of the image are those of the record its tags are set on
  have hu := TemplateFacts.toImage_untagged (({ name := given (t.attrValue "name") } : TemplateFacts).readTemplate
    cn.client (w.clock * 1000) t) templateId owner cn.scope.region published name description createdAt
  refine ⟨t, hread, (congrArg Image.architecture hu).trans harch, ?_⟩
  rw [TemplateFacts.toImage_platform, TemplateFacts.platformFor_eq, hproduct, hos]

/-- The VMs and networks of a loaded image. Its VM ids are strictly increasing,
so without duplicates, and are the ids of the references of the template's VMs
that have one; its VM ids tag joins them with commas (empty when there are
none). The default network tags come from the last network connection section
of the first VM alone, each set only when that section gives a value; the
network configuration tag is the last network configuration, written; and the
parent network tags are the reference, id and name of the last parent network
that the configurations name, each set only when given. -/
theorem loadVapp_vms_networks :
    ∀ img, ((cn.loadVapp templateId owner published name description createdAt).run.run w).1 = .ok (some img) →
      ∃ t, cn.ReadsTemplate templateId w t ∧
        img.childVmIds.Pairwise (· < ·) ∧
        (∀ id, id ∈ img.childVmIds ↔ ∃ vm ∈ t.vms, ∃ h, vm.target = some h ∧ cn.client.toId h = id) ∧
        img.tag? Tag.childVmIds = some (",".intercalate img.childVmIds) ∧
        img.tag? Tag.defaultNetwork = t.firstVmNetworks.bind (·.static) ∧
        img.tag? Tag.defaultNetworkDhcp = t.firstVmNetworks.bind (·.dhcp) ∧
        img.tag? Tag.networkConfig = t.networkConfigs.getLast?.map (·.render) ∧
        img.tag? Tag.parentNetworkHref = t.parentNetworks.getLast?.bind (·.attrValue "href") ∧
        img.tag? Tag.parentNetworkId = t.parentNetworks.getLast?.bind (·.attrValue "id") ∧
        img.tag? Tag.parentNetworkName = t.parentNetworks.getLast?.bind (·.attrValue "name") := by
  intro img himg
  obtain ⟨t, hread, rfl⟩ := loadVapp_image cn templateId owner published name description createdAt w himg
  obtain ⟨-, -, -, hids, hnetwork⟩ :=
    TemplateFacts.loaded_machines (given (t.attrValue "name")) cn.client (w.clock * 1000) t
  obtain ⟨hconfig, hhref, hid, hname⟩ :=
    TemplateFacts.loaded_networking (given (t.attrValue "name")) cn.client (w.clock * 1000) t
  obtain ⟨tids, tstatic, tdhcp, tconfig, thref, tid, tname⟩ := TemplateFacts.toImage_tags
    (({ name := given (t.attrValue "name") } : TemplateFacts).readTemplate cn.client (w.clock * 1000) t)
    templateId owner cn.scope.region published name description createdAt
  obtain ⟨hsorted, hmem⟩ := sortedIds_spec
    (({ name := given (t.attrValue "name") } : TemplateFacts).readTemplate cn.client (w.clock * 1000) t).childVmIds
  refine ⟨t, hread, ?_, fun id => ?_, tids, ?_, ?_, ?_, ?_, ?_, ?_⟩
  · rw [TemplateFacts.toImage_childVmIds]
    exact hsorted
  · rw [TemplateFacts.toImage_childVmIds, hmem, hids, List.mem_filterMap]
    simp only [Option.map_eq_some_iff]
  · rw [tstatic, hnetwork]
  · rw [tdhcp, hnetwork]
  · rw [tconfig, hconfig]
  · rw [thref, hhref]
  · rw [tid, hid]
  · rw [tname, hname]

/-! ## A template with two VMs -/

/-- A template with two VMs: the first names a product and an operating system
and has a network connection section, the second has only a reference. -/
def twoVmText : String :=
  "<VAppTemplate><Children><Vm href=\"/v2\"><ProductSection><Product>Windows</Product></ProductSection><OperatingSystemSection><Description>Debian x86</Description></OperatingSystemSection><NetworkConnectionSection/></Vm><Vm href=\"/v1\"/></Children></VAppTemplate>"

/-- The element that `twoVmText` is read as. -/
def twoVmTemplate : Element :=
  .mk ⟨none, "VAppTemplate"⟩ [] none
    [.mk ⟨none, "Children"⟩ [] none
      [.mk ⟨none, "Vm"⟩ [(⟨none, "href"⟩, "/v2")] none
        [.mk ⟨none, "ProductSection"⟩ [] none [.mk ⟨none, "Product"⟩ [] (some "Windows") [] none] none,
         .mk ⟨none, "OperatingSystemSection"⟩ [] none
           [.mk ⟨none, "Description"⟩ [] (some "Debian x86") [] none] none,
         .mk ⟨none, "NetworkConnectionSection"⟩ [] none [] none] none,
       .mk ⟨none, "Vm"⟩ [(⟨none, "href"⟩, "/v1")] none [] none] none] none

/-- A platform that serves the two-VM template as `t1`. -/
def twoVmWorld : World :=
  { routes := [("GET /vAppTemplate/t1", .fixed (.reply { body := twoVmText }))] }

set_option maxRecDepth 20000 in
theorem twoVmText_parses : parseDocument twoVmText = .ok twoVmTemplate := by
  with_unfolding_all rfl

/-- The read of `t1` answers the two-VM template. -/
theorem twoVm_get : (((default : Connection).client.get "vAppTemplate" "t1").run.run twoVmWorld).1 =
    .ok (some twoVmText) := by
  have hbase : (default : Connection).client.baseUrl = "" := rfl
  have hcompat : (default : Connection).client.compat = false := rfl
  refine (default : Connection).client.get_body (by simp [twoVmText]) ?_
  simp [Routes.answer, Routes.find?, Client.toUrl, twoVmWorld, hbase, hcompat]

theorem twoVmTemplate_findFirst : twoVmTemplate.findFirst "VAppTemplate" = some twoVmTemplate := by
  simp [twoVmTemplate, Element.findFirst, Element.iter, Element.iterList, Element.named]
  rfl

/-- The template a load of `t1` reads is the two-VM template. -/
theorem twoVm_readsTemplate {t : Element} (h : (default : Connection).ReadsTemplate "t1" twoVmWorld t) :
    t = twoVmTemplate := by
  obtain ⟨xml, root, hget, hparse, hfind⟩ := h
  rw [twoVm_get, Except.ok.injEq, Option.some.injEq] at hget
  subst hget
  rw [twoVmText_parses, Except.ok.injEq] at hparse
  subst hparse
  rw [twoVmTemplate_findFirst, Option.some.injEq] at hfind
  exact hfind.symm

theorem twoVmTemplate_vms : twoVmTemplate.vms.length = 2 := by
  simp [twoVmTemplate, Element.vms, Element.childrenNamed, Element.children, Element.named, Element.name]

/-- The two-VM template is loaded: it has no lease that has run out. -/
theorem twoVmTemplate_loads : ∃ img,
    (((default : Connection).loadVapp "t1" "acme" false).run.run twoVmWorld).1 = .ok (some img) := by
  have hlease : twoVmTemplate.childrenNamed "LeaseSettingsSection" = [] := by
    simp [twoVmTemplate, Element.childrenNamed, Element.children, Element.named, Element.name, Text.lower,
      ← String.toList_inj, String.toList_map]
  have hlive := TemplateFacts.readTemplate_expired { name := given (twoVmTemplate.attrValue "name") }
    (default : Connection).client (twoVmWorld.clock * 1000) twoVmTemplate
  rw [hlease, List.any_nil, Bool.or_false] at hlive
  exact ⟨_, loadVapp_of_readsTemplate (default : Connection) "t1" "acme" false none none 0 twoVmWorld
    ⟨twoVmText, twoVmTemplate, twoVm_get, twoVmText_parses, twoVmTemplate_findFirst⟩ hlive⟩

/-- The two-VM template's image has the architecture and the platform that
the sections of its two VMs give. -/
theorem loadVapp_architecture_platform_twoVms : ∃ img,
    (((default : Connection).loadVapp "t1" "acme" false).run.run twoVmWorld).1 = .ok (some img) ∧
    (∃ t, (default : Connection).ReadsTemplate "t1" twoVmWorld t ∧
      img.architecture = (if t.osTexts.any Architecture.isThirtyTwoBit then .i32 else .i64) ∧
      img.platform = ((Platform.recognised? t.productTexts.head?).or (Platform.recognised? t.osTexts.head?)).getD
        (Platform.guess (some (img.name ++ " " ++ img.description)))) ∧
    ∀ t, (default : Connection).ReadsTemplate "t1" twoVmWorld t → t = twoVmTemplate ∧ t.vms.length = 2 := by
  obtain ⟨img, himg⟩ := twoVmTemplate_loads
  refine ⟨img, himg, (loadVapp_architecture_platform (default : Connection) "t1" "acme" false none none 0
    twoVmWorld).2.2 img himg, fun t ht => ?_⟩
  obtain rfl := twoVm_readsTemplate ht
  exact ⟨rfl, twoVmTemplate_vms⟩

/-- The two-VM template's image lists the machines and networks that its two
VMs and their sections give. -/
theorem loadVapp_vms_networks_twoVms : ∃ img,
    (((default : Connection).loadVapp "t1" "acme" false).run.run twoVmWorld).1 = .ok (some img) ∧
    (∃ t, (default : Connection).ReadsTemplate "t1" twoVmWorld t ∧
      img.childVmIds.Pairwise (· < ·) ∧
      (∀ id, id ∈ img.childVmIds ↔
        ∃ vm ∈ t.vms, ∃ h, vm.target = some h ∧ (default : Connection).client.toId h = id) ∧
      img.tag? Tag.childVmIds = some (",".intercalate img.childVmIds) ∧
      img.tag? Tag.defaultNetwork = t.firstVmNetworks.bind (·.static) ∧
      img.tag? Tag.defaultNetworkDhcp = t.firstVmNetworks.bind (·.dhcp) ∧
      img.tag? Tag.networkConfig = t.networkConfigs.getLast?.map (·.render) ∧
      img.tag? Tag.parentNetworkHref = t.parentNetworks.getLast?.bind (·.attrValue "href") ∧
      img.tag? Tag.parentNetworkId = t.parentNetworks.getLast?.bind (·.attrValue "id") ∧
      img.tag? Tag.parentNetworkName = t.parentNetworks.getLast?.bind (·.attrValue "name")) ∧
    ∀ t, (default : Connection).ReadsTemplate "t1" twoVmWorld t → t = twoVmTemplate ∧ t.vms.length = 2 := by
  obtain ⟨img, himg⟩ := twoVmTemplate_loads
  refine ⟨img, himg, loadVapp_vms_networks (default : Connection) "t1" "acme" false none none 0 twoVmWorld img himg,
    fun t ht => ?_⟩
  obtain rfl := twoVm_readsTemplate ht
  exact ⟨rfl, twoVmTemplate_vms⟩

end Connection

end ImageCatalog
