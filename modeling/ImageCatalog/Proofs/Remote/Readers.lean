import ImageCatalog.Proofs.Remote.Respelling
import ImageCatalog.Catalog.Directory
import ImageCatalog.Workload.Power
import ImageCatalog.Template.Loader
import ImageCatalog.Proofs.Remote.TaskWait

/-!
# Readers of the platform that see through respelling

The readers of catalogs, organizations, workloads and templates find what they
read by local names in lower case and by attributes without a namespace, so a
platform that spells element names differently (`World.Respelled`) makes them
answer alike, with one exception: a template's network configuration is kept
as written, element names included, in the tag `Tag.networkConfig`.

Main results:

* `Connection.orgName_agree`, `catalogAt_agree`, `catalogItemIds_agree`,
  `workload_agree`: the same answer, or the same fault.
* `TemplateFacts.readTemplate_respelled`: the facts read from respelled
  templates are the same but for the text of the network configuration
  (`TemplateFacts.blankConfig`).
* `Connection.loadVapp_agree`, `loadTemplate_agree`: the same image but for the
  value of the network configuration tag (`Image.SameButConfig`).
* `extractions_respelled`: every query of respelled documents and every reader
  of respelled platforms, together.
-/

namespace ImageCatalog

open ImageCatalog.Xml ImageCatalog.Remote

namespace Connection

theorem orgName_agree (cn : Connection) (href : String) :
    AgreeOn Answer.Respelled Eq (cn.orgName href) (cn.orgName href) := by
  unfold orgName
  refine AgreeOn.bind (AgreeOn.get respelledLikeness _ _ _) fun found found' hfound => ?_
  cases hfound with
  | none => exact AgreeOn.pure rfl
  | some hbody =>
    refine AgreeOn.bind (AgreeOn.orFail hbody.parse) fun root root' hroot => AgreeOn.pure ?_
    exact option_rel_bind_eq (hroot.findFirst "Org") fun _ _ h => h.attrValue "name" (by decide)

theorem catalogItemIds_agree (cn : Connection) (catalog : Catalog) :
    AgreeOn Answer.Respelled Eq (cn.catalogItemIds catalog) (cn.catalogItemIds catalog) := by
  unfold catalogItemIds
  refine AgreeOn.bind (AgreeOn.get respelledLikeness _ _ _) fun found found' hfound => ?_
  cases hfound with
  | none => exact AgreeOn.pure rfl
  | some hbody =>
    refine AgreeOn.bind (AgreeOn.orFail hbody.parse) fun root root' hroot => AgreeOn.pure ?_
    congr 1
    refine forall₂_flatMap_eq (hroot.findAll "Catalog") fun node node' hnode => ?_
    refine forall₂_flatMap_eq (hnode.childrenNamed "CatalogItems") fun wrapper wrapper' hwrapper => ?_
    exact forall₂_filterMap_eq (hwrapper.childrenNamed "CatalogItem") fun item item' hitem => by
      rw [hitem.target]

theorem upLink_respelled (cn : Connection) {e e' : Element} (h : e.Respelled e')
    (mediaType : String) : cn.upLink e mediaType = cn.upLink e' mediaType := by
  unfold upLink
  refine option_rel_bind_eq (forall₂_find? (fun l l' hl => ?_) (h.childrenNamed "Link"))
    fun l l' hl => by rw [hl.target]
  rw [hl.linksTo, hl.target]

theorem workload_agree (cn : Connection) (vmId : String) :
    AgreeOn Answer.Respelled Eq (cn.workload vmId) (cn.workload vmId) := by
  unfold workload
  refine AgreeOn.bind (AgreeOn.get respelledLikeness _ _ _) fun found found' hfound => ?_
  cases hfound with
  | none => exact AgreeOn.pure rfl
  | some hbody =>
    refine AgreeOn.bind (AgreeOn.orFail hbody.parse) fun root root' hroot => ?_
    have hvm := hroot.findFirst "Vm"
    generalize root.findFirst "Vm" = found at hvm ⊢
    generalize root'.findFirst "Vm" = found' at hvm ⊢
    cases hvm with
    | none => exact AgreeOn.pure rfl
    | @some vm vm' hvm =>
      simp only [upLink_respelled cn hvm, hvm.attrValue "status" (by decide),
        hvm.attrValue "name" (by decide), pure_bind]
      -- the parent vApp is read for its data center
      split
      · exact AgreeOn.pure rfl
      refine AgreeOn.bind (AgreeOn.get respelledLikeness _ _ _) fun vfound vfound' hvfound => ?_
      cases hvfound with
      | none => exact AgreeOn.pure rfl
      | some hvbody =>
        refine AgreeOn.bind (AgreeOn.orFail hvbody.parse) fun vroot vroot' hvroot => ?_
        rw [option_rel_bind_eq (hvroot.findFirst "VApp") fun _ _ h => upLink_respelled cn h _]
        exact AgreeOn.pure rfl

theorem catalogAt_agree (cn : Connection) (published : Bool) (href : String) :
    AgreeOn Answer.Respelled Eq (cn.catalogAt published href) (cn.catalogAt published href) := by
  unfold catalogAt
  refine AgreeOn.bind (AgreeOn.get respelledLikeness _ _ _) fun found found' hfound => ?_
  cases hfound with
  | none => exact AgreeOn.pure rfl
  | some hbody =>
    refine AgreeOn.bind (AgreeOn.orFail hbody.parse) fun root root' hroot => ?_
    refine AgreeOn.bind (AgreeOn.forIn (hroot.findAll "Catalog") _ fun node node' hnode s => ?_)
      fun r r' hr => ?_
    · -- a catalog element: the same emptiness, the same parts, the same owner
      simp only [forall₂_isEmpty hnode.children]
      split
      · exact AgreeOn.pure rfl
      refine AgreeOn.bind (AgreeOn.forIn (hnode.dispatch _) _ fun pc pc' hpc st => ?_) fun st st' hst => ?_
      · obtain ⟨part, child⟩ := pc
        obtain ⟨part', child'⟩ := pc'
        obtain ⟨hpart, hchild⟩ := hpc
        dsimp only at hpart
        subst hpart
        cases part with
        | published =>
          simp only [textOf_respelled (Option.Rel.some hchild)]
          exact AgreeOn.pure rfl
        | link =>
          simp only [hchild.linksTo, hchild.target]
          split
          · split
            · exact AgreeOn.bind (orgName_agree cn _) fun o o' ho => by subst ho; exact AgreeOn.pure rfl
            · exact AgreeOn.pure rfl
          · exact AgreeOn.pure rfl
      · subst hst
        rw [hnode.attrValue "name" (by decide)]
        split <;> exact AgreeOn.pure rfl
    · subst hr
      rcases r with ⟨_ | c, _⟩ <;> exact AgreeOn.pure rfl

end Connection

theorem ofSection_respelled {sec sec' : Element} (h : sec.Respelled sec') :
    NetworkDefaults.ofSection sec = NetworkDefaults.ofSection sec' := by
  unfold NetworkDefaults.ofSection
  rw [textOf_respelled (h.firstChild "PrimaryNetworkConnectionIndex")]
  split
  · rfl
  rename_i primary _
  dsimp only
  have hconn := forall₂_find? (fun c c' hc => by
      rw [textOf_respelled (hc.firstChild "NetworkConnectionIndex")])
    (h.childrenNamed "NetworkConnection")
    (p := fun c : Element => integerOf (textOf (c.firstChild "NetworkConnectionIndex")) == some primary)
    (q := fun c : Element => integerOf (textOf (c.firstChild "NetworkConnectionIndex")) == some primary)
  generalize (sec.childrenNamed "NetworkConnection").find? _ = conn at hconn ⊢
  generalize (sec'.childrenNamed "NetworkConnection").find? _ = conn' at hconn ⊢
  cases hconn with
  | none => rfl
  | @some c c' hc =>
    dsimp only
    rw [textOf_respelled (hc.firstChild "IpAddressAllocationMode"), hc.attrValue "network" (by decide)]

/-- The facts with the text of the written network configuration blanked
out: what the facts of respelled templates have in common. -/
def TemplateFacts.blankConfig (f : TemplateFacts) : TemplateFacts :=
  { f with networkConfig := f.networkConfig.map fun _ => "" }

namespace TemplateFacts

/-- Facts with the same blanked form differ only in the text of the network
configuration, which both have or both lack. -/
theorem eq_of_blankConfig {g g' : TemplateFacts} (h : g.blankConfig = g'.blankConfig) :
    ∃ c, g' = { g with networkConfig := c } ∧ c.isSome = g.networkConfig.isSome := by
  refine ⟨g'.networkConfig, ?_, ?_⟩
  · have := congrArg (fun f : TemplateFacts => { f with networkConfig := g'.networkConfig }) h
    exact this.symm
  · have := congrArg (fun f : TemplateFacts => f.networkConfig.isSome) h
    simpa [blankConfig] using this.symm

/-- Facts that differ only in the text of the network configuration, which
both have or both lack, have the same blanked form. -/
theorem blankConfig_congr {g g' : TemplateFacts}
    (h : g' = { g with networkConfig := g'.networkConfig })
    (hc : g'.networkConfig.isSome = g.networkConfig.isSome) : g.blankConfig = g'.blankConfig := by
  rw [h]
  cases hg' : g'.networkConfig <;> cases hg : g.networkConfig <;> simp_all [blankConfig]

/-- Folding facts over lists related one by one, with steps that keep facts
alike on related elements, keeps them alike. -/
theorem foldl_respelled {β γ : Type} {R : β → γ → Prop} {s : TemplateFacts → β → TemplateFacts}
    {s' : TemplateFacts → γ → TemplateFacts}
    (hs : ∀ g c x x', R x x' → c.isSome = g.networkConfig.isSome →
      (s g x).blankConfig = (s' { g with networkConfig := c } x').blankConfig)
    {xs : List β} {ys : List γ} (hxy : List.Forall₂ R xs ys) {f f' : TemplateFacts}
    (hf : f.blankConfig = f'.blankConfig) :
    (xs.foldl s f).blankConfig = (ys.foldl s' f').blankConfig := by
  refine List.rel_foldl (P := fun g g' : TemplateFacts => g.blankConfig = g'.blankConfig)
    (fun g g' hg x x' hx => ?_) hf hxy
  obtain ⟨c, rfl, hc⟩ := eq_of_blankConfig hg
  exact hs g c x x' hx hc

/-- Folding facts over the parts of two respelled elements, with a step that
keeps facts alike on respelled parts of one kind, keeps them alike. -/
theorem foldl_dispatch_respelled {α : Type} {handlers : List (String × α)}
    {s : TemplateFacts → α × Element → TemplateFacts}
    (hs : ∀ g c part sec sec', sec.Respelled sec' → c.isSome = g.networkConfig.isSome →
      (s g (part, sec)).blankConfig = (s { g with networkConfig := c } (part, sec')).blankConfig)
    {e e' : Element} (h : e.Respelled e') {f f' : TemplateFacts}
    (hf : f.blankConfig = f'.blankConfig) :
    ((e.dispatch handlers).foldl s f).blankConfig =
      ((e'.dispatch handlers).foldl s f').blankConfig := by
  refine foldl_respelled (fun g c ps ps' hps hc => ?_) (h.dispatch handlers) hf
  obtain ⟨part, sec⟩ := ps
  obtain ⟨part', sec'⟩ := ps'
  obtain ⟨hpart, hsec⟩ := hps
  dsimp only at hpart hsec
  subst hpart
  exact hs g c part sec sec' hsec hc

theorem readVm_respelled {f f' : TemplateFacts} (hf : f.blankConfig = f'.blankConfig)
    {vm vm' : Element} (hvm : vm.Respelled vm') (firstVm : Bool) :
    (f.readVm vm firstVm).blankConfig = (f'.readVm vm' firstVm).blankConfig := by
  unfold readVm
  refine foldl_dispatch_respelled (fun g c part sec sec' hsec hc => ?_) hvm hf
  dsimp only
  cases part with
  | product =>
    refine foldl_respelled (fun g c p p' hp hc => ?_) (hsec.childrenNamed "Product")
      (blankConfig_congr rfl hc)
    rw [textOf_respelled (.some hp)]
    cases textOf (some p') with
    | none => exact blankConfig_congr rfl hc
    | some v =>
      dsimp only
      split <;> exact blankConfig_congr rfl hc
  | os =>
    refine foldl_respelled (fun g c d d' hd hc => ?_) (hsec.childrenNamed "Description")
      (blankConfig_congr rfl hc)
    rw [textOf_respelled (.some hd)]
    cases textOf (some d') with
    | none => exact blankConfig_congr rfl hc
    | some v =>
      dsimp only
      split <;> split <;> exact blankConfig_congr rfl hc
  | connections =>
    dsimp only
    split
    · rw [ofSection_respelled hsec]
      exact blankConfig_congr rfl hc
    · exact blankConfig_congr rfl hc

theorem readChildren_respelled {f f' : TemplateFacts} (hf : f.blankConfig = f'.blankConfig)
    (c : Client) {sec sec' : Element} (hsec : sec.Respelled sec') :
    (f.readChildren c sec).blankConfig = (f'.readChildren c sec').blankConfig := by
  unfold readChildren
  refine foldl_respelled (fun g cfg vm vm' hvm hc => ?_) (hsec.childrenNamed "Vm") hf
  dsimp only
  rw [hvm.target]
  split <;> exact readVm_respelled (blankConfig_congr rfl hc) hvm _

theorem readNetworkConfig_respelled {f f' : TemplateFacts} (hf : f.blankConfig = f'.blankConfig)
    {sec sec' : Element} (hsec : sec.Respelled sec') :
    (f.readNetworkConfig sec).blankConfig = (f'.readNetworkConfig sec').blankConfig := by
  unfold readNetworkConfig
  refine foldl_respelled (fun g cfg config config' hconfig _ => ?_) (hsec.childrenNamed "NetworkConfig") hf
  -- each side now holds its own written configuration
  refine foldl_respelled (fun g cfg conf conf' hconf hc => ?_) (hconfig.childrenNamed "Configuration")
    (blankConfig_congr rfl (by simp only [Option.isSome_some]))
  have hparent := hconf.firstChild "ParentNetwork"
  generalize conf.firstChild "ParentNetwork" = parent at hparent ⊢
  generalize conf'.firstChild "ParentNetwork" = parent' at hparent ⊢
  cases hparent with
  | none => exact blankConfig_congr rfl hc
  | some hp =>
    dsimp only
    rw [hp.attrValue "href" (by decide), hp.attrValue "id" (by decide),
      hp.attrValue "name" (by decide)]
    exact blankConfig_congr rfl hc

theorem readLease_respelled {f f' : TemplateFacts} (hf : f.blankConfig = f'.blankConfig)
    (nowMs : Int) {sec sec' : Element} (hsec : sec.Respelled sec') :
    (f.readLease nowMs sec).blankConfig = (f'.readLease nowMs sec').blankConfig := by
  obtain ⟨c, rfl, hc⟩ := eq_of_blankConfig hf
  unfold readLease
  rw [textOf_respelled (hsec.firstChild "StorageLeaseExpiration")]
  split
  · split <;> exact blankConfig_congr rfl hc
  · exact blankConfig_congr rfl hc

theorem readTemplate_respelled {f f' : TemplateFacts} (hf : f.blankConfig = f'.blankConfig)
    (c : Client) (nowMs : Int) {t t' : Element} (ht : t.Respelled t') :
    (f.readTemplate c nowMs t).blankConfig = (f'.readTemplate c nowMs t').blankConfig := by
  unfold readTemplate
  refine foldl_dispatch_respelled (fun g cfg part sec sec' hsec hc => ?_) ht hf
  dsimp only
  have hg : g.blankConfig = ({ g with networkConfig := cfg } : TemplateFacts).blankConfig :=
    blankConfig_congr rfl hc
  cases part with
  | description =>
    dsimp only
    rw [textOf_respelled (.some hsec)]
    split <;> exact blankConfig_congr rfl hc
  | networkConfig => exact readNetworkConfig_respelled hg hsec
  | children => exact readChildren_respelled hg c hsec
  | dateCreated =>
    dsimp only
    rw [textOf_respelled (.some hsec)]
    split
    · -- the same stamp on both sides; left opaque, so that no one computes it
      next v _ =>
      generalize millisOf v = stamp
      exact blankConfig_congr rfl hc
    · exact blankConfig_congr rfl hc
  | lease => exact readLease_respelled hg nowMs hsec

end TemplateFacts

/-- The image with the value of the tag `key` blanked out. -/
def Image.blankTag (img : Image) (key : String) : Image :=
  { img with tags := img.tags.map fun kv => if kv.1 == key then (kv.1, "") else kv }

/-- Two images the same but for the value of the network configuration tag. -/
def Image.SameButConfig (img img' : Image) : Prop :=
  img.blankTag Tag.networkConfig = img'.blankTag Tag.networkConfig

namespace Image

/-- Setting a tag and then blanking one: the blanked tag's value is blanked,
every other is set. -/
theorem blankTag_setTag (img : Image) (key k v : String) :
    (img.setTag k v).blankTag key =
      (img.blankTag key).setTag k (if k == key then "" else v) := by
  have hkeys : (img.blankTag key).tags.any (·.1 == k) = img.tags.any (·.1 == k) := by
    simp only [blankTag, List.any_map]
    congr 1
    funext kv
    simp only [Function.comp_apply]
    split <;> rfl
  unfold setTag
  rw [hkeys]
  split
  · simp only [blankTag, List.map_map, mk.injEq, true_and]
    congr 1
    funext kv
    by_cases hk : kv.1 = k <;> by_cases hkey : kv.1 = key <;> simp_all
  · simp only [blankTag, List.map_append, List.map_cons, List.map_nil, mk.injEq, true_and]
    by_cases hk : k = key <;> simp_all

theorem blankTag_setTag? (img : Image) (key k : String) (o : Option String) :
    (img.setTag? k o).blankTag key =
      (img.blankTag key).setTag? k (o.map fun v => if k == key then "" else v) := by
  cases o with
  | none => rfl
  | some v => exact blankTag_setTag img key k v

end Image

namespace TemplateFacts

/-- The image of facts alike is the same but for the value of the network
configuration tag. -/
theorem toImage_respelled {f f' : TemplateFacts} (hf : f.blankConfig = f'.blankConfig)
    (imageId owner region : String) (published : Bool) (name description : Option String)
    (createdAt : Int) :
    (f.toImage imageId owner region published name description createdAt).blankTag Tag.networkConfig =
      (f'.toImage imageId owner region published name description createdAt).blankTag
        Tag.networkConfig := by
  obtain ⟨c, rfl, hc⟩ := eq_of_blankConfig hf
  have hblank : f.networkConfig.map (fun v => if Tag.networkConfig == Tag.networkConfig then "" else v) =
      c.map (fun v => if Tag.networkConfig == Tag.networkConfig then "" else v) := by
    cases c <;> cases hcfg : f.networkConfig <;> simp_all
  unfold toImage
  simp only [Image.blankTag_setTag?, hblank]
  rfl

end TemplateFacts

namespace Connection

/-- A template loads alike from respelled documents: the same image but for
the value of the network configuration tag, which is the configuration as
written. -/
theorem loadVapp_agree (cn : Connection) (templateId owner : String) (published : Bool)
    (name description : Option String) (createdAt : Int) :
    AgreeOn Answer.Respelled (Option.Rel Image.SameButConfig)
      (cn.loadVapp templateId owner published name description createdAt)
      (cn.loadVapp templateId owner published name description createdAt) := by
  unfold loadVapp
  refine AgreeOn.bind (AgreeOn.get respelledLikeness _ _ _) fun found found' hfound => ?_
  cases hfound with
  | none => exact AgreeOn.pure Option.Rel.none
  | some hbody =>
    refine AgreeOn.bind (AgreeOn.orFail hbody.parse) fun root root' hroot => ?_
    have ht := hroot.findFirst "VAppTemplate"
    generalize root.findFirst "VAppTemplate" = found at ht ⊢
    generalize root'.findFirst "VAppTemplate" = found' at ht ⊢
    cases ht with
    | none => exact AgreeOn.pure Option.Rel.none
    | @some t t' ht =>
      refine AgreeOn.bind AgreeOn.now fun now now' hnow => ?_
      subst hnow
      have hfacts := TemplateFacts.readTemplate_respelled
        (congrArg (fun n : Option String => ({ name := n } : TemplateFacts).blankConfig)
          (congrArg given (ht.attrValue "name" (by decide))))
        cn.client (now * 1000) ht
      have hexpired := congrArg TemplateFacts.expired hfacts
      dsimp only [TemplateFacts.blankConfig] at hexpired
      simp only [hexpired]
      split
      · exact AgreeOn.pure Option.Rel.none
      · exact AgreeOn.pure (Option.Rel.some (TemplateFacts.toImage_respelled hfacts _ _ _ _ _ _ _))

theorem loadTemplate_agree (cn : Connection) (owner itemId : String) (published : Bool) :
    AgreeOn Answer.Respelled (Option.Rel Image.SameButConfig)
      (cn.loadTemplate owner itemId published) (cn.loadTemplate owner itemId published) := by
  unfold loadTemplate
  refine AgreeOn.bind (AgreeOn.get respelledLikeness _ _ _) fun found found' hfound => ?_
  cases hfound with
  | none => exact AgreeOn.pure Option.Rel.none
  | some hbody =>
    refine AgreeOn.bind (AgreeOn.orFail hbody.parse) fun root root' hroot => ?_
    have hi := hroot.findFirst "CatalogItem"
    generalize root.findFirst "CatalogItem" = found at hi ⊢
    generalize root'.findFirst "CatalogItem" = found' at hi ⊢
    cases hi with
    | none => exact AgreeOn.pure Option.Rel.none
    | @some item item' hitem =>
      -- the item's parts give the same facts and entities
      dsimp only
      rw [hitem.attrValue "name" (by decide), forall₂_foldl_eq (hitem.dispatch _)]
      · split
        · exact AgreeOn.pure Option.Rel.none
        · exact loadVapp_agree cn _ owner published _ _ _
      · rintro ⟨f, es⟩ ⟨part, child⟩ ⟨part', child'⟩ ⟨hpart, hchild⟩
        dsimp only at hpart hchild
        subst hpart
        cases part <;> simp only [textOf_respelled (.some hchild), hchild.target]

end Connection

open Xml in
/-- Queries of respelled documents pick corresponding elements and read the
same values, and the readers of respelled platforms answer alike: the same
value or the same fault, and for templates the same image but for the
network configuration tag. -/
theorem extractions_respelled (cn : Connection) {e e' : Element} (h : e.Respelled e') :
    ((∀ n, e.iter.map (·.named n) = e'.iter.map (·.named n)) ∧
      (∀ n, List.Forall₂ Element.Respelled (e.findAll n) (e'.findAll n)) ∧
      (∀ n, Option.Rel Element.Respelled (e.findFirst n) (e'.findFirst n)) ∧
      (∀ n, List.Forall₂ Element.Respelled (e.childrenNamed n) (e'.childrenNamed n)) ∧
      (∀ n, Option.Rel Element.Respelled (e.firstChild n) (e'.firstChild n)) ∧
      (∀ (α : Type) (handlers : List (String × α)),
        List.Forall₂ (fun p p' => p.1 = p'.1 ∧ p.2.Respelled p'.2)
          (e.dispatch handlers) (e'.dispatch handlers)) ∧
      errorMessage e = errorMessage e' ∧ checkError e = checkError e') ∧
    ((∀ response response', Option.Rel SameContent response response' →
        Agree Eq (cn.client.waitFor response) (cn.client.waitFor response')) ∧
      (∀ published href, Agree Eq (cn.catalogAt published href) (cn.catalogAt published href)) ∧
      (∀ catalog, Agree Eq (cn.catalogItemIds catalog) (cn.catalogItemIds catalog)) ∧
      (∀ href, Agree Eq (cn.orgName href) (cn.orgName href)) ∧
      (∀ vmId, Agree Eq (cn.workload vmId) (cn.workload vmId)) ∧
      (∀ owner itemId published, Agree (Option.Rel Image.SameButConfig)
        (cn.loadTemplate owner itemId published) (cn.loadTemplate owner itemId published)) ∧
      (∀ templateId owner published name description createdAt,
        Agree (Option.Rel Image.SameButConfig)
          (cn.loadVapp templateId owner published name description createdAt)
          (cn.loadVapp templateId owner published name description createdAt))) :=
  ⟨⟨h.iter_named, h.findAll, h.findFirst, h.childrenNamed, h.firstChild,
      fun _ handlers => h.dispatch handlers, errorMessage_respelled h, checkError_respelled h⟩,
    ⟨fun _ _ hr => agree_iff.2 (AgreeOn.waitFor respelledLikeness cn.client hr),
      fun published href => agree_iff.2 (cn.catalogAt_agree published href),
      fun catalog => agree_iff.2 (cn.catalogItemIds_agree catalog),
      fun href => agree_iff.2 (cn.orgName_agree href),
      fun vmId => agree_iff.2 (cn.workload_agree vmId),
      fun owner itemId published => agree_iff.2 (cn.loadTemplate_agree owner itemId published),
      fun templateId owner published name description createdAt =>
        agree_iff.2 (cn.loadVapp_agree templateId owner published name description createdAt)⟩⟩

/-- An organization with a link to a catalog, and the same written with a
namespace and in capitals. -/
def plainOrg : Xml.Element :=
  .mk ⟨none, "Org"⟩ [(⟨none, "name"⟩, "acme")] none
    [.mk ⟨none, "Link"⟩ [(⟨none, "rel"⟩, "down"), (⟨none, "href"⟩, "/catalog/c1")] none [] none] none

def spelledOrg : Xml.Element :=
  .mk ⟨some "urn:v", "ORG"⟩ [(⟨none, "name"⟩, "acme")] none
    [.mk ⟨some "urn:v", "LINK"⟩ [(⟨none, "rel"⟩, "down"), (⟨none, "href"⟩, "/catalog/c1")] none [] none] none

/-- The running task of `Client.runningTaskText`, in capitals. -/
def spelledTask : Xml.Element :=
  .mk ⟨none, "TASK"⟩ [(⟨none, "status"⟩, "running"), (⟨none, "href"⟩, "/task/1")] none [] none

set_option maxRecDepth 20000 in
theorem spelledTask_parses : parseDocument "<TASK status=\"running\" href=\"/task/1\"/>" = .ok spelledTask := by
  with_unfolding_all rfl

/-- The respelled organization has its link found where the plain one has it,
and reports no other error; a respelled reply with a running task is waited
for as the plain one is. -/
theorem extractions_respelled_orgLink :
    Xml.Element.Respelled plainOrg spelledOrg ∧
      (plainOrg.childrenNamed "Link").length = 1 ∧
      List.Forall₂ Xml.Element.Respelled (plainOrg.childrenNamed "Link") (spelledOrg.childrenNamed "Link") ∧
      List.Forall₂ Xml.Element.Respelled (plainOrg.findAll "link") (spelledOrg.findAll "link") ∧
      errorMessage plainOrg = errorMessage spelledOrg ∧
      (∀ href, Agree Eq ((default : Connection).orgName href) ((default : Connection).orgName href)) ∧
      Agree Eq ((default : Connection).client.waitFor (some Client.runningTaskText))
        ((default : Connection).client.waitFor (some "<TASK status=\"running\" href=\"/task/1\"/>")) := by
  have h : Xml.Element.Respelled plainOrg spelledOrg :=
    ⟨by simp [Text.lower, ← String.toList_inj, String.toList_map], rfl, rfl, rfl,
      ⟨by simp [Text.lower, ← String.toList_inj, String.toList_map], rfl, rfl, rfl, trivial⟩, trivial⟩
  have hlinks : (plainOrg.childrenNamed "Link").length = 1 := by
    simp [plainOrg, Element.childrenNamed, Element.children, Element.named, Element.name, Text.lower]
  have htask : SameContent Client.runningTaskText "<TASK status=\"running\" href=\"/task/1\"/>" :=
    .inr ⟨Client.runningTask, spelledTask, Client.runningTaskText_parses, spelledTask_parses,
      by simp [Text.lower, ← String.toList_inj, String.toList_map], rfl, rfl, rfl, trivial⟩
  have hx := extractions_respelled (default : Connection) h
  exact ⟨h, hlinks, hx.1.2.2.2.1 "Link", hx.1.2.1 "link", hx.1.2.2.2.2.2.2.1, hx.2.2.2.2.1,
    hx.2.1 _ _ (.some htask)⟩

/-- A failed reply whose body reports no error is quoted in the fault as
written, so a respelled body changes the fault. -/
theorem catalogItemIds_fault_quotes_spelling :
    SameContent "<Catalog/>" "<CATALOG/>" ∧
      (((default : Connection).catalogItemIds { (default : Catalog) with catalogId := "c1" }).run.run
          { routes := [("GET /catalog/c1", .fixed (.reply { status := 500, body := "<Catalog/>" }))] }).1 =
        .error (.cloud "GET /catalog/c1 failed with HTTP 500: <Catalog/>") ∧
      (((default : Connection).catalogItemIds { (default : Catalog) with catalogId := "c1" }).run.run
          { routes := [("GET /catalog/c1", .fixed (.reply { status := 500, body := "<CATALOG/>" }))] }).1 =
        .error (.cloud "GET /catalog/c1 failed with HTTP 500: <CATALOG/>") :=
  ⟨.inr ⟨.mk ⟨none, "Catalog"⟩ [] none [] none, .mk ⟨none, "CATALOG"⟩ [] none [] none, rfl, rfl,
      by simp [Text.lower, ← String.toList_inj, String.toList_map], rfl, rfl, rfl, trivial⟩,
    by decide +kernel, by decide +kernel⟩

end ImageCatalog
