import ImageCatalog.Proofs.Template.Sections
import ImageCatalog.Proofs.Remote.Served

/-!
# Loading the template of a catalog item

`Connection.loadTemplate` reads a catalog item and loads the vApp template
that the item's entity links to. The item's children are handed to three
readers (`ItemPart`): of descriptions, of creation dates and of entities. The
item gives `loadVapp` the name, description and creation time it falls back
on: the item's own name, else its first description; its last description,
else its own name; the time of its last dated creation. The template loaded is
the one its last entity with a reference links to.

Results:

* `ItemPart.handlerFor_iff`: a child of an item is read as the part whose
  name it has.
* `ItemStep.foldl_name`, `foldl_description`, `foldl_createdAt`,
  `foldl_template`: what the fold over an item's parts leaves, for any step
  that reads each part as `loadTemplate` does (`ItemStep`).
* `Connection.loadTemplate_outcome`: no image when the item cannot be found,
  has no catalog item or no linked entity; the read's fault or the
  document's; otherwise exactly the load of the linked template with the
  item's name, description and creation time.
-/

namespace ImageCatalog

open ImageCatalog.Xml ImageCatalog.Remote ImageCatalog.Text

namespace Xml.Element

/-- The first non-empty trimmed text of the direct children of `t` named `n`. -/
def firstText (t : Element) (n : String) : Option String :=
  (t.childrenNamed n).findSome? fun c => textOf (some c)

/-- The name a catalog item gives its template's image: the item's own name,
else its first description. -/
def itemName (item : Element) : Option String :=
  (given (item.attrValue "name")).or (item.firstText "Description")

/-- The description a catalog item gives its template's image: its last
description, else its own name. -/
def itemDescription (item : Element) : Option String :=
  (item.lastText "Description").or (given (item.attrValue "name"))

/-- The reference of the template a catalog item links to: that of its last
entity with a reference. -/
def entityRef (item : Element) : Option String :=
  ((item.childrenNamed "Entity").filterMap (·.target)).getLast?

end Xml.Element

namespace ItemPart

/-- The local name that an item's children of this kind are read under. -/
def key : ItemPart → String
  | .description => "Description"
  | .dateCreated => "DateCreated"
  | .entity => "Entity"

/-- No two kinds of part are read under one name, in any letter case. -/
theorem lower_key_inj {p q : ItemPart} (h : lower p.key = lower q.key) : p = q := by
  cases p <;> cases q <;> simp [key, lower, ← String.toList_inj, String.toList_map] at h ⊢

/-- A child of a catalog item is read as the part whose name it has. -/
theorem handlerFor_iff (c : Element) (p : ItemPart) :
    Element.handlerFor [("Description", ItemPart.description), ("DateCreated", .dateCreated),
      ("Entity", .entity)] c = some p ↔ c.named p.key := by
  have hlist : [("Description", ItemPart.description), ("DateCreated", .dateCreated), ("Entity", .entity)] =
      [ItemPart.description, .dateCreated, .entity].map fun q => (q.key, q) := rfl
  rw [hlist]
  exact Element.handlerFor_keyed_iff key (fun _ _ _ _ h => lower_key_inj h) c (by cases p <;> simp)

end ItemPart

/-- A step of the fold over a catalog item's parts that reads them as
`loadTemplate` does, naming templates by `φ`: a description is the latest one
and the name unless there is one already, a creation date is the latest one,
and an entity with a reference adds the template it names. -/
structure ItemStep (s : TemplateFacts × List String → ItemPart × Element → TemplateFacts × List String)
    (φ : String → String) : Prop where
  description : ∀ f es c, s (f, es) (.description, c) =
    ((textOf (some c)).map fun v => ({ f with description := some v, name := f.name.orElse fun _ => some v }, es)).getD
      (f, es)
  dateCreated : ∀ f es c, s (f, es) (.dateCreated, c) =
    ((textOf (some c)).map fun v => ({ f with createdAt := millisOf v }, es)).getD (f, es)
  entity : ∀ f es c, s (f, es) (.entity, c) = (c.target.map fun h => (f, es ++ [φ h])).getD (f, es)

namespace ItemStep

variable {s : TemplateFacts × List String → ItemPart × Element → TemplateFacts × List String}
  (φ : String → String) (hs : ItemStep s φ) (item : Element) (x : TemplateFacts × List String)
include hs

theorem foldl_name :
    ((item.dispatch [("Description", ItemPart.description), ("DateCreated", .dateCreated),
      ("Entity", .entity)]).foldl s x).1.name = x.1.name.or (item.firstText "Description") := by
  rw [Element.foldl_dispatch_field (ItemPart.handlerFor_iff · .description) (fun y : TemplateFacts × List String => y.1.name)
    (g := fun o c => o.or (textOf (some c))), foldl_or_findSome?]
  · rfl
  · rintro ⟨f, es⟩ c
    rw [hs.description]
    cases textOf (some c) <;> simp
  · rintro ⟨f, es⟩ p c hp
    cases p with
    | description => exact absurd rfl hp
    | dateCreated => rw [hs.dateCreated]; cases textOf (some c) <;> rfl
    | entity => rw [hs.entity]; cases c.target <;> rfl

theorem foldl_description :
    ((item.dispatch [("Description", ItemPart.description), ("DateCreated", .dateCreated),
      ("Entity", .entity)]).foldl s x).1.description = (item.lastText "Description").or x.1.description := by
  rw [Element.foldl_dispatch_field (ItemPart.handlerFor_iff · .description) (fun y : TemplateFacts × List String => y.1.description)
    (g := fun d c => ((textOf (some c)).map some).getD d), foldl_last]
  · change ((item.lastText "Description").map some).getD x.1.description = _
    cases item.lastText "Description" <;> rfl
  · rintro ⟨f, es⟩ c
    rw [hs.description]
    cases textOf (some c) <;> rfl
  · rintro ⟨f, es⟩ p c hp
    cases p with
    | description => exact absurd rfl hp
    | dateCreated => rw [hs.dateCreated]; cases textOf (some c) <;> rfl
    | entity => rw [hs.entity]; cases c.target <;> rfl

theorem foldl_createdAt :
    ((item.dispatch [("Description", ItemPart.description), ("DateCreated", .dateCreated),
      ("Entity", .entity)]).foldl s x).1.createdAt = ((item.lastText "DateCreated").map millisOf).getD x.1.createdAt := by
  rw [Element.foldl_dispatch_field (ItemPart.handlerFor_iff · .dateCreated) (fun y : TemplateFacts × List String => y.1.createdAt)
    (g := fun d c => ((textOf (some c)).map millisOf).getD d), foldl_last]
  · rfl
  · rintro ⟨f, es⟩ c
    rw [hs.dateCreated]
    cases textOf (some c) <;> rfl
  · rintro ⟨f, es⟩ p c hp
    cases p with
    | dateCreated => exact absurd rfl hp
    | description => rw [hs.description]; cases textOf (some c) <;> rfl
    | entity => rw [hs.entity]; cases c.target <;> rfl

theorem foldl_template :
    ((item.dispatch [("Description", ItemPart.description), ("DateCreated", .dateCreated),
      ("Entity", .entity)]).foldl s x).2.getLast? = (item.entityRef.map φ).or x.2.getLast? := by
  rw [Element.foldl_dispatch_field (ItemPart.handlerFor_iff · .entity) (fun y : TemplateFacts × List String => y.2.getLast?)
    (g := fun o c => (c.target.map fun h => some (φ h)).getD o), foldl_last]
  · change ((item.entityRef).map fun h => some (φ h)).getD x.2.getLast? = _
    cases item.entityRef <;> rfl
  · rintro ⟨f, es⟩ c
    rw [hs.entity]
    cases c.target <;> simp
  · rintro ⟨f, es⟩ p c hp
    cases p with
    | entity => exact absurd rfl hp
    | description => rw [hs.description]; cases textOf (some c) <;> rfl
    | dateCreated => rw [hs.dateCreated]; cases textOf (some c) <;> rfl

end ItemStep

namespace Connection

variable (cn : Connection) (owner itemId : String) (published : Bool) (w : World)

/-- Loading the template of a catalog item. There is no image when the read
of the item finds no document, when the document has no catalog item, or when
the first catalog item links to no entity with a reference; the read's fault or
the document's is passed on. Otherwise the load is exactly that of the template
that the item's last linked entity names, from the world the read left, with
the item's name, description and creation time to fall back on. -/
theorem loadTemplate_outcome :
    let read := (cn.client.get "catalogItem" itemId).run.run w
    let out := (cn.loadTemplate owner itemId published).run.run w
    (read.1 = .ok none → out = (.ok none, read.2)) ∧
    (∀ e, read.1 = .error e → out = (.error e, read.2)) ∧
    ∀ xml, read.1 = .ok (some xml) →
      (∀ e, parseDocument xml = .error e → out = (.error e, read.2)) ∧
      ∀ root, parseDocument xml = .ok root →
        ((root.findFirst "CatalogItem").bind Element.entityRef = none → out = (.ok none, read.2)) ∧
        ∀ item h, root.findFirst "CatalogItem" = some item → item.entityRef = some h →
          out = (cn.loadVapp (cn.client.toId h) owner published item.itemName item.itemDescription
            (createdStamp item)).run.run read.2 := by
  dsimp only
  unfold loadTemplate
  rw [run_bind]
  generalize (cn.client.get "catalogItem" itemId).run.run w = read
  rcases read with ⟨r, w'⟩
  refine ⟨?_, ?_, ?_⟩
  · rintro rfl
    rfl
  · rintro e rfl
    rfl
  rintro xml rfl
  refine ⟨fun e hdoc => ?_, fun root hroot => ?_⟩
  · dsimp only
    rw [run_bind, hdoc]
    rfl
  dsimp only
  rw [run_bind, hroot, show (orFail (.ok root) : Session Element).run.run w' = (.ok root, w') from rfl]
  dsimp only
  cases hitem : root.findFirst "CatalogItem" with
  | none =>
    refine ⟨fun _ => rfl, ?_⟩
    intro item h hnone
    cases hnone
  | some item =>
    dsimp only
    rw [ItemStep.foldl_template cn.client.toId ?hs, ItemStep.foldl_name _ ?hs, ItemStep.foldl_description _ ?hs,
      ItemStep.foldl_createdAt _ ?hs, List.getLast?_nil, Option.or_none]
    refine ⟨fun hnone => ?_, ?_⟩
    · rw [Option.bind_some] at hnone
      rw [hnone]
      rfl
    · rintro _ h ⟨⟩ hh
      rw [hh]
      rfl
    case hs =>
      -- the fold of `loadTemplate` reads each part as `ItemStep` says
      exact ⟨fun f es c => by cases textOf (some c) <;> rfl, fun f es c => by cases textOf (some c) <;> rfl,
        fun f es c => by cases c.target <;> rfl⟩

/-- A catalog item named `web`, with a description, whose entity links to the
template `/vAppTemplate/t1`. -/
def webItemText : String :=
  "<CatalogItem name=\"web\"><Description>Web server</Description><Entity href=\"/vAppTemplate/t1\"/></CatalogItem>"

def webItem : Element :=
  .mk ⟨none, "CatalogItem"⟩ [(⟨none, "name"⟩, "web")] none
    [.mk ⟨none, "Description"⟩ [] (some "Web server") [] none,
     .mk ⟨none, "Entity"⟩ [(⟨none, "href"⟩, "/vAppTemplate/t1")] none [] none] none

/-- A platform that answers the read of the item `i1` with `webItemText`. -/
def webItemWorld : World := { routes := [("GET /catalogItem/i1", .fixed (.reply { body := webItemText }))] }

set_option maxRecDepth 20000 in
theorem webItemText_parses : parseDocument webItemText = .ok webItem := by
  with_unfolding_all rfl

theorem webItem_get : (((default : Connection).client.get "catalogItem" "i1").run.run webItemWorld).1 =
    .ok (some webItemText) := by
  have hbase : (default : Connection).client.baseUrl = "" := rfl
  have hcompat : (default : Connection).client.compat = false := rfl
  refine (default : Connection).client.get_body (by simp [webItemText]) ?_
  simp [Routes.answer, Routes.find?, Client.toUrl, webItemWorld, hbase, hcompat]

theorem webItem_findFirst : webItem.findFirst "CatalogItem" = some webItem := by
  simp [webItem, Element.findFirst, Element.iter, Element.iterList, Element.named]
  rfl

theorem webItem_entityRef : webItem.entityRef = some "/vAppTemplate/t1" := by
  have hc : webItem.childrenNamed "Entity" =
      [.mk ⟨none, "Entity"⟩ [(⟨none, "href"⟩, "/vAppTemplate/t1")] none [] none] := by
    simp [webItem, Element.childrenNamed, Element.children, Element.named, Element.name, Text.lower,
      ← String.toList_inj, String.toList_map]
  rw [Element.entityRef, hc]
  rfl

/-- The item's own name, its one description, and no creation date. -/
theorem webItem_fields : webItem.itemName = some "web" ∧ webItem.itemDescription = some "Web server" ∧
    createdStamp webItem = 0 := by
  have hd : webItem.childrenNamed "Description" = [.mk ⟨none, "Description"⟩ [] (some "Web server") [] none] := by
    simp [webItem, Element.childrenNamed, Element.children, Element.named, Element.name, Text.lower,
      ← String.toList_inj, String.toList_map]
  have hc : webItem.childrenNamed "DateCreated" = [] := by
    simp [webItem, Element.childrenNamed, Element.children, Element.named, Element.name, Text.lower,
      ← String.toList_inj, String.toList_map]
  have hname : webItem.attrValue "name" = some "web" := by decide
  have htext : textOf (some (.mk ⟨none, "Description"⟩ [] (some "Web server") [] none)) = some "Web server" := by
    decide
  refine ⟨?_, ?_, ?_⟩
  · simp [Element.itemName, given, hname]
  · simp [Element.itemDescription, Element.lastText, hd, htext]
  · simp [createdStamp, Element.lastText, hc]

/-- The item `web` is read and its template `/vAppTemplate/t1` loaded, with the
item's name and description to fall back on and no creation time. -/
theorem loadTemplate_outcome_webItem :
    (((default : Connection).client.get "catalogItem" "i1").run.run webItemWorld).1 = .ok (some webItemText) ∧
      parseDocument webItemText = .ok webItem ∧ webItem.findFirst "CatalogItem" = some webItem ∧
      webItem.entityRef = some "/vAppTemplate/t1" ∧
      ((default : Connection).loadTemplate "acme" "i1" false).run.run webItemWorld =
        ((default : Connection).loadVapp ((default : Connection).client.toId "/vAppTemplate/t1") "acme" false
          (some "web") (some "Web server") 0).run.run
          (((default : Connection).client.get "catalogItem" "i1").run.run webItemWorld).2 := by
  obtain ⟨hname, hdesc, hstamp⟩ := webItem_fields
  have hload := (((loadTemplate_outcome (default : Connection) "acme" "i1" false webItemWorld).2.2 webItemText
    webItem_get).2 webItem webItemText_parses).2 webItem _ webItem_findFirst webItem_entityRef
  rw [hname, hdesc, hstamp] at hload
  exact ⟨webItem_get, webItemText_parses, webItem_findFirst, webItem_entityRef, hload⟩

end Connection

end ImageCatalog
