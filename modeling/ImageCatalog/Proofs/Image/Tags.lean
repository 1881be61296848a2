import ImageCatalog.Template.Loader
import ImageCatalog.Proofs.Cache.Entries

/-!
# Tags of an image

An image's tags are a list of pairs keyed by name. `Image.setTag` changes the
tags alone (`Image.untagged_setTag`), and a lookup after it finds the value set
for its own key and what was there before for every other key
(`Image.tag?_setTag`).

`TemplateFacts.toImage` builds the image of a template: its id and owner are
the ones it is given, its other fields are those of the record its tags are
set on (`TemplateFacts.toImage_untagged`), and it is tagged public exactly when
it is published (`TemplateFacts.toImage_published`), whatever the template
says.
-/

namespace ImageCatalog

open ImageCatalog.Remote

namespace Image

variable (img : Image) (key value k : String)

@[simp] theorem setTag_imageId : (img.setTag key value).imageId = img.imageId := by
  unfold setTag
  split <;> rfl

@[simp] theorem setTag_ownerId : (img.setTag key value).ownerId = img.ownerId := by
  unfold setTag
  split <;> rfl

@[simp] theorem setTag?_imageId (v : Option String) : (img.setTag? key v).imageId = img.imageId := by
  cases v <;> simp [setTag?]

@[simp] theorem setTag?_ownerId (v : Option String) : (img.setTag? key v).ownerId = img.ownerId := by
  cases v <;> simp [setTag?]

/-- An image without its tags. -/
def untagged : Image := { img with tags := [] }

/-- Setting a tag changes the tags alone. -/
@[simp] theorem untagged_setTag : (img.setTag key value).untagged = img.untagged := by
  unfold setTag
  split <;> rfl

@[simp] theorem untagged_setTag? (v : Option String) : (img.setTag? key v).untagged = img.untagged := by
  cases v <;> simp [setTag?]

/-- A tag set is found under its key; every other key keeps its value. -/
theorem tag?_setTag : (img.setTag key value).tag? k = if k = key then some value else img.tag? k := by
  have htags : (img.setTag key value).tags =
      if img.tags.any (·.1 == key) then img.tags.map fun kv => if kv.1 == key then (key, value) else kv
      else img.tags ++ [(key, value)] := by
    unfold setTag
    split <;> rfl
  rw [tag?, htags, find?_key_set]
  split <;> rfl

theorem tag?_setTag_of_ne {k : String} (h : k ≠ key) : (img.setTag key value).tag? k = img.tag? k := by
  rw [tag?_setTag, if_neg h]

theorem tag?_setTag?_of_ne {k : String} (h : k ≠ key) (v : Option String) :
    (img.setTag? key v).tag? k = img.tag? k := by
  cases v with
  | none => rfl
  | some v => exact tag?_setTag_of_ne img key v h

end Image

namespace TemplateFacts

variable (f : TemplateFacts) (imageId owner region : String) (published : Bool)
  (name description : Option String) (createdAt : Int)

@[simp] theorem toImage_imageId :
    (f.toImage imageId owner region published name description createdAt).imageId = imageId := by
  unfold toImage
  cases f.network <;> cases published <;> simp

@[simp] theorem toImage_ownerId :
    (f.toImage imageId owner region published name description createdAt).ownerId = owner := by
  unfold toImage
  cases f.network <;> cases published <;> simp

/-- Untagged, the image of a template is the record that its facts and the
caller's fallbacks give: the tags set afterwards change nothing else. -/
theorem toImage_untagged :
    (f.toImage imageId owner region published name description createdAt).untagged =
      let finalName := ((given f.name).orElse fun _ => given name).getD imageId
      let finalDescription := ((given f.description).orElse fun _ => given description).getD finalName
      { imageId := imageId, ownerId := owner, regionId := region, name := finalName,
        description := finalDescription, architecture := f.architecture,
        platform := f.platformFor finalName finalDescription,
        createdAt := if f.createdAt != 0 then f.createdAt else createdAt,
        childVmIds := f.childVmIds.eraseDups.mergeSort (fun a b => decide (a ≤ b)), tags := [] } := by
  unfold toImage
  cases f.network <;> cases published <;> simp <;> rfl

/-- The image of a template is tagged public exactly when it is published:
no tag that the template sets afterwards has that key. -/
theorem toImage_published :
    (f.toImage imageId owner region published name description createdAt).tag? Tag.published =
      if published then some "true" else none := by
  have hdhcp : Tag.published ≠ Tag.defaultNetworkDhcp := by decide
  have hstatic : Tag.published ≠ Tag.defaultNetwork := by decide
  have hconfig : Tag.published ≠ Tag.networkConfig := by decide
  have hhref : Tag.published ≠ Tag.parentNetworkHref := by decide
  have hid : Tag.published ≠ Tag.parentNetworkId := by decide
  have hname : Tag.published ≠ Tag.parentNetworkName := by decide
  have hvms : Tag.published ≠ Tag.childVmIds := by decide
  -- the image as built from the facts, before its network tags: its only tags
  -- are the child VMs and, when published, the public tag
  have hbase : ∀ img : Image, img.tags = [] → ∀ vms,
      (if published = true then (img.setTag Tag.childVmIds vms).setTag Tag.published "true"
        else img.setTag Tag.childVmIds vms).tag? Tag.published = if published then some "true" else none := by
    intro img himg vms
    cases published with
    | false => rw [if_neg Bool.false_ne_true, Image.tag?_setTag_of_ne _ _ _ hvms, Image.tag?, himg]; rfl
    | true => rw [if_pos rfl, Image.tag?_setTag, if_pos rfl, if_pos rfl]
  unfold toImage
  dsimp only
  rw [Image.tag?_setTag?_of_ne _ _ hname, Image.tag?_setTag?_of_ne _ _ hid,
    Image.tag?_setTag?_of_ne _ _ hhref, Image.tag?_setTag?_of_ne _ _ hconfig]
  -- the network defaults are set only when the template has them
  cases f.network with
  | none => exact hbase _ rfl _
  | some n =>
    dsimp only
    rw [Image.tag?_setTag?_of_ne _ _ hdhcp, Image.tag?_setTag?_of_ne _ _ hstatic]
    exact hbase _ rfl _

end TemplateFacts

end ImageCatalog
