import ImageCatalog.Proofs.Remote.Reads
import ImageCatalog.Proofs.Image.Tags
import Mathlib.Control.Monad.Basic

/-!
# Removing an image

`Connection.remove` looks the image up. When the lookup finds nothing it fails
with `No such image` before anything else happens; otherwise it deletes the
template, and the catalog item when the image names one, and forgets the
scope's cached image list whether the deletes succeed or not.

A delete that succeeds removes the platform's route for reading what it
deleted (`Client.delete_unroutes`). Every image a listing builds was read from
the template of its own id, so once the route of a template is gone and the
cached list holds no image of that id, the image is `Gone`: lookups and
listings do not return it, and they keep it gone (`Gone.browses`).

Main results:

* `remove_unknown`, `remove_found_forgets`, `remove_ok_gone`: what a removal
  does after a lookup that finds nothing, after one that finds the image, and
  when it succeeds.
* `remove_forgets`: the three together, with every later lookup and listing.
* `remove_keeps_list_lookup_fails`: a removal whose lookup finds nothing
  leaves the cached image list as it was, and a lookup after a removal can
  still fail, when a read of the platform does.
-/

namespace ImageCatalog

open ImageCatalog.Remote ImageCatalog.Xml

/-- No image of a list has the id. -/
def Lacks (imageId : String) (is : List Image) : Prop := ∀ img ∈ is, img.imageId ≠ imageId

namespace Lacks

variable {imageId : String} {is is' : List Image}

theorem nil : Lacks imageId [] := fun _ h => nomatch h

theorem append (h : Lacks imageId is) (h' : Lacks imageId is') : Lacks imageId (is ++ is') := by
  intro img himg
  rcases List.mem_append.mp himg with hmem | hmem
  · exact h img hmem
  · exact h' img hmem

theorem push {found : Array Image} {img : Image} (h : Lacks imageId found.toList) (himg : img.imageId ≠ imageId) :
    Lacks imageId (found.push img).toList := by
  rw [Array.toList_push]
  exact append h fun x hx => by rw [List.mem_singleton.mp hx]; exact himg

theorem filter (h : Lacks imageId is) (p : Image → Bool) : Lacks imageId (is.filter p) :=
  fun img himg => h img (List.mem_filter.mp himg).1

/-- A search by id finds nothing in a list that lacks the id. -/
theorem find?_eq_none (h : Lacks imageId is) : is.find? (·.imageId == imageId) = none := by
  rw [List.find?_eq_none]
  intro img himg
  simpa using h img himg

end Lacks

/-- The image `imageId` is gone from what a connection reads: no route answers
a read of its template, and the scope's cached image list, if any, lacks it. -/
structure Gone (cn : Connection) (imageId : String) (w : World) : Prop where
  unrouted : w.routed ("GET " ++ cn.client.toUrl "vAppTemplate" imageId) = false
  uncached : ∀ e is, w.entry imageListCache cn.scope.key = some e → e.value = .images is → Lacks imageId is

/-- The reads of a connection that write no image list. -/
abbrev ReadsElsewhere : WorldOrder := .browsed (· ≠ imageListCache)

theorem imageListLockCache_ne : imageListLockCache ≠ imageListCache := by decide

theorem catalogCache_ne (published : Bool) : catalogCache published ≠ imageListCache := by
  cases published <;> decide

namespace Gone

variable {cn : Connection} {imageId : String}

/-- Reads that write no image list keep an image gone. -/
theorem of_browsed {w w' : World} (h : ReadsElsewhere.rel w w') (hw : Gone cn imageId w) :
    Gone cn imageId w' := by
  obtain ⟨-, hkeys, -, hentries⟩ := h
  constructor
  · cases hk : w'.routed ("GET " ++ cn.client.toUrl "vAppTemplate" imageId) with
    | false => rfl
    | true =>
      have hrouted := hkeys _ hk
      rw [hw.unrouted] at hrouted
      cases hrouted
  · intro e is he hv
    rw [hentries imageListCache (fun h => h rfl)] at he
    exact hw.uncached e is he hv

end Gone

namespace Connection

variable (cn : Connection) (imageId : String)

theorem guards_gone {α : Type} {x : Session α} (hx : Stays ReadsElsewhere x) :
    Guards (Gone cn imageId) (fun _ => True) x :=
  Guards.of_stays hx fun _ _ h hw => Gone.of_browsed h hw

/-- A read keeps an image gone, and a read of its template finds nothing. -/
theorem getUrl_gone (url : String) :
    Guards (Gone cn imageId) (fun r => url = cn.client.toUrl "vAppTemplate" imageId → r = none)
      (cn.client.getUrl url) := by
  intro w hw
  refine ⟨(guards_gone cn imageId (Client.getUrl_browsed _ url) w hw).1, fun r hr hurl => ?_⟩
  rw [hurl, Client.getUrl_unrouted _ hw.unrouted] at hr
  exact (Except.ok.inj hr).symm

/-- A template read from the platform is not the one that is gone. -/
theorem loadVapp_gone (templateId owner : String) (published : Bool) (name description : Option String)
    (createdAt : Int) :
    Guards (Gone cn imageId) (fun r => ∀ img, r = some img → img.imageId ≠ imageId)
      (cn.loadVapp templateId owner published name description createdAt) := by
  unfold loadVapp
  refine Guards.bind (getUrl_gone cn imageId _) fun found hfound => ?_
  cases found with
  | none => exact Guards.pure fun _ h => nomatch h
  | some xml =>
    have hne : templateId ≠ imageId := fun h => nomatch hfound (by rw [h])
    refine Guards.bind (Guards.orFail _) fun root _ => ?_
    split
    · exact Guards.pure fun _ h => nomatch h
    · refine Guards.bind (guards_gone cn imageId Stays.now) fun _ _ => ?_
      dsimp only
      split
      · exact Guards.pure fun _ h => nomatch h
      · exact Guards.pure fun img h => by
          cases h
          rw [TemplateFacts.toImage_imageId]
          exact hne

theorem loadTemplate_gone (owner itemId : String) (published : Bool) :
    Guards (Gone cn imageId) (fun r => ∀ img, r = some img → img.imageId ≠ imageId)
      (cn.loadTemplate owner itemId published) := by
  unfold loadTemplate
  refine Guards.bind (guards_gone cn imageId (Client.get_browsed _ _ _)) fun found _ => ?_
  cases found with
  | none => exact Guards.pure fun _ h => nomatch h
  | some xml =>
    refine Guards.bind (Guards.orFail _) fun root _ => ?_
    split
    · exact Guards.pure fun _ h => nomatch h
    · dsimp only
      split
      · exact Guards.pure fun _ h => nomatch h
      · exact loadVapp_gone cn imageId _ _ _ _ _ _

/-- A scan of a catalog keeps an image gone and does not find it. -/
theorem scanCatalog_gone (catalog : Catalog) (filter : Option ReadyFilter) :
    Guards (Gone cn imageId) (Lacks imageId) (cn.scanCatalog catalog filter) := by
  unfold scanCatalog
  refine Guards.bind (guards_gone cn imageId (catalogItemIds_browsed cn catalog)) fun ids _ => ?_
  cases ids with
  | none => exact Guards.pure Lacks.nil
  | some ids =>
    -- every image kept so far lacks the id; the stamps keep the id
    refine Guards.bind (Guards.forIn (I := fun found : Array Image => Lacks imageId found.toList)
      ids Lacks.nil fun itemId found hfound => ?_) fun found hfound => Guards.pure hfound
    refine Guards.bind (loadTemplate_gone cn imageId _ _ _) fun img himg => ?_
    cases img with
    | none => exact Guards.pure hfound
    | some img =>
      dsimp only
      split
      · exact Guards.pure hfound
      · refine Guards.pure (Lacks.push hfound ?_)
        rw [Image.setTag_imageId]
        exact himg img rfl

theorem scanPrivate_gone : Guards (Gone cn imageId) (Lacks imageId) cn.scanPrivate := by
  unfold scanPrivate
  refine Guards.bind (guards_gone cn imageId (catalogs_browsed cn false (catalogCache_ne false)))
    fun cs _ => ?_
  refine Guards.bind (Guards.forIn (I := Lacks imageId) cs Lacks.nil fun catalog found hfound => ?_)
    fun found hfound => Guards.pure hfound
  exact Guards.bind (scanCatalog_gone cn imageId catalog none) fun _ hscan =>
    Guards.pure (hfound.append hscan)

theorem publicImages_gone (filter : Option ReadyFilter) :
    Guards (Gone cn imageId) (Lacks imageId) (cn.publicImages filter) := by
  unfold publicImages
  refine Guards.bind (guards_gone cn imageId (catalogs_browsed cn true (catalogCache_ne true)))
    fun cs _ => ?_
  refine Guards.bind (Guards.forIn (I := Lacks imageId) cs Lacks.nil fun catalog found hfound => ?_)
    fun found hfound => Guards.pure hfound
  exact Guards.bind (scanCatalog_gone cn imageId catalog filter) fun _ hscan =>
    Guards.pure (hfound.append hscan)

/-- A read of the cached image list keeps an image gone and finds a list that
lacks it. -/
theorem cacheGet_gone (ttl : Int) :
    Guards (Gone cn imageId) (fun r => ∀ is, r = some (.images is) → Lacks imageId is)
      (cacheGet imageListCache ttl cn.scope.key) := by
  intro w hw
  obtain ⟨w', hrun, hentry, -⟩ := cacheGet_run imageListCache cn.scope.key ttl w
  have hstay := cacheGet_cachesOnly (T := (· = imageListCache)) imageListCache cn.scope.key ttl rfl w
  rw [hrun] at hstay ⊢
  -- the read keeps the entry or drops it
  have hkept : ∀ e, w'.entry imageListCache cn.scope.key = some e →
      w.entry imageListCache cn.scope.key = some e := by
    intro e he
    rw [hentry, if_pos ⟨rfl, rfl⟩] at he
    exact Option.eq_some_of_filter_eq_some he
  refine ⟨⟨?_, fun e is he hv => hw.uncached e is (hkept e he) hv⟩, ?_⟩
  · rw [World.routed, hstay.1]
    exact hw.unrouted
  · rintro r hr is rfl
    obtain ⟨e, he, hv⟩ := Option.map_eq_some_iff.mp (Except.ok.inj hr)
    exact hw.uncached e is (Option.eq_some_of_filter_eq_some he) hv

/-- Storing a list that lacks an image keeps it gone. -/
theorem cachePut_gone (ttl : Int) {is : List Image} (his : Lacks imageId is) :
    Guards (Gone cn imageId) (fun _ => True) (cachePut imageListCache ttl cn.scope.key (.images is)) := by
  intro w hw
  obtain ⟨w', hrun, hentry, -⟩ := cachePut_run imageListCache cn.scope.key ttl w (.images is)
  have hstay := cachePut_cachesOnly (T := (· = imageListCache)) imageListCache cn.scope.key ttl rfl
    (.images is) w
  rw [hrun] at hstay ⊢
  refine ⟨⟨?_, fun e is' he hv => ?_⟩, fun _ _ => trivial⟩
  · rw [World.routed, hstay.1]
    exact hw.unrouted
  · rw [hentry, if_pos ⟨rfl, rfl⟩] at he
    cases he
    cases hv
    exact his

/-- A listing of the account's images keeps an image gone and does not hold
it, whether it comes from the cache or from a scan. -/
theorem images_gone (filter : Option ReadyFilter) :
    Guards (Gone cn imageId) (Lacks imageId) (cn.images filter) := by
  have hlock : Stays ReadsElsewhere
      (cacheGetOrCreate imageListLockCache permanentTtl cn.scope.key .refreshLock) :=
    (cacheGetOrCreate_cachesOnly (T := (· ≠ imageListCache)) _ _ _ imageListLockCache_ne _).mono fun _ _ =>
      WorldOrder.browsed_of_cachesOnly
  unfold images
  refine Guards.bind (cacheGet_gone cn imageId _) fun found hfound => ?_
  dsimp only
  split
  · next is => exact Guards.bind (Guards.pure (hfound is rfl)) fun all hall => Guards.pure (hall.filter _)
  refine Guards.bind (guards_gone cn imageId hlock) fun _ _ => ?_
  refine Guards.bind (cacheGet_gone cn imageId _) fun again hagain => ?_
  split
  · next is => exact Guards.bind (Guards.pure (hagain is rfl)) fun all hall => Guards.pure (hall.filter _)
  · exact Guards.bind (scanPrivate_gone cn imageId) fun found hfound =>
      Guards.bind (cachePut_gone cn imageId _ hfound) fun _ _ =>
        Guards.bind (Guards.pure hfound) fun all hall => Guards.pure (hall.filter _)

/-- A lookup returns an image of the id it looks for, never one that is gone,
and keeps it gone. -/
theorem findImage_gone (other : String) :
    Guards (Gone cn imageId) (fun r => ∀ img, r = some img → img.imageId = other ∧ img.imageId ≠ imageId)
      (cn.findImage other) := by
  unfold findImage
  refine Guards.bind (images_gone cn imageId none) fun all hall => ?_
  split
  · next img hfind =>
    refine Guards.pure fun _ h => ?_
    cases h
    exact ⟨by simpa using List.find?_some hfind, hall img (List.mem_of_find?_eq_some hfind)⟩
  · refine Guards.bind (publicImages_gone cn imageId none) fun pub hpub => Guards.pure fun img h => ?_
    exact ⟨by simpa using List.find?_some h, hpub img (List.mem_of_find?_eq_some h)⟩

/-- Whatever a caught block does, it ends with its outcome as a value. -/
theorem run_catch_result {α : Type} (x : Session (Except Fault α)) (w : World) :
    (tryCatch x fun e => pure (.error e)).run.run w =
      (.ok (match (x.run.run w).1 with
        | .ok r => r
        | .error e => .error e), (x.run.run w).2) := by
  rw [run_tryCatch]
  rcases x.run.run w with ⟨r, w1⟩
  cases r <;> rfl

/-- A failure turned back into a fault leaves the world as it is. -/
theorem orFail_world {α : Type} (x : Except Fault α) (w : World) : ((orFail x : Session α).run.run w).2 = w := by
  cases x <;> rfl

/-- The end of a removal: the deletes are caught, the image list forgotten, and
the fault of the deletes, if any, raised again. The image list is forgotten
either way; the end succeeds only if the deletes did, and then the routes are
as the deletes left them. -/
theorem forget_after_catch (x : Session (Except Fault Unit)) (w : World) :
    ((tryCatch x (fun e => pure (.error e)) >>= fun result => cn.forgetImages >>= fun _ => orFail result).run.run
        w).2.entry imageListCache cn.scope.key = none ∧
      (((tryCatch x (fun e => pure (.error e)) >>= fun result =>
          cn.forgetImages >>= fun _ => orFail result).run.run w).1 = .ok () →
        (x.run.run w).1 = .ok (.ok ()) ∧
        ((tryCatch x (fun e => pure (.error e)) >>= fun result =>
          cn.forgetImages >>= fun _ => orFail result).run.run w).2.routes = (x.run.run w).2.routes) := by
  obtain ⟨w2, hdrop, hentry, -⟩ := cacheDrop_run imageListCache cn.scope.key cn.imageListTtl (x.run.run w).2
  have hstay := cacheDrop_cachesOnly (T := (· = imageListCache)) imageListCache cn.scope.key
    cn.imageListTtl rfl (x.run.run w).2
  rw [hdrop] at hstay
  rw [run_bind, run_catch_result]
  dsimp only
  rw [run_bind, forgetImages, hdrop]
  dsimp only
  refine ⟨by rw [orFail_world, hentry, if_pos ⟨rfl, rfl⟩], fun hok => ⟨?_, by rw [orFail_world]; exact hstay.1⟩⟩
  -- only a caught success is raised as a success
  rcases hx : x.run.run w with ⟨r, w1⟩
  rw [hx] at hok
  cases r with
  | error e => cases hok
  | ok r =>
    cases r with
    | error e => cases hok
    | ok u => rfl

/-- A lookup that finds nothing makes the removal fail before it deletes
anything, in the world the lookup left. -/
theorem remove_unknown {w w0 : World} (h : (cn.findImage imageId).run.run w = (.ok none, w0)) :
    (cn.remove imageId).run.run w = (.error (.cloud ("No such image: " ++ imageId)), w0) := by
  unfold remove
  rw [run_bind, h]
  rfl

/-- Once the lookup has found the image, the image list is forgotten, whether
the deletes succeed or not. -/
theorem remove_found_forgets {w w0 : World} {img : Image}
    (h : (cn.findImage imageId).run.run w = (.ok (some img), w0)) :
    ((cn.remove imageId).run.run w).2.entry imageListCache cn.scope.key = none := by
  unfold remove
  rw [run_bind, h]
  dsimp only
  rw [run_bind, run_pure]
  dsimp only
  exact (forget_after_catch cn _ w0).1

/-- The delete of an image's catalog item, when it has one, adds no route. -/
theorem deleteItem_keysKept (itemId : Option String) :
    Stays .keysKept (do
      if let some i := itemId then cn.client.delete "catalogItem" i
      pure (Except.ok ()) : Session (Except Fault Unit)) := by
  split
  · exact Stays.bind (Client.delete_keysKept _ _ _) fun _ => Stays.pure _
  · exact Stays.pure _

/-- A removal that succeeds leaves the image gone: the delete of its template
removed the route that reads it, a delete of its catalog item adds no route,
and the image list is forgotten. -/
theorem remove_ok_gone {w : World} (h : ((cn.remove imageId).run.run w).1 = .ok ()) :
    Gone cn imageId ((cn.remove imageId).run.run w).2 := by
  unfold remove at h ⊢
  obtain ⟨found, w0, hfind, -⟩ := run_bind_ok h
  rw [run_bind, hfind] at h ⊢
  cases found with
  | none => cases h
  | some img =>
    dsimp only at h ⊢
    rw [run_bind, run_pure] at h ⊢
    dsimp only at h ⊢
    obtain ⟨hentry, hok⟩ := forget_after_catch cn _ w0
    obtain ⟨hdeleted, hroutes⟩ := hok h
    -- the deletes succeeded: the template's delete first, then the rest from its world
    obtain ⟨u, w1, hdel, hrest⟩ := run_bind_ok hdeleted
    have hunrouted : w1.routed ("GET " ++ cn.client.toUrl "vAppTemplate" imageId) = false := by
      have hdel1 : ((cn.client.delete "vAppTemplate" imageId).run.run w0).1 = .ok () := by rw [hdel]
      have hgone := Client.delete_unroutes _ hdel1
      rwa [hdel] at hgone
    have hrestKept := deleteItem_keysKept cn (img.tag? Tag.catalogItemId)
    refine ⟨?_, fun e is he _ => by rw [hentry] at he; cases he⟩
    rw [World.routed, hroutes, ← hrest]
    cases hk : List.any _ _ with
    | false => rfl
    | true =>
      have hrouted := hrestKept w1 _ hk
      rw [hunrouted] at hrouted
      cases hrouted

end Connection

/-- The worlds a connection reaches from a world by lookups and listings alone:
finding an image, listing the account's images, searching public ones and
listing catalogs. -/
inductive Browses (cn : Connection) : World → World → Prop
  | refl (w : World) : Browses cn w w
  | find {w u : World} (imageId : String) :
      Browses cn w u → Browses cn w ((cn.findImage imageId).run.run u).2
  | list {w u : World} (filter : Option ReadyFilter) :
      Browses cn w u → Browses cn w ((cn.images filter).run.run u).2
  | search {w u : World} (filter : Option ReadyFilter) :
      Browses cn w u → Browses cn w ((cn.publicImages filter).run.run u).2
  | catalogs {w u : World} (published : Bool) :
      Browses cn w u → Browses cn w ((cn.catalogs published).run.run u).2

/-- An image that is gone stays gone through lookups and listings. -/
theorem Gone.browses {cn : Connection} {imageId : String} {w u : World} (hb : Browses cn w u)
    (hw : Gone cn imageId w) : Gone cn imageId u := by
  induction hb with
  | refl => exact hw
  | find other _ ih => exact (Connection.findImage_gone cn imageId other _ ih).1
  | list filter _ ih => exact (Connection.images_gone cn imageId filter _ ih).1
  | search filter _ ih => exact (Connection.publicImages_gone cn imageId filter _ ih).1
  | catalogs published _ ih =>
    exact (Connection.guards_gone cn imageId
      (Connection.catalogs_browsed cn published (catalogCache_ne published)) _ ih).1

/-- Removing an image. When the lookup that starts a removal finds nothing, the
removal fails with `No such image` and sends nothing but the lookup's reads.
When the lookup finds the image, the scope's cached image list is forgotten,
whether the deletes succeed or not. When the removal succeeds, no later lookup
of the image returns it and no later listing holds it, through any number of
lookups and listings. -/
theorem remove_forgets (cn : Connection) (imageId : String) (w : World) :
    (((cn.findImage imageId).run.run w).1 = .ok none →
      (cn.remove imageId).run.run w =
        (.error (.cloud ("No such image: " ++ imageId)), ((cn.findImage imageId).run.run w).2) ∧
      ∃ gets : List Call, ((cn.remove imageId).run.run w).2.calls.toList = w.calls.toList ++ gets ∧
        ∀ c ∈ gets, c.method = "GET") ∧
    (∀ img, ((cn.findImage imageId).run.run w).1 = .ok (some img) →
      ((cn.remove imageId).run.run w).2.entry imageListCache cn.scope.key = none) ∧
    (((cn.remove imageId).run.run w).1 = .ok () →
      ∀ u, Browses cn ((cn.remove imageId).run.run w).2 u →
        (∀ r, ((cn.findImage imageId).run.run u).1 = .ok r → r = none) ∧
        ∀ filter, (∀ is, ((cn.images filter).run.run u).1 = .ok is → Lacks imageId is) ∧
          (∀ is, ((cn.publicImages filter).run.run u).1 = .ok is → Lacks imageId is)) := by
  refine ⟨fun hnone => ?_, fun img hsome => ?_, fun hok u hu => ?_⟩
  · have hremove := Connection.remove_unknown cn imageId (Prod.ext hnone rfl)
    refine ⟨hremove, ?_⟩
    -- the lookup sends only reads
    obtain ⟨-, -, hgets, -⟩ := Connection.findImage_browsed (T := fun _ => True) cn imageId
      trivial trivial trivial trivial w
    rwa [hremove]
  · exact Connection.remove_found_forgets cn imageId (Prod.ext hsome rfl)
  · have hgone := (Connection.remove_ok_gone cn imageId hok).browses hu
    refine ⟨fun r hr => ?_, fun filter => ⟨fun is his => (Connection.images_gone cn imageId filter u hgone).2 is his,
      fun is his => (Connection.publicImages_gone cn imageId filter u hgone).2 is his⟩⟩
    -- a lookup returns an image of its own id, and no image of that id is left
    cases r with
    | none => rfl
    | some img =>
      obtain ⟨hid, hne⟩ := (Connection.findImage_gone cn imageId imageId u hgone).2 _ hr img rfl
      exact absurd hid hne

/-- An image of id `tpl-1` that names no catalog item. -/
def sampleImage : Image := { imageId := "tpl-1", ownerId := "", regionId := "", name := "", description := "" }

/-- A world whose image list for the default scope holds `is` and whose list
of public catalogs is empty, both stored at time 0, with the routes given. -/
def listedWorld (is : List Image) (routes : Routes) : World :=
  { routes := routes,
    caches := [(imageListCache, { ttl := 0, entries := [((default : Connection).scope.key, ⟨.images is, 0⟩)] }),
      (catalogCache true, { ttl := 0, entries := [((default : Connection).scope.key, ⟨.catalogs [], 0⟩)] })] }

/-- The route that accepts the delete of the template `tpl-1`. -/
def templateDeletable : String × Route :=
  ("DELETE " ++ (default : Client).toUrl "vAppTemplate" "tpl-1", .fixed (.reply {}))

/-- The cached list holds `tpl-1`: a removal of `nope` fails with `No such
image`, and a removal of `tpl-1` forgets the list and succeeds, after which no
lookup finds `tpl-1`. -/
theorem remove_forgets_listed :
    ((default : Connection).remove "nope").run.run (listedWorld [sampleImage] []) =
        (.error (.cloud "No such image: nope"),
          (((default : Connection).findImage "nope").run.run (listedWorld [sampleImage] [])).2) ∧
      (((default : Connection).remove "tpl-1").run.run (listedWorld [sampleImage] [templateDeletable])).2.entry
        imageListCache (default : Connection).scope.key = none ∧
      ∀ u, Browses default (((default : Connection).remove "tpl-1").run.run
          (listedWorld [sampleImage] [templateDeletable])).2 u →
        ∀ r, (((default : Connection).findImage "tpl-1").run.run u).1 = .ok r → r = none :=
  have hunknown := (remove_forgets default "nope" (listedWorld [sampleImage] [])).1 (by decide +kernel)
  have hfound := (remove_forgets default "tpl-1" (listedWorld [sampleImage] [templateDeletable])).2.1
    sampleImage (by decide +kernel)
  have hok := (remove_forgets default "tpl-1" (listedWorld [sampleImage] [templateDeletable])).2.2
    (by decide +kernel)
  ⟨hunknown.1, hfound, fun u hu => (hok u hu).1⟩

/-- Two limits of a removal. A removal whose lookup finds nothing leaves the
cached image list as it was: the list that holds `tpl-1` is still there after a
removal of `nope` fails. And a lookup after a successful removal can fail: with
the image list forgotten it reads the organization again, and a failed read of
the organization fails the lookup. -/
theorem remove_keeps_list_lookup_fails :
    (((default : Connection).remove "nope").run.run (listedWorld [sampleImage] [])).1 =
        .error (.cloud "No such image: nope") ∧
      ((((default : Connection).remove "nope").run.run (listedWorld [sampleImage] [])).2.entry
        imageListCache (default : Connection).scope.key).map (·.value) = some (.images [sampleImage]) ∧
      (((default : Connection).remove "tpl-1").run.run
        (listedWorld [sampleImage] [templateDeletable,
          ("GET " ++ (default : Client).toUrl "org" "", .fixed (.reply { status := 500 }))])).1 = .ok () ∧
      (((default : Connection).findImage "tpl-1").run.run (((default : Connection).remove "tpl-1").run.run
        (listedWorld [sampleImage] [templateDeletable,
          ("GET " ++ (default : Client).toUrl "org" "", .fixed (.reply { status := 500 }))])).2).1 =
        .error (.cloud "GET /org/ failed with HTTP 500: ") :=
  ⟨by decide +kernel, by decide +kernel, by decide +kernel, by decide +kernel⟩

end ImageCatalog
