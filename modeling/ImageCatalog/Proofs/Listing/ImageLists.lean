import ImageCatalog.Proofs.Remote.Reads
import ImageCatalog.Proofs.Image.Tags
import Mathlib

/-!
# Image lists: stamping, filtering and the cached list

A scan of a catalog loads the template of each item, keeps those that pass the
filter, and stamps each kept image with the catalog's owner and the item's id.
The filter is applied before the stamp, so it sees the image as the loader
built it; as the loader already gives the image the catalog's owner and a
filter reads no tag, filtering before the stamp keeps the same images as
filtering after it. Hence a public search through a filter is the unfiltered
search, filtered (`Connection.publicImages_filtered`).

The private images are kept in the image-list cache. A listing that finds no
live list there scans every private catalog once and stores the unfiltered
scan (`Connection.images_miss`); a listing that finds one sends no request and
filters it (`Connection.images_hit`), so a session of listings within the
lifetime of the list answers every filter from the one scan
(`listingSession_cached`). The cached catalog list of a visibility only ever
holds catalogs of that visibility (`Connection.catalogs_of`), so every image of
the scan is stamped by a private catalog and carries no public tag.

* `Twins R x y`: from every world, `x` and `y` end in the same world, and fail
  alike or return values related by `R`; closed under `pure`, `bind` and `for`
  loops.
* `images_listed_from_one_scan`: a session of listings that starts on no live
  list answers every listing from one scan, and a public search commutes with
  its filter.
-/

namespace ImageCatalog

open ImageCatalog.Remote

variable {α β γ δ σ τ : Type}

/-! ## Two programs that do the same to the platform -/

/-- From every world, `x` and `y` end in the same world, and fail with the same
fault or return values related by `R`. -/
def Twins (R : α → β → Prop) (x : Session α) (y : Session β) : Prop :=
  ∀ w, (x.run.run w).2 = (y.run.run w).2 ∧ SameOutcome R (x.run.run w).1 (y.run.run w).1

/-- The relation `R` between the states of two loops, lifted to their steps:
both go on, or both stop, with related states. -/
def StepRel (R : σ → τ → Prop) : ForInStep σ → ForInStep τ → Prop
  | .yield s, .yield t => R s t
  | .done s, .done t => R s t
  | _, _ => False

namespace Twins

variable {R : α → β → Prop} {S : γ → δ → Prop}

theorem pure {a : α} {b : β} (h : R a b) : Twins R (Pure.pure a) (Pure.pure b) :=
  fun _ => ⟨rfl, h⟩

theorem throw (e : Fault) : Twins R (MonadExcept.throw e : Session α) (MonadExcept.throw e : Session β) :=
  fun _ => ⟨rfl, rfl⟩

theorem bind {x : Session α} {y : Session β} {f : α → Session γ} {g : β → Session δ}
    (hx : Twins R x y) (hf : ∀ a b, R a b → Twins S (f a) (g b)) : Twins S (x >>= f) (y >>= g) := by
  intro w
  obtain ⟨hworld, hout⟩ := hx w
  rw [run_bind, run_bind]
  rcases hrx : x.run.run w with ⟨rx, w1⟩
  rcases hry : y.run.run w with ⟨ry, w2⟩
  rw [hrx, hry] at hworld hout
  dsimp only at hworld hout
  subst hworld
  cases rx <;> cases ry
  case error.error e e' => exact ⟨rfl, hout⟩
  case error.ok => exact hout.elim
  case ok.error => exact hout.elim
  case ok.ok a b => exact hf a b hout w1

/-- A program is its own twin, and what it returns satisfies every
postcondition it guards. -/
theorem self {x : Session α} {Q : α → Prop} (hx : Guards (fun _ => True) Q x) :
    Twins (fun a b => a = b ∧ Q a) x x := by
  intro w
  refine ⟨rfl, ?_⟩
  rcases hrun : (x.run.run w).1 with e | a
  · rfl
  · exact ⟨rfl, (hx w trivial).2 a hrun⟩

/-- Two loops over one list whose steps are twins from related states are
twins. -/
theorem forIn {xs : List γ} {I : σ → τ → Prop} {s : σ} {t : τ} (hst : I s t)
    {f : γ → σ → Session (ForInStep σ)} {g : γ → τ → Session (ForInStep τ)}
    (hfg : ∀ a s t, I s t → Twins (StepRel I) (f a s) (g a t)) :
    Twins I (ForIn.forIn xs s f) (ForIn.forIn xs t g) := by
  induction xs generalizing s t with
  | nil => exact pure hst
  | cons a as ih =>
    rw [List.forIn_cons, List.forIn_cons]
    refine bind (hfg a s t hst) fun step step' h => ?_
    cases step <;> cases step'
    case done.done => exact pure h
    case yield.yield => exact ih h
    case done.yield => exact h.elim
    case yield.done => exact h.elim

/-- Twins whose values are related by a function: the first runs as the
second, with that function applied to what it returns. -/
theorem run_eq_map {f : β → α} {x : Session α} {y : Session β} (h : Twins (fun a b => a = f b) x y) (w : World) :
    x.run.run w = ((y.run.run w).1.map f, (y.run.run w).2) := by
  obtain ⟨hworld, hout⟩ := h w
  refine Prod.ext ?_ hworld
  revert hout
  cases (x.run.run w).1 <;> cases (y.run.run w).1
  case error.error e e' => exact fun h => congrArg Except.error h
  case ok.ok a b => exact fun h => congrArg Except.ok h
  all_goals exact False.elim

end Twins

/-- With no invariant to keep, every program guards the trivial postcondition. -/
theorem Guards.triv {x : Session α} : Guards (fun _ => True) (fun _ => True) x :=
  fun _ _ => ⟨trivial, fun _ _ => trivial⟩

/-- A run that keeps to an order keeps every invariant the order keeps, and
returns what it returns from any world. -/
theorem Guards.frame {P : World → Prop} {Q : α → Prop} {O : WorldOrder} {x : Session α}
    (hx : Guards (fun _ => True) Q x) (hs : Stays O x) (hP : ∀ w w', O.rel w w' → P w → P w') : Guards P Q x :=
  fun w hw => ⟨hP _ _ (hs w) hw, (hx w trivial).2⟩

/-- What holds of the elements of an array and of one more holds of the
elements of the array with that one pushed. -/
theorem forall_mem_push {p : α → Prop} {a : Array α} {x : α} (ha : ∀ y ∈ a.toList, p y) (hx : p x) :
    ∀ y ∈ (a.push x).toList, p y := by
  rw [Array.toList_push]
  exact List.forall_mem_append.mpr ⟨ha, List.forall_mem_singleton.mpr hx⟩

/-- A loop whose every step, from a state satisfying `I` at an element of the
list, keeps the invariant and `I`, ends with a state satisfying `I`. -/
theorem Guards.forIn_mem {P : World → Prop} (xs : List γ) {init : σ} {f : γ → σ → Session (ForInStep σ)}
    {I : σ → Prop} (hinit : I init)
    (hf : ∀ a ∈ xs, ∀ s, I s → Guards P (fun step => I step.value) (f a s)) :
    Guards P I (ForIn.forIn xs init f) := by
  induction xs generalizing init with
  | nil => exact Guards.pure hinit
  | cons a as ih =>
    rw [List.forIn_cons]
    refine Guards.bind (hf a List.mem_cons_self init hinit) fun step hstep => ?_
    cases step with
    | done s => exact Guards.pure hstep
    | yield s => exact ih hstep fun b hb => hf b (List.mem_cons_of_mem a hb)

/-! ## Stamping and filtering -/

/-- A filter reads no tag. -/
theorem ReadyFilter.matches_setTag (f : ReadyFilter) (img : Image) (key value : String) :
    f.matches (img.setTag key value) = f.matches img := by
  unfold Image.setTag
  split <;> rfl

/-- Stamping an image with the owner it already has and an item id leaves
every filter's verdict on it as it was. -/
theorem passes_stamp (filter : Option ReadyFilter) {img : Image} {owner : String} (hown : img.ownerId = owner)
    (itemId : String) :
    passes filter ({ img with ownerId := owner }.setTag Tag.catalogItemId itemId) = passes filter img := by
  subst hown
  cases filter with
  | none => rfl
  | some f => exact f.matches_setTag img _ _

namespace Connection

variable (cn : Connection)

/-- A loaded template is an image of the owner it was loaded for, tagged public
exactly when it was loaded as published. -/
def LoadedFor (owner : String) (published : Bool) (r : Option Image) : Prop :=
  ∀ img, r = some img → img.ownerId = owner ∧ img.tag? Tag.published = if published then some "true" else none

theorem loadedFor_none (owner : String) (published : Bool) : LoadedFor owner published none :=
  fun _ h => nomatch h

/-- A loaded vApp template is the image that the facts of some template make,
with the id, owner and fallbacks it was loaded with. -/
theorem loadVapp_built (templateId owner : String) (published : Bool) (name description : Option String)
    (createdAt : Int) :
    Guards (fun _ => True)
      (fun r => ∀ img, r = some img →
        ∃ f : TemplateFacts, img = f.toImage templateId owner cn.scope.region published name description createdAt)
      (cn.loadVapp templateId owner published name description createdAt) := by
  unfold loadVapp
  refine Guards.bind Guards.triv fun found _ => ?_
  cases found with
  | none => exact Guards.pure fun _ h => nomatch h
  | some xml =>
    refine Guards.bind (Guards.orFail _) fun root _ => ?_
    split
    · exact Guards.pure fun _ h => nomatch h
    · refine Guards.bind Guards.triv fun t _ => ?_
      dsimp only
      split
      · exact Guards.pure fun _ h => nomatch h
      · exact Guards.pure fun img himg => ⟨_, (Option.some.inj himg).symm⟩

theorem loadVapp_loadedFor (templateId owner : String) (published : Bool) (name description : Option String)
    (createdAt : Int) :
    Guards (fun _ => True) (LoadedFor owner published)
      (cn.loadVapp templateId owner published name description createdAt) :=
  (loadVapp_built cn templateId owner published name description createdAt).mono fun _ hbuilt img himg => by
    obtain ⟨f, rfl⟩ := hbuilt img himg
    exact ⟨TemplateFacts.toImage_ownerId .., TemplateFacts.toImage_published ..⟩

theorem loadTemplate_loadedFor (owner itemId : String) (published : Bool) :
    Guards (fun _ => True) (LoadedFor owner published) (cn.loadTemplate owner itemId published) := by
  unfold loadTemplate
  refine Guards.bind Guards.triv fun found _ => ?_
  cases found with
  | none => exact Guards.pure (loadedFor_none owner published)
  | some xml =>
    refine Guards.bind (Guards.orFail _) fun root _ => ?_
    split
    · exact Guards.pure (loadedFor_none owner published)
    · dsimp only
      split
      · exact Guards.pure (loadedFor_none owner published)
      · exact loadVapp_loadedFor cn _ _ _ _ _ _

/-- A scan through a filter does what the unfiltered scan does to the platform,
and keeps the images of the unfiltered scan that pass the filter. -/
theorem scanCatalog_filtered (catalog : Catalog) (filter : Option ReadyFilter) :
    Twins (fun found all => found = all.filter (passes filter))
      (cn.scanCatalog catalog filter) (cn.scanCatalog catalog none) := by
  unfold scanCatalog
  refine Twins.bind (Twins.self (Guards.triv (x := cn.catalogItemIds catalog))) fun ids ids' hids => ?_
  obtain ⟨rfl, -⟩ := hids
  cases ids with
  | none => exact Twins.pure rfl
  | some ids =>
    refine Twins.bind (Twins.forIn (s := #[]) (t := #[]) (I := fun (found all : Array Image) =>
      found.toList = all.toList.filter (passes filter)) rfl fun itemId found all hfound => ?_)
      fun found all h => Twins.pure h
    refine Twins.bind (Twins.self (loadTemplate_loadedFor cn _ _ _)) fun r r' hr => ?_
    obtain ⟨rfl, hloaded⟩ := hr
    cases r with
    | none => exact Twins.pure hfound
    | some img =>
      -- the stamped image passes the filter exactly when the loaded one does
      have hpass := passes_stamp filter (hloaded img rfl).1 itemId
      have hall : passes none img = true := rfl
      dsimp only
      rw [hall, Bool.not_true, if_neg Bool.false_ne_true]
      cases h : passes filter img with
      | false =>
        rw [Bool.not_false, if_pos rfl]
        exact Twins.pure (by simp [StepRel, hfound, hpass, h])
      | true =>
        rw [Bool.not_true, if_neg Bool.false_ne_true]
        exact Twins.pure (by simp [StepRel, hfound, hpass, h])

/-- A public search through a filter does what the unfiltered search does to
the platform, and keeps the images of the unfiltered search that pass the
filter. -/
theorem publicImages_twins (filter : Option ReadyFilter) :
    Twins (fun found all => found = all.filter (passes filter))
      (cn.publicImages filter) (cn.publicImages none) := by
  unfold publicImages
  refine Twins.bind (Twins.self (Guards.triv (x := cn.catalogs true))) fun cs cs' hcs => ?_
  obtain ⟨rfl, -⟩ := hcs
  refine Twins.bind (Twins.forIn (s := []) (t := []) (I := fun (found all : List Image) =>
    found = all.filter (passes filter)) rfl fun catalog found all hfound => ?_) fun found all h => Twins.pure h
  exact Twins.bind (scanCatalog_filtered cn catalog filter) fun part part' hpart =>
    Twins.pure (by simp [StepRel, hfound, hpart, List.filter_append])

theorem publicImages_filtered (filter : Option ReadyFilter) (w : World) :
    (cn.publicImages filter).run.run w =
      (((cn.publicImages none).run.run w).1.map (·.filter (passes filter)), ((cn.publicImages none).run.run w).2) :=
  Twins.run_eq_map (publicImages_twins cn filter) w

/-! ## What a scan finds -/

/-- An image as a scan of `catalog` stamps it: of the catalog's owner, with the
id of the item it came from, and tagged public exactly when the catalog is
published. -/
structure Stamped (catalog : Catalog) (img : Image) : Prop where
  owner : img.ownerId = catalog.owner
  item : ∃ itemId, img.tag? Tag.catalogItemId = some itemId
  published : img.tag? Tag.published = if catalog.published then some "true" else none

theorem scanCatalog_stamped (catalog : Catalog) (filter : Option ReadyFilter) :
    Guards (fun _ => True) (fun found => ∀ img ∈ found, Stamped catalog img) (cn.scanCatalog catalog filter) := by
  unfold scanCatalog
  refine Guards.bind Guards.triv fun ids _ => ?_
  cases ids with
  | none => exact Guards.pure fun _ h => nomatch h
  | some ids =>
    refine Guards.bind (Guards.forIn _ (I := fun found : Array Image => ∀ img ∈ found.toList, Stamped catalog img)
      (by simp) fun itemId found hfound => ?_) fun found h => Guards.pure h
    refine Guards.bind (loadTemplate_loadedFor cn _ _ _) fun r hr => ?_
    cases r with
    | none => exact Guards.pure hfound
    | some img =>
      obtain ⟨-, hpub⟩ := hr img rfl
      -- the stamp: the owner set, the item id tagged, the public tag kept
      have hstamp : Stamped catalog ({ img with ownerId := catalog.owner }.setTag Tag.catalogItemId itemId) :=
        ⟨by simp, ⟨itemId, by rw [Image.tag?_setTag, if_pos rfl]⟩,
          by rw [Image.tag?_setTag_of_ne _ _ _ (by decide)]; exact hpub⟩
      dsimp only
      split
      · exact Guards.pure hfound
      · exact Guards.pure (forall_mem_push hfound hstamp)

/-- The catalog list cached for a visibility, if any, holds catalogs of that
visibility only. -/
def CatalogsOf (published : Bool) (w : World) : Prop :=
  ∀ e cs, w.entry (catalogCache published) cn.scope.key = some e → e.value = .catalogs cs →
    ∀ c ∈ cs, c.published = published

theorem CatalogsOf.of_browsed {T : String → Prop} {published : Bool} (hT : ¬ T (catalogCache published))
    {w w' : World} (h : (WorldOrder.browsed T).rel w w') (hw : CatalogsOf cn published w) :
    CatalogsOf cn published w' := by
  intro e cs he
  rw [h.2.2.2 _ hT] at he
  exact hw e cs he

/-- A read that writes no cache keeps the cached catalog lists as they are. -/
theorem CatalogsOf.of_reads {published : Bool} {w w' : World}
    (h : (WorldOrder.browsed fun _ => False).rel w w') (hw : CatalogsOf cn published w) :
    CatalogsOf cn published w' :=
  CatalogsOf.of_browsed cn id h hw

theorem catalogAt_published (published : Bool) (href : String) :
    Guards (fun _ => True) (fun r => ∀ c, r = some c → c.published = published) (cn.catalogAt published href) := by
  unfold catalogAt
  refine Guards.bind Guards.triv fun found _ => ?_
  cases found with
  | none => exact Guards.pure fun _ h => nomatch h
  | some xml =>
    refine Guards.bind (Guards.orFail _) fun root _ => ?_
    refine Guards.bind (Guards.forIn _ (I := fun r => ∀ c, r.1 = some (some c) → c.published = published)
      (fun _ h => nomatch h) fun node st hst => ?_) fun r hr => ?_
    · -- a catalog element of the visibility asked for ends the search with it
      split
      · exact Guards.pure fun _ h => nomatch h
      refine Guards.bind Guards.triv fun parts _ => ?_
      dsimp only
      split
      · exact Guards.pure fun c h => by cases h; rfl
      · exact Guards.pure fun _ h => nomatch h
    · rcases r with ⟨_ | found, u⟩
      · exact Guards.pure fun _ h => nomatch h
      · exact Guards.pure fun c hc => hr c (by rw [hc])

theorem cacheGet_catalogsOf (published : Bool) :
    Guards (CatalogsOf cn published) (fun r => ∀ cs, r = some (.catalogs cs) → ∀ c ∈ cs, c.published = published)
      (cacheGet (catalogCache published) cn.catalogTtl cn.scope.key) := by
  intro w hw
  obtain ⟨w', hrun, hentry, -⟩ := cacheGet_run (catalogCache published) cn.scope.key cn.catalogTtl w
  rw [hrun]
  refine ⟨fun e cs he => ?_, fun r hr cs hcs => ?_⟩
  · rw [hentry, if_pos ⟨rfl, rfl⟩] at he
    exact hw e cs (Option.eq_some_of_filter_eq_some he)
  · cases hr
    obtain ⟨e, he, hv⟩ := Option.map_eq_some_iff.mp hcs
    exact hw e cs (Option.eq_some_of_filter_eq_some he) hv

theorem cachePut_catalogsOf {published : Bool} {cs : List Catalog} (hcs : ∀ c ∈ cs, c.published = published) :
    Guards (CatalogsOf cn published) (fun _ => True)
      (cachePut (catalogCache published) cn.catalogTtl cn.scope.key (.catalogs cs)) := by
  intro w hw
  obtain ⟨w', hrun, hentry, -⟩ := cachePut_run (catalogCache published) cn.scope.key cn.catalogTtl w (.catalogs cs)
  rw [hrun]
  refine ⟨fun e cs' he hv => ?_, fun _ _ => trivial⟩
  rw [hentry, if_pos ⟨rfl, rfl⟩] at he
  cases he
  cases hv
  exact hcs

/-- The catalogs of a visibility are of that visibility, whether read from the
cache or afresh, and the cache is left holding catalogs of that visibility. -/
theorem catalogs_of (published : Bool) :
    Guards (CatalogsOf cn published) (fun cs => ∀ c ∈ cs, c.published = published) (cn.catalogs published) := by
  unfold catalogs
  refine Guards.bind (cacheGet_catalogsOf cn published) fun found hfound => ?_
  split
  · exact Guards.pure (hfound _ rfl)
  -- a listing read afresh is stored
  have hstore : ∀ found : Array Catalog, (∀ c ∈ found.toList, c.published = published) →
      Guards (CatalogsOf cn published) (fun cs => ∀ c ∈ cs, c.published = published) (do
        cachePut (catalogCache published) cn.catalogTtl cn.scope.key (.catalogs found.toList)
        pure found.toList : Session (List Catalog)) := fun found h =>
    Guards.bind (cachePut_catalogsOf cn h) fun _ _ => Guards.pure h
  refine Guards.bind (Guards.frame Guards.triv (Client.get_browsed _ _ _) fun _ _ => CatalogsOf.of_reads cn)
    fun org _ => ?_
  dsimp only
  cases org with
  | none => exact hstore #[] (by simp)
  | some xml =>
    refine Guards.bind (Guards.orFail _) fun root _ => ?_
    refine Guards.bind (Guards.forIn _ (I := fun found : Array Catalog => ∀ c ∈ found.toList, c.published = published)
      (by simp) fun link found hfound => ?_) fun found h => hstore found h
    split
    · exact Guards.pure hfound
    split
    · exact Guards.pure hfound
    · refine Guards.bind (Guards.frame (catalogAt_published cn _ _) (catalogAt_browsed cn _ _)
        fun _ _ => CatalogsOf.of_reads cn) fun c hc => ?_
      cases c with
      | none => exact Guards.pure hfound
      | some c => exact Guards.pure (forall_mem_push hfound (hc c rfl))

/-- Every image of a scan of the private catalogs is stamped by a private
catalog: it carries the id of its item and no public tag. -/
theorem scanPrivate_stamped :
    Guards (CatalogsOf cn false)
      (fun found => ∀ img ∈ found, ∃ catalog : Catalog, catalog.published = false ∧ Stamped catalog img)
      cn.scanPrivate := by
  unfold scanPrivate
  refine Guards.bind (catalogs_of cn false) fun cs hcs => ?_
  refine Guards.bind (Guards.forIn_mem cs (I := fun found : List Image =>
    ∀ img ∈ found, ∃ catalog : Catalog, catalog.published = false ∧ Stamped catalog img)
    (by simp) fun catalog hc found hfound => ?_) fun found h => Guards.pure h
  refine Guards.bind (Guards.frame (scanCatalog_stamped cn catalog none) (scanCatalog_browsed cn catalog none)
    fun _ _ => CatalogsOf.of_reads cn) fun part hpart => ?_
  refine Guards.pure fun img himg => ?_
  rcases List.mem_append.mp himg with himg | himg
  · exact hfound img himg
  · exact ⟨catalog, hcs catalog hc, hpart img himg⟩

/-! ## The cached image list -/

/-- A listing that finds a live image list answers it, filtered, and changes
no route, clock, call or cache entry: it sends no request. -/
theorem images_hit (filter : Option ReadyFilter) {w : World} {e : Entry} {all : List Image}
    (hentry : w.entry imageListCache cn.scope.key = some e) (hvalue : e.value = .images all)
    (hlive : e.live w.clock cn.imageListTtl) :
    ((cn.images filter).run.run w).1 = .ok (all.filter (passes filter)) ∧
      (WorldOrder.cachesOnly fun _ => False).rel w ((cn.images filter).run.run w).2 := by
  obtain ⟨w1, hrun, hentries, -⟩ := cacheGet_run imageListCache cn.scope.key cn.imageListTtl w
  have hstays := cacheGet_cachesOnly (T := (· = imageListCache)) imageListCache cn.scope.key cn.imageListTtl rfl w
  rw [hrun] at hstays
  have hkept : (w.entry imageListCache cn.scope.key).filter (·.live w.clock cn.imageListTtl) = some e := by
    rw [hentry, Option.filter_some, if_pos hlive]
  have himages : (cn.images filter).run.run w = (.ok (all.filter (passes filter)), w1) := by
    unfold images
    rw [run_bind, hrun, hkept, Option.map_some, hvalue]
    rfl
  rw [himages]
  refine ⟨rfl, hstays.1, hstays.2.1, hstays.2.2.1, fun n _ k => ?_⟩
  rw [hentries]
  split
  · next h =>
    obtain ⟨rfl, rfl⟩ := h
    rw [hkept, hentry]
  · rfl

/-- A listing that finds no live image list takes the refresh mutex and scans
the private catalogs once, from a world that differs from the one it started
in only in the image lists and their mutexes. It answers the scan, filtered,
and stores the unfiltered scan, stamped with the clock of the end of the
scan; a failed scan ends it with the scan's fault. -/
theorem images_miss (filter : Option ReadyFilter) {w : World}
    (hmiss : (w.entry imageListCache cn.scope.key).filter (·.live w.clock cn.imageListTtl) = none) :
    ∃ w1, (WorldOrder.cachesOnly (· ∈ [imageListCache, imageListLockCache])).rel w w1 ∧
      ∀ r w2, cn.scanPrivate.run.run w1 = (r, w2) →
        ∃ w3, (cn.images filter).run.run w = (r.map (·.filter (passes filter)), w3) ∧
          (WorldOrder.cachesOnly (· = imageListCache)).rel w2 w3 ∧
          ∀ all, r = .ok all → w3.entry imageListCache cn.scope.key = some ⟨.images all, w2.clock⟩ := by
  obtain ⟨wa, hruna, hentriesa, -⟩ := cacheGet_run imageListCache cn.scope.key cn.imageListTtl w
  obtain ⟨wb, hrunb, hentriesb, -⟩ :=
    cacheGetOrCreate_run imageListLockCache cn.scope.key permanentTtl wa .refreshLock
  obtain ⟨wc, hrunc, -, -⟩ := cacheGet_run imageListCache cn.scope.key cn.imageListTtl wb
  -- taking the mutex leaves the image list as the first read left it: gone
  have hgone : wb.entry imageListCache cn.scope.key = none := by
    rw [hentriesb, if_neg fun h => absurd h.1 (by decide), hentriesa, if_pos ⟨rfl, rfl⟩, hmiss]
  -- the two reads and the mutex touch only the image lists and their mutexes
  have hlist : (WorldOrder.cachesOnly (· ∈ [imageListCache, imageListLockCache])).rel w wc := by
    have ha := cacheGet_cachesOnly (T := (· ∈ [imageListCache, imageListLockCache]))
      imageListCache cn.scope.key cn.imageListTtl (by simp) w
    have hb := cacheGetOrCreate_cachesOnly (T := (· ∈ [imageListCache, imageListLockCache]))
      imageListLockCache cn.scope.key permanentTtl (by simp) .refreshLock wa
    have hc := cacheGet_cachesOnly (T := (· ∈ [imageListCache, imageListLockCache]))
      imageListCache cn.scope.key cn.imageListTtl (by simp) wb
    rw [hruna] at ha
    rw [hrunb] at hb
    rw [hrunc] at hc
    exact (WorldOrder.cachesOnly _).trans ((WorldOrder.cachesOnly _).trans ha hb) hc
  refine ⟨wc, hlist, fun r w2 hscan => ?_⟩
  unfold images
  rw [run_bind, hruna, hmiss, Option.map_none]
  dsimp only
  rw [run_bind, hrunb]
  dsimp only
  rw [run_bind, hrunc, hgone, Option.filter_none, Option.map_none]
  dsimp only
  rw [run_bind, hscan]
  cases r with
  | error e => exact ⟨w2, rfl, (WorldOrder.cachesOnly _).refl w2, fun _ h => nomatch h⟩
  | ok all =>
    -- the unfiltered scan is stored
    obtain ⟨w3, hput, hentries3, -⟩ := cachePut_run imageListCache cn.scope.key cn.imageListTtl w2 (.images all)
    have hstays := cachePut_cachesOnly (T := (· = imageListCache)) imageListCache cn.scope.key
      cn.imageListTtl rfl (.images all) w2
    rw [hput] at hstays
    dsimp only
    rw [run_bind, hput]
    refine ⟨w3, rfl, hstays, fun all' hall => ?_⟩
    cases hall
    rw [hentries3, if_pos ⟨rfl, rfl⟩]

end Connection

/-- A session of listings: each step lets its seconds pass on the clock, then
lists the images through its connection and filter. -/
def listingSession : List (Connection × Int × Option ReadyFilter) → Session (List (List Image))
  | [] => pure []
  | (cn, seconds, filter) :: rest => do
    sleep seconds
    let found ← cn.images filter
    let more ← listingSession rest
    return found :: more

/-- A session of listings through connections of one scope and one image-list
lifetime, all within that lifetime of the moment the list was stored, answers
every filter from the stored list: it sends no request and changes no route
and no cache entry, and only its waits move the clock. -/
theorem listingSession_cached {key : String} {ttl t0 : Int} {all : List Image}
    (steps : List (Connection × Int × Option ReadyFilter)) {w : World}
    (hentry : w.entry imageListCache key = some ⟨.images all, t0⟩)
    (hsteps : ∀ st ∈ steps, st.1.scope.key = key ∧ st.1.imageListTtl = ttl ∧ 0 ≤ st.2.1)
    (hwithin : w.clock - t0 + (steps.map (·.2.1)).sum ≤ ttl) :
    ((listingSession steps).run.run w).1 = .ok (steps.map fun st => all.filter (passes st.2.2)) ∧
      ((listingSession steps).run.run w).2.calls = w.calls ∧
      ((listingSession steps).run.run w).2.routes = w.routes ∧
      ((listingSession steps).run.run w).2.clock = w.clock + (steps.map (·.2.1)).sum ∧
      ∀ name k, ((listingSession steps).run.run w).2.entry name k = w.entry name k := by
  induction steps generalizing w with
  | nil =>
    refine ⟨rfl, rfl, rfl, ?_, fun _ _ => rfl⟩
    rw [List.map_nil, List.sum_nil, Int.add_zero]
    rfl
  | cons st rest ih =>
    obtain ⟨cn, seconds, filter⟩ := st
    obtain ⟨hkey, httl, hseconds⟩ : cn.scope.key = key ∧ cn.imageListTtl = ttl ∧ 0 ≤ seconds :=
      hsteps _ List.mem_cons_self
    have hrest : 0 ≤ (rest.map (·.2.1)).sum :=
      List.sum_nonneg fun x hx => by
        obtain ⟨st, hst, rfl⟩ := List.mem_map.mp hx
        exact (hsteps st (List.mem_cons_of_mem _ hst)).2.2
    simp only [List.map_cons, List.sum_cons] at hwithin
    -- the wait moves the clock and nothing else; the listing then finds the list live
    set w1 : World := { w with clock := w.clock + seconds } with hw1
    have hsleep : (sleep seconds).run.run w = (.ok (), w1) := rfl
    have hentry1 : w1.entry imageListCache cn.scope.key = some ⟨.images all, t0⟩ := by
      rw [hkey]
      exact hentry
    have hlive : Entry.live w1.clock cn.imageListTtl ⟨.images all, t0⟩ := by
      simp only [Entry.live, decide_eq_true_eq, hw1, httl]
      omega
    obtain ⟨hfound, hstays⟩ := cn.images_hit filter hentry1 rfl hlive
    rcases hrun : (cn.images filter).run.run w1 with ⟨r, w2⟩
    rw [hrun] at hfound hstays
    dsimp only at hfound hstays
    subst hfound
    obtain ⟨hroutes, hclock, hcalls, hentries⟩ := hstays
    have hentry2 : w2.entry imageListCache key = some ⟨.images all, t0⟩ := by
      rw [hentries _ id]
      exact hentry
    obtain ⟨hmore, hcalls', hroutes', hclock', hentries'⟩ := ih hentry2
      (fun st hst => hsteps st (List.mem_cons_of_mem _ hst)) (by rw [hclock]; simp only [hw1]; omega)
    unfold listingSession
    rw [run_bind, hsleep]
    dsimp only
    rw [run_bind, hrun]
    dsimp only
    rw [run_bind]
    rcases hsession : (listingSession rest).run.run w2 with ⟨rs, w3⟩
    rw [hsession] at hmore hcalls' hroutes' hclock' hentries'
    dsimp only at hmore hcalls' hroutes' hclock' hentries'
    subst hmore
    dsimp only
    rw [run_pure]
    refine ⟨rfl, by rw [hcalls', hcalls], by rw [hroutes', hroutes], ?_, fun name k => ?_⟩
    · rw [hclock', hclock]
      simp only [hw1, List.map_cons, List.sum_cons]
      omega
    · rw [hentries' name k, hentries name id k]
      rfl

/-- A session of listings whose first listing finds no live image list, and
whose later listings, through connections of the same scope and lifetime, come
within that lifetime of the first: the first scans the private catalogs once,
and every listing of the session answers the one scan through its own filter.
The session sends no request but the scan's, and the cache is left holding the
unfiltered scan, stamped with the time of the first listing. Every image of the
scan carries the id of its catalog item and no public tag. A public search
through a filter is the unfiltered search, filtered, from every world. -/
theorem images_listed_from_one_scan (cn : Connection) (filter : Option ReadyFilter)
    (later : List (Connection × Int × Option ReadyFilter)) {w : World}
    (hmiss : (w.entry imageListCache cn.scope.key).filter (·.live w.clock cn.imageListTtl) = none)
    (hcatalogs : cn.CatalogsOf false w)
    (hlater : ∀ st ∈ later, st.1.scope.key = cn.scope.key ∧ st.1.imageListTtl = cn.imageListTtl ∧ 0 ≤ st.2.1)
    (hwithin : (later.map (·.2.1)).sum ≤ cn.imageListTtl) :
    (∃ w1, (WorldOrder.cachesOnly (· ∈ [imageListCache, imageListLockCache])).rel w w1 ∧
      ∀ r w2, cn.scanPrivate.run.run w1 = (r, w2) →
        ∃ w3, (listingSession ((cn, 0, filter) :: later)).run.run w =
            (r.map fun all => ((cn, 0, filter) :: later).map fun st => all.filter (passes st.2.2), w3) ∧
          w3.calls = w2.calls ∧
          ∀ all, r = .ok all →
            (∀ img ∈ all, img.tag? Tag.published = none ∧ ∃ itemId, img.tag? Tag.catalogItemId = some itemId) ∧
            w3.entry imageListCache cn.scope.key = some ⟨.images all, w.clock⟩) ∧
    ∀ filter' w', (cn.publicImages filter').run.run w' =
      (((cn.publicImages none).run.run w').1.map (·.filter (passes filter')), ((cn.publicImages none).run.run w').2) := by
  obtain ⟨w1, hw1, hscan⟩ := cn.images_miss filter hmiss
  refine ⟨⟨w1, hw1, fun r w2 hrun => ?_⟩, cn.publicImages_filtered⟩
  obtain ⟨w3, himages, hstays3, hentry3⟩ := hscan r w2 hrun
  -- the scan reads the platform: the clock stands still, and the catalogs read are private
  have hbrowse := cn.scanPrivate_browsed (T := (· = catalogCache false)) rfl w1
  have hguard := cn.scanPrivate_stamped w1
    (Connection.CatalogsOf.of_browsed cn (T := (· ∈ [imageListCache, imageListLockCache])) (by decide)
      (WorldOrder.browsed_of_cachesOnly hw1) hcatalogs)
  rw [hrun] at hbrowse hguard
  have hclock : w2.clock = w.clock := hbrowse.1.trans hw1.2.1
  have hwait : (sleep 0).run.run w = (.ok (), w) := by
    show (Except.ok (), { w with clock := w.clock + 0 }) = (Except.ok (), w)
    rw [Int.add_zero]
  unfold listingSession
  rw [run_bind, hwait]
  dsimp only
  rw [run_bind, himages]
  cases r with
  | error e => exact ⟨w3, rfl, hstays3.2.2.1, fun _ h => nomatch h⟩
  | ok all =>
    -- the later listings find the stored scan live
    obtain ⟨hmore, hcalls, -, -, hentries⟩ := listingSession_cached later (hentry3 all rfl) hlater
      (by rw [hstays3.2.1, hclock]; omega)
    simp only [Except.map]
    rw [run_bind]
    rcases hsession : (listingSession later).run.run w3 with ⟨rs, w4⟩
    rw [hsession] at hmore hcalls hentries
    dsimp only at hmore hcalls hentries
    subst hmore
    dsimp only
    rw [run_pure]
    refine ⟨w4, rfl, by rw [hcalls, hstays3.2.2.1], fun all' hall => ?_⟩
    cases hall
    refine ⟨fun img himg => ?_, by rw [hentries, hentry3 all rfl, hclock]⟩
    obtain ⟨catalog, hprivate, hstamped⟩ := hguard.2 all rfl img himg
    refine ⟨?_, hstamped.item⟩
    rw [hstamped.published, hprivate]
    rfl

/-- A connection whose image lists live six minutes. -/
def sixMinuteLists : Connection := { (default : Connection) with imageListTtl := 360 }

/-- Ten minutes in: an image list stored at the start, now stale, and a list of
catalogs read at nine minutes. -/
def staleListWorld : World :=
  { clock := 600,
    caches := [(imageListCache, ⟨360, [(":", ⟨.images [], 0⟩)]⟩),
      (catalogCache false, ⟨1800, [(":", ⟨.catalogs [⟨"c1", some "Standard Catalog", false, "acme"⟩], 540⟩)]⟩)] }

/-- The filter that keeps Ubuntu images. -/
def ubuntuImages : ReadyFilter := { criteria := { platform := some .ubuntu }, nameRegex := none }

/-- With the stored list stale, a filtered listing and two later ones, one
through a connection that keeps catalogs longer and unfiltered, answer the one
scan, each filtered as it asks, send only its requests and store the list at
the current time; a filtered listing of public images is the unfiltered one
filtered. -/
theorem images_listed_from_one_scan_stale :
    let later := [({ sixMinuteLists with catalogTtl := 600 }, 120, none), (sixMinuteLists, 200, some ubuntuImages)]
    ((staleListWorld.entry imageListCache sixMinuteLists.scope.key).filter
        (·.live staleListWorld.clock sixMinuteLists.imageListTtl) = none ∧
      sixMinuteLists.CatalogsOf false staleListWorld ∧
      (∀ st ∈ later, st.1.scope.key = sixMinuteLists.scope.key ∧
        st.1.imageListTtl = sixMinuteLists.imageListTtl ∧ 0 ≤ st.2.1) ∧
      (later.map (·.2.1)).sum ≤ sixMinuteLists.imageListTtl) ∧
    (∃ w1, (WorldOrder.cachesOnly (· ∈ [imageListCache, imageListLockCache])).rel staleListWorld w1 ∧
      ∀ r w2, sixMinuteLists.scanPrivate.run.run w1 = (r, w2) →
        ∃ w3, (listingSession ((sixMinuteLists, 0, some ubuntuImages) :: later)).run.run staleListWorld =
            (r.map fun all => [all.filter (passes (some ubuntuImages)), all, all.filter (passes (some ubuntuImages))],
              w3) ∧
          w3.calls = w2.calls ∧
          ∀ all, r = .ok all → w3.entry imageListCache sixMinuteLists.scope.key = some ⟨.images all, 600⟩) ∧
    (sixMinuteLists.publicImages (some ubuntuImages)).run.run staleListWorld =
      (((sixMinuteLists.publicImages none).run.run staleListWorld).1.map (·.filter (passes (some ubuntuImages))),
        ((sixMinuteLists.publicImages none).run.run staleListWorld).2) := by
  intro later
  have hmiss : (staleListWorld.entry imageListCache sixMinuteLists.scope.key).filter
      (·.live staleListWorld.clock sixMinuteLists.imageListTtl) = none := rfl
  have hcatalogs : sixMinuteLists.CatalogsOf false staleListWorld := by
    intro e cs he hv c hc
    have hkey : sixMinuteLists.scope.key = ":" := rfl
    rw [hkey] at he
    have he' : e = ⟨.catalogs [⟨"c1", some "Standard Catalog", false, "acme"⟩], 540⟩ := by
      simpa [World.entry, staleListWorld, catalogCache, imageListCache] using he.symm
    subst he'
    cases hv
    simp only [List.mem_singleton] at hc
    subst hc
    rfl
  have hlater : ∀ st ∈ later, st.1.scope.key = sixMinuteLists.scope.key ∧
      st.1.imageListTtl = sixMinuteLists.imageListTtl ∧ 0 ≤ st.2.1 := by decide
  have hwithin : (later.map (·.2.1)).sum ≤ sixMinuteLists.imageListTtl := by decide
  have h := images_listed_from_one_scan sixMinuteLists (some ubuntuImages) later hmiss hcatalogs hlater hwithin
  obtain ⟨w1, hw1, hscan⟩ := h.1
  refine ⟨⟨hmiss, hcatalogs, hlater, hwithin⟩, ⟨w1, hw1, fun r w2 hrun => ?_⟩, h.2 _ _⟩
  obtain ⟨w3, hsession, hcalls, hentry⟩ := hscan r w2 hrun
  -- with no filter a listing answers the whole scan
  have hall : ∀ all : List Image, all.filter (passes none) = all := fun all => List.filter_true all
  refine ⟨w3, ?_, hcalls, fun all hr => (hentry all hr).2⟩
  rw [hsession]
  cases r <;> simp [later, hall]

end ImageCatalog
