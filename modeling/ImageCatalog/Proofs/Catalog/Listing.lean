import ImageCatalog.Proofs.Remote.Served
import ImageCatalog.Proofs.Template.Sections

/-!
# Listing the catalogs of an organization

On a platform that serves fixed documents, what `Connection.catalogs` lists
is a function of those documents (`Connection.catalogsIn`): the organization
document's links down to catalogs, in document order at any depth, each read
as `Connection.catalogIn` reads the catalog it names. A catalog document gives
a catalog for its first `Catalog` element with children whose published flag is
the one asked for; the flag is the last `IsPublished` child's word, and the
owner is the name of the organization that the last link up to one names.

Results:

* `CatalogPart.handlerFor_iff`: a child of a catalog element is read as the
  part whose name it has.
* `catalogPartStep`, `foldl_catalogPartStep_flag`,
  `foldl_catalogPartStep_owner`: the reading of a catalog element's parts, and
  what it gives.
* `Connection.orgName_served`, `Connection.catalogAt_served`: the owner's name
  and the catalog that the reads yield, as the documents give them.
* `Connection.catalogs_served`: on a cache miss, the listing is
  `catalogsIn`, and it is stored for the scope at the time of the listing.
-/

namespace ImageCatalog

open ImageCatalog.Xml ImageCatalog.Remote

namespace Xml.Element

/-- Whether a catalog element says it is published: the trimmed text of its
last `IsPublished` child is `true`, in any letter case. -/
def publishedFlag (node : Element) : Bool :=
  ((node.childrenNamed "IsPublished").getLast?.map fun c =>
    Text.lower ((textOf (some c)).getD "") == "true").getD false

/-- The reference of the organization that owns a catalog element: that of its
last link up to an organization that has a reference. -/
def ownerRef (node : Element) : Option String :=
  ((node.childrenNamed "Link").filterMap fun c => if c.linksTo "up" MediaType.org then c.target else none).getLast?

/-- The references of the catalogs that an organization document links down
to, at any depth, in document order. -/
def catalogRefs (org : Element) : List String :=
  (org.findAll "Link").filterMap fun link => if link.linksTo "down" MediaType.catalog then link.target else none

end Xml.Element

namespace CatalogPart

/-- The local name that a catalog element's children of this kind are read
under. -/
def key : CatalogPart → String
  | .published => "IsPublished"
  | .link => "Link"

theorem lower_key_inj {p q : CatalogPart} (h : Text.lower p.key = Text.lower q.key) : p = q := by
  cases p <;> cases q <;> simp [key, Text.lower, ← String.toList_inj, String.toList_map] at h ⊢

/-- A child of a catalog element is read as the part whose name it has. -/
theorem handlerFor_iff (c : Element) (p : CatalogPart) :
    Element.handlerFor [("IsPublished", CatalogPart.published), ("Link", .link)] c = some p ↔ c.named p.key := by
  have hlist : [("IsPublished", CatalogPart.published), ("Link", .link)] =
      [CatalogPart.published, .link].map fun q => (q.key, q) := rfl
  rw [hlist]
  exact Element.handlerFor_keyed_iff key (fun _ _ _ _ h => lower_key_inj h) c (by cases p <;> simp)

end CatalogPart

/-- What one part of a catalog element tells of it, with organizations named by
`ownerOf`: an `IsPublished` child whether it is published, and a link up to an
organization with a reference who owns it. -/
def catalogPartStep (ownerOf : String → String) (s : Bool × String) : CatalogPart × Element → Bool × String
  | (.published, c) => (Text.lower ((textOf (some c)).getD "") == "true", s.2)
  | (.link, c) => if c.linksTo "up" MediaType.org then (c.target.map fun h => (s.1, ownerOf h)).getD s else s

section Parts

variable (ownerOf : String → String) (node : Element) (s : Bool × String)

/-- Reading a catalog element's parts, the last `IsPublished` child decides
whether it is published. -/
theorem foldl_catalogPartStep_flag (owner : String) :
    ((node.dispatch [("IsPublished", CatalogPart.published), ("Link", .link)]).foldl (catalogPartStep ownerOf)
      (false, owner)).1 = node.publishedFlag := by
  rw [Element.foldl_dispatch_field (CatalogPart.handlerFor_iff · .published) Prod.fst
    (g := fun b c => ((some c).map fun c => Text.lower ((textOf (some c)).getD "") == "true").getD b), foldl_last,
    List.filterMap_some]
  · rfl
  · intro x c
    rfl
  · intro x p c hp
    cases p with
    | published => exact absurd rfl hp
    | link =>
      dsimp only [catalogPartStep]
      split
      · cases c.target <;> rfl
      · rfl

/-- Reading a catalog element's parts, its owner reference decides who owns it. -/
theorem foldl_catalogPartStep_owner :
    ((node.dispatch [("IsPublished", CatalogPart.published), ("Link", .link)]).foldl (catalogPartStep ownerOf) s).2 =
      (node.ownerRef.map ownerOf).getD s.2 := by
  rw [Element.foldl_dispatch_field (CatalogPart.handlerFor_iff · .link) Prod.snd
    (g := fun o c => ((if c.linksTo "up" MediaType.org then c.target else none).map ownerOf).getD o), foldl_last]
  · rfl
  · intro x c
    dsimp only [catalogPartStep]
    split
    · cases c.target <;> rfl
    · rfl
  · intro x p c hp
    cases p with
    | link => exact absurd rfl hp
    | published => rfl

end Parts

/-- Pushing, member after member, what `k` gives of it gathers what `k` gives,
in order. -/
theorem foldl_push_toList {α β : Type} (k : α → Option β) (l : List α) (acc : Array β) :
    (l.foldl (fun acc x => ((k x).map acc.push).getD acc) acc).toList = acc.toList ++ l.filterMap k := by
  induction l generalizing acc with
  | nil => simp
  | cons x l ih =>
    rw [List.foldl_cons, ih, List.filterMap_cons]
    cases k x <;> simp

namespace Connection

variable (cn : Connection) (docs : String → Option Element)

/-- The name of the organization at an address, in the documents `docs`: the
name of the first `Org` element of its document. -/
def orgNameIn (href : String) : Option String :=
  (docs (cn.client.toUrl "org" (cn.client.toId href))).bind fun root => (root.findFirst "Org").bind (·.attrValue "name")

/-- The owner that an organization reference names: its organization's name,
or `publicOwner` when it has none or an empty one. -/
def ownerNamed (href : String) : String :=
  ((cn.orgNameIn docs href).filter (!·.isEmpty)).getD publicOwner

/-- The catalog at an address with a visibility, in the documents `docs`: the
first `Catalog` element of its document, in document order, that has children
and whose published flag is the one asked for. -/
def catalogIn (published : Bool) (href : String) : Option Catalog :=
  (docs (cn.client.toUrl "catalog" (cn.client.toId href))).bind fun root =>
    ((root.findAll "Catalog").find? fun node => !node.children.isEmpty && node.publishedFlag == published).map
      fun node =>
        { catalogId := cn.client.toId href
          name := node.attrValue "name"
          published := published
          owner := (node.ownerRef.map (cn.ownerNamed docs)).getD publicOwner }

/-- The catalogs of the organization with a visibility, in the documents
`docs`: those at the references its document links down to, in order, and none
when it has no document. -/
def catalogsIn (published : Bool) : List Catalog :=
  ((docs (cn.client.toUrl "org" cn.scope.region)).map fun org =>
    org.catalogRefs.filterMap (cn.catalogIn docs published)).getD []

/-! ## The reads of a listing -/

/-- The worlds that a listing passes through on the routes `rs`, from the time
`t`: the routes and the clock stay as they are. -/
def OnRoutes (rs : Routes) (t : Int) (w : World) : Prop := w.routes = rs ∧ w.clock = t

/-- Storing a list of catalogs and answering it ends a listing: the list is
stored for the scope at the time of the listing, and the routes stay as they
are. -/
theorem store_catalogs {rs : Routes} (t : Int) (published : Bool) (l : List Catalog) :
    Ends (OnRoutes rs t)
      (do cachePut (catalogCache published) cn.catalogTtl cn.scope.key (.catalogs l); pure l : Session (List Catalog)) l
      fun w' => w'.routes = rs ∧ w'.entry (catalogCache published) cn.scope.key = some ⟨.catalogs l, t⟩ := by
  intro w hw
  obtain ⟨w', hrun, hentry, -⟩ := cachePut_run (catalogCache published) cn.scope.key cn.catalogTtl w (.catalogs l)
  have hstays := cachePut_cachesOnly (catalogCache published) cn.scope.key cn.catalogTtl
    (T := fun n => n = catalogCache published) rfl (.catalogs l) w
  rw [hrun] at hstays
  refine ⟨w', ?_, hstays.1.trans hw.1, ?_⟩
  · rw [run_bind, hrun]
    rfl
  · rw [hentry, if_pos ⟨rfl, rfl⟩, hw.2]

section Served

variable {cn docs} {rs : Routes} (hs : rs.Serves docs) (t : Int)
include hs

/-- A read of a resource yields nothing when the resource has no document. -/
theorem get_none {resource id : String} (hd : docs (cn.client.toUrl resource id) = none) :
    Yields (OnRoutes rs t) (cn.client.get resource id) none := by
  obtain ⟨body, hread, hbody⟩ :=
    cn.client.getUrl_serves hs (P := OnRoutes rs t) (fun _ h => h.1) (fun _ _ h => h) (cn.client.toUrl resource id)
  rw [hd, Option.map_none, Option.map_eq_none_iff] at hbody
  rw [← hbody]
  exact hread

/-- A read of a resource with a document yields a text that reads as it. -/
theorem get_some {resource id : String} {e : Element} (hd : docs (cn.client.toUrl resource id) = some e) :
    ∃ xml, Yields (OnRoutes rs t) (cn.client.get resource id) (some xml) ∧ parseDocument xml = .ok e := by
  obtain ⟨body, hread, hbody⟩ :=
    cn.client.getUrl_serves hs (P := OnRoutes rs t) (fun _ h => h.1) (fun _ _ h => h) (cn.client.toUrl resource id)
  rw [hd, Option.map_some] at hbody
  obtain ⟨xml, rfl, hparse⟩ := Option.map_eq_some_iff.mp hbody
  exact ⟨xml, hread, hparse⟩

/-- The name of an organization, read from the documents. -/
theorem orgName_served (href : String) : Yields (OnRoutes rs t) (cn.orgName href) (cn.orgNameIn docs href) := by
  unfold orgName orgNameIn
  cases hd : docs (cn.client.toUrl "org" (cn.client.toId href)) with
  | none => exact Yields.bind (get_none hs t hd) (Yields.pure none)
  | some root =>
    obtain ⟨xml, hread, hparse⟩ := get_some hs t hd
    refine Yields.bind hread ?_
    dsimp only
    rw [hparse]
    exact Yields.bind (Yields.orFail root) (Yields.pure _)

/-- The catalog at an address, read from the documents: the reading of every
catalog element before the one found, owners included, leaves the answer as
`catalogIn` gives it. -/
theorem catalogAt_served (published : Bool) (href : String) :
    Yields (OnRoutes rs t) (cn.catalogAt published href) (cn.catalogIn docs published href) := by
  unfold catalogAt catalogIn
  dsimp only
  cases hd : docs (cn.client.toUrl "catalog" (cn.client.toId href)) with
  | none => exact Yields.bind (get_none hs t hd) (Yields.pure none)
  | some root =>
    obtain ⟨xml, hread, hparse⟩ := get_some hs t hd
    refine Yields.bind hread ?_
    dsimp only
    rw [hparse]
    refine Yields.bind (Yields.orFail root) ?_
    refine Yields.bind (Yields.forIn_find? (fun node => !node.children.isEmpty && node.publishedFlag == published)
      (fun node => (some (some
        { catalogId := cn.client.toId href
          name := node.attrValue "name"
          published := published
          owner := (node.ownerRef.map (cn.ownerNamed docs)).getD publicOwner }), ())) (fun node => ?_) _) ?_
    · -- an element without children is passed over; the others are read, and
      -- the search stops at one of the visibility asked for
      by_cases hempty : node.children.isEmpty = true
      · rw [if_pos hempty, hempty]
        exact Yields.pure _
      rw [if_neg hempty, Bool.eq_false_iff.mpr hempty, Bool.not_false, Bool.true_and]
      refine Yields.bind (Yields.forIn_foldl (g := catalogPartStep (cn.ownerNamed docs))
        (fun x s => ?_) _ _) ?_
      · obtain ⟨part, c⟩ := x
        cases part with
        | published => exact Yields.pure _
        | link =>
          dsimp only [catalogPartStep]
          by_cases hup : c.linksTo "up" MediaType.org = true
          · rw [if_pos hup, if_pos hup]
            cases c.target with
            | none => exact Yields.pure _
            | some h => exact Yields.bind (orgName_served hs t h) (Yields.pure _)
          · rw [if_neg hup, if_neg hup]
            exact Yields.pure _
      · rw [foldl_catalogPartStep_flag, foldl_catalogPartStep_owner]
        by_cases hflag : (node.publishedFlag == published) = true
        · rw [if_pos hflag, if_pos hflag]
          exact Yields.pure _
        · rw [if_neg hflag, if_neg hflag]
          exact Yields.pure _
    · rw [Option.bind_some]
      cases (root.findAll "Catalog").find? fun node => !node.children.isEmpty && node.publishedFlag == published with
      | none => exact Yields.pure none
      | some node => exact Yields.pure _

/-- Listing the catalogs of a visibility when the cache holds no live list of
them for the scope, on a platform that serves documents: the list is the one
`catalogsIn` gives, and it is stored for the scope at the time of the call. -/
theorem catalogs_served (published : Bool) {w : World} (hw : w.routes = rs)
    (hmiss : ∀ e ∈ w.entry (catalogCache published) cn.scope.key, e.live w.clock cn.catalogTtl = true →
      ∀ cs, e.value ≠ .catalogs cs) :
    ∃ w', (cn.catalogs published).run.run w = (.ok (cn.catalogsIn docs published), w') ∧ w'.routes = rs ∧
      w'.entry (catalogCache published) cn.scope.key = some ⟨.catalogs (cn.catalogsIn docs published), w.clock⟩ := by
  obtain ⟨w1, hget, -, hclock1⟩ := cacheGet_run (catalogCache published) cn.scope.key cn.catalogTtl w
  have hstays := cacheGet_cachesOnly (catalogCache published) cn.scope.key cn.catalogTtl
    (T := fun n => n = catalogCache published) rfl w
  rw [hget] at hstays
  unfold catalogs
  dsimp only
  rw [run_bind, hget]
  dsimp only
  split
  · -- a live list in the cache is what the miss rules out
    rename_i cs hcached
    obtain ⟨e, he, hv⟩ := Option.map_eq_some_iff.mp hcached
    obtain ⟨he', hlive⟩ := Option.filter_eq_some_iff.mp he
    exact absurd hv (hmiss e he' hlive cs)
  refine (?_ : Ends (OnRoutes rs w.clock) _ (cn.catalogsIn docs published) fun w' => w'.routes = rs ∧
    w'.entry (catalogCache published) cn.scope.key = some ⟨.catalogs (cn.catalogsIn docs published), w.clock⟩)
    w1 ⟨hstays.1.trans hw, hclock1⟩
  cases hd : docs (cn.client.toUrl "org" cn.scope.region) with
  | none =>
    refine Yields.bind_ends (get_none hs w.clock hd) ?_
    have hnone : cn.catalogsIn docs published = [] := by rw [catalogsIn, hd]; rfl
    rw [hnone]
    exact store_catalogs cn w.clock published []
  | some org =>
    obtain ⟨xml, hread, hparse⟩ := get_some hs w.clock hd
    refine Yields.bind_ends hread ?_
    dsimp only
    rw [hparse]
    refine Yields.bind_ends (Yields.orFail org) ?_
    refine Yields.bind_ends (Yields.forIn_foldl (g := fun found link =>
      (((if link.linksTo "down" MediaType.catalog then link.target else none).bind
        (cn.catalogIn docs published)).map found.push).getD found) (fun link found => ?_) _ _) ?_
    · -- a link down to a catalog with a reference adds the catalog there, if any
      by_cases hdown : link.linksTo "down" MediaType.catalog = true
      · rw [if_neg (by simp [hdown]), if_pos hdown]
        cases link.target with
        | none => exact Yields.pure _
        | some h =>
          rw [Option.bind_some]
          refine Yields.bind (catalogAt_served hs w.clock published h) ?_
          cases cn.catalogIn docs published h <;> exact Yields.pure _
      · rw [if_pos (by simpa using hdown), if_neg hdown]
        exact Yields.pure _
    · have hlist : cn.catalogsIn docs published = ((org.findAll "Link").foldl (fun found link =>
          (((if link.linksTo "down" MediaType.catalog then link.target else none).bind
            (cn.catalogIn docs published)).map found.push).getD found) #[]).toList := by
        rw [foldl_push_toList, catalogsIn, hd, Option.map_some, Option.getD_some, Element.catalogRefs,
          List.filterMap_filterMap]
        rfl
      rw [hlist]
      exact store_catalogs cn w.clock published _

end Served

/-! ## An organization with a standard catalog -/

/-- The connection of the account `acme` in the organization `o1`. -/
def acmeConnection : Connection := { (default : Connection) with scope := { account := "acme", region := "o1" } }

/-- The organization `o1`, named `acme`, with a link down to the catalog `c1`. -/
def acmeOrgText : String :=
  "<Org name=\"acme\"><Link rel=\"down\" type=\"application/vnd.vmware.vcloud.catalog+xml\" href=\"/catalog/c1\"/></Org>"

def acmeOrg : Element :=
  .mk ⟨none, "Org"⟩ [(⟨none, "name"⟩, "acme")] none
    [.mk ⟨none, "Link"⟩ [(⟨none, "rel"⟩, "down"), (⟨none, "type"⟩, "application/vnd.vmware.vcloud.catalog+xml"),
      (⟨none, "href"⟩, "/catalog/c1")] none [] none] none

/-- The catalog `c1`: the standard catalog, not published, with a link up to
the organization `o1` and a section of items. -/
def acmeCatalogText : String :=
  "<Catalog name=\"Standard Catalog\"><IsPublished>false</IsPublished><Link rel=\"up\" type=\"application/vnd.vmware.vcloud.org+xml\" href=\"/org/o1\"/><CatalogItems/></Catalog>"

def acmeCatalog : Element :=
  .mk ⟨none, "Catalog"⟩ [(⟨none, "name"⟩, "Standard Catalog")] none
    [.mk ⟨none, "IsPublished"⟩ [] (some "false") [] none,
     .mk ⟨none, "Link"⟩ [(⟨none, "rel"⟩, "up"), (⟨none, "type"⟩, "application/vnd.vmware.vcloud.org+xml"),
      (⟨none, "href"⟩, "/org/o1")] none [] none,
     .mk ⟨none, "CatalogItems"⟩ [] none [] none] none

/-- The pages of the platform: the organization and its catalog, each at its
address. -/
def acmePages : List (String × String × Element) :=
  [("/org/o1", acmeOrgText, acmeOrg), ("/catalog/c1", acmeCatalogText, acmeCatalog)]

/-- The platform's other route: adding an item to the catalog answers the new
item. -/
def acmeRequests : Routes :=
  [("POST /catalog/c1/catalogItems",
    .fixed (.reply { status := 201, body := "<CatalogItem href=\"/catalogItem/i1\"/>" }))]

set_option maxRecDepth 20000 in
theorem acmePages_read : ∀ p ∈ acmePages, p.2.1 ≠ "" ∧ parseDocument p.2.1 = .ok p.2.2 := by
  simp only [acmePages, List.mem_cons, List.not_mem_nil, or_false, forall_eq_or_imp, forall_eq]
  refine ⟨⟨by simp [acmeOrgText], ?_⟩, ⟨by simp [acmeCatalogText], ?_⟩⟩
  · with_unfolding_all rfl
  · with_unfolding_all rfl

theorem acme_serves : (Routes.withPages acmePages acmeRequests).Serves (pageDocs acmePages) :=
  Routes.serves_withPages acmePages acmePages_read fun _ hkv url => by
    rw [List.mem_singleton.1 hkv]
    -- the post's key starts with another letter than a read's
    intro h
    have := congrArg (fun s => s.toList.head?) h
    simp at this

/-- On the platform of the organization `o1`, which serves it with a link down
to its standard catalog, the first listing of the private catalogs reads the
organization's document and stores and returns the catalogs that the
documents give. -/
theorem catalogs_served_acme :
    pageDocs acmePages (acmeConnection.client.toUrl "org" acmeConnection.scope.region) = some acmeOrg ∧
    ∃ w', (acmeConnection.catalogs false).run.run { routes := Routes.withPages acmePages acmeRequests } =
        (.ok (acmeConnection.catalogsIn (pageDocs acmePages) false), w') ∧
      w'.routes = Routes.withPages acmePages acmeRequests ∧
      w'.entry (catalogCache false) acmeConnection.scope.key =
        some ⟨.catalogs (acmeConnection.catalogsIn (pageDocs acmePages) false), 0⟩ :=
  ⟨by simp [pageDocs, acmePages, acmeConnection, Client.toUrl, show (default : Connection).client.baseUrl = "" from rfl],
    catalogs_served acme_serves false rfl
    fun e he => by simp [World.entry] at he⟩

end Connection

end ImageCatalog
