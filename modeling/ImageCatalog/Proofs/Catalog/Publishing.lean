import ImageCatalog.Proofs.Catalog.Listing
import ImageCatalog.Publish

/-!
# Publishing a template into a catalog

Publishing finds the catalog of the account to put an image's template into,
creating the standard catalog when the account owns none, and posts a catalog
item for the template there. On a platform that serves fixed documents, every
step but the two posts is a read, so what publishing sends and returns is
determined by the listing of private catalogs and the answers to the posts.

* `World.Sent w w' posts`: between two worlds the requests sent are the ones
  recorded, and of them the posts are `posts`, in order.
* `WorldOrder.polls`, `WorldOrder.keeps`: waiting for a task sends only GETs
  and changes no cache, and on a platform that serves documents it keeps the
  routes (`Client.waitFor_polls`, `Client.waitFor_keeps`).
* `Client.post_run`, `Client.post_bind_run`: a post records its request and
  takes the answer of its route; it goes on only with a reply below status 400.
* `Routes.Serves.answer`: answering a post keeps the documents served.
* `Connection.Creates`, `Connection.createCatalog_creates`: creating the
  standard catalog posts one request; it fails with every cache as it was, or
  succeeds with both listings of the scope dropped and the catalog named in the
  reply read back as `catalogIn` reads it.
* `Connection.AddsItem`, `Connection.publish_addsItem`: once the catalog is
  known, publishing posts one item to it, and a success tags the image with the
  id of the item that the reply names.
* `Connection.publish_served`: the whole of publishing on a platform that
  serves documents.
-/

namespace ImageCatalog.Remote

open ImageCatalog.Xml

/-! ## Posts sent -/

/-- The requests recorded between two worlds, as far as posts go: the later
world's calls are the earlier ones followed by new calls, whose posts are
`posts`, in order. -/
def World.Sent (w w' : World) (posts : List Call) : Prop :=
  ∃ new : List Call, w'.calls.toList = w.calls.toList ++ new ∧ new.filter (·.method == "POST") = posts

/-- The world once a post of `call` is answered: the routes its answer leaves,
and the call recorded. -/
def World.afterPost (w : World) (call : Call) : World :=
  { w with routes := (w.routes.answer ("POST " ++ call.url)).2, calls := w.calls.push call }

namespace World.Sent

theorem trans {w₁ w₂ w₃ : World} {p q : List Call} (h₁ : w₁.Sent w₂ p) (h₂ : w₂.Sent w₃ q) :
    w₁.Sent w₃ (p ++ q) := by
  obtain ⟨new₁, hcalls₁, hposts₁⟩ := h₁
  obtain ⟨new₂, hcalls₂, hposts₂⟩ := h₂
  exact ⟨new₁ ++ new₂, by rw [hcalls₂, hcalls₁, List.append_assoc], by rw [List.filter_append, hposts₁, hposts₂]⟩

/-- Reads send no post. -/
theorem of_gets {w w' : World}
    (h : ∃ gets : List Call, w'.calls.toList = w.calls.toList ++ gets ∧ ∀ c ∈ gets, c.method = "GET") :
    w.Sent w' [] := by
  obtain ⟨gets, hcalls, hget⟩ := h
  exact ⟨gets, hcalls, List.filter_eq_nil_iff.mpr fun c hc => by simp [hget c hc]⟩

/-- Answering a post sends it. -/
theorem afterPost (w : World) (call : Call) (h : call.method = "POST") : w.Sent (w.afterPost call) [call] :=
  ⟨[call], by simp [World.afterPost], by simp [h]⟩

theorem of_calls {w w' : World} (h : w'.calls = w.calls) : w.Sent w' [] :=
  of_gets ⟨[], by rw [h, List.append_nil], by simp⟩

end World.Sent

/-! ## Waiting for a task -/

namespace WorldOrder

/-- Reads that may wait: every request sent is a GET and no named cache
changes; the clock may move. -/
def polls : WorldOrder where
  rel w w' := (∃ gets : List Call, w'.calls.toList = w.calls.toList ++ gets ∧ ∀ c ∈ gets, c.method = "GET") ∧
    ∀ name key, w'.entry name key = w.entry name key
  refl _ := ⟨⟨[], by simp, by simp⟩, fun _ _ => rfl⟩
  trans := by
    rintro u v w ⟨⟨gets, hcalls, hget⟩, he⟩ ⟨⟨gets', hcalls', hget'⟩, he'⟩
    refine ⟨⟨gets ++ gets', by rw [hcalls', hcalls, List.append_assoc], fun c hc => ?_⟩,
      fun name key => (he' name key).trans (he name key)⟩
    rcases List.mem_append.mp hc with hc | hc
    · exact hget c hc
    · exact hget' c hc

/-- The routes `rs` stay as they are. -/
def keeps (rs : Routes) : WorldOrder where
  rel w w' := w.routes = rs → w'.routes = rs
  refl _ h := h
  trans h h' hw := h' (h hw)

theorem polls_of_browsed {w w' : World} (h : (browsed fun _ => False).rel w w') : polls.rel w w' :=
  ⟨h.2.2.1, fun name key => h.2.2.2 name id key⟩

end WorldOrder

theorem sleep_polls (seconds : Int) : Stays .polls (sleep seconds) :=
  Stays.modify fun _ => ⟨⟨[], by simp, by simp⟩, fun _ _ => rfl⟩

theorem sleep_keeps (rs : Routes) (seconds : Int) : Stays (.keeps rs) (sleep seconds) :=
  Stays.modify fun _ h => h

theorem run_orFail {α : Type} (x : Except Fault α) (w : World) : (orFail x).run.run w = (x, w) := by
  cases x <;> rfl

namespace Client

variable (c : Client)

/-- A read on routes that serve documents leaves the routes as they are. -/
theorem getUrl_keeps {rs : Routes} {docs : String → Option Element} (hs : rs.Serves docs) (url : String) :
    Stays (.keeps rs) (c.getUrl url) := by
  intro w hw
  obtain ⟨body, hread, -⟩ := c.getUrl_serves hs (P := fun w => w.routes = rs) (fun _ h => h) (fun _ _ h => h) url
  obtain ⟨w', hrun, hw'⟩ := hread w hw
  rw [hrun]
  exact hw'

theorem waitFor_polls (response : Option String) : Stays .polls (c.waitFor response) :=
  c.waitFor_stays sleep_polls
    (fun url => (c.getUrl_browsed (T := fun _ => False) url).mono fun _ _ => WorldOrder.polls_of_browsed) response

theorem waitFor_keeps {rs : Routes} {docs : String → Option Element} (hs : rs.Serves docs)
    (response : Option String) : Stays (.keeps rs) (c.waitFor response) :=
  c.waitFor_stays (sleep_keeps rs) (c.getUrl_keeps hs) response

/-! ## Posts -/

/-- The record of a post of `body` to `url`. -/
def postCall (url mediaType body : String) : Call :=
  { method := "POST", url := url, contentType := (some mediaType).filter (!·.isEmpty), body := some body,
    timeout := c.timeout, verify := c.verify }

/-- A request other than a delete takes the answer of its route and is recorded. -/
theorem run_exchange_of_ne (call : Call) (w : World) (h : call.method ≠ "DELETE") :
    (exchange call).run.run w = (.ok (w.routes.answer (call.method ++ " " ++ call.url)).1,
      { w with routes := (w.routes.answer (call.method ++ " " ++ call.url)).2, calls := w.calls.push call }) := by
  rw [run_exchange]
  dsimp only
  split
  · contradiction
  · rfl

/-- A post records its request and leaves the routes its answer leaves; it
returns the body of a reply below status 400, and fails otherwise. -/
theorem post_run (action url mediaType body : String) (w : World) :
    ((c.post action url mediaType body).run.run w).2 = w.afterPost (c.postCall url mediaType body) ∧
    ∀ reply, ((c.post action url mediaType body).run.run w).1 = .ok reply →
      ∃ r : Reply, (w.routes.answer ("POST " ++ url)).1 = .reply r ∧ r.status < 400 ∧ r.body = reply := by
  unfold post request
  rw [run_bind, run_bind, run_exchange_of_ne _ w (show "POST" ≠ "DELETE" by decide)]
  simp only [String.append_assoc, String.reduceAppend]
  rcases hans : (w.routes.answer ("POST " ++ url)).1 with r | m
  · dsimp only
    rw [run_pure]
    dsimp only
    rw [run_bind, checkStatus_eq]
    by_cases hlt : r.status < 400
    · rw [if_pos hlt]
      exact ⟨rfl, fun reply h => ⟨r, rfl, hlt, Except.ok.inj h⟩⟩
    · rw [if_neg hlt]
      exact ⟨rfl, fun reply h => nomatch h⟩
  · exact ⟨rfl, fun reply h => nomatch h⟩

/-- A post followed by more: it fails in the world the post leaves, or it
goes on from there with the body of a reply below status 400. -/
theorem post_bind_run {α : Type} (action url mediaType body : String) (f : String → Session α) (w : World) :
    (∃ e, (c.post action url mediaType body >>= f).run.run w =
      (.error e, w.afterPost (c.postCall url mediaType body))) ∨
    ∃ r : Reply, (w.routes.answer ("POST " ++ url)).1 = .reply r ∧ r.status < 400 ∧
      (c.post action url mediaType body >>= f).run.run w = (f r.body).run.run (w.afterPost (c.postCall url mediaType body)) := by
  obtain ⟨hworld, hok⟩ := c.post_run action url mediaType body w
  rw [run_bind]
  rcases hp : (c.post action url mediaType body).run.run w with ⟨_ | reply, w'⟩
  · rw [hp] at hworld
    exact .inl ⟨_, by rw [← hworld]⟩
  · rw [hp] at hworld hok
    obtain ⟨r, hans, hlt, rfl⟩ := hok reply rfl
    exact .inr ⟨r, hans, hlt, by rw [← hworld]⟩

end Client

/-! ## Served documents after a post -/

theorem get_ne_post (url url' : String) : "GET " ++ url ≠ "POST " ++ url' := by
  intro h
  have := congrArg (fun s => s.toList.head?) h
  simp at this

namespace Routes

theorem find?_put (rs : Routes) (key k : String) (r : Route) :
    (rs.put key r).find? k = if k = key then some r else rs.find? k := by
  unfold Routes.find? Routes.put
  rw [find?_key_set]
  by_cases h : k = key <;> simp [h]

/-- Answering a key leaves the route of every other key as it was. -/
theorem find?_answer (rs : Routes) {key k : String} (h : k ≠ key) : (rs.answer key).2.find? k = rs.find? k := by
  unfold Routes.answer
  split
  next => rfl
  next => rfl
  next => rfl
  next => rfl
  next => rw [find?_put, if_neg h]

/-- An answer that leaves the routes as they are depends only on the route of
its key. -/
theorem answer_of_find? {rs rs' : Routes} {k : String} {a : Answer} (h : rs.answer k = (a, rs))
    (hfind : rs'.find? k = rs.find? k) : rs'.answer k = (a, rs') := by
  unfold Routes.answer at h ⊢
  rw [hfind]
  split at h
  next => rw [(Prod.mk.inj h).1]
  next => rw [(Prod.mk.inj h).1]
  next => rw [(Prod.mk.inj h).1]
  next => rw [(Prod.mk.inj h).1]
  next a' rest _ hf =>
    -- answering a turn leaves fewer turns: the routes cannot stay as they were
    have hput := congrArg (Routes.find? · k) (Prod.mk.inj h).2
    simp [find?_put, hf] at hput

/-- Answering a request that is no read keeps every document served. -/
theorem Serves.answer {rs : Routes} {docs : String → Option Element} (hs : rs.Serves docs) {key : String}
    (hkey : ∀ url, "GET " ++ url ≠ key) : (rs.answer key).2.Serves docs := by
  intro url
  obtain ⟨r, hans, hr⟩ := hs url
  exact ⟨r, answer_of_find? hans (find?_answer rs (hkey url)), hr⟩

end Routes

end ImageCatalog.Remote

namespace ImageCatalog

/-- A document passes the error check exactly when it reports no error. -/
theorem checkError_eq_ok_iff (root : Xml.Element) : checkError root = .ok () ↔ errorMessage root = none := by
  unfold checkError
  split <;> simp_all

end ImageCatalog

namespace ImageCatalog.Connection

open ImageCatalog.Xml ImageCatalog.Remote

variable (cn : Connection) (docs : String → Option Element)

/-! ## Choosing the catalog -/

/-- The catalog to publish into among listed catalogs: the first that the
account owns and that is named the standard catalog, else the first that the
account owns. -/
def chosenIn (L : List Catalog) : Option Catalog :=
  (L.find? fun c => c.owner == cn.scope.account && c.name == some standardCatalogName).or
    (L.find? (·.owner == cn.scope.account))

/-- No catalog is chosen exactly when the account owns none of the listed. -/
theorem chosenIn_eq_none_iff (L : List Catalog) :
    cn.chosenIn L = none ↔ ∀ c ∈ L, c.owner ≠ cn.scope.account := by
  simp only [chosenIn, Option.or_eq_none_iff, List.find?_eq_none, Bool.and_eq_true, beq_iff_eq, not_and]
  exact ⟨fun h => h.2, fun h => ⟨fun c hc howner => absurd howner (h c hc), h⟩⟩

/-- Finding the catalog lists the private catalogs and chooses among them. -/
theorem findCatalog_run {w w₁ : World} {L : List Catalog} (h : (cn.catalogs false).run.run w = (.ok L, w₁)) :
    cn.findCatalog.run.run w = (.ok (cn.chosenIn L), w₁) := by
  unfold findCatalog
  rw [run_bind, h]
  dsimp only
  have hchosen : cn.chosenIn L = ((L.filter (·.owner == cn.scope.account)).find?
      (·.name == some standardCatalogName)).or (L.filter (·.owner == cn.scope.account)).head? := by
    rw [chosenIn, List.find?_filter, List.head?_filter]
    simp only [Bool.decide_and, Bool.decide_eq_true]
  rw [hchosen]
  split
  next c hc => rw [hc]; rfl
  next hc => rw [hc]; rfl

/-- Listing a visibility of catalogs on a platform that serves documents
succeeds: with the live list in the cache, or with the one the documents give;
it only reads, and the routes stay as they are. -/
theorem catalogs_ok {rs : Routes} (hs : rs.Serves docs) (published : Bool) {w : World} (hw : w.routes = rs) :
    ∃ L w₁, (cn.catalogs published).run.run w = (.ok L, w₁) ∧ w₁.routes = rs ∧ w.Sent w₁ [] := by
  have hread : ∀ {L w₁}, (cn.catalogs published).run.run w = (.ok L, w₁) → w.Sent w₁ [] := by
    intro L w₁ hrun
    have hstays := cn.catalogs_browsed (T := fun n => n = catalogCache published) published rfl w
    rw [hrun] at hstays
    exact World.Sent.of_gets hstays.2.2.1
  suffices h : ∃ L w₁, (cn.catalogs published).run.run w = (.ok L, w₁) ∧ w₁.routes = rs from
    let ⟨L, w₁, hrun, hroutes⟩ := h
    ⟨L, w₁, hrun, hroutes, hread hrun⟩
  obtain ⟨w₁, hget, -, hclock₁⟩ := cacheGet_run (catalogCache published) cn.scope.key cn.catalogTtl w
  have hstays := cacheGet_cachesOnly (catalogCache published) cn.scope.key cn.catalogTtl
    (T := fun n => n = catalogCache published) rfl w
  rw [hget] at hstays
  unfold catalogs
  dsimp only
  rw [run_bind, hget]
  dsimp only
  split
  · -- a live list in the cache is answered as it is
    exact ⟨_, w₁, rfl, hstays.1.trans hw⟩
  -- otherwise the organization's catalogs are read, as the documents give them
  suffices hends : Ends (OnRoutes rs w.clock) _ (cn.catalogsIn docs published) fun w' => w'.routes = rs by
    obtain ⟨w', hrun, hroutes⟩ := hends w₁ ⟨hstays.1.trans hw, hclock₁⟩
    exact ⟨_, w', hrun, hroutes⟩
  have hstore : ∀ l, Ends (OnRoutes rs w.clock)
      (do cachePut (catalogCache published) cn.catalogTtl cn.scope.key (.catalogs l); pure l : Session (List Catalog))
      l fun w' => w'.routes = rs := fun l w' hw' =>
    let ⟨w'', hrun, hroutes, _⟩ := cn.store_catalogs w.clock published l w' hw'
    ⟨w'', hrun, hroutes⟩
  cases hd : docs (cn.client.toUrl "org" cn.scope.region) with
  | none =>
    refine Yields.bind_ends (get_none hs w.clock hd) ?_
    have hnone : cn.catalogsIn docs published = [] := by rw [catalogsIn, hd]; rfl
    rw [hnone]
    exact hstore []
  | some org =>
    obtain ⟨xml, hxml, hparse⟩ := get_some hs w.clock hd
    refine Yields.bind_ends hxml ?_
    dsimp only
    rw [hparse]
    refine Yields.bind_ends (Yields.orFail org) ?_
    refine Yields.bind_ends (Yields.forIn_foldl (g := fun found link =>
      (((if link.linksTo "down" MediaType.catalog then link.target else none).bind
        (cn.catalogIn docs published)).map found.push).getD found) (fun link found => ?_) _ _) ?_
    · by_cases hdown : link.linksTo "down" MediaType.catalog = true
      · rw [if_neg (by simp [hdown]), if_pos hdown]
        cases link.target with
        | none => exact Yields.pure _
        | some h =>
          rw [Option.bind_some]
          refine Yields.bind (catalogAt_served hs w.clock published h) ?_
          cases cn.catalogIn docs published h <;> exact Yields.pure _
      · rw [if_pos (by simpa using hdown), if_neg hdown]
        exact Yields.pure _
    · have hlist : cn.catalogsIn docs published = ((org.findAll "Link").foldl (fun found link =>
          (((if link.linksTo "down" MediaType.catalog then link.target else none).bind
            (cn.catalogIn docs published)).map found.push).getD found) #[]).toList := by
        rw [foldl_push_toList, catalogsIn, hd, Option.map_some, Option.getD_some, Element.catalogRefs,
          List.filterMap_filterMap]
        rfl
      rw [hlist]
      exact hstore _

/-! ## Creating the standard catalog -/

/-- The request that creates the standard catalog. -/
def createCall : Call :=
  cn.client.postCall (cn.client.toAdminUrl "org" cn.scope.region ++ "/catalogs") MediaType.adminCatalog
    createCatalogBody

/-- Both listings of the scope, private and public, are gone from the cache. -/
def Dropped (w : World) : Prop :=
  w.entry (catalogCache true) cn.scope.key = none ∧ w.entry (catalogCache false) cn.scope.key = none

/-- What creating the standard catalog does from the world `w`, on a platform
serving `docs`, when it ends with `out`. The creation request is the one post.
A failure leaves every cache as it was. A success comes from a reply below
status 400 that reads as a document reporting no error; both listings of the
scope are dropped, and the result is the catalog at the reference of the
reply's first `AdminCatalog` element, read as `catalogIn` reads it. -/
structure Creates (w : World) (out : Except Fault (Option Catalog) × World) : Prop where
  sent : w.Sent out.2 [cn.createCall]
  failed : ∀ e, out.1 = .error e → ∀ name key, out.2.entry name key = w.entry name key
  created : ∀ v, out.1 = .ok v → cn.Dropped out.2 ∧
    ∃ r root, (w.routes.answer ("POST " ++ cn.createCall.url)).1 = .reply r ∧ r.status < 400 ∧
      parseDocument r.body = .ok root ∧ errorMessage root = none ∧
      v = ((root.findFirst "AdminCatalog").bind (·.attrValue "href")).bind (cn.catalogIn docs false)

variable {cn docs}

theorem Creates.of_error {w w' : World} {e : Fault} (hsent : w.Sent w' [cn.createCall])
    (hkept : ∀ name key, w'.entry name key = w.entry name key) : cn.Creates docs w (.error e, w') :=
  ⟨hsent, fun _ _ => hkept, fun _ h => nomatch h⟩

variable (cn)

/-- Dropping the listings changes nothing else. -/
theorem forgetCatalogs_run (w : World) : ∃ w', cn.forgetCatalogs.run.run w = (.ok (), w') ∧
    w'.routes = w.routes ∧ w'.calls = w.calls ∧ cn.Dropped w' := by
  obtain ⟨w₁, hrun₁, hentry₁, -⟩ := cacheDrop_run (catalogCache true) cn.scope.key cn.catalogTtl w
  obtain ⟨w₂, hrun₂, hentry₂, -⟩ := cacheDrop_run (catalogCache false) cn.scope.key cn.catalogTtl w₁
  have hstays₁ := cacheDrop_cachesOnly (catalogCache true) cn.scope.key cn.catalogTtl (T := fun _ => True) trivial w
  have hstays₂ := cacheDrop_cachesOnly (catalogCache false) cn.scope.key cn.catalogTtl (T := fun _ => True) trivial w₁
  rw [hrun₁] at hstays₁
  rw [hrun₂] at hstays₂
  refine ⟨w₂, ?_, hstays₂.1.trans hstays₁.1, hstays₂.2.2.1.trans hstays₁.2.2.1, ?_, ?_⟩
  · unfold forgetCatalogs
    rw [run_bind, hrun₁]
    exact hrun₂
  · -- the private listing was dropped second; the first drop stays
    have hne : catalogCache true ≠ catalogCache false := by decide
    rw [hentry₂, if_neg fun h => hne h.1, hentry₁, if_pos ⟨rfl, rfl⟩]
  · rw [hentry₂, if_pos ⟨rfl, rfl⟩]

/-- Creating the standard catalog on a platform that serves documents. -/
theorem createCatalog_creates {rs : Routes} (hs : rs.Serves docs) {w : World} (hw : w.routes = rs) :
    cn.Creates docs w (cn.createCatalog.run.run w) := by
  have hpost := World.Sent.afterPost w cn.createCall rfl
  -- the documents are still served once the post is answered
  have hs' : (rs.answer ("POST " ++ cn.createCall.url)).2.Serves docs :=
    hs.answer fun url => get_ne_post url _
  have hcall : cn.client.postCall (cn.client.toAdminUrl "org" cn.scope.region ++ "/catalogs")
      MediaType.adminCatalog createCatalogBody = cn.createCall := rfl
  unfold createCatalog
  dsimp only
  rcases cn.client.post_bind_run "createCatalog" (cn.client.toAdminUrl "org" cn.scope.region ++ "/catalogs")
    MediaType.adminCatalog createCatalogBody _ w with ⟨e, hrun⟩ | ⟨r, hans, hlt, hrun⟩
  · rw [hrun, hcall]
    exact Creates.of_error hpost fun _ _ => rfl
  rw [hrun, hcall]
  generalize hw₂ : w.afterPost cn.createCall = w₂ at hpost
  have hroutes₂ : w₂.routes = (rs.answer ("POST " ++ cn.createCall.url)).2 := by rw [← hw₂, ← hw]; rfl
  have hentry₂ : ∀ name key, w₂.entry name key = w.entry name key := by
    intro name key
    rw [← hw₂]
    rfl
  rw [run_bind, run_orFail]
  cases hparse : parseDocument r.body with
  | error e => exact Creates.of_error hpost hentry₂
  | ok root =>
  dsimp only
  rw [run_bind, run_orFail]
  cases hcheck : checkError root with
  | error e => exact Creates.of_error hpost hentry₂
  | ok u =>
  have herror : errorMessage root = none := (checkError_eq_ok_iff root).mp hcheck
  dsimp only
  rw [run_bind]
  -- the task of the reply is followed to its end before anything is dropped
  have hpolls := cn.client.waitFor_polls (some r.body) w₂
  have hkeeps := cn.client.waitFor_keeps hs' (some r.body) w₂ hroutes₂
  rcases hwait : (cn.client.waitFor (some r.body)).run.run w₂ with ⟨_ | _, w₃⟩
  · rw [hwait] at hpolls
    exact Creates.of_error (hpost.trans (World.Sent.of_gets hpolls.1))
      fun name key => (hpolls.2 name key).trans (hentry₂ name key)
  rw [hwait] at hpolls hkeeps
  have hsent₃ : w.Sent w₃ [cn.createCall] := hpost.trans (World.Sent.of_gets hpolls.1)
  dsimp only
  obtain ⟨w₄, hforget, hroutes₄, hcalls₄, hdropped₄⟩ := cn.forgetCatalogs_run w₃
  rw [run_bind, hforget]
  dsimp only
  have hsent₄ : w.Sent w₄ [cn.createCall] := hsent₃.trans (World.Sent.of_calls hcalls₄)
  have hreply : ∀ v, v = ((root.findFirst "AdminCatalog").bind (·.attrValue "href")).bind (cn.catalogIn docs false) →
      ∃ r root, (w.routes.answer ("POST " ++ cn.createCall.url)).1 = .reply r ∧ r.status < 400 ∧
        parseDocument r.body = .ok root ∧ errorMessage root = none ∧
        v = ((root.findFirst "AdminCatalog").bind (·.attrValue "href")).bind (cn.catalogIn docs false) :=
    fun v hv => ⟨r, root, hans, hlt, hparse, herror, hv⟩
  split
  next hnone =>
    refine ⟨hsent₄, (fun _ h => nomatch h), fun v hv => ⟨hdropped₄, hreply v ?_⟩⟩
    rw [hnone, ← Except.ok.inj hv]
    rfl
  next h hsome =>
    -- the created catalog is read back on routes that still serve the documents
    obtain ⟨w₅, hat, hon⟩ := catalogAt_served hs' w₄.clock false h w₄ ⟨hroutes₄.trans hkeeps, rfl⟩
    have hbrowsed := cn.catalogAt_browsed (T := fun _ => False) false h w₄
    rw [hat] at hbrowsed ⊢
    refine ⟨hsent₄.trans (World.Sent.of_gets hbrowsed.2.2.1), (fun _ h => nomatch h), fun v hv => ⟨?_, hreply v ?_⟩⟩
    · rw [Dropped, hbrowsed.2.2.2 _ id, hbrowsed.2.2.2 _ id]
      exact hdropped₄
    · rw [hsome, ← Except.ok.inj hv]
      rfl

/-! ## Adding the item -/

/-- The request that adds an item for the template of an image to a catalog. -/
def addItemCall (c : Catalog) (img : Image) : Call :=
  cn.client.postCall (cn.client.toUrl "catalog" c.catalogId ++ "/catalogItems") MediaType.catalogItem
    (catalogItemBody (cn.client.toUrl "vAppTemplate" img.imageId) img)

/-- What adding the item of an image to the catalog `c` does from the world
`w`, when it ends with `out`. The item request is the one post. A success
comes from a reply below status 400 that reads as a document reporting no
error, and gives the image tagged with the id of the reference of the reply's
first `CatalogItem` element, or the image as it was when that element has no
reference. -/
structure AddsItem (c : Catalog) (img : Image) (w : World) (out : Except Fault Image × World) : Prop where
  sent : w.Sent out.2 [cn.addItemCall c img]
  tagged : ∀ img', out.1 = .ok img' →
    ∃ r root, (w.routes.answer ("POST " ++ (cn.addItemCall c img).url)).1 = .reply r ∧ r.status < 400 ∧
      parseDocument r.body = .ok root ∧ errorMessage root = none ∧
      img' = ((root.findFirst "CatalogItem").bind (·.target)).elim img
        fun h => img.setTag Tag.catalogItemId (cn.client.toId h)

/-- Once the catalog is resolved, publishing adds the item to it. -/
theorem publish_addsItem {w w₁ : World} {c : Catalog} (h : cn.resolveCatalog.run.run w = (.ok c, w₁))
    (img : Image) : cn.AddsItem c img w₁ ((cn.publish img).run.run w) := by
  have hpost := World.Sent.afterPost w₁ (cn.addItemCall c img) rfl
  have hcall : cn.client.postCall (cn.client.toUrl "catalog" c.catalogId ++ "/catalogItems") MediaType.catalogItem
      (catalogItemBody (cn.client.toUrl "vAppTemplate" img.imageId) img) = cn.addItemCall c img := rfl
  unfold publish
  rw [run_bind, h]
  dsimp only
  rcases cn.client.post_bind_run "addCatalogItem" (cn.client.toUrl "catalog" c.catalogId ++ "/catalogItems")
    MediaType.catalogItem (catalogItemBody (cn.client.toUrl "vAppTemplate" img.imageId) img) _ w₁ with
    ⟨e, hrun⟩ | ⟨r, hans, hlt, hrun⟩
  · rw [hrun, hcall]
    exact ⟨hpost, fun _ h => nomatch h⟩
  rw [hrun, hcall]
  generalize w₁.afterPost (cn.addItemCall c img) = w₂ at hpost
  rw [run_bind, run_orFail]
  cases hparse : parseDocument r.body with
  | error e => exact ⟨hpost, fun _ h => nomatch h⟩
  | ok root =>
  dsimp only
  rw [run_bind, run_orFail]
  cases hcheck : checkError root with
  | error e => exact ⟨hpost, fun _ h => nomatch h⟩
  | ok u =>
  have herror : errorMessage root = none := (checkError_eq_ok_iff root).mp hcheck
  dsimp only
  rw [run_bind]
  have hpolls := cn.client.waitFor_polls (some r.body) w₂
  rcases hwait : (cn.client.waitFor (some r.body)).run.run w₂ with ⟨_ | _, w₃⟩
  · rw [hwait] at hpolls
    exact ⟨hpost.trans (World.Sent.of_gets hpolls.1), fun _ h => nomatch h⟩
  rw [hwait] at hpolls
  refine ⟨hpost.trans (World.Sent.of_gets hpolls.1), fun img' himg => ⟨r, root, hans, hlt, hparse, herror, ?_⟩⟩
  rw [← Except.ok.inj himg]
  split
  next h hh => rw [hh]; rfl
  next hh => rw [hh]; rfl

/-! ## Resolving the catalog and publishing -/

theorem resolveCatalog_found {w w₁ : World} {c : Catalog} (h : cn.findCatalog.run.run w = (.ok (some c), w₁)) :
    cn.resolveCatalog.run.run w = (.ok c, w₁) := by
  unfold resolveCatalog
  rw [run_bind, h]
  rfl

/-- Without a catalog to choose, the catalog is the one created, and
resolving fails when creation gives none. -/
theorem resolveCatalog_created {w w₁ : World} (h : cn.findCatalog.run.run w = (.ok none, w₁)) :
    cn.resolveCatalog.run.run w = match cn.createCatalog.run.run w₁ with
      | (.ok (some c), w₂) => (.ok c, w₂)
      | (.ok none, w₂) =>
        (.error (.cloud ("Unable to identify a catalog for " ++ cn.scope.account ++ " in " ++ cn.scope.region)), w₂)
      | (.error e, w₂) => (.error e, w₂) := by
  unfold resolveCatalog
  rw [run_bind, h]
  dsimp only
  rw [run_bind]
  rcases cn.createCatalog.run.run w₁ with ⟨_ | _ | c, w₂⟩ <;> rfl

theorem publish_failed {w w₁ : World} {e : Fault} (h : cn.resolveCatalog.run.run w = (.error e, w₁)) (img : Image) :
    (cn.publish img).run.run w = (.error e, w₁) := by
  unfold publish
  rw [run_bind, h]

/-- Publishing an image on a platform that serves documents. The private
catalogs are listed (from the cache while it holds them), which only reads.
When the account owns a listed catalog, the first it owns named the standard
catalog, else the first it owns, gets the item, and nothing else is posted.
When it owns none, the standard catalog is created, with one post: a failure
of the creation is the failure of publishing, a creation that names no
catalog fails publishing with `Unable to identify a catalog`, and otherwise
the created catalog gets the item. -/
theorem publish_served {rs : Routes} (hs : rs.Serves docs) {w : World} (hw : w.routes = rs) (img : Image) :
    ∃ L w₁, (cn.catalogs false).run.run w = (.ok L, w₁) ∧ w₁.routes = rs ∧ w.Sent w₁ [] ∧
      (∀ c, cn.chosenIn L = some c → cn.AddsItem c img w₁ ((cn.publish img).run.run w)) ∧
      ((∀ c ∈ L, c.owner ≠ cn.scope.account) →
        let co := cn.createCatalog.run.run w₁
        cn.Creates docs w₁ co ∧
        (∀ e, co.1 = .error e → (cn.publish img).run.run w = (.error e, co.2)) ∧
        (co.1 = .ok none → (cn.publish img).run.run w =
          (.error (.cloud ("Unable to identify a catalog for " ++ cn.scope.account ++ " in " ++ cn.scope.region)),
            co.2)) ∧
        ∀ c, co.1 = .ok (some c) → cn.AddsItem c img co.2 ((cn.publish img).run.run w)) := by
  obtain ⟨L, w₁, hlist, hroutes, hsent⟩ := cn.catalogs_ok docs hs false hw
  have hfind := cn.findCatalog_run hlist
  refine ⟨L, w₁, hlist, hroutes, hsent, fun c hc => ?_, fun hnone => ?_⟩
  · rw [hc] at hfind
    exact cn.publish_addsItem (cn.resolveCatalog_found hfind) img
  rw [(cn.chosenIn_eq_none_iff L).mpr hnone] at hfind
  have hresolve := cn.resolveCatalog_created hfind
  refine ⟨cn.createCatalog_creates hs hroutes, fun e he => ?_, fun hv => ?_, fun c hc => ?_⟩
  · rcases hco : cn.createCatalog.run.run w₁ with ⟨r, w₂⟩
    rw [hco] at hresolve he
    subst he
    exact cn.publish_failed hresolve img
  · rcases hco : cn.createCatalog.run.run w₁ with ⟨r, w₂⟩
    rw [hco] at hresolve hv
    subst hv
    exact cn.publish_failed hresolve img
  · rcases hco : cn.createCatalog.run.run w₁ with ⟨r, w₂⟩
    rw [hco] at hresolve hc
    subst hc
    exact cn.publish_addsItem hresolve img

/-- On the platform of the organization `o1`, which serves it with a link down
to its standard catalog `c1` and answers an item added to that catalog,
publishing an image lists the private catalogs and goes on as on every
platform that serves documents. -/
theorem publish_served_acme :
    let cn := acmeConnection
    let img : Image := default
    let w : World := { routes := Routes.withPages acmePages acmeRequests }
    pageDocs acmePages "/catalog/c1" = some acmeCatalog ∧
    ∃ L w₁, (cn.catalogs false).run.run w = (.ok L, w₁) ∧ w₁.routes = Routes.withPages acmePages acmeRequests ∧
      w.Sent w₁ [] ∧
      (∀ c, cn.chosenIn L = some c → cn.AddsItem c img w₁ ((cn.publish img).run.run w)) ∧
      ((∀ c ∈ L, c.owner ≠ cn.scope.account) →
        let co := cn.createCatalog.run.run w₁
        cn.Creates (pageDocs acmePages) w₁ co ∧
        (∀ e, co.1 = .error e → (cn.publish img).run.run w = (.error e, co.2)) ∧
        (co.1 = .ok none → (cn.publish img).run.run w =
          (.error (.cloud ("Unable to identify a catalog for " ++ cn.scope.account ++ " in " ++ cn.scope.region)),
            co.2)) ∧
        ∀ c, co.1 = .ok (some c) → cn.AddsItem c img co.2 ((cn.publish img).run.run w)) :=
  ⟨rfl, publish_served acmeConnection acme_serves rfl default⟩

end ImageCatalog.Connection
