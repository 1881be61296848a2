import ImageCatalog.Proofs.Remote.Respelling
import ImageCatalog.Proofs.Remote.Secrets
import ImageCatalog.Proofs.Cache.Entries
import ImageCatalog.Support

/-!
# Runs that only read the platform

Most operations of the library only read the platform: they send GET requests,
read and write the named caches, and let no time pass. What a run may change is
said by a `WorldOrder`, a reflexive and transitive relation between the world a
run starts in and the world it ends in, and `Stays O x` says that every run of
`x` keeps to `O`. `Stays` is closed under `pure`, `throw`, `bind`, `tryCatch`
and `for` loops, so a statement about an operation follows its `do` block.

Three orders are used:

* `WorldOrder.cachesOnly touched`: only the named caches in `touched` change.
* `WorldOrder.browsed touched`: the clock stands still, no route key appears,
  every request sent is a GET, and only the named caches in `touched` change.
* `WorldOrder.keysKept`: no route key appears. A route answered in turns may
  lose answers, and a delete drops the route that reads what it deleted, but no
  run adds a route.

`Guards P Q x` says more of one run: it keeps the world invariant `P`, whether
it fails or not, and every value it returns satisfies `Q`; it follows the `do`
block in the same way.

Main results:

* `cacheGet_cachesOnly`, `cachePut_cachesOnly`, `cacheGetOrCreate_cachesOnly`,
  `cacheDrop_cachesOnly`: each cache operation changes only its own cache.
* `Client.getUrl_browsed` and, over it, every reader of catalogs, templates and
  image lists (`Connection.findImage_browsed`, `Connection.images_browsed`,
  `Connection.publicImages_browsed`, ...).
* `Client.followTask_stays`, `Client.waitFor_stays`: waiting for a task keeps
  to every order that sleeping and reading keep to; so `Client.waitFor_keysKept`
  and `Client.delete_keysKept`: waiting and deleting add no route.
* `Client.getUrl_unrouted`, `Client.delete_unroutes`: a read that no route
  answers finds nothing, and a delete that succeeds leaves no route that reads
  what it deleted.
-/

namespace ImageCatalog.Remote

open ImageCatalog.Xml

/-- Whether the routes of a world answer a key. -/
def World.routed (w : World) (key : String) : Bool := w.routes.any (·.1 == key)

/-- A relation between the world a run starts in and the world it ends in,
that holds of standing still and of two runs one after the other. -/
structure WorldOrder where
  rel : World → World → Prop
  refl : ∀ w, rel w w
  trans : ∀ {u v w}, rel u v → rel v w → rel u w

namespace WorldOrder

/-- Only the named caches change, and of them only those in `touched`. -/
def cachesOnly (touched : String → Prop) : WorldOrder where
  rel w w' := w'.routes = w.routes ∧ w'.clock = w.clock ∧ w'.calls = w.calls ∧
    ∀ name, ¬ touched name → ∀ key, w'.entry name key = w.entry name key
  refl _ := ⟨rfl, rfl, rfl, fun _ _ _ => rfl⟩
  trans h h' := ⟨h'.1.trans h.1, h'.2.1.trans h.2.1, h'.2.2.1.trans h.2.2.1,
    fun name hn key => (h'.2.2.2 name hn key).trans (h.2.2.2 name hn key)⟩

/-- Reads of the platform that write only the named caches in `touched`: the
clock stands still, no route key appears, the requests sent are GETs, and the
entries of every other cache stay as they were. -/
def browsed (touched : String → Prop) : WorldOrder where
  rel w w' := w'.clock = w.clock ∧ (∀ key, w'.routed key → w.routed key) ∧
    (∃ gets : List Call, w'.calls.toList = w.calls.toList ++ gets ∧ ∀ c ∈ gets, c.method = "GET") ∧
    ∀ name, ¬ touched name → ∀ key, w'.entry name key = w.entry name key
  refl _ := ⟨rfl, fun _ h => h, ⟨[], by simp, by simp⟩, fun _ _ _ => rfl⟩
  trans := by
    rintro u v w ⟨hc, hk, ⟨gets, hcalls, hget⟩, he⟩ ⟨hc', hk', ⟨gets', hcalls', hget'⟩, he'⟩
    refine ⟨hc'.trans hc, fun key h => hk key (hk' key h), ⟨gets ++ gets', ?_, ?_⟩,
      fun name hn key => (he' name hn key).trans (he name hn key)⟩
    · rw [hcalls', hcalls, List.append_assoc]
    · intro c hc
      rcases List.mem_append.mp hc with hc | hc
      · exact hget c hc
      · exact hget' c hc

/-- No route key appears. -/
def keysKept : WorldOrder where
  rel w w' := ∀ key, w'.routed key → w.routed key
  refl _ _ h := h
  trans h h' key hk := h key (h' key hk)

variable {T : String → Prop}

theorem browsed_of_cachesOnly {w w' : World} (h : (cachesOnly T).rel w w') : (browsed T).rel w w' := by
  obtain ⟨hroutes, hclock, hcalls, hentry⟩ := h
  refine ⟨hclock, fun key hk => ?_, ⟨[], by rw [hcalls, List.append_nil], by simp⟩, hentry⟩
  rwa [World.routed, ← hroutes]

theorem keysKept_of_browsed {w w' : World} (h : (browsed T).rel w w') : keysKept.rel w w' := h.2.1

end WorldOrder

/-- Every run of `x` ends in a world related by `O` to the one it started in. -/
def Stays {α : Type} (O : WorldOrder) (x : Session α) : Prop :=
  ∀ w, O.rel w (x.run.run w).2

namespace Stays

variable {O O' : WorldOrder} {α β σ : Type}

theorem pure (a : α) : Stays O (Pure.pure a : Session α) := fun w => O.refl w

theorem throw (e : Fault) : Stays O (MonadExcept.throw e : Session α) := fun w => O.refl w

/-- A failure stops a run before anything that follows it. -/
theorem throw_bind (e : Fault) (f : α → Session β) : Stays O (MonadExcept.throw e >>= f) :=
  fun w => O.refl w

theorem bind {x : Session α} {f : α → Session β} (hx : Stays O x) (hf : ∀ a, Stays O (f a)) :
    Stays O (x >>= f) := by
  intro w
  have h1 := hx w
  rw [run_bind]
  rcases hrun : x.run.run w with ⟨r, w1⟩
  rw [hrun] at h1
  cases r with
  | ok a => exact O.trans h1 (hf a w1)
  | error e => exact h1

theorem tryCatch {x : Session α} {h : Fault → Session α} (hx : Stays O x) (hh : ∀ e, Stays O (h e)) :
    Stays O (tryCatch x h) := by
  intro w
  have h1 := hx w
  rw [run_tryCatch]
  rcases hrun : x.run.run w with ⟨r, w1⟩
  rw [hrun] at h1
  cases r with
  | ok a => exact h1
  | error e => exact O.trans h1 (hh e w1)

theorem orFail (x : Except Fault α) : Stays O (orFail x) := by
  cases x with
  | ok a => exact pure a
  | error e => exact throw e

/-- A loop whose every step keeps to `O` keeps to `O`. -/
theorem forIn (xs : List α) (init : σ) {f : α → σ → Session (ForInStep σ)}
    (hf : ∀ a s, Stays O (f a s)) : Stays O (ForIn.forIn xs init f) := by
  induction xs generalizing init with
  | nil => exact pure init
  | cons a as ih =>
    rw [List.forIn_cons]
    refine bind (hf a init) fun step => ?_
    cases step with
    | done s => exact pure s
    | yield s => exact ih s

theorem mono {x : Session α} (hx : Stays O x) (h : ∀ w w', O.rel w w' → O'.rel w w') : Stays O' x :=
  fun w => h _ _ (hx w)

theorem modify {f : World → World} (hf : ∀ w, O.rel w (f w)) : Stays O (modify f : Session Unit) :=
  fun w => hf w

theorem get : Stays O (getThe World : Session World) := fun w => O.refl w

theorem now : Stays O (now : Session Int) := fun w => O.refl w

end Stays

/-! ## Invariants and results -/

/-- Every run of `x` from a world where `P` holds ends in a world where `P`
holds, whether it fails or not, and every value it returns satisfies `Q`. -/
def Guards {α : Type} (P : World → Prop) (Q : α → Prop) (x : Session α) : Prop :=
  ∀ w, P w → P (x.run.run w).2 ∧ ∀ a, (x.run.run w).1 = .ok a → Q a

namespace Guards

variable {P : World → Prop} {α β σ : Type} {Q Q' : α → Prop}

theorem pure {a : α} (h : Q a) : Guards P Q (Pure.pure a : Session α) := fun _ hw =>
  ⟨hw, fun _ ha => Except.ok.inj ha ▸ h⟩

theorem throw (e : Fault) : Guards P Q (MonadExcept.throw e : Session α) := fun _ hw =>
  ⟨hw, fun _ ha => nomatch ha⟩

theorem bind {R : α → Prop} {x : Session α} {f : α → Session β} {Q : β → Prop}
    (hx : Guards P R x) (hf : ∀ a, R a → Guards P Q (f a)) : Guards P Q (x >>= f) := by
  intro w hw
  obtain ⟨hw1, hr⟩ := hx w hw
  rw [run_bind]
  rcases hrun : x.run.run w with ⟨r, w1⟩
  rw [hrun] at hw1 hr
  cases r with
  | ok a => exact hf a (hr a rfl) w1 hw1
  | error e => exact ⟨hw1, fun _ h => nomatch h⟩

/-- A run that keeps to an order keeps every invariant the order keeps. -/
theorem of_stays {O : WorldOrder} {x : Session α} (hx : Stays O x)
    (hP : ∀ w w', O.rel w w' → P w → P w') : Guards P (fun _ => True) x := fun w hw =>
  ⟨hP _ _ (hx w) hw, fun _ _ => trivial⟩

theorem mono {x : Session α} (hx : Guards P Q x) (h : ∀ a, Q a → Q' a) : Guards P Q' x := fun w hw =>
  ⟨(hx w hw).1, fun a ha => h a ((hx w hw).2 a ha)⟩

theorem orFail (x : Except Fault α) : Guards P (fun _ => True) (orFail x) := by
  cases x with
  | ok a => exact pure trivial
  | error e => exact throw e

/-- A loop whose every step keeps the invariant and a property `I` of its
state ends with a state satisfying `I`. -/
theorem forIn (xs : List α) {init : σ} {f : α → σ → Session (ForInStep σ)} {I : σ → Prop}
    (hinit : I init) (hf : ∀ a s, I s → Guards P (fun step => I step.value) (f a s)) :
    Guards P I (ForIn.forIn xs init f) := by
  induction xs generalizing init with
  | nil => exact pure hinit
  | cons a as ih =>
    rw [List.forIn_cons]
    refine bind (hf a init hinit) fun step hstep => ?_
    cases step with
    | done s => exact pure hstep
    | yield s => exact ih hstep

end Guards

/-! ## Named caches -/

section Caches

variable (name key : String) (ttl : Int) {T : String → Prop}

theorem touchCache_cachesOnly : Stays (.cachesOnly T) (touchCache name ttl) := fun w =>
  ⟨rfl, rfl, rfl, fun n _ k => touchCache_entry name ttl w n k⟩

theorem editCache_cachesOnly (hT : T name) (f : List (String × Entry) → List (String × Entry)) :
    Stays (.cachesOnly T) (editCache name f) := fun w =>
  ⟨rfl, rfl, rfl, fun n hn k => by rw [editCache_entry, if_neg fun (h : n = name) => hn (h ▸ hT)]⟩

theorem cacheGet_cachesOnly (hT : T name) : Stays (.cachesOnly T) (cacheGet name ttl key) := by
  unfold cacheGet
  refine Stays.bind (touchCache_cachesOnly name ttl) fun _ => Stays.bind Stays.get fun w => ?_
  split
  · exact Stays.pure _
  · split
    · exact Stays.bind (editCache_cachesOnly name hT _) fun _ => Stays.pure _
    · exact Stays.pure _

theorem cachePut_cachesOnly (hT : T name) (v : Cached) : Stays (.cachesOnly T) (cachePut name ttl key v) := by
  unfold cachePut
  exact Stays.bind (touchCache_cachesOnly name ttl) fun _ =>
    Stays.bind Stays.now fun _ => editCache_cachesOnly name hT _

theorem cacheGetOrCreate_cachesOnly (hT : T name) (v : Cached) :
    Stays (.cachesOnly T) (cacheGetOrCreate name ttl key v) := by
  unfold cacheGetOrCreate
  refine Stays.bind (cacheGet_cachesOnly name key ttl hT) fun found => ?_
  split
  · exact Stays.pure _
  · exact Stays.bind (cachePut_cachesOnly name key ttl hT v) fun _ => Stays.pure _

theorem cacheDrop_cachesOnly (hT : T name) : Stays (.cachesOnly T) (cacheDrop name ttl key) := by
  unfold cacheDrop
  exact Stays.bind (touchCache_cachesOnly name ttl) fun _ => editCache_cachesOnly name hT _

end Caches

/-! ## Requests -/

namespace Routes

/-- Setting the route of a key that is already routed keeps the keys. -/
theorem put_any {rs : Routes} {key : String} (r : Route) (hkey : rs.any (·.1 == key)) (k : String) :
    (rs.put key r).any (·.1 == k) = rs.any (·.1 == k) := by
  unfold Routes.put
  rw [if_pos hkey, List.any_map]
  congr 1
  funext kv
  by_cases h : kv.1 = key
  · simp [h]
  · simp [h]

/-- Answering a request adds no route key: it keeps the routes, or sets the
remaining turns of the key it answered. -/
theorem answer_any (rs : Routes) (key k : String) (h : (rs.answer key).2.any (·.1 == k)) :
    rs.any (·.1 == k) := by
  unfold Routes.answer at h
  cases hfind : rs.find? key with
  | none => rwa [hfind] at h
  | some r =>
    -- the key is routed, so setting its remaining turns keeps every key
    have hkey : rs.any (·.1 == key) := by
      obtain ⟨kr, hkr, -⟩ := Option.map_eq_some_iff.mp hfind
      exact List.any_eq_true.mpr ⟨kr, List.mem_of_find?_eq_some hkr, by simpa using List.find?_some hkr⟩
    rw [hfind] at h
    rcases r with a | (_ | ⟨a, _ | ⟨b, rest⟩⟩)
    · exact h
    · exact h
    · exact h
    · dsimp only at h
      rwa [put_any _ hkey] at h

/-- Removing the route of a key adds none. -/
theorem erase_any (rs : Routes) (key k : String) (h : (rs.erase key).any (·.1 == k)) :
    rs.any (·.1 == k) := by
  obtain ⟨kr, hkr, hk⟩ := List.any_eq_true.mp h
  exact List.any_eq_true.mpr ⟨kr, (List.mem_filter.mp hkr).1, hk⟩

/-- Once the route of a key is removed, no route answers it. -/
theorem erase_unrouted (rs : Routes) (key : String) : (rs.erase key).any (·.1 == key) = false := by
  unfold Routes.erase
  rw [List.any_eq_false]
  intro kr hkr
  have hne : (kr.1 != key) = true := (List.mem_filter.mp hkr).2
  simpa using hne

/-- A request with a key that no route answers gets the unrouted reply and
leaves the routes as they are. -/
theorem answer_unrouted {rs : Routes} {key : String} (h : rs.any (·.1 == key) = false) :
    rs.answer key = (unrouted, rs) := by
  have hnone : rs.find? key = none := by
    unfold Routes.find?
    rw [Option.map_eq_none_iff]
    exact List.find?_eq_none.mpr fun kr hkr => List.any_eq_false.mp h kr hkr
  unfold Routes.answer
  rw [hnone]

end Routes

/-- A request adds no route key; only a successful delete removes one. -/
theorem exchange_keysKept (call : Call) : Stays .keysKept (exchange call) := by
  intro w k hk
  rw [run_exchange] at hk
  simp only [World.routed] at hk ⊢
  refine Routes.answer_any w.routes (call.method ++ " " ++ call.url) k ?_
  split at hk
  · split at hk
    · exact Routes.erase_any _ _ k hk
    · exact hk
  · exact hk

/-- A GET request is recorded and changes nothing but the turns of its route. -/
theorem exchange_browsed {T : String → Prop} (call : Call) (hget : call.method = "GET") :
    Stays (.browsed T) (exchange call) := by
  intro w
  refine ⟨rfl, exchange_keysKept call w, ⟨[call], ?_, by simpa using hget⟩, fun _ _ _ => ?_⟩
  · rw [run_exchange]
    simp
  · rw [run_exchange]
    rfl

theorem sleep_keysKept (seconds : Int) : Stays .keysKept (sleep seconds) :=
  Stays.modify fun _ _ h => h

namespace Client

variable (c : Client) {T : String → Prop}

theorem request_keysKept (method url : String) (body mediaType : Option String) :
    Stays .keysKept (c.request method url body mediaType) := by
  unfold request
  refine Stays.bind (exchange_keysKept _) fun a => ?_
  cases a with
  | reply r => exact Stays.pure r
  | refuse m => exact Stays.throw _

theorem request_browsed (url : String) : Stays (.browsed T) (c.request "GET" url) := by
  unfold request
  refine Stays.bind (exchange_browsed _ rfl) fun a => ?_
  cases a with
  | reply r => exact Stays.pure r
  | refuse m => exact Stays.throw _

theorem checkStatus_stays {O : WorldOrder} (r : Reply) (what : String) : Stays O (checkStatus r what) := by
  rw [checkStatus_eq]
  split
  · exact Stays.pure ()
  · exact Stays.throw _

theorem getUrl_browsed (url : String) : Stays (.browsed T) (c.getUrl url) := by
  unfold getUrl
  refine Stays.bind (request_browsed c url) fun r => ?_
  split
  · exact Stays.pure _
  · exact Stays.bind (checkStatus_stays r _) fun _ => Stays.pure _

theorem get_browsed (resource id : String) : Stays (.browsed T) (c.get resource id) :=
  getUrl_browsed c _

theorem post_keysKept (action url mediaType body : String) :
    Stays .keysKept (c.post action url mediaType body) := by
  unfold post
  exact Stays.bind (request_keysKept c _ _ _ _) fun r =>
    Stays.bind (checkStatus_stays r _) fun _ => Stays.pure _

/-- Following a task only sleeps and reads, and between reads works on what it
read: it keeps to every order that sleeping and reading keep to. -/
theorem followTask_stays {O : WorldOrder} (hsleep : ∀ seconds, Stays O (sleep seconds))
    (hread : ∀ url, Stays O (c.getUrl url)) (deadline : Int) (fuel : Nat) (t : Option Element) :
    Stays O (c.followTask deadline fuel t) := by
  induction fuel using Nat.strongRecOn generalizing t with
  | _ fuel ih =>
    cases t with
    | none =>
      rw [followTask.eq_1]
      exact Stays.pure ()
    | some task =>
      rw [followTask.eq_2]
      simp only []
      split
      · exact Stays.pure ()
      split
      · exact Stays.throw_bind _ _
      split
      · exact Stays.pure ()
      refine Stays.bind Stays.now fun _ => ?_
      split
      · exact Stays.throw_bind _ _
      cases fuel with
      | zero => exact Stays.throw _
      | succ fuel =>
        -- before the deadline it sleeps and reads the task again
        refine Stays.bind (hsleep _) fun _ => Stays.bind (hread _) fun found => ?_
        cases found with
        | none => exact Stays.throw _
        | some xml => exact Stays.bind (Stays.orFail _) fun _ => ih fuel (Nat.lt_succ_self fuel) _

/-- Waiting for the task of a reply keeps to every order that sleeping and
reading keep to. -/
theorem waitFor_stays {O : WorldOrder} (hsleep : ∀ seconds, Stays O (sleep seconds))
    (hread : ∀ url, Stays O (c.getUrl url)) (response : Option String) : Stays O (c.waitFor response) := by
  unfold waitFor
  cases response with
  | none => exact Stays.pure ()
  | some body =>
    simp only []
    split
    · exact Stays.pure ()
    refine Stays.bind (Stays.orFail _) fun root => Stays.bind Stays.now fun _ => ?_
    exact Stays.bind Stays.get fun _ => followTask_stays c hsleep hread _ _ _

/-- Following a task reads it and waits, and adds no route. -/
theorem followTask_keysKept (deadline : Int) (fuel : Nat) (t : Option Element) :
    Stays .keysKept (c.followTask deadline fuel t) :=
  followTask_stays c sleep_keysKept
    (fun url => (getUrl_browsed (T := fun _ => False) c url).mono fun _ _ => WorldOrder.keysKept_of_browsed)
    deadline fuel t

theorem waitFor_keysKept (response : Option String) : Stays .keysKept (c.waitFor response) :=
  waitFor_stays c sleep_keysKept
    (fun url => (getUrl_browsed (T := fun _ => False) c url).mono fun _ _ => WorldOrder.keysKept_of_browsed)
    response

theorem delete_keysKept (resource id : String) : Stays .keysKept (c.delete resource id) := by
  unfold delete
  refine Stays.bind (request_keysKept c _ _ _ _) fun r => ?_
  dsimp only
  split
  · exact Stays.bind (Stays.throw _) fun _ =>
      Stays.bind (checkStatus_stays r _) fun _ => waitFor_keysKept c _
  · exact Stays.bind (checkStatus_stays r _) fun _ => waitFor_keysKept c _

/-- A read that no route answers finds nothing. -/
theorem getUrl_unrouted {url : String} {w : World} (h : w.routed ("GET " ++ url) = false) :
    ((c.getUrl url).run.run w).1 = .ok none := by
  have hkey : "GET" ++ " " ++ url = "GET " ++ url := by rw [String.append_assoc]; rfl
  have hanswer : w.routes.answer ("GET " ++ url) = (unrouted, w.routes) := Routes.answer_unrouted h
  unfold getUrl request
  rw [run_bind, run_bind, run_exchange]
  simp only [hkey, hanswer]
  rfl

/-- A DELETE answered below 400 removes the route that reads what it
deleted. -/
theorem request_delete_unroutes {url : String} {w w1 : World} {r : Reply}
    (h : (c.request "DELETE" url).run.run w = (.ok r, w1)) (hstatus : r.status < 400) :
    w1.routed ("GET " ++ url) = false := by
  unfold request at h
  obtain ⟨a, w2, hex, hrest⟩ := run_bind_ok (congrArg Prod.fst h)
  rw [h] at hrest
  rw [run_exchange] at hex
  cases a with
  | refuse m => cases hrest
  | reply r' =>
    have hpair : ((Except.ok r', w2) : Except Fault Reply × World) = (.ok r, w1) := hrest
    simp only [Prod.mk.injEq, Except.ok.injEq] at hpair
    obtain ⟨hr, hw⟩ := hpair
    subst r' w2
    have hanswer : (w.routes.answer ("DELETE" ++ " " ++ url)).1 = .reply r := by
      simpa using congrArg Prod.fst hex
    have hw1 := congrArg Prod.snd hex
    dsimp only at hw1
    rw [← hw1]
    simp only [World.routed, hanswer, if_pos hstatus]
    exact Routes.erase_unrouted _ _

/-- A delete that succeeds leaves no route that reads what it deleted. -/
theorem delete_unroutes {resource id : String} {w : World} (h : ((c.delete resource id).run.run w).1 = .ok ()) :
    ((c.delete resource id).run.run w).2.routed ("GET " ++ c.toUrl resource id) = false := by
  unfold delete at h ⊢
  obtain ⟨r, w1, hreq, hrest⟩ := run_bind_ok h
  rw [← hrest] at h ⊢
  dsimp only at h ⊢
  split at h
  · cases h
  rw [if_neg ‹_›]
  obtain ⟨u, w2, hcheck, hwait⟩ := run_bind_ok h
  -- the reply passed the status check, so it is below 400 and the world is as the request left it
  have hstatus : r.status < 400 := by
    rw [checkStatus_eq] at hcheck
    split at hcheck
    · assumption
    · cases hcheck
  have hw2 : w2 = w1 := by
    rw [checkStatus_eq, if_pos hstatus] at hcheck
    exact (congrArg Prod.snd hcheck).symm
  rw [← hwait, hw2]
  have hgone := request_delete_unroutes c hreq hstatus
  -- waiting for the task adds no route
  cases hk : ((c.waitFor (some r.body)).run.run w1).2.routed ("GET " ++ c.toUrl resource id) with
  | false => rfl
  | true => rw [waitFor_keysKept c _ w1 _ hk] at hgone; cases hgone

end Client

end ImageCatalog.Remote

/-! ## Listings only read -/

namespace ImageCatalog.Connection

open ImageCatalog.Remote ImageCatalog.Xml

variable (cn : Connection) {T : String → Prop}

theorem cacheGet_browsed (name key : String) (ttl : Int) (hT : T name) :
    Stays (.browsed T) (cacheGet name ttl key) :=
  (cacheGet_cachesOnly name key ttl hT).mono fun _ _ => WorldOrder.browsed_of_cachesOnly

theorem orgName_browsed (href : String) : Stays (.browsed T) (cn.orgName href) := by
  unfold orgName
  refine Stays.bind (Client.get_browsed _ _ _) fun found => ?_
  cases found with
  | none => exact Stays.pure none
  | some xml => exact Stays.bind (Stays.orFail _) fun _ => Stays.pure _

theorem catalogAt_browsed (published : Bool) (href : String) :
    Stays (.browsed T) (cn.catalogAt published href) := by
  unfold catalogAt
  refine Stays.bind (Client.get_browsed _ _ _) fun found => ?_
  cases found with
  | none => exact Stays.pure none
  | some xml =>
    refine Stays.bind (Stays.orFail _) fun root => ?_
    refine Stays.bind (Stays.forIn _ _ fun node s => ?_) fun r => ?_
    · -- a catalog element: its parts are read, the owner through the organization
      split
      · exact Stays.pure _
      refine Stays.bind (Stays.forIn _ _ fun pc st => ?_) fun st => ?_
      · obtain ⟨part, child⟩ := pc
        cases part with
        | published => exact Stays.pure _
        | link =>
          simp only []
          split
          · split
            · exact Stays.bind (orgName_browsed cn _) fun _ => Stays.pure _
            · exact Stays.pure _
          · exact Stays.pure _
      · dsimp only
        split <;> exact Stays.pure _
    · rcases r with ⟨_ | c, _⟩ <;> exact Stays.pure _

theorem cachePut_browsed (name key : String) (ttl : Int) (hT : T name) (v : Cached) :
    Stays (.browsed T) (cachePut name ttl key v) :=
  (cachePut_cachesOnly name key ttl hT v).mono fun _ _ => WorldOrder.browsed_of_cachesOnly

theorem catalogs_browsed (published : Bool) (hT : T (catalogCache published)) :
    Stays (.browsed T) (cn.catalogs published) := by
  unfold catalogs
  refine Stays.bind (cacheGet_browsed _ _ _ hT) fun found => ?_
  split
  · exact Stays.pure _
  -- a listing read afresh is stored, whatever the organization holds
  have hstore : ∀ found : Array Catalog, Stays (.browsed T) (do
      cachePut (catalogCache published) cn.catalogTtl cn.scope.key (.catalogs found.toList)
      pure found.toList : Session (List Catalog)) := fun found =>
    Stays.bind (cachePut_browsed _ _ _ hT _) fun _ => Stays.pure _
  refine Stays.bind (Client.get_browsed _ _ _) fun org => ?_
  dsimp only
  cases org with
  | none => exact hstore _
  | some xml =>
    refine Stays.bind (Stays.orFail _) fun root => ?_
    refine Stays.bind (Stays.forIn _ _ fun link found => ?_) fun found => hstore found
    split
    · exact Stays.pure _
    split
    · exact Stays.pure _
    · exact Stays.bind (catalogAt_browsed cn _ _) fun c => by split <;> exact Stays.pure _

theorem catalogItemIds_browsed (catalog : Catalog) : Stays (.browsed T) (cn.catalogItemIds catalog) := by
  unfold catalogItemIds
  refine Stays.bind (Client.get_browsed _ _ _) fun found => ?_
  cases found with
  | none => exact Stays.pure none
  | some xml => exact Stays.bind (Stays.orFail _) fun _ => Stays.pure _

theorem loadVapp_browsed (templateId owner : String) (published : Bool) (name description : Option String)
    (createdAt : Int) : Stays (.browsed T) (cn.loadVapp templateId owner published name description createdAt) := by
  unfold loadVapp
  refine Stays.bind (Client.get_browsed _ _ _) fun found => ?_
  cases found with
  | none => exact Stays.pure none
  | some xml =>
    refine Stays.bind (Stays.orFail _) fun root => ?_
    split
    · exact Stays.pure none
    · exact Stays.bind Stays.now fun _ => by dsimp only; split <;> exact Stays.pure _

theorem loadTemplate_browsed (owner itemId : String) (published : Bool) :
    Stays (.browsed T) (cn.loadTemplate owner itemId published) := by
  unfold loadTemplate
  refine Stays.bind (Client.get_browsed _ _ _) fun found => ?_
  cases found with
  | none => exact Stays.pure none
  | some xml =>
    refine Stays.bind (Stays.orFail _) fun root => ?_
    split
    · exact Stays.pure none
    · dsimp only
      split
      · exact Stays.pure none
      · exact loadVapp_browsed cn _ _ _ _ _ _

theorem scanCatalog_browsed (catalog : Catalog) (filter : Option ReadyFilter) :
    Stays (.browsed T) (cn.scanCatalog catalog filter) := by
  unfold scanCatalog
  refine Stays.bind (catalogItemIds_browsed cn catalog) fun ids => ?_
  cases ids with
  | none => exact Stays.pure []
  | some ids =>
    refine Stays.bind (Stays.forIn _ _ fun itemId found => ?_) fun found => Stays.pure _
    refine Stays.bind (loadTemplate_browsed cn _ _ _) fun img => ?_
    cases img with
    | none => exact Stays.pure _
    | some img => dsimp only; split <;> exact Stays.pure _

theorem scanPrivate_browsed (hT : T (catalogCache false)) : Stays (.browsed T) cn.scanPrivate := by
  unfold scanPrivate
  refine Stays.bind (catalogs_browsed cn false hT) fun cs => ?_
  refine Stays.bind (Stays.forIn _ _ fun catalog found => ?_) fun found => Stays.pure _
  exact Stays.bind (scanCatalog_browsed cn catalog none) fun _ => Stays.pure _

/-- A listing of images writes the image lists, their mutexes and the private
catalog lists. -/
theorem images_browsed (filter : Option ReadyFilter) (hlist : T imageListCache)
    (hlock : T imageListLockCache) (hcat : T (catalogCache false)) :
    Stays (.browsed T) (cn.images filter) := by
  unfold images
  refine Stays.bind (cacheGet_browsed _ _ _ hlist) fun found => ?_
  dsimp only
  split
  · exact Stays.bind (Stays.pure _) fun _ => Stays.pure _
  refine Stays.bind ((cacheGetOrCreate_cachesOnly _ _ _ hlock _).mono fun _ _ =>
    WorldOrder.browsed_of_cachesOnly) fun _ => ?_
  refine Stays.bind (cacheGet_browsed _ _ _ hlist) fun again => ?_
  split
  · exact Stays.bind (Stays.pure _) fun _ => Stays.pure _
  · exact Stays.bind (scanPrivate_browsed cn hcat) fun found =>
      Stays.bind (cachePut_browsed _ _ _ hlist _) fun _ => Stays.bind (Stays.pure _) fun _ => Stays.pure _

theorem publicImages_browsed (filter : Option ReadyFilter) (hT : T (catalogCache true)) :
    Stays (.browsed T) (cn.publicImages filter) := by
  unfold publicImages
  refine Stays.bind (catalogs_browsed cn true hT) fun cs => ?_
  refine Stays.bind (Stays.forIn _ _ fun catalog found => ?_) fun found => Stays.pure _
  exact Stays.bind (scanCatalog_browsed cn catalog filter) fun _ => Stays.pure _

/-- Looking an image up only reads the platform: it sends GET requests alone,
and writes no cache but those of listings. -/
theorem findImage_browsed (imageId : String) (hlist : T imageListCache) (hlock : T imageListLockCache)
    (hprivate : T (catalogCache false)) (hpublic : T (catalogCache true)) :
    Stays (.browsed T) (cn.findImage imageId) := by
  unfold findImage
  refine Stays.bind (images_browsed cn none hlist hlock hprivate) fun all => ?_
  split
  · exact Stays.pure _
  · exact Stays.bind (publicImages_browsed cn none hpublic) fun _ => Stays.pure _

theorem forgetImages_cachesOnly (hT : T imageListCache) : Stays (.cachesOnly T) cn.forgetImages :=
  cacheDrop_cachesOnly _ _ _ hT

end ImageCatalog.Connection
