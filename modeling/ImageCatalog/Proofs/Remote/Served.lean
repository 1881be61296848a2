import ImageCatalog.Proofs.Remote.Reads

/-!
# Reads of a platform that serves fixed documents

A platform serves documents when every read of an address is answered the same
way each time, with the document of that address or with nothing. Reads of such
a platform are determined: a reader that only reads gives one value, whatever
the order and number of its reads, and the world it leaves serves the same
documents.

* `Reply.Serves`, `Routes.Serves`: a reply serves a document (no document:
  status 403 or 404, or an empty body; a document: a body below status 400 that
  reads as it), and routes serve a document for every address, leaving the
  routes as they were. `Routes.serves_withPages`: routes that answer reads with
  fixed pages serve the pages' documents.
* `Yields P x a`: from every world where `P` holds, `x` succeeds with `a` and
  leaves a world where `P` holds; closed under `pure`, `bind` and the steps of
  a `for` loop. A loop that always goes on yields a fold (`forIn_foldl`), and
  one that stops at the first member passing a test yields a search
  (`forIn_find?`). `Ends P x a Q` lets the last step of a run leave a world
  where another property `Q` holds.
* `Client.getUrl_reply`: a read answered by a reply below status 400, or by
  403 or 404, returns its body or nothing, and only records the request;
  `Client.get_body` is the read of a resource answered by a plain body.
* `Client.getUrl_serves`: a read of a platform that serves documents yields a
  body that reads as the document of the address, or nothing when there is none.
-/

namespace ImageCatalog.Remote

open ImageCatalog.Xml

/-! ## Served documents -/

/-- A reply serves the document `d` to a read: no document when the platform
answers 403 or 404, or an empty body below status 400; the tree `e` when it
answers, below status 400, a body that reads as `e`. -/
def Reply.Serves (r : Reply) : Option Element → Prop
  | none => r.status = 403 ∨ r.status = 404 ∨ (r.status < 400 ∧ r.body = "")
  | some e => r.status < 400 ∧ r.body ≠ "" ∧ parseDocument r.body = .ok e

/-- Routes serve the documents `docs`: every read of an address is answered by a
reply that serves its document, and the answer leaves the routes as they are. -/
def Routes.Serves (rs : Routes) (docs : String → Option Element) : Prop :=
  ∀ url, ∃ r : Reply, rs.answer ("GET " ++ url) = (.reply r, rs) ∧ r.Serves (docs url)

/-- Routes that answer the reads of the addresses of `pages` with their texts,
and other requests as `others` say. A page is an address, a text and the
document that the text reads as. -/
def Routes.withPages (pages : List (String × String × Element)) (others : Routes) : Routes :=
  pages.map (fun p => ("GET " ++ p.1, .fixed (.reply { body := p.2.1 }))) ++ others

/-- The documents of pages: an address has the document of its first page. -/
def pageDocs (pages : List (String × String × Element)) (url : String) : Option Element :=
  (pages.lookup url).map Prod.snd

/-- A read of an address finds the route of its first page. -/
theorem Routes.find?_withPages (pages : List (String × String × Element)) {others : Routes}
    (hothers : ∀ kv ∈ others, ∀ url, kv.1 ≠ "GET " ++ url) (url : String) :
    (Routes.withPages pages others).find? ("GET " ++ url) =
      (pages.lookup url).map fun q => .fixed (.reply { body := q.1 }) := by
  induction pages with
  | nil =>
    -- no other route answers a read
    simp only [withPages, List.map_nil, List.nil_append, find?, List.lookup_nil, Option.map_none,
      Option.map_eq_none_iff, List.find?_eq_none, beq_iff_eq]
    exact fun kv hkv => hothers kv hkv url
  | cons p pages ih =>
    obtain ⟨u, q⟩ := p
    unfold withPages find? at ih ⊢
    rw [List.map_cons, List.cons_append, List.find?_cons, List.lookup_cons]
    by_cases h : u = url
    · subst h
      simp
    · have hkey : ("GET " ++ u == "GET " ++ url) = false :=
        beq_eq_false_iff_ne.2 fun e => h ((String.append_right_inj _).1 e)
      have hurl : (url == u) = false := beq_eq_false_iff_ne.2 (Ne.symm h)
      rw [hkey, hurl]
      exact ih

/-- Routes that answer reads with pages, and answer no read otherwise, serve
the documents of the pages, and no document at other addresses. -/
theorem Routes.serves_withPages (pages : List (String × String × Element)) {others : Routes}
    (hpages : ∀ p ∈ pages, p.2.1 ≠ "" ∧ parseDocument p.2.1 = .ok p.2.2)
    (hothers : ∀ kv ∈ others, ∀ url, kv.1 ≠ "GET " ++ url) :
    (Routes.withPages pages others).Serves (pageDocs pages) := by
  intro url
  have hfind := Routes.find?_withPages pages hothers url
  unfold pageDocs
  cases hq : pages.lookup url with
  | none =>
    rw [hq, Option.map_none] at hfind
    refine ⟨{ status := 404, reason := "Not Found" }, ?_, .inr (.inl rfl)⟩
    simp only [answer, hfind]
    rfl
  | some q =>
    rw [hq, Option.map_some] at hfind
    -- the page found is one of the pages, so its text reads as its document
    obtain ⟨l₁, l₂, hsplit, -⟩ := List.lookup_eq_some_iff.1 hq
    obtain ⟨hne, hparse⟩ := hpages (url, q) (by simp [hsplit])
    refine ⟨{ body := q.1 }, ?_, show (200 : Int) < 400 by decide, hne, hparse⟩
    simp only [answer, hfind]

/-! ## Runs that yield a value -/

/-- From every world where `P` holds, `x` succeeds with `a` and leaves a world
where `P` holds. -/
def Yields {α : Type} (P : World → Prop) (x : Session α) (a : α) : Prop :=
  ∀ w, P w → ∃ w', x.run.run w = (.ok a, w') ∧ P w'

/-- From every world where `P` holds, `x` succeeds with `a` and leaves a world
where `Q` holds: the last step of a run, after which a property other than the
one the run kept may hold. -/
def Ends {α : Type} (P : World → Prop) (x : Session α) (a : α) (Q : World → Prop) : Prop :=
  ∀ w, P w → ∃ w', x.run.run w = (.ok a, w') ∧ Q w'

namespace Yields

variable {P : World → Prop} {α β σ : Type}

theorem pure (a : α) : Yields P (Pure.pure a : Session α) a := fun w hw => ⟨w, rfl, hw⟩

theorem bind {x : Session α} {f : α → Session β} {a : α} {b : β} (hx : Yields P x a) (hf : Yields P (f a) b) :
    Yields P (x >>= f) b := by
  intro w hw
  obtain ⟨w1, hrun, hw1⟩ := hx w hw
  rw [run_bind, hrun]
  exact hf w1 hw1

theorem orFail (a : α) : Yields P (ImageCatalog.Remote.orFail (.ok a)) a := pure a

/-- A run that keeps to an order that keeps `P`, and returns `a` from every
world, yields `a`. -/
theorem of_stays {O : WorldOrder} {x : Session α} {a : α} (hx : Stays O x)
    (hP : ∀ w w', O.rel w w' → P w → P w') (hval : ∀ w, (x.run.run w).1 = .ok a) : Yields P x a :=
  fun w hw => ⟨(x.run.run w).2, Prod.ext (hval w) rfl, hP _ _ (hx w) hw⟩

/-- A loop whose first step goes on with `s'` runs on from `s'`. -/
theorem forIn_yield {x : β} {xs : List β} {s s' : σ} {b : σ} {f : β → σ → Session (ForInStep σ)}
    (hx : Yields P (f x s) (.yield s')) (hrest : Yields P (ForIn.forIn xs s' f) b) :
    Yields P (ForIn.forIn (x :: xs) s f) b := by
  rw [List.forIn_cons]
  exact bind hx hrest

/-- A loop whose first step stops with `s'` ends with `s'`. -/
theorem forIn_done {x : β} {xs : List β} {s s' : σ} {f : β → σ → Session (ForInStep σ)}
    (hx : Yields P (f x s) (.done s')) : Yields P (ForIn.forIn (x :: xs) s f) s' := by
  rw [List.forIn_cons]
  exact bind hx (pure s')

theorem forIn_nil {s : σ} {f : β → σ → Session (ForInStep σ)} : Yields P (ForIn.forIn [] s f) s := pure s

/-- A loop each of whose steps goes on with the state that `g` gives yields the
fold of `g`. -/
theorem forIn_foldl {f : β → σ → Session (ForInStep σ)} {g : σ → β → σ}
    (hf : ∀ x s, Yields P (f x s) (.yield (g s x))) : ∀ (xs : List β) (s : σ),
    Yields P (ForIn.forIn xs s f) (xs.foldl g s)
  | [], _ => forIn_nil
  | x :: xs, s => forIn_yield (hf x s) (forIn_foldl hf xs (g s x))

/-- A search: a loop that, from the state `s`, stops with `d x` at a member
that passes `q` and goes on with `s` past the others ends with `d` of the first
member that passes, or with `s` when none does. -/
theorem forIn_find? (q : β → Bool) (d : β → σ) {f : β → σ → Session (ForInStep σ)} {s : σ}
    (hf : ∀ x, Yields P (f x s) (if q x then .done (d x) else .yield s)) : ∀ xs : List β,
    Yields P (ForIn.forIn xs s f) (((xs.find? q).map d).getD s)
  | [] => forIn_nil
  | x :: xs => by
    have hx := hf x
    by_cases hq : q x
    · rw [if_pos hq] at hx
      rw [List.find?_cons_of_pos hq]
      exact forIn_done hx
    · rw [if_neg hq] at hx
      rw [List.find?_cons_of_neg hq]
      exact forIn_yield hx (forIn_find? q d hf xs)

/-- A run that yields `a` and then ends as `f a` does. -/
theorem bind_ends {Q : World → Prop} {x : Session α} {f : α → Session β} {a : α} {b : β} (hx : Yields P x a)
    (hf : Ends P (f a) b Q) : Ends P (x >>= f) b Q := by
  intro w hw
  obtain ⟨w1, hrun, hw1⟩ := hx w hw
  rw [run_bind, hrun]
  exact hf w1 hw1

end Yields

/-! ## Reads -/

namespace Client

variable (c : Client)

/-- The record of a read of `url`. -/
def readCall (url : String) : Call :=
  { method := "GET", url := url, contentType := none, body := none, timeout := c.timeout, verify := c.verify }

/-- A read that the routes answer with a reply below status 400, or with 403 or
404, and leave as they are, returns the reply's body (nothing for 403, 404 or an
empty body) and only records the request. -/
theorem getUrl_reply {url : String} {w : World} {r : Reply}
    (hans : w.routes.answer ("GET " ++ url) = (.reply r, w.routes))
    (hstatus : r.status < 400 ∨ r.status = 403 ∨ r.status = 404) :
    (c.getUrl url).run.run w =
      (.ok (if r.status = 403 ∨ r.status = 404 ∨ r.body = "" then none else some r.body),
        { w with calls := w.calls.push (c.readCall url) }) := by
  have hreq : (c.request "GET" url).run.run w = (.ok r, { w with calls := w.calls.push (c.readCall url) }) := by
    unfold request
    rw [run_bind, run_exchange]
    simp only [String.append_assoc, String.reduceAppend]
    rw [hans]
    rfl
  unfold getUrl
  rw [run_bind, hreq]
  dsimp only
  by_cases hblocked : r.status = 403 ∨ r.status = 404
  · -- a forbidden or missing resource is no document
    have hb : (r.status == 403 || r.status == 404) = true := by simpa using hblocked
    rw [if_pos hb, if_pos (Or.elim hblocked (fun h => Or.inl h) fun h => Or.inr (Or.inl h))]
    rfl
  · have hb : (r.status == 403 || r.status == 404) = false := by simpa using hblocked
    have hlt : r.status < 400 := by omega
    rw [if_neg (by simp [hb]), run_bind, checkStatus_eq, if_pos hlt]
    by_cases hempty : r.body = ""
    · simp [hempty]
      rfl
    · simp [hempty, hblocked]
      rfl

/-- A read of a resource that the routes answer, and keep, with a non-empty
body at the default status returns the body. -/
theorem get_body {resource id body : String} {w : World} (hbody : body ≠ "")
    (hans : w.routes.answer ("GET " ++ c.toUrl resource id) = (.reply { body := body }, w.routes)) :
    ((c.get resource id).run.run w).1 = .ok (some body) := by
  unfold get
  rw [c.getUrl_reply hans (.inl (show (200 : Int) < 400 by decide))]
  simp [hbody]

/-- A read of a platform that serves documents yields a body that reads as the
document of the address, or nothing when the address has none. It only records
the request, so it keeps any property of worlds on these routes that recording
a request keeps. -/
theorem getUrl_serves {rs : Routes} {docs : String → Option Element} (hs : rs.Serves docs)
    {P : World → Prop} (hroutes : ∀ w, P w → w.routes = rs)
    (hrecord : ∀ w call, P w → P { w with calls := w.calls.push call }) (url : String) :
    ∃ body, Yields P (c.getUrl url) body ∧ body.map parseDocument = (docs url).map .ok := by
  obtain ⟨r, hans, hserve⟩ := hs url
  have hstatus : r.status < 400 ∨ r.status = 403 ∨ r.status = 404 := by
    cases hd : docs url with
    | none =>
      rw [hd] at hserve
      rcases hserve with h | h | h
      · exact .inr (.inl h)
      · exact .inr (.inr h)
      · exact .inl h.1
    | some e =>
      rw [hd] at hserve
      exact .inl hserve.1
  refine ⟨if r.status = 403 ∨ r.status = 404 ∨ r.body = "" then none else some r.body, fun w hw => ?_, ?_⟩
  · have hans' : w.routes.answer ("GET " ++ url) = (.reply r, w.routes) := by rw [hroutes w hw]; exact hans
    exact ⟨_, getUrl_reply c hans' hstatus, hrecord w _ hw⟩
  · cases hd : docs url with
    | none =>
      rw [hd] at hserve
      rw [if_pos (hserve.imp_right fun h => h.imp_right And.right)]
      rfl
    | some e =>
      rw [hd] at hserve
      obtain ⟨hlt, hbody, hparse⟩ := hserve
      have hkept : ¬ (r.status = 403 ∨ r.status = 404 ∨ r.body = "") := by
        rintro (h | h | h)
        · omega
        · omega
        · exact hbody h
      rw [if_neg hkept, Option.map_some, hparse]
      rfl

end Client

end ImageCatalog.Remote
