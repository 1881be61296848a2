import ImageCatalog.Proofs.Document.Respelling
import ImageCatalog.Proofs.Platform
import ImageCatalog.Remote.Client

/-!
# Platforms that answer alike

Two platforms answer alike under a relation `A` between answers when their
routes have the same keys in the same order and give related answers, and
their clocks, caches, requests made and headers are the same
(`World.Alike A`). `AgreeOn A R x y` says that, run on platforms alike under
`A`, `x` and `y` end on platforms alike under `A`, with results related by `R`
or the same fault. It is closed under `pure`, `throw`, `bind` and `for` loops
over lists related one by one.

What the client reads of an answer is given by a `Likeness` of `A`: a reply is
related only to a reply with the same status, and the two fail the status
check alike; a refusal only to a refusal whose text redacts alike; successful
replies have bodies related by `B`, which read as documents related by `E`,
whose tasks have the same status, address and failure message.

Main results, for any likeness:

* `Routes.Alike.answer`: routes alike answer a request alike.
* `AgreeOn.request`, `AgreeOn.getUrl`, `AgreeOn.post`: a request fails with the
  same fault or answers related replies, and reads and posts give related
  bodies.
* `AgreeOn.waitFor`, `AgreeOn.delete`: a task is followed alike, poll by poll,
  and a deletion waits for its task alike.
-/

namespace ImageCatalog.Remote

open ImageCatalog.Xml

/-- Two routes whose answers are related by `A`, answer by answer. -/
def Route.Alike (A : Answer → Answer → Prop) : Route → Route → Prop
  | .fixed a, .fixed a' => A a a'
  | .turns as, .turns as' => List.Forall₂ A as as'
  | _, _ => False

/-- Two route tables with the same keys in the same order, whose routes are
related by `A`. -/
def Routes.Alike (A : Answer → Answer → Prop) (rs rs' : Routes) : Prop :=
  List.Forall₂ (fun kr kr' => kr.1 = kr'.1 ∧ Route.Alike A kr.2 kr'.2) rs rs'

/-- Two worlds whose routes answer alike under `A`, and that are the same in
everything else. -/
structure World.Alike (A : Answer → Answer → Prop) (w w' : World) : Prop where
  routes : Routes.Alike A w.routes w'.routes
  clock : w.clock = w'.clock
  caches : w.caches = w'.caches
  calls : w.calls = w'.calls
  headers : w.headers = w'.headers

variable {A : Answer → Answer → Prop}

namespace Routes.Alike

variable {rs rs' : Routes}

theorem find? (h : Routes.Alike A rs rs') (key : String) :
    Option.Rel (Route.Alike A) (rs.find? key) (rs'.find? key) :=
  option_rel_map (forall₂_find? (fun a b hab => by rw [hab.1]) h) fun _ _ hab => hab.2

theorem any_key (h : Routes.Alike A rs rs') (key : String) :
    rs.any (·.1 == key) = rs'.any (·.1 == key) := by
  induction h with
  | nil => rfl
  | cons hab _ ih => simp only [List.any_cons, hab.1, ih]

theorem put (h : Routes.Alike A rs rs') (key : String) {r r' : Route} (hr : Route.Alike A r r') :
    Routes.Alike A (rs.put key r) (rs'.put key r') := by
  unfold Routes.put
  rw [h.any_key key]
  split
  · refine List.rel_map (fun kr kr' hk => ?_) h
    rw [hk.1]
    split
    · exact ⟨rfl, hr⟩
    · exact hk
  · exact List.rel_append h (List.Forall₂.cons ⟨rfl, hr⟩ List.Forall₂.nil)

theorem erase (h : Routes.Alike A rs rs') (key : String) : Routes.Alike A (rs.erase key) (rs'.erase key) :=
  List.rel_filter (fun kr kr' hk => show (kr.1 != key) = true ↔ (kr'.1 != key) = true by rw [hk.1]) h

/-- Related routes hold the same number of answers. -/
theorem size (h : Routes.Alike A rs rs') : rs.size = rs'.size := by
  unfold Routes.size
  refine List.rel_foldl (fun n n' hn kr kr' hk => ?_) rfl h
  subst hn
  obtain ⟨_, hr⟩ := hk
  obtain ⟨_, r⟩ := kr
  obtain ⟨_, r'⟩ := kr'
  cases r <;> cases r'
  · rfl
  · exact hr.elim
  · exact hr.elim
  · simp only [List.Forall₂.length_eq hr]

/-- Related routes answer a request alike and are related afterwards, when a
request without a route answers alike. -/
theorem answer (hu : A unrouted unrouted) (h : Routes.Alike A rs rs') (key : String) :
    A (rs.answer key).1 (rs'.answer key).1 ∧ Routes.Alike A (rs.answer key).2 (rs'.answer key).2 := by
  unfold Routes.answer
  have hf := h.find? key
  generalize rs.find? key = o at hf ⊢
  generalize rs'.find? key = o' at hf ⊢
  cases hf with
  | none => exact ⟨hu, h⟩
  | @some r r' hr =>
    cases r <;> cases r'
    case fixed.fixed => exact ⟨hr, h⟩
    case fixed.turns => exact hr.elim
    case turns.fixed => exact hr.elim
    case turns.turns as as' =>
      -- the last answer of a turn list stays; an earlier one is used up
      cases hr with
      | nil => exact ⟨hu, h⟩
      | cons ha hrest =>
        cases hrest with
        | nil => exact ⟨ha, h⟩
        | cons hb hmore => exact ⟨ha, h.put key (List.Forall₂.cons hb hmore)⟩

end Routes.Alike

/-! ## Operations that agree on platforms alike -/

/-- Outcomes alike: values related by `R`, or the same fault. -/
def SameOutcome {α β : Type} (R : α → β → Prop) : Except Fault α → Except Fault β → Prop
  | .ok a, .ok b => R a b
  | .error e, .error e' => e = e'
  | _, _ => False

theorem SameOutcome.refl {α : Type} (x : Except Fault α) : SameOutcome Eq x x := by
  cases x <;> rfl

/-- Options related by equality are equal. -/
theorem option_rel_eq {α : Type} {o o' : Option α} (h : Option.Rel Eq o o') : o = o' := by
  cases h with
  | none => rfl
  | some h => rw [h]

theorem option_rel_eq_refl {α : Type} (o : Option α) : Option.Rel Eq o o := by
  cases o with
  | none => exact .none
  | some a => exact .some rfl

/-- Run on platforms alike under `A`, `x` and `y` end on platforms alike under
`A`, with outcomes alike under `R`. -/
def AgreeOn {α β : Type} (A : Answer → Answer → Prop) (R : α → β → Prop) (x : Session α)
    (y : Session β) : Prop :=
  ∀ w w', World.Alike A w w' →
    SameOutcome R (x.run.run w).1 (y.run.run w').1 ∧ World.Alike A (x.run.run w).2 (y.run.run w').2

namespace AgreeOn

variable {α β γ δ : Type} {R : α → β → Prop} {S : γ → δ → Prop}

theorem pure {a : α} {b : β} (h : R a b) : AgreeOn A R (pure a) (pure b) :=
  fun _ _ hw => ⟨h, hw⟩

theorem throw (e : Fault) : AgreeOn A R (throw e : Session α) (throw e : Session β) :=
  fun _ _ hw => ⟨rfl, hw⟩

theorem bind {x : Session α} {y : Session β} {f : α → Session γ} {g : β → Session δ}
    (hx : AgreeOn A R x y) (hf : ∀ a b, R a b → AgreeOn A S (f a) (g b)) :
    AgreeOn A S (x >>= f) (y >>= g) := by
  intro w w' hw
  have hrun := hx w w' hw
  rw [run_bind, run_bind]
  revert hrun
  rcases x.run.run w with ⟨r, v⟩
  rcases y.run.run w' with ⟨r', v'⟩
  rintro ⟨hout, hv⟩
  cases r <;> cases r'
  case error.error => exact ⟨hout, hv⟩
  case error.ok => exact hout.elim
  case ok.error => exact hout.elim
  case ok.ok => exact hf _ _ hout v v' hv

theorem mono {R' : α → β → Prop} {x : Session α} {y : Session β} (h : AgreeOn A R x y)
    (hrs : ∀ a b, R a b → R' a b) : AgreeOn A R' x y := by
  intro w w' hw
  obtain ⟨hout, hend⟩ := h w w' hw
  refine ⟨?_, hend⟩
  revert hout
  cases (x.run.run w).1 <;> cases (y.run.run w').1
  case ok.ok a b => exact hrs a b
  all_goals exact id

/-- A failure is a failure whatever follows it. -/
theorem throw_bind (e : Fault) (f : α → Session γ) (g : β → Session δ) :
    AgreeOn A S (MonadExcept.throw e >>= f) (MonadExcept.throw e >>= g) :=
  fun _ _ hw => ⟨rfl, hw⟩

theorem orFail {x : Except Fault α} {y : Except Fault β} (h : SameOutcome R x y) :
    AgreeOn A R (orFail x) (orFail y) := by
  cases x <;> cases y
  case error.error => exact fun _ _ hw => ⟨h, hw⟩
  case error.ok => exact h.elim
  case ok.error => exact h.elim
  case ok.ok => exact pure h

theorem now : AgreeOn A Eq now now := fun _ _ hw => ⟨hw.clock, hw⟩

theorem sleep (seconds : Int) : AgreeOn A Eq (sleep seconds) (sleep seconds) := fun w w' hw =>
  ⟨rfl, ⟨hw.routes, show w.clock + seconds = w'.clock + seconds by rw [hw.clock], hw.caches,
    hw.calls, hw.headers⟩⟩

theorem world : AgreeOn A (World.Alike A) (getThe World) (getThe World) := fun _ _ hw => ⟨hw, hw⟩

/-- Loops over lists related one by one, with bodies that agree on related
elements and equal states, agree. -/
theorem forIn {σ : Type} {xs : List α} {ys : List β} (hxy : List.Forall₂ R xs ys) (init : σ)
    {f : α → σ → Session (ForInStep σ)} {g : β → σ → Session (ForInStep σ)}
    (hfg : ∀ a b, R a b → ∀ s, AgreeOn A Eq (f a s) (g b s)) :
    AgreeOn A Eq (ForIn.forIn xs init f) (ForIn.forIn ys init g) := by
  induction hxy generalizing init with
  | nil => exact pure rfl
  | cons hab _ ih =>
    rw [List.forIn_cons, List.forIn_cons]
    refine bind (hfg _ _ hab init) fun step step' hstep => ?_
    subst hstep
    cases step with
    | done s => exact pure rfl
    | yield s => exact ih s

end AgreeOn

/-! ## What the client reads of an answer -/

theorem run_exchange (call : Call) (w : World) :
    (exchange call).run.run w =
      let ar := w.routes.answer (call.method ++ " " ++ call.url)
      (.ok ar.1, { w with
        routes := match call.method, ar.1 with
          | "DELETE", .reply r => if r.status < 400 then ar.2.erase ("GET " ++ call.url) else ar.2
          | _, _ => ar.2,
        calls := w.calls.push call }) := rfl

namespace Client

/-- A reply below 400 passes the status check. -/
theorem checkStatus_of_lt {r : Reply} (h : r.status < 400) (what : String) :
    checkStatus r what = Pure.pure () := by
  unfold checkStatus
  rw [if_pos h]

/-- A reply of 400 or above fails the status check. -/
theorem checkStatus_fails {r : Reply} (h : ¬r.status < 400) (what : String) :
    ∃ e, checkStatus r what = MonadExcept.throw e := by
  unfold checkStatus
  rw [if_neg h]
  exact ⟨_, rfl⟩

end Client

/-- What the client needs of a relation `A` between answers, with a relation
`B` between the bodies of successful replies and a relation `E` between the
documents they hold, for its operations to agree on platforms alike under
`A`. -/
structure Likeness (A : Answer → Answer → Prop) (B : String → String → Prop)
    (E : Element → Element → Prop) : Prop where
  /-- A request without a route answers alike. -/
  unrouted : A unrouted unrouted
  /-- Related replies have the same status. -/
  status : ∀ {r r' : Reply}, A (.reply r) (.reply r') → r.status = r'.status
  /-- A reply is never related to a refusal. -/
  reply_refuse : ∀ {r : Reply} {m : String}, ¬A (.reply r) (.refuse m)
  /-- A refusal is never related to a reply. -/
  refuse_reply : ∀ {m : String} {r : Reply}, ¬A (.refuse m) (.reply r)
  /-- Related refusals have texts that redact alike. -/
  refuse : ∀ {m m' : String}, A (.refuse m) (.refuse m') → Redact.redact m = Redact.redact m'
  /-- Related replies pass or fail the status check alike. -/
  checkStatus : ∀ {r r' : Reply}, A (.reply r) (.reply r') → ∀ what,
    Client.checkStatus r what = Client.checkStatus r' what
  /-- Related successful replies have related bodies. -/
  body : ∀ {r r' : Reply}, A (.reply r) (.reply r') → r.status < 400 → B r.body r'.body
  /-- Related bodies are both empty or both not. -/
  isEmpty : ∀ {b b' : String}, B b b' → b.isEmpty = b'.isEmpty
  /-- Related bodies read as related documents, or fail alike. -/
  parse : ∀ {b b' : String}, B b b' → SameOutcome E (parseDocument b) (parseDocument b')
  /-- Related documents have related first tasks. -/
  findTask : ∀ {e e' : Element}, E e e' → Option.Rel E (e.findFirst "Task") (e'.findFirst "Task")
  /-- Related tasks have the same status, address and failure message. -/
  task : ∀ {t t' : Element}, E t t' → Client.taskStatus t = Client.taskStatus t' ∧
    t.attrValue "href" = t'.attrValue "href" ∧ Client.failureDetail t = Client.failureDetail t'

namespace AgreeOn

variable {γ δ : Type} {S : γ → δ → Prop} {B : String → String → Prop} {E : Element → Element → Prop}
  (hl : Likeness A B E)
include hl

/-- Platforms alike answer a request alike, and stay alike. -/
theorem exchange (call : Call) : AgreeOn A A (exchange call) (exchange call) := by
  intro w w' hw
  rw [run_exchange, run_exchange]
  obtain ⟨ha, hrs⟩ := hw.routes.answer hl.unrouted (call.method ++ " " ++ call.url)
  refine ⟨ha, ⟨?_, hw.clock, hw.caches, by rw [hw.calls], hw.headers⟩⟩
  dsimp only
  generalize (w.routes.answer (call.method ++ " " ++ call.url)) = ar at ha hrs ⊢
  generalize (w'.routes.answer (call.method ++ " " ++ call.url)) = ar' at ha hrs ⊢
  obtain ⟨a, rs⟩ := ar
  obtain ⟨a', rs'⟩ := ar'
  -- a delete that succeeds drops the route that reads the same address, on both sides
  generalize call.method = meth
  by_cases hm : meth = "DELETE"
  · subst hm
    cases a <;> cases a'
    case reply.reply r r' =>
      show Routes.Alike A (if r.status < 400 then rs.erase _ else rs)
        (if r'.status < 400 then rs'.erase _ else rs')
      rw [hl.status ha]
      split
      · exact hrs.erase _
      · exact hrs
    case reply.refuse => exact (hl.reply_refuse ha).elim
    case refuse.reply => exact (hl.refuse_reply ha).elim
    case refuse.refuse => exact hrs
  · -- any other request keeps the routes: the delete branch of each side contradicts `hm`
    dsimp only
    split
    · exact absurd rfl hm
    · split
      · exact absurd rfl hm
      · exact hrs

/-- A request answers related replies, or fails with the same fault: a refused
connection is quoted redacted. -/
theorem request (c : Client) (method url : String) (body mediaType : Option String) :
    AgreeOn A (fun r r' => A (.reply r) (.reply r')) (c.request method url body mediaType)
      (c.request method url body mediaType) := by
  unfold Client.request
  refine bind (exchange hl _) fun a a' ha => ?_
  cases a <;> cases a'
  case reply.reply => exact pure ha
  case reply.refuse => exact (hl.reply_refuse ha).elim
  case refuse.reply => exact (hl.refuse_reply ha).elim
  case refuse.refuse m m' =>
    simp only [cloudFault, hl.refuse ha]
    exact throw _

/-- Related replies pass the status check and go on with related bodies, or
fail it with the same fault. -/
theorem checkStatus_then {r r' : Reply} (h : A (.reply r) (.reply r')) (what : String)
    {f : Unit → Session γ} {g : Unit → Session δ}
    (hfg : B r.body r'.body → AgreeOn A S (f ()) (g ())) :
    AgreeOn A S (Client.checkStatus r what >>= f) (Client.checkStatus r' what >>= g) := by
  by_cases hs : r.status < 400
  · -- both pass, and only successful replies have related bodies
    rw [Client.checkStatus_of_lt hs, Client.checkStatus_of_lt (hl.status h ▸ hs), pure_bind, pure_bind]
    exact hfg (hl.body h hs)
  · obtain ⟨e, he⟩ := Client.checkStatus_fails hs what
    rw [← hl.checkStatus h what, he]
    exact throw_bind e f g

/-- A resource reads as related bodies, or fails alike. -/
theorem getUrl (c : Client) (url : String) : AgreeOn A (Option.Rel B) (c.getUrl url) (c.getUrl url) := by
  unfold Client.getUrl
  refine bind (request hl c "GET" url none none) fun r r' h => ?_
  rw [← hl.status h]
  split
  · exact pure Option.Rel.none
  refine checkStatus_then hl h _ fun hb => ?_
  rw [hl.isEmpty hb]
  split
  · exact pure Option.Rel.none
  · exact pure (Option.Rel.some hb)

theorem get (c : Client) (resource id : String) :
    AgreeOn A (Option.Rel B) (c.get resource id) (c.get resource id) :=
  getUrl hl c _

/-- A post answers related bodies, or fails alike. -/
theorem post (c : Client) (action url mediaType body : String) :
    AgreeOn A B (c.post action url mediaType body) (c.post action url mediaType body) := by
  unfold Client.post
  refine bind (request hl c "POST" url (some body) (some mediaType)) fun r r' h => ?_
  exact checkStatus_then hl h _ fun hb => pure hb

/-- Related tasks are followed alike. -/
theorem followTask (c : Client) (deadline : Int) (fuel : Nat) {t t' : Option Element}
    (ht : Option.Rel E t t') :
    AgreeOn A Eq (c.followTask deadline fuel t) (c.followTask deadline fuel t') := by
  -- the fuel bounds the polls; each poll reads related bodies
  induction fuel using Nat.strongRecOn generalizing t t' with
  | _ fuel ih =>
    cases ht with
    | none =>
      rw [Client.followTask.eq_1]
      exact pure rfl
    | some h =>
      obtain ⟨hs, hhref, hdetail⟩ := hl.task h
      rw [Client.followTask.eq_2, Client.followTask.eq_2]
      simp only [hs, hhref, hdetail]
      split
      · exact pure rfl
      split
      · exact throw_bind _ _ _
      split
      · exact pure rfl
      refine bind now fun now now' hnow => ?_
      subst hnow
      split
      · exact throw_bind _ _ _
      cases fuel with
      | zero => exact throw _
      | succ fuel =>
        refine bind (sleep _) fun _ _ _ => ?_
        refine bind (getUrl hl c _) fun found found' hfound => ?_
        cases hfound with
        | none => exact throw _
        | some hbody =>
          exact bind (orFail (hl.parse hbody)) fun _ _ hroot =>
            ih fuel (Nat.lt_succ_self fuel) (hl.findTask hroot)

/-- The tasks of related replies are waited for alike. -/
theorem waitFor (c : Client) {response response' : Option String} (h : Option.Rel B response response') :
    AgreeOn A Eq (c.waitFor response) (c.waitFor response') := by
  unfold Client.waitFor
  cases h with
  | none => exact pure rfl
  | @some b b' hb =>
    simp only [hl.isEmpty hb]
    split
    · exact pure rfl
    refine bind (orFail (hl.parse hb)) fun root root' hroot => ?_
    refine bind now fun t t' ht => ?_
    subst ht
    refine bind world fun w w' hw => ?_
    rw [hw.routes.size]
    exact followTask hl c _ _ (hl.findTask hroot)

/-- A deletion fails alike, or waits alike for the task it starts. -/
theorem delete (c : Client) (resource id : String) :
    AgreeOn A Eq (c.delete resource id) (c.delete resource id) := by
  unfold Client.delete
  refine bind (request hl c "DELETE" _ none none) fun r r' h => ?_
  rw [← hl.status h]
  split
  · exact throw_bind _ _ _
  · exact checkStatus_then hl h _ fun hb => waitFor hl c (Option.Rel.some hb)

end AgreeOn

end ImageCatalog.Remote
