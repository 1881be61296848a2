import ImageCatalog.Proofs.Remote.Alike

/-!
# Platforms that answer with respelled documents

`World.Respelled w w'` says that the routes of `w'` answer as those of `w`
do: the same keys in the same order, the same statuses, reasons and refused
connections, and bodies that are the same text or documents whose element
names are spelled differently (`SameContent`); the clock, the caches, the
requests made and the headers are the same. A failed reply (status 400 or
above) is the exception: its body is quoted in the fault unless it reports an
error, so there a respelled body must report an `Error` element.

`Agree R x y` says that, run from respelled worlds, `x` and `y` end in
respelled worlds, with results related by `R` or the same fault: it is
`AgreeOn` for platforms alike under `Answer.Respelled` (`agree_iff`).

Main results:

* `Reply.Respelled.checkStatus`: a failed reply fails with the same message.
* `SameContent.parse`: bodies with the same content parse to respelled trees.
* `respelledLikeness`: respelling is a likeness, so every operation of the
  client agrees on respelled platforms.
-/

namespace ImageCatalog.Remote

open ImageCatalog.Xml

/-- Two bodies with the same content: the same text, or two documents whose
trees are respelled. -/
def SameContent (b b' : String) : Prop :=
  b = b' ∨ ∃ e e', parseDocument b = .ok e ∧ parseDocument b' = .ok e' ∧ e.Respelled e'

/-- Two replies alike up to the spelling of element names in their bodies. -/
def Reply.Respelled (r r' : Reply) : Prop :=
  r.status = r'.status ∧ r.reason = r'.reason ∧
    (r.body = r'.body ∨ ∃ e e', parseDocument r.body = .ok e ∧ parseDocument r'.body = .ok e' ∧
      e.Respelled e' ∧ (r.status < 400 ∨ (errorMessage e).isSome))

/-- Two answers alike up to respelling: replies that are, or the same refusal. -/
def Answer.Respelled : Answer → Answer → Prop
  | .reply r, .reply r' => r.Respelled r'
  | .refuse m, .refuse m' => m = m'
  | _, _ => False

/-- Two routes alike up to respelling, answer by answer. -/
def Route.Respelled : Route → Route → Prop
  | .fixed a, .fixed a' => a.Respelled a'
  | .turns as, .turns as' => List.Forall₂ Answer.Respelled as as'
  | _, _ => False

/-- Two route tables with the same keys in the same order, whose routes are
alike up to respelling. -/
def Routes.Respelled (rs rs' : Routes) : Prop :=
  List.Forall₂ (fun kr kr' => kr.1 = kr'.1 ∧ kr.2.Respelled kr'.2) rs rs'

/-- Two worlds that differ at most in how the documents their routes answer
with spell element names. -/
structure World.Respelled (w w' : World) : Prop where
  routes : w.routes.Respelled w'.routes
  clock : w.clock = w'.clock
  caches : w.caches = w'.caches
  calls : w.calls = w'.calls
  headers : w.headers = w'.headers

theorem Reply.Respelled.refl (r : Reply) : r.Respelled r := ⟨rfl, rfl, .inl rfl⟩

theorem Answer.Respelled.refl : ∀ a : Answer, a.Respelled a
  | .reply r => Reply.Respelled.refl r
  | .refuse _ => rfl

/-- Respelled routes are routes alike under `Answer.Respelled`. -/
theorem Route.respelled_eq : Route.Respelled = Route.Alike Answer.Respelled := by
  funext r r'
  cases r <;> cases r' <;> rfl

theorem World.respelled_iff {w w' : World} : w.Respelled w' ↔ World.Alike Answer.Respelled w w' := by
  have hroutes : w.routes.Respelled w'.routes ↔ Routes.Alike Answer.Respelled w.routes w'.routes := by
    unfold Routes.Respelled Routes.Alike
    rw [Route.respelled_eq]
  exact ⟨fun h => ⟨hroutes.1 h.routes, h.clock, h.caches, h.calls, h.headers⟩,
    fun h => ⟨hroutes.2 h.routes, h.clock, h.caches, h.calls, h.headers⟩⟩

/-- Run from respelled worlds, `x` and `y` end in respelled worlds, with
outcomes alike under `R`. -/
def Agree {α β : Type} (R : α → β → Prop) (x : Session α) (y : Session β) : Prop :=
  ∀ w w', w.Respelled w' →
    SameOutcome R (x.run.run w).1 (y.run.run w').1 ∧ (x.run.run w).2.Respelled (y.run.run w').2

theorem agree_iff {α β : Type} {R : α → β → Prop} {x : Session α} {y : Session β} :
    Agree R x y ↔ AgreeOn Answer.Respelled R x y := by
  unfold Agree AgreeOn
  simp only [World.respelled_iff]

/-- A document is never empty text. -/
theorem isEmpty_of_parse {b : String} {e : Element} (h : parseDocument b = .ok e) :
    b.isEmpty = false := by
  cases hb : b.isEmpty
  · rfl
  · rw [String.isEmpty_iff.mp hb] at h
    have hempty : (parseDocument "").isOk = false := by rfl
    rw [h] at hempty
    exact absurd hempty (by simp [Except.isOk, Except.toBool])

/-- An error report always says something. -/
theorem errorMessage_isEmpty {e : Element} {m : String} (h : errorMessage e = some m) :
    m.isEmpty = false := by
  unfold errorMessage at h
  obtain ⟨err, -, rfl⟩ := Option.map_eq_some_iff.mp h
  rw [Bool.eq_false_iff, ne_eq, String.isEmpty_iff, ← String.length_eq_zero_iff,
    String.length_append]
  cases hmsg : (err.attrValue "message").filter (!·.isEmpty) with
  | none => simp
  | some v =>
    have hv : v.isEmpty = false := by simpa using (Option.mem_filter_iff.mp hmsg).2
    simp only [Option.getD_some]
    have : v.length ≠ 0 := by
      intro hlen
      rw [String.length_eq_zero_iff] at hlen
      simp [hlen] at hv
    omega

/-- A failed reply fails with the same message: either its text is kept, or it
reports an error, whose message does not depend on how names are spelled. -/
theorem Reply.Respelled.checkStatus {r r' : Reply} (h : r.Respelled r') (what : String) :
    Client.checkStatus r what = Client.checkStatus r' what := by
  obtain ⟨hstatus, hreason, hbody⟩ := h
  unfold Client.checkStatus
  rw [← hstatus]
  split
  · rfl
  rcases hbody with hsame | ⟨e, e', he, he', hee, hreport⟩
  · rw [← hsame, ← hreason]
  · obtain ⟨m, hm⟩ := Option.isSome_iff_exists.mp (hreport.resolve_left ‹_›)
    have hm' : errorMessage e' = some m := by rw [← errorMessage_respelled hee, hm]
    simp only [isEmpty_of_parse he, isEmpty_of_parse he', he, he', hm, hm',
      errorMessage_isEmpty hm, Bool.false_eq_true, if_false]

/-- Bodies with the same content read as respelled documents, or fail alike. -/
theorem SameContent.parse {b b' : String} (h : SameContent b b') :
    SameOutcome Element.Respelled (parseDocument b) (parseDocument b') := by
  rcases h with rfl | ⟨e, e', he, he', hee⟩
  · cases parseDocument b with
    | ok e => exact Element.Respelled.refl e
    | error f => rfl
  · rw [he, he']
    exact hee

/-- What following a task reads of it: its status, its address and the
message of its error. -/
theorem task_respelled {task task' : Element} (h : task.Respelled task') :
    Client.taskStatus task = Client.taskStatus task' ∧
      task.attrValue "href" = task'.attrValue "href" ∧
      Client.failureDetail task = Client.failureDetail task' := by
  refine ⟨?_, h.attrValue "href" (by decide), ?_⟩
  · simp only [Client.taskStatus, h.attrValue "status" (by decide)]
  · unfold Client.failureDetail
    rw [option_rel_bind_eq (h.firstChild "Error") fun _ _ herr =>
      herr.attrValue "message" (by decide)]

/-- Bodies with the same content are both empty or both not. -/
theorem SameContent.isEmpty {b b' : String} (h : SameContent b b') : b.isEmpty = b'.isEmpty := by
  rcases h with rfl | ⟨e, e', he, he', -⟩
  · rfl
  · rw [isEmpty_of_parse he, isEmpty_of_parse he']

/-- Respelling is a likeness: the client reads respelled platforms alike. -/
theorem respelledLikeness : Likeness Answer.Respelled SameContent Element.Respelled where
  unrouted := Answer.Respelled.refl unrouted
  status h := h.1
  reply_refuse h := h
  refuse_reply h := h
  refuse h := congrArg Redact.redact h
  checkStatus h := Reply.Respelled.checkStatus h
  body h _ := by
    rcases h.2.2 with hsame | ⟨e, e', he, he', hee, -⟩
    · exact .inl hsame
    · exact .inr ⟨e, e', he, he', hee⟩
  isEmpty h := h.isEmpty
  parse h := h.parse
  findTask h := h.findFirst "Task"
  task h := task_respelled h

end ImageCatalog.Remote
