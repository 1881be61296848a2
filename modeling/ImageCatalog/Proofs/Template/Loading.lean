import ImageCatalog.Proofs.Image.Tags
import ImageCatalog.Proofs.Remote.Reads

/-!
# Loading a vApp template

`Connection.loadVapp` reads a vApp template and makes it an image. Its
sections are handed, in document order, to the reader registered under their
local name (`Element.dispatch`), and each reader adds to `TemplateFacts`. Of
those facts the loader itself looks at four: the name (taken from the
template's `name` attribute), the description and the creation time (the
last non-empty text of a section of that name wins), and whether a storage
lease has run out (any lease section may say so). The other readers, of the
VMs and the network configuration, leave these four alone
(`TemplateFacts.headline`).

Results:

* `Element.foldl_dispatch_field`: a value that only one reader changes is
  the fold of that reader over the children of its name.
* `TemplateFacts.readTemplate_description`, `readTemplate_createdAt`,
  `readTemplate_expired_iff`: the last description, the last creation time,
  and `LeaseRunOut`.
* `TemplateFacts.toImage_loadedFrom`: the image of those facts, with the
  caller's fallbacks, is the one `Image.LoadedFrom` describes.
* `Connection.loadVapp_outcome`: no image exactly when the template is
  missing or its lease has run out, a fault exactly when it cannot be read,
  and otherwise the image that `Image.LoadedFrom` describes.
-/

namespace ImageCatalog

open ImageCatalog.Xml ImageCatalog.Remote ImageCatalog.Text

namespace Xml.Element

variable {α : Type}

/-- A child handled by `a` is named by a key that `a` is registered under. -/
theorem named_of_handlerFor {handlers : List (String × α)} {c : Element} {a : α}
    (h : handlerFor handlers c = some a) : ∃ k, (k, a) ∈ handlers ∧ c.named k := by
  obtain ⟨⟨k, a'⟩, hfind, rfl⟩ := Option.map_eq_some_iff.mp h
  refine ⟨k, List.mem_reverse.mp (List.mem_of_find?_eq_some hfind), ?_⟩
  have hkey := List.find?_some hfind
  simp only [named, beq_iff_eq] at hkey ⊢
  exact hkey.symm

/-- A child named by a key of `a` is handled by `a`, when no other handler is
registered under the same name in another letter case. -/
theorem handlerFor_of_named {handlers : List (String × α)} {c : Element} {k : String} {a : α}
    (hk : (k, a) ∈ handlers) (hc : c.named k)
    (hu : ∀ k' a', (k', a') ∈ handlers → lower k' = lower k → a' = a) :
    handlerFor handlers c = some a := by
  unfold named at hc
  have hsome : (handlers.reverse.find? (fun h => lower h.1 == lower c.name.localPart)).isSome := by
    rw [List.find?_isSome]
    refine ⟨(k, a), List.mem_reverse.mpr hk, ?_⟩
    simp only [beq_iff_eq] at hc ⊢
    exact hc.symm
  obtain ⟨⟨k', a'⟩, hfind⟩ := Option.isSome_iff_exists.mp hsome
  have hkey := List.find?_some hfind
  simp only [beq_iff_eq] at hkey hc
  rw [handlerFor, hfind, hu k' a' (List.mem_reverse.mp (List.mem_of_find?_eq_some hfind)) (hkey.trans hc)]
  rfl

/-- With handlers registered under the keys of distinct kinds, no two of them
alike in any letter case, a child is handled as the kind whose key names it. -/
theorem handlerFor_keyed_iff (key : α → String) {parts : List α}
    (hinj : ∀ p ∈ parts, ∀ q ∈ parts, lower (key p) = lower (key q) → p = q)
    (c : Element) {p : α} (hp : p ∈ parts) :
    handlerFor (parts.map fun q => (key q, q)) c = some p ↔ c.named (key p) := by
  constructor
  · intro h
    obtain ⟨k, hk, hc⟩ := named_of_handlerFor h
    obtain ⟨q, -, hq⟩ := List.mem_map.mp hk
    obtain ⟨rfl, rfl⟩ := Prod.mk.inj hq
    exact hc
  · intro hc
    refine handlerFor_of_named (List.mem_map.mpr ⟨p, hp, rfl⟩) hc fun k' a' hmem hlow => ?_
    obtain ⟨q, hq, hqk⟩ := List.mem_map.mp hmem
    obtain ⟨rfl, rfl⟩ := Prod.mk.inj hqk
    exact hinj q hq p hp hlow

/-- Folding the handled children of an element, a value that only the children
handled by `a` change is the fold of the children named by `a`'s key. -/
theorem foldl_dispatch_field {β γ : Type} {handlers : List (String × α)} {k : String} {a : α}
    (hk : ∀ c : Element, handlerFor handlers c = some a ↔ c.named k) (F : γ → β)
    {s : γ → α × Element → γ} {g : β → Element → β}
    (hs : ∀ x sec, F (s x (a, sec)) = g (F x) sec)
    (hother : ∀ x a' sec, a' ≠ a → F (s x (a', sec)) = F x) (e : Element) (x : γ) :
    F ((e.dispatch handlers).foldl s x) = (e.childrenNamed k).foldl g (F x) := by
  unfold dispatch childrenNamed
  induction e.children generalizing x with
  | nil => rfl
  | cons c cs ih =>
    cases hh : handlerFor handlers c with
    | none =>
      -- an unhandled child is not named by the key
      have hn : c.named k = false := by
        cases hc : c.named k
        · rfl
        · rw [(hk c).mpr hc] at hh
          cases hh
      simp only [List.filterMap_cons, hh, Option.map_none, List.filter_cons, hn]
      exact ih x
    | some a' =>
      simp only [List.filterMap_cons, hh, Option.map_some, List.foldl_cons, List.filter_cons]
      by_cases ha : a' = a
      · subst ha
        rw [if_pos ((hk c).mp hh), List.foldl_cons, ih, hs]
      · have hn : c.named k = false := by
          cases hc : c.named k
          · rfl
          · rw [(hk c).mpr hc] at hh
            exact absurd (Option.some.inj hh).symm ha
        rw [hn, if_neg Bool.false_ne_true, ih, hother x a' c ha]

end Xml.Element

/-- The last non-empty trimmed text of the direct children of `t` named `n`. -/
def Xml.Element.lastText (t : Element) (n : String) : Option String :=
  ((t.childrenNamed n).filterMap fun c => textOf (some c)).getLast?

/-- A text of an element is never empty. -/
theorem textOf_isEmpty {e : Option Element} {v : String} (h : textOf e = some v) : v.isEmpty = false := by
  rcases e with _ | e
  · cases h
  · simp only [textOf] at h
    split at h
    · cases h
    · next t _ =>
      by_cases hv : (trim t).isEmpty
      · simp [hv] at h
      · simp only [hv, Bool.false_eq_true, if_false, Option.some.injEq] at h
        rw [← h]
        simpa using hv

/-- The last text of the children of a name is given: it is not empty. -/
theorem given_lastText (t : Element) (n : String) : given (t.lastText n) = t.lastText n := by
  cases hlast : t.lastText n with
  | none => rfl
  | some v =>
    obtain ⟨c, -, hc⟩ := List.mem_filterMap.mp (List.mem_of_getLast? hlast)
    simp [given, textOf_isEmpty hc]

theorem given_given (s : Option String) : given (given s) = given s := by
  simp [given]

/-- Whether the storage lease that a lease section gives has run out before
`nowMs`: a lease section without an expiry never runs out. -/
def leaseOver (nowMs : Int) (sec : Element) : Bool :=
  match textOf (sec.firstChild "StorageLeaseExpiration") with
  | some e => decide (millisOf e < nowMs)
  | none => false

/-- A lease section has run out before `nowMs` when its first expiry has a
text read as a time before `nowMs`. -/
theorem leaseOver_eq_true (nowMs : Int) (sec : Element) :
    leaseOver nowMs sec = true ↔
      ∃ e, textOf (sec.firstChild "StorageLeaseExpiration") = some e ∧ millisOf e < nowMs := by
  unfold leaseOver
  cases textOf (sec.firstChild "StorageLeaseExpiration") <;> simp

/-- A template whose storage lease has run out before `nowMs`: one of its
lease sections has a first expiry with a text, read as a time (`0` when it
cannot be read) before `nowMs`. -/
def LeaseRunOut (nowMs : Int) (t : Element) : Prop :=
  ∃ sec ∈ t.childrenNamed "LeaseSettingsSection", ∃ e,
    textOf (sec.firstChild "StorageLeaseExpiration") = some e ∧ millisOf e < nowMs

/-- The creation time a template gives: its last dated creation, `0` when it
has none. -/
def createdStamp (t : Element) : Int := ((t.lastText "DateCreated").map millisOf).getD 0

/-- Folding "the last value given wins" keeps the last value given. -/
theorem foldl_last {α β γ : Type} (g : α → Option γ) (φ : γ → β) (cs : List α) (b : β) :
    cs.foldl (fun b c => ((g c).map φ).getD b) b =
      ((cs.filterMap g).getLast?.map φ).getD b := by
  induction cs generalizing b with
  | nil => rfl
  | cons c cs ih =>
    rw [List.foldl_cons, ih, List.filterMap_cons]
    cases hc : g c with
    | none => rfl
    | some v =>
      dsimp only
      rw [List.getLast?_cons]
      cases (cs.filterMap g).getLast? <;> rfl

/-- A fold whose every step keeps a view of its state keeps that view. -/
theorem foldl_view_fixed {α β γ : Type} (F : α → γ) {s : α → β → α} (hs : ∀ a b, F (s a b) = F a)
    (l : List β) (a : α) : F (l.foldl s a) = F a := by
  have hhom : l.foldl (fun y _ => y) (F a) = F (l.foldl s a) := List.foldl_hom F fun x b => (hs x b).symm
  rw [← hhom, List.foldl_fixed]

/-- Folding "or" over a list asks whether any member holds. -/
theorem foldl_or {α : Type} (p : α → Bool) (cs : List α) (b : Bool) :
    cs.foldl (fun b c => b || p c) b = (b || cs.any p) := by
  induction cs generalizing b with
  | nil => simp
  | cons c cs ih => simp [ih, Bool.or_assoc]

namespace TemplatePart

/-- The local name that a template's sections of this kind are read under. -/
def key : TemplatePart → String
  | .description => "Description"
  | .networkConfig => "NetworkConfigSection"
  | .children => "Children"
  | .dateCreated => "DateCreated"
  | .lease => "LeaseSettingsSection"

/-- No two kinds of section are read under one name, in any letter case. -/
theorem lower_key_inj {p q : TemplatePart} (h : lower p.key = lower q.key) : p = q := by
  cases p <;> cases q <;> simp [key, lower, ← String.toList_inj, String.toList_map] at h ⊢

/-- A section of a template is read as the kind whose name it has. -/
theorem handlerFor_iff (c : Element) (p : TemplatePart) :
    Element.handlerFor [("Description", TemplatePart.description), ("NetworkConfigSection", .networkConfig),
      ("Children", .children), ("DateCreated", .dateCreated), ("LeaseSettingsSection", .lease)] c = some p ↔
      c.named p.key := by
  have hlist : [("Description", TemplatePart.description), ("NetworkConfigSection", .networkConfig),
      ("Children", .children), ("DateCreated", .dateCreated), ("LeaseSettingsSection", .lease)] =
      [TemplatePart.description, .networkConfig, .children, .dateCreated, .lease].map fun q => (q.key, q) := rfl
  rw [hlist]
  exact Element.handlerFor_keyed_iff key (fun _ _ _ _ h => lower_key_inj h) c (by cases p <;> simp)

end TemplatePart

namespace TemplateFacts

/-- What the loader keeps of the facts besides the image's other fields: its
name, description and creation time, and whether a lease has run out. -/
def headline (f : TemplateFacts) : TemplateFacts :=
  { name := f.name, description := f.description, createdAt := f.createdAt, expired := f.expired }

/-- A fold whose every step keeps the headline keeps it. -/
theorem foldl_headline {β : Type} {s : TemplateFacts → β → TemplateFacts}
    (hs : ∀ g x, (s g x).headline = g.headline) (l : List β) (f : TemplateFacts) :
    (l.foldl s f).headline = f.headline :=
  foldl_view_fixed headline hs l f

/-- The VMs of a template say nothing of its headline. -/
theorem readVm_headline (f : TemplateFacts) (vm : Element) (firstVm : Bool) :
    (f.readVm vm firstVm).headline = f.headline := by
  unfold readVm
  refine foldl_headline (fun g ps => ?_) _ f
  obtain ⟨part, sec⟩ := ps
  cases part with
  | product =>
    refine foldl_headline (fun g p => ?_) _ g
    cases textOf (some p) with
    | none => rfl
    | some v => dsimp only; split <;> rfl
  | os =>
    refine foldl_headline (fun g d => ?_) _ g
    dsimp only
    cases textOf (some d) with
    | none => rfl
    | some v => dsimp only; split <;> split <;> rfl
  | connections => dsimp only; split <;> rfl

theorem readChildren_headline (f : TemplateFacts) (c : Client) (sec : Element) :
    (f.readChildren c sec).headline = f.headline := by
  unfold readChildren
  refine foldl_headline (fun g vm => ?_) _ f
  dsimp only
  rw [readVm_headline]
  cases vm.target <;> rfl

theorem readNetworkConfig_headline (f : TemplateFacts) (sec : Element) :
    (f.readNetworkConfig sec).headline = f.headline := by
  unfold readNetworkConfig
  refine foldl_headline (fun g config => ?_) _ f
  refine (foldl_headline (fun g conf => ?_) _ _).trans rfl
  split <;> rfl

theorem readLease_headline (f : TemplateFacts) (nowMs : Int) (sec : Element) :
    (f.readLease nowMs sec).headline = { f.headline with expired := f.expired || leaseOver nowMs sec } := by
  unfold readLease leaseOver
  cases textOf (sec.firstChild "StorageLeaseExpiration") with
  | none => simp [headline]
  | some e =>
    by_cases hlt : millisOf e < nowMs
    · simp [hlt, headline]
    · simp [hlt, headline]

variable (f : TemplateFacts) (c : Client) (nowMs : Int) (t : Element)

theorem readTemplate_name : (f.readTemplate c nowMs t).name = f.name := by
  unfold readTemplate
  rw [Element.foldl_dispatch_field (fun sec => TemplatePart.handlerFor_iff sec .description) name
    (g := fun b _ => b), List.foldl_fixed]
  · intro x sec
    dsimp only
    cases textOf (some sec) <;> rfl
  · intro x a' sec _
    cases a' with
    | description | dateCreated => dsimp only; cases textOf (some sec) <;> rfl
    | networkConfig => exact (congrArg name (readNetworkConfig_headline x sec) :)
    | children => exact (congrArg name (readChildren_headline x c sec) :)
    | lease => exact (congrArg name (readLease_headline x nowMs sec) :)

/-- The description of a template is the text of its last described
description, or the one the facts had. -/
theorem readTemplate_description :
    (f.readTemplate c nowMs t).description = (t.lastText "Description").or f.description := by
  unfold readTemplate
  rw [Element.foldl_dispatch_field (fun sec => TemplatePart.handlerFor_iff sec .description) description
    (g := fun d sec => ((textOf (some sec)).map some).getD d), foldl_last]
  · change ((t.lastText "Description").map some).getD f.description = _
    cases t.lastText "Description" <;> rfl
  · intro x sec
    dsimp only
    cases textOf (some sec) <;> rfl
  · intro x a' sec ha
    cases a' with
    | description => exact absurd rfl ha
    | dateCreated => dsimp only; cases textOf (some sec) <;> rfl
    | networkConfig => exact (congrArg description (readNetworkConfig_headline x sec) :)
    | children => exact (congrArg description (readChildren_headline x c sec) :)
    | lease => exact (congrArg description (readLease_headline x nowMs sec) :)

/-- The creation time of a template is the time of its last dated creation, or
the one the facts had. -/
theorem readTemplate_createdAt :
    (f.readTemplate c nowMs t).createdAt = ((t.lastText "DateCreated").map millisOf).getD f.createdAt := by
  unfold readTemplate
  rw [Element.foldl_dispatch_field (fun sec => TemplatePart.handlerFor_iff sec .dateCreated) createdAt
    (g := fun d sec => ((textOf (some sec)).map millisOf).getD d), foldl_last]
  · rfl
  · intro x sec
    dsimp only
    cases textOf (some sec) <;> rfl
  · intro x a' sec ha
    cases a' with
    | dateCreated => exact absurd rfl ha
    | description => dsimp only; cases textOf (some sec) <;> rfl
    | networkConfig => exact (congrArg createdAt (readNetworkConfig_headline x sec) :)
    | children => exact (congrArg createdAt (readChildren_headline x c sec) :)
    | lease => exact (congrArg createdAt (readLease_headline x nowMs sec) :)

/-- A template's lease has run out when the facts said so or one of its lease
sections has run out. -/
theorem readTemplate_expired :
    (f.readTemplate c nowMs t).expired =
      (f.expired || (t.childrenNamed "LeaseSettingsSection").any (leaseOver nowMs)) := by
  unfold readTemplate
  rw [Element.foldl_dispatch_field (fun sec => TemplatePart.handlerFor_iff sec .lease) expired
    (g := fun b sec => b || leaseOver nowMs sec), foldl_or]
  · rfl
  · intro x sec
    exact (congrArg expired (readLease_headline x nowMs sec) :)
  · intro x a' sec ha
    cases a' with
    | lease => exact absurd rfl ha
    | description | dateCreated => dsimp only; cases textOf (some sec) <;> rfl
    | networkConfig => exact (congrArg expired (readNetworkConfig_headline x sec) :)
    | children => exact (congrArg expired (readChildren_headline x c sec) :)

/-- The facts of a template, read from its name on, say that its lease has run
out exactly when it has. -/
theorem readTemplate_expired_iff (n : Option String) :
    (({ name := n } : TemplateFacts).readTemplate c nowMs t).expired = true ↔ LeaseRunOut nowMs t := by
  rw [readTemplate_expired, Bool.false_or, List.any_eq_true]
  simp only [leaseOver_eq_true, LeaseRunOut]

end TemplateFacts

/-- The image that a loaded template `t` gives: the id, owner and region it is
loaded with; the template's name, else the caller's, else the id; the
template's last description, else the caller's, else the image's name; and the
template's creation time unless it is `0`, else the caller's. -/
structure Image.LoadedFrom (img : Image) (t : Element) (templateId owner region : String)
    (name description : Option String) (createdAt : Int) : Prop where
  imageId : img.imageId = templateId
  ownerId : img.ownerId = owner
  regionId : img.regionId = region
  name : img.name = ((given (t.attrValue "name")).orElse fun _ => given name).getD templateId
  description : img.description = ((t.lastText "Description").orElse fun _ => given description).getD img.name
  createdAt : img.createdAt = if createdStamp t ≠ 0 then createdStamp t else createdAt

namespace TemplateFacts

/-- The image of the facts read from a template, from its name on, is the one
`Image.LoadedFrom` describes. -/
theorem toImage_loadedFrom (c : Client) (nowMs : Int) (t : Element) (templateId owner region : String)
    (published : Bool) (name description : Option String) (createdAt : Int) :
    ((({ name := given (t.attrValue "name") } : TemplateFacts).readTemplate c nowMs t).toImage
      templateId owner region published name description createdAt).LoadedFrom
      t templateId owner region name description createdAt := by
  have hname := readTemplate_name ({ name := given (t.attrValue "name") } : TemplateFacts) c nowMs t
  have hdesc := readTemplate_description ({ name := given (t.attrValue "name") } : TemplateFacts) c nowMs t
  have hstamp := readTemplate_createdAt ({ name := given (t.attrValue "name") } : TemplateFacts) c nowMs t
  generalize ({ name := given (t.attrValue "name") } : TemplateFacts).readTemplate c nowMs t = facts
    at hname hdesc hstamp ⊢
  -- the fields of the image, read off the record that its tags are set on
  have hu := toImage_untagged facts templateId owner region published name description createdAt
  have hn : (facts.toImage templateId owner region published name description createdAt).name =
      ((given facts.name).orElse fun _ => given name).getD templateId := congrArg Image.name hu
  have hd : (facts.toImage templateId owner region published name description createdAt).description =
      ((given facts.description).orElse fun _ => given description).getD
        (((given facts.name).orElse fun _ => given name).getD templateId) := congrArg Image.description hu
  have hc : (facts.toImage templateId owner region published name description createdAt).createdAt =
      if facts.createdAt != 0 then facts.createdAt else createdAt := congrArg Image.createdAt hu
  refine ⟨toImage_imageId .., toImage_ownerId .., congrArg Image.regionId hu, ?_, ?_, ?_⟩
  · rw [hn, hname, given_given]
  · rw [hd, hn, hname, given_given, hdesc, Option.or_none, given_lastText]
  · rw [hc, hstamp]
    simp only [bne_iff_ne, ne_eq]
    rfl

end TemplateFacts

namespace Connection

variable (cn : Connection) (templateId owner : String) (published : Bool) (name description : Option String)
  (createdAt : Int) (w : World)

/-- Loading a template reads it, and then decides from the document alone,
at the time of the call. -/
theorem loadVapp_run :
    (cn.loadVapp templateId owner published name description createdAt).run.run w =
      (((cn.client.get "vAppTemplate" templateId).run.run w).1.bind fun found =>
        match found with
        | none => .ok none
        | some xml => (parseDocument xml).map fun root =>
          (root.findFirst "VAppTemplate").bind fun t =>
            let facts := ({ name := given (t.attrValue "name") } : TemplateFacts).readTemplate cn.client
              (w.clock * 1000) t
            if facts.expired then none
            else some (facts.toImage templateId owner cn.scope.region published name description createdAt),
        ((cn.client.get "vAppTemplate" templateId).run.run w).2) := by
  have hclock := (Client.get_browsed (T := fun _ => False) cn.client "vAppTemplate" templateId w).1
  unfold loadVapp
  rw [run_bind]
  generalize (cn.client.get "vAppTemplate" templateId).run.run w = read at hclock ⊢
  rcases read with ⟨r, w'⟩
  cases r with
  | error e => rfl
  | ok found =>
    cases found with
    | none => rfl
    | some xml =>
      dsimp only [Except.bind]
      rw [run_bind]
      cases parseDocument xml with
      | error e => rfl
      | ok root =>
        rw [show (orFail (.ok root) : Session Element).run.run w' = (.ok root, w') from rfl]
        dsimp only [Except.map]
        cases root.findFirst "VAppTemplate" with
        | none => rfl
        | some t =>
          dsimp only
          rw [run_bind, run_now, show w'.clock = w.clock from hclock, Option.bind_some]
          dsimp only
          split_ifs <;> rfl

/-- Loading a vApp template at time `w.clock`. There is no image exactly when
the read finds no document, or the document read has no template or one whose
storage lease has run out by then. There is a fault exactly when the read fails
or the document cannot be read. Otherwise the image is the one that
`Image.LoadedFrom` describes. The loader leaves the world as the read left it.
An image has no state of its own: every image the library makes is active. -/
theorem loadVapp_outcome :
    let read := (cn.client.get "vAppTemplate" templateId).run.run w
    let out := (cn.loadVapp templateId owner published name description createdAt).run.run w
    out.2 = read.2 ∧
    (out.1 = .ok none ↔ read.1 = .ok none ∨
      ∃ xml, read.1 = .ok (some xml) ∧ ∃ root, parseDocument xml = .ok root ∧
        ∀ t, root.findFirst "VAppTemplate" = some t → LeaseRunOut (w.clock * 1000) t) ∧
    (∀ e, out.1 = .error e ↔
      read.1 = .error e ∨ ∃ xml, read.1 = .ok (some xml) ∧ parseDocument xml = .error e) ∧
    ∀ xml, read.1 = .ok (some xml) → ∀ root, parseDocument xml = .ok root →
      ∀ t, root.findFirst "VAppTemplate" = some t → ¬ LeaseRunOut (w.clock * 1000) t →
      ∃ img, out.1 = .ok (some img) ∧
        img.LoadedFrom t templateId owner cn.scope.region name description createdAt := by
  dsimp only
  rw [loadVapp_run]
  generalize (cn.client.get "vAppTemplate" templateId).run.run w = read
  rcases read with ⟨r, w'⟩
  refine ⟨rfl, ?_⟩
  dsimp only
  cases r with
  | error e => simp [Except.bind]
  | ok found =>
    cases found with
    | none => simp [Except.bind]
    | some xml =>
      cases hdoc : parseDocument xml with
      | error e => simp [Except.bind, Except.map, hdoc]
      | ok root =>
        cases ht : root.findFirst "VAppTemplate" with
        | none => simp [Except.bind, Except.map, hdoc, ht]
        | some t =>
          have hexp := TemplateFacts.readTemplate_expired_iff cn.client (w.clock * 1000) t
            (given (t.attrValue "name"))
          by_cases hrun : LeaseRunOut (w.clock * 1000) t
          · simp [Except.bind, Except.map, hdoc, ht, hexp.mpr hrun, hrun]
          · have hlive : ¬ (({ name := given (t.attrValue "name") } : TemplateFacts).readTemplate cn.client
                (w.clock * 1000) t).expired = true := fun h => hrun (hexp.mp h)
            simp [Except.bind, Except.map, hdoc, ht, hlive, hrun, TemplateFacts.toImage_loadedFrom]

end Connection

end ImageCatalog
