import ImageCatalog.Document
import Mathlib.Data.List.Forall2

/-!
# Documents that differ only in how element names are spelled

A server may write the same document with other namespace prefixes, bind them
to other namespaces, or change the letter case of element names. The queries
of `Xml.Query` find elements by their local name in lower case and read
attributes by keys without a namespace, so such documents answer every query
alike.

`Element.Respelled e e'` says that `e'` is `e` with its element names spelled
differently: local names that agree in lower case, the same attributes
without a namespace in the same order, the same texts and tails, and children
that correspond one to one. Attributes with a namespace may differ.

Main results, for respelled trees `e` and `e'`:

* `Element.Respelled.iter_named`: the elements with a given local name sit at
  the same positions of the two trees in document order, so `findAll` and
  `findFirst` pick corresponding elements (`Respelled.findAll`,
  `Respelled.findFirst`).
* `Respelled.childrenNamed`, `Respelled.firstChild`, `Respelled.dispatch`: the
  same children, and each child meets the same handler.
* `Respelled.attrValue`: an attribute read by a key that does not open with a
  brace (`PlainKey`) has the same value.
* `errorMessage_respelled`, `checkError_respelled`: the same error report.
-/

namespace ImageCatalog.Xml

open ImageCatalog.Text

/-- The attributes without a namespace, in order. -/
def plainAttrs (as : List (QName × String)) : List (QName × String) :=
  as.filter (·.1.uri.isNone)

mutual
/-- `e'` is `e` with its element names spelled differently. -/
def Element.Respelled : Element → Element → Prop
  | .mk n a t cs tl, .mk n' a' t' cs' tl' =>
    lower n.localPart = lower n'.localPart ∧ plainAttrs a = plainAttrs a' ∧ t = t' ∧ tl = tl' ∧
      Element.RespelledList cs cs'

/-- Two lists of trees, respelled one by one. -/
def Element.RespelledList : List Element → List Element → Prop
  | [], [] => True
  | e :: es, e' :: es' => Element.Respelled e e' ∧ Element.RespelledList es es'
  | _, _ => False
end

/-! ## Lists and options related one by one -/

/-- A pair of options related by `R`, mapped through maps that take related
values to values related by `S`. -/
theorem option_rel_map {α β γ δ : Type} {R : α → β → Prop} {S : γ → δ → Prop} {f : α → γ}
    {g : β → δ} {o : Option α} {o' : Option β} (h : Option.Rel R o o')
    (hfg : ∀ a b, R a b → S (f a) (g b)) : Option.Rel S (o.map f) (o'.map g) := by
  cases h with
  | none => exact Option.Rel.none
  | some hab => exact Option.Rel.some (hfg _ _ hab)

/-- Two options related by `R` map to the same value under maps that agree on
related values. -/
theorem option_rel_map_eq {α β γ : Type} {R : α → β → Prop} {f : α → γ} {g : β → γ}
    {o : Option α} {o' : Option β} (h : Option.Rel R o o') (hfg : ∀ a b, R a b → f a = g b) :
    o.map f = o'.map g := by
  cases h with
  | none => rfl
  | some hab => simp only [Option.map_some, hfg _ _ hab]

/-- Two options related by `R` bind to the same value under maps that agree on
related values. -/
theorem option_rel_bind_eq {α β γ : Type} {R : α → β → Prop} {f : α → Option γ}
    {g : β → Option γ} {o : Option α} {o' : Option β} (h : Option.Rel R o o')
    (hfg : ∀ a b, R a b → f a = g b) : o.bind f = o'.bind g := by
  cases h with
  | none => rfl
  | some hab => simp only [Option.bind_some, hfg _ _ hab]

/-- A search through two lists related one by one, with tests that agree on
related elements, stops at the same position. -/
theorem forall₂_find? {α β : Type} {R : α → β → Prop} {p : α → Bool} {q : β → Bool}
    (hpq : ∀ a b, R a b → p a = q b) :
    ∀ {l : List α} {l' : List β}, List.Forall₂ R l l' → Option.Rel R (l.find? p) (l'.find? q)
  | [], [], .nil => Option.Rel.none
  | a :: _, b :: _, .cons hab h => by
    rw [List.find?_cons, List.find?_cons, hpq a b hab]
    cases q b
    · exact forall₂_find? hpq h
    · exact Option.Rel.some hab

theorem forall₂_isEmpty {α β : Type} {R : α → β → Prop} {l : List α} {l' : List β}
    (h : List.Forall₂ R l l') : l.isEmpty = l'.isEmpty := by
  cases h <;> rfl

/-- Maps that agree on related elements flatten lists related one by one to
the same list. -/
theorem forall₂_flatMap_eq {α β γ : Type} {R : α → β → Prop} {f : α → List γ} {g : β → List γ}
    {l : List α} {l' : List β} (h : List.Forall₂ R l l') (hfg : ∀ a b, R a b → f a = g b) :
    l.flatMap f = l'.flatMap g := by
  induction h with
  | nil => rfl
  | cons hab _ ih => rw [List.flatMap_cons, List.flatMap_cons, hfg _ _ hab, ih]

theorem forall₂_filterMap_eq {α β γ : Type} {R : α → β → Prop} {f : α → Option γ}
    {g : β → Option γ} {l : List α} {l' : List β} (h : List.Forall₂ R l l')
    (hfg : ∀ a b, R a b → f a = g b) : l.filterMap f = l'.filterMap g := by
  induction h with
  | nil => rfl
  | cons hab _ ih => rw [List.filterMap_cons, List.filterMap_cons, hfg _ _ hab, ih]

/-- Folding a step over lists related one by one gives the same result when the
step agrees on related elements. -/
theorem forall₂_foldl_eq {α σ : Type} {R : α → α → Prop} {l l' : List α}
    (h : List.Forall₂ R l l') {F : σ → α → σ} (hF : ∀ s a b, R a b → F s a = F s b) (s : σ) :
    l.foldl F s = l'.foldl F s := by
  induction h generalizing s with
  | nil => rfl
  | cons hab _ ih => rw [List.foldl_cons, List.foldl_cons, hF s _ _ hab, ih]

/-! ## Keys without a namespace -/

/-- A key that no name with a namespace is written as, since it does not open
with a brace. -/
def PlainKey (key : String) : Prop := key.toList.head? ≠ some '\x7b'

instance (key : String) : Decidable (PlainKey key) :=
  inferInstanceAs (Decidable (key.toList.head? ≠ some '\x7b'))

/-- A name with a namespace is written opening with a brace. -/
theorem QName.written_head {q : QName} (h : q.uri.isSome) :
    q.written.toList.head? = some '\x7b' := by
  obtain ⟨u, l⟩ := q
  cases u with
  | none => simp at h
  | some u => simp [QName.written, String.toList_append]

/-- A name written as a plain key has no namespace. -/
theorem QName.uri_eq_none_of_written {q : QName} {key : String} (hkey : PlainKey key)
    (h : q.written = key) : q.uri = none := by
  cases hu : q.uri with
  | none => rfl
  | some u =>
    have hhead := QName.written_head (q := q) (by simp [hu])
    rw [h] at hhead
    exact absurd hhead hkey

namespace Element

theorem respelledList_iff {es es' : List Element} :
    RespelledList es es' ↔ List.Forall₂ Respelled es es' := by
  induction es generalizing es' with
  | nil => cases es' <;> simp [RespelledList]
  | cons e es ih => cases es' <;> simp [RespelledList, ih]

theorem respelled_iff {e e' : Element} :
    Respelled e e' ↔ lower e.name.localPart = lower e'.name.localPart ∧
      plainAttrs e.attrs = plainAttrs e'.attrs ∧ e.text = e'.text ∧ e.tail = e'.tail ∧
      List.Forall₂ Respelled e.children e'.children := by
  cases e
  cases e'
  simp only [Respelled, name, attrs, text, tail, children, respelledList_iff]

mutual
theorem Respelled.refl : ∀ e : Element, Respelled e e
  | .mk _ _ _ cs _ => ⟨rfl, rfl, rfl, rfl, RespelledList.refl cs⟩
theorem RespelledList.refl : ∀ es : List Element, RespelledList es es
  | [] => trivial
  | e :: es => ⟨Respelled.refl e, RespelledList.refl es⟩
end

/-! ## What a respelled tree keeps -/

section Parts

variable {e e' : Element}

theorem Respelled.lower_localPart (h : Respelled e e') :
    lower e.name.localPart = lower e'.name.localPart := (respelled_iff.mp h).1

theorem Respelled.plainAttrs (h : Respelled e e') : plainAttrs e.attrs = plainAttrs e'.attrs :=
  (respelled_iff.mp h).2.1

theorem Respelled.text (h : Respelled e e') : e.text = e'.text := (respelled_iff.mp h).2.2.1

theorem Respelled.children (h : Respelled e e') :
    List.Forall₂ Respelled e.children e'.children := (respelled_iff.mp h).2.2.2.2

end Parts

/-- A lookup by a plain key only sees the attributes without a namespace. -/
theorem get?_eq_plain (e : Element) {key : String} (hkey : PlainKey key) :
    e.get? key = ((plainAttrs e.attrs).find? (·.1.written == key)).map (·.2) := by
  unfold get? plainAttrs
  rw [List.find?_filter]
  congr 2
  funext p
  by_cases hw : p.1.written = key
  · simp [hw, QName.uri_eq_none_of_written hkey hw]
  · simp [hw]

theorem Respelled.get? {e e' : Element} (h : Respelled e e') (key : String) (hkey : PlainKey key) :
    e.get? key = e'.get? key := by
  rw [get?_eq_plain e hkey, get?_eq_plain e' hkey, h.plainAttrs]

section Queries

variable {e e' : Element}

theorem Respelled.named (h : Respelled e e') (n : String) : e.named n = e'.named n := by
  simp only [Element.named, h.lower_localPart]

theorem Respelled.attrValue (h : Respelled e e') (key : String) (hkey : PlainKey key) :
    e.attrValue key = e'.attrValue key := by
  simp only [Element.attrValue, h.get? key hkey]

theorem Respelled.target (h : Respelled e e') : e.target = e'.target := by
  simp only [Element.target, h.attrValue "href" (by decide)]

theorem Respelled.linksTo (h : Respelled e e') (rel mediaType : String) :
    e.linksTo rel mediaType = e'.linksTo rel mediaType := by
  simp only [Element.linksTo, h.attrValue "rel" (by decide),
    h.attrValue "type" (by decide)]

end Queries

mutual
/-- The trees in document order correspond one to one. -/
theorem Respelled.iter : ∀ {e e' : Element}, Respelled e e' →
    List.Forall₂ Respelled e.iter e'.iter
  | .mk _ _ _ _ _, .mk _ _ _ _ _, h => List.Forall₂.cons h (RespelledList.iterList h.2.2.2.2)

theorem RespelledList.iterList : ∀ {es es' : List Element}, RespelledList es es' →
    List.Forall₂ Respelled (iterList es) (iterList es')
  | [], [], _ => List.Forall₂.nil
  | _ :: _, _ :: _, h => List.rel_append (Respelled.iter h.1) (RespelledList.iterList h.2)
  | [], _ :: _, h => h.elim
  | _ :: _, [], h => h.elim
end

/-- Names agree on related trees, so filtering and searching by name pick the
same positions. -/
theorem forall₂_named {l l' : List Element} (h : List.Forall₂ Respelled l l') (n : String) :
    List.Forall₂ Respelled (l.filter (·.named n)) (l'.filter (·.named n)) ∧
      Option.Rel Respelled (l.find? (·.named n)) (l'.find? (·.named n)) :=
  ⟨List.rel_filter (fun a b hab => show a.named n = true ↔ b.named n = true by rw [hab.named n]) h,
    forall₂_find? (fun a b hab => hab.named n) h⟩

section Lookups

variable {e e' : Element}

/-- The elements with a local name sit at the same positions of the two
trees in document order. -/
theorem Respelled.iter_named (h : Respelled e e') (n : String) :
    e.iter.map (·.named n) = e'.iter.map (·.named n) := by
  have hmap := List.rel_map
    (show Relator.LiftFun Respelled Eq (·.named n) (·.named n) from fun a b hab => hab.named n)
    h.iter
  rwa [List.forall₂_eq_eq_eq] at hmap

theorem Respelled.findAll (h : Respelled e e') (n : String) :
    List.Forall₂ Respelled (e.findAll n) (e'.findAll n) := (forall₂_named h.iter n).1

theorem Respelled.findFirst (h : Respelled e e') (n : String) :
    Option.Rel Respelled (e.findFirst n) (e'.findFirst n) := (forall₂_named h.iter n).2

theorem Respelled.childrenNamed (h : Respelled e e') (n : String) :
    List.Forall₂ Respelled (e.childrenNamed n) (e'.childrenNamed n) :=
  (forall₂_named h.children n).1

theorem Respelled.firstChild (h : Respelled e e') (n : String) :
    Option.Rel Respelled (e.firstChild n) (e'.firstChild n) := (forall₂_named h.children n).2

theorem Respelled.handlerFor {α : Type} (h : Respelled e e') (handlers : List (String × α)) :
    handlerFor handlers e = handlerFor handlers e' := by
  simp only [Element.handlerFor, h.lower_localPart]

/-- Each child with a handler meets the same handler at the same position. -/
theorem Respelled.dispatch {α : Type} (h : Respelled e e') (handlers : List (String × α)) :
    List.Forall₂ (fun p p' => p.1 = p'.1 ∧ Respelled p.2 p'.2)
      (e.dispatch handlers) (e'.dispatch handlers) := by
  refine List.rel_filterMap (fun c c' hc => ?_) h.children
  rw [hc.handlerFor handlers]
  cases Element.handlerFor handlers c' with
  | none => exact Option.Rel.none
  | some a => exact Option.Rel.some ⟨rfl, hc⟩

end Lookups

end Element

theorem textOf_respelled {o o' : Option Element} (h : Option.Rel Element.Respelled o o') :
    textOf o = textOf o' := by
  cases h with
  | none => rfl
  | some h => simp only [textOf, h.text]

theorem errorMessage_respelled {e e' : Element} (h : e.Respelled e') :
    errorMessage e = errorMessage e' := by
  unfold errorMessage
  refine option_rel_map_eq (h.findFirst "Error") fun err err' herr => ?_
  simp only [herr.attrValue "message" (by decide),
    herr.attrValue "majorErrorCode" (by decide),
    herr.attrValue "minorErrorCode" (by decide)]

theorem checkError_respelled {e e' : Element} (h : e.Respelled e') :
    checkError e = checkError e' := by
  simp only [checkError, errorMessage_respelled h]

end ImageCatalog.Xml
