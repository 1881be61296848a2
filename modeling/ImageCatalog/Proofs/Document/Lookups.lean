import ImageCatalog.Proofs.Xml.PlainNames
import ImageCatalog.Xml.NameTable
import Mathlib.Data.List.Basic

/-!
# Lookups by local name test the written tag

An element is looked up by name through its tag, the name written in braces
notation: the lower case of the tag's local name, as `localName` reads it off
the text, must be the lower case of the name asked for
(`Element.tagMatches`). Three implementations stand for that test. The
queries of `Xml.Query` compare the local part the reader kept, the handlers
of `dispatch` are searched from the last one, and a `NameTable` remembers the
lower-cased local name of each tag it has met.

Main results:

* `Element.named_eq_tagMatches`, `Element.handlerFor_eq_tagHandler`: on an
  element with a plain name, the query test is the tag test, and a child's
  handler is the one of the last key that names its tag.
* `NameTable.Sound`, `NameTable.isNamed_sound`, `NameTable.answers_eq`: a
  table that holds every tag with its lower-cased local name answers a lookup
  as the tag test and stays so, whatever element is asked about; so does a
  whole run of lookups. `NameTable.ofRoot_sound`: the table of a root is such
  a table.
* `lookups_match_tags`: in a document that reads, every lookup answers as the
  tag test: `findAll` and `findFirst` over the tree, `childrenNamed`,
  `firstChild` and `dispatch` over the children of each element, and every
  run of lookups against the document's name table.
-/

namespace ImageCatalog.Xml

open ImageCatalog.Text

/-- The test on a written tag: the lower case of its local name is the lower
case of `n`. -/
def Element.tagMatches (e : Element) (n : String) : Bool :=
  lower (localName e.name.written) == lower n

/-- The handler of the last key that is, in lower case, the lower-cased local
name of the child's tag. -/
def tagHandler {α : Type} (handlers : List (String × α)) (c : Element) : Option α :=
  ((handlers.filter fun h => lower h.1 == lower (localName c.name.written)).getLast?).map (·.2)

/-! ## Elements with plain names -/

namespace Element

theorem named_eq_tagMatches {e : Element} (h : e.name.Plain) (n : String) :
    e.named n = e.tagMatches n := by
  rw [named, tagMatches, QName.localName_written h]

/-- The handler searched from the last one is the last handler whose key
names the child. -/
theorem handlerFor_eq_tagHandler {α : Type} {c : Element} (h : c.name.Plain)
    (handlers : List (String × α)) : handlerFor handlers c = tagHandler handlers c := by
  rw [handlerFor, tagHandler, QName.localName_written h, ← List.head?_filter, List.filter_reverse,
    List.head?_reverse]

section PlainList

variable {l : List Element} (hl : ∀ x ∈ l, x.name.Plain)
include hl

theorem filter_named_of_plain (n : String) : l.filter (·.named n) = l.filter (·.tagMatches n) :=
  List.filter_congr fun x hx => named_eq_tagMatches (hl x hx) n

theorem find?_named_of_plain (n : String) :
    l.find? (·.named n) = (l.filter (·.tagMatches n)).head? := by
  rw [← filter_named_of_plain hl, List.head?_filter]

theorem filterMap_handlerFor_of_plain {α : Type} (handlers : List (String × α)) :
    l.filterMap (fun c => (handlerFor handlers c).map (·, c)) =
      l.filterMap (fun c => (tagHandler handlers c).map (·, c)) :=
  List.filterMap_congr fun c hc => by rw [handlerFor_eq_tagHandler (hl c hc)]

end PlainList

/-! ## Subtrees -/

theorem mem_iter_self (e : Element) : e ∈ e.iter := by
  cases e
  simp [iter]

mutual
/-- The elements under an element of a tree are elements of the tree. -/
theorem iter_subset_of_mem : ∀ {root e : Element}, e ∈ root.iter → e.iter ⊆ root.iter
  | .mk n a t cs tl, e, h => by
    rw [iter, List.mem_cons] at h
    rcases h with rfl | h
    · exact List.Subset.refl _
    · rw [iter]
      exact List.subset_cons_of_subset _ (iterList_subset_of_mem h)

theorem iterList_subset_of_mem : ∀ {cs : List Element} {e : Element},
    e ∈ iterList cs → e.iter ⊆ iterList cs
  | [], _, h => by simp [iterList] at h
  | c :: cs, _, h => by
    rw [iterList, List.mem_append] at h
    rw [iterList]
    rcases h with h | h
    · exact List.subset_append_of_subset_left _ (iter_subset_of_mem h)
    · exact List.subset_append_of_subset_right _ (iterList_subset_of_mem h)
end

theorem child_mem_iter {e c : Element} (hc : c ∈ e.children) : c ∈ e.iter := by
  rcases e with ⟨n, a, t, cs, tl⟩
  rw [iter, List.mem_cons, mem_iterList]
  exact Or.inr ⟨c, hc, mem_iter_self c⟩

/-- In a tree of plain names, the children of every element are plain. -/
theorem AllPlain.children_plain {root e : Element} (h : root.AllPlain) (he : e ∈ root.iter) :
    ∀ c ∈ e.children, c.name.Plain :=
  fun _ hc => h _ (iter_subset_of_mem he (child_mem_iter hc))

end Element

/-! ## The name table -/

namespace NameTable

/-- Every entry of the table is a tag with the lower case of its local name. -/
def Sound (t : NameTable) : Prop :=
  ∀ p ∈ t.entries, p.2 = lower (localName p.1)

theorem sound_empty : Sound {} := by
  simp [Sound]

/-- A sound table names an element by the lower case of its tag's local
name, whether it finds the tag or learns it, and stays sound. -/
theorem nameOf_sound {t : NameTable} (ht : t.Sound) (e : Element) :
    (t.nameOf e).1 = lower (localName e.name.written) ∧ (t.nameOf e).2.Sound := by
  unfold nameOf
  dsimp only
  split
  · next name hl =>
    obtain ⟨l₁, l₂, hsplit, -⟩ := List.lookup_eq_some_iff.mp hl
    have hmem : (e.name.written, name) ∈ t.entries := by simp [hsplit]
    exact ⟨ht _ hmem, ht⟩
  · refine ⟨rfl, ?_⟩
    simp only [Sound, List.mem_cons, forall_eq_or_imp, true_and]
    exact ht

theorem isNamed_sound {t : NameTable} (ht : t.Sound) (e : Element) (n : String) :
    (t.isNamed e n).1 = e.tagMatches n ∧ (t.isNamed e n).2.Sound := by
  obtain ⟨hname, hsound⟩ := nameOf_sound ht e
  simp only [isNamed, Element.tagMatches]
  exact ⟨by rw [hname], hsound⟩

/-- The answers to a run of lookups, each asked of the table the one before
it left. -/
def answers (t : NameTable) : List (Element × String) → List Bool
  | [] => []
  | (e, n) :: qs => (t.isNamed e n).1 :: answers (t.isNamed e n).2 qs

/-- A sound table answers every run of lookups as the tag test: learning the
tag of an element keeps it sound. -/
theorem answers_eq {t : NameTable} (ht : t.Sound) (qs : List (Element × String)) :
    t.answers qs = qs.map fun q => q.1.tagMatches q.2 := by
  induction qs generalizing t with
  | nil => rfl
  | cons q qs ih =>
    obtain ⟨e, n⟩ := q
    obtain ⟨hanswer, hsound⟩ := isNamed_sound ht e n
    rw [answers, hanswer, ih hsound, List.map_cons]

/-- The table of a root is sound: it is learned one element at a time from
the empty table. -/
theorem ofRoot_sound (root : Element) : (ofRoot root).Sound := by
  unfold ofRoot
  suffices ∀ (es : List Element) (t : NameTable), t.Sound →
      (es.foldl (fun t e => (t.nameOf e).2) t).Sound from this _ _ sound_empty
  intro es
  induction es with
  | nil => exact fun _ ht => ht
  | cons e es ih => exact fun t ht => ih _ (nameOf_sound ht e).2

end NameTable

end ImageCatalog.Xml

namespace ImageCatalog

open ImageCatalog.Xml

/-- In a document that reads, every lookup by name answers as the test on the
written tag: `findAll` keeps, and `findFirst` picks first, the elements of
the tree in document order whose tag passes it; among the direct children of
any element, `childrenNamed` keeps and `firstChild` picks first the ones that
pass it, and `dispatch` hands each child, in order, to the handler of the
last key that names its tag; and the document's name table, asked about any
elements, of the document or not, answers every run of lookups as the test
does. -/
theorem lookups_match_tags {raw : String} {root : Element} (h : parseDocument raw = .ok root) :
    (∀ n, root.findAll n = root.iter.filter (·.tagMatches n) ∧
      root.findFirst n = (root.iter.filter (·.tagMatches n)).head?) ∧
    (∀ e ∈ root.iter, ∀ n, e.childrenNamed n = e.children.filter (·.tagMatches n) ∧
      e.firstChild n = (e.children.filter (·.tagMatches n)).head?) ∧
    (∀ e ∈ root.iter, ∀ {α : Type} (handlers : List (String × α)),
      e.dispatch handlers = e.children.filterMap fun c => (tagHandler handlers c).map (·, c)) ∧
    ∀ qs : List (Element × String),
      (NameTable.ofRoot root).answers qs = qs.map fun q => q.1.tagMatches q.2 := by
  have hplain := parseDocument_allPlain h
  refine ⟨fun n => ⟨Element.filter_named_of_plain hplain n,
      Element.find?_named_of_plain hplain n⟩,
    fun e he n => ⟨Element.filter_named_of_plain (hplain.children_plain he) n,
      Element.find?_named_of_plain (hplain.children_plain he) n⟩,
    fun e he _ handlers => Element.filterMap_handlerFor_of_plain (hplain.children_plain he) handlers,
    NameTable.answers_eq (NameTable.ofRoot_sound root)⟩

/-- A document whose two children differ only in the letter case of their
names. -/
theorem lookups_match_tags_cased :
    let root : Element := .mk ⟨none, "Catalog"⟩ [] none
      [.mk ⟨none, "Item"⟩ [] none [] none, .mk ⟨none, "ITEM"⟩ [] none [] none] none
    parseDocument "<Catalog><Item/><ITEM/></Catalog>" = .ok root ∧
    (∀ n, root.findAll n = root.iter.filter (·.tagMatches n) ∧
      root.findFirst n = (root.iter.filter (·.tagMatches n)).head?) ∧
    (∀ e ∈ root.iter, ∀ n, e.childrenNamed n = e.children.filter (·.tagMatches n) ∧
      e.firstChild n = (e.children.filter (·.tagMatches n)).head?) ∧
    (∀ e ∈ root.iter, ∀ {α : Type} (handlers : List (String × α)),
      e.dispatch handlers = e.children.filterMap fun c => (tagHandler handlers c).map (·, c)) ∧
    ∀ qs : List (Element × String),
      (NameTable.ofRoot root).answers qs = qs.map fun q => q.1.tagMatches q.2 :=
  have h : parseDocument "<Catalog><Item/><ITEM/></Catalog>" =
      .ok (.mk ⟨none, "Catalog"⟩ [] none
        [.mk ⟨none, "Item"⟩ [] none [] none, .mk ⟨none, "ITEM"⟩ [] none [] none] none) := by
    rfl
  ⟨h, lookups_match_tags h⟩

end ImageCatalog
