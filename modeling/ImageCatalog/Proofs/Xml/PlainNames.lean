import ImageCatalog.Document
import Mathlib.Data.List.Count
import Mathlib.Data.List.TakeWhile
import Mathlib.Data.List.TakeDrop

/-!
# The names of a read document are plain

A name in braces notation is `{uri}local` or `local`, and `localName`
recovers its local part from that text alone. It can do so because the local
part of every element a document is read into is plain: it holds no brace
and no colon. The reader only takes element names made of name characters
with at most one colon, and keeps what follows that colon as the local part.

Main results:

* `QName.localName_written`: the local part of a plain name is what
  `localName` reads off its written form, whatever the namespace holds.
* `scanTag_rawName`: a start tag's name has no brace and at most one colon.
* `resolveElement_plain`: an element name resolved from such a raw name is
  plain.
* `readDocument_allPlain`, `parseDocument_allPlain`: every element of a
  document that reads is plain.
-/

namespace ImageCatalog.Xml

/-- A local part without braces and colons. -/
def QName.Plain (q : QName) : Prop :=
  '{' ∉ q.localPart.toList ∧ '}' ∉ q.localPart.toList ∧ ':' ∉ q.localPart.toList

/-- Every element of the tree has a plain name. -/
def Element.AllPlain (e : Element) : Prop :=
  ∀ x ∈ e.iter, x.name.Plain

/-! ## Reading a local part off a written name -/

theorem afterLast_append_of_not_mem {c : Char} {l : List Char} (pre : List Char)
    (h : c ∉ l) : afterLast c (pre ++ c :: l) = l := by
  have hl : l.reverse.takeWhile (· ≠ c) = l.reverse :=
    List.takeWhile_eq_self_iff.mpr fun x hx => by
      have : x ≠ c := fun hxc => h (hxc ▸ List.mem_reverse.mp hx)
      simpa using this
  simp only [afterLast, List.reverse_append, List.reverse_cons, List.append_assoc,
    List.singleton_append, List.takeWhile_append, hl]
  simp

/-- The local part of a plain name is what `localName` reads off its
written form: after the last closing brace of `{uri}local` (a brace in the
namespace does not matter), or the whole of a name without namespace. -/
theorem QName.localName_written {q : QName} (h : q.Plain) : localName q.written = q.localPart := by
  obtain ⟨⟨hopen, hclose, hcolon⟩⟩ := And.intro h trivial
  rcases q with ⟨_ | u, l⟩
  · -- no namespace: the written name is the local part, with no brace to
    -- open it and no colon to split it
    have hdrop : l.toList.dropWhile (· ≠ ':') = [] :=
      List.dropWhile_eq_nil_iff.mpr fun x hx => by
        have : x ≠ ':' := fun hx' => hcolon (hx' ▸ hx)
        simpa using this
    unfold localName
    split
    · next rest hl =>
      exact absurd (hl ▸ List.mem_cons_self) hopen
    · simp only [QName.written]
      rw [hdrop]
  · have hw : (QName.written ⟨some u, l⟩).toList = '{' :: (u.toList ++ '}' :: l.toList) := by
      simp [QName.written]
    unfold localName
    rw [hw]
    simp only
    rw [← List.cons_append, afterLast_append_of_not_mem _ hclose, String.ofList_toList]

/-! ## Characters of names -/

/-- A character that may start a name is no brace and no colon. -/
theorem isNameStart_plain {c : Char} (h : isNameStart c = true) : c ≠ '{' ∧ c ≠ '}' ∧ c ≠ ':' := by
  refine ⟨?_, ?_, ?_⟩ <;> rintro rfl <;> revert h <;> decide

/-- A character that may continue a name is no brace and no colon. -/
theorem isNameChar_plain {c : Char} (h : isNameChar c = true) : c ≠ '{' ∧ c ≠ '}' ∧ c ≠ ':' := by
  refine ⟨?_, ?_, ?_⟩ <;> rintro rfl <;> revert h <;> decide

/-- A name as written in a tag: no braces, at most one colon. -/
def RawName (l : List Char) : Prop :=
  '{' ∉ l ∧ '}' ∉ l ∧ l.count ':' ≤ 1

/-- What a start-tag scan keeps true of the name: while the name is read,
the characters so far have no brace and no more colons than the colon state
allows (`colon` is 0, 1 or 2); once it is read, it is a raw name. -/
def TagMode.NameInv : TagMode → List Char → Prop
  | .elemName acc colon, _ => '{' ∉ acc ∧ '}' ∉ acc ∧ colon ≤ 2 ∧ acc.count ':' ≤ min colon 1
  | _, elem => RawName elem

/-- A character other than a brace keeps the name being read free of
braces; the colon count is checked by the caller. -/
theorem nameInv_cons {acc : List Char} {colon k : Nat} {c : Char}
    (hinv : TagMode.NameInv (.elemName acc colon) []) (hopen : c ≠ '{') (hclose : c ≠ '}')
    (hk : k ≤ 2) (hcount : (c :: acc).count ':' ≤ min k 1) :
    TagMode.NameInv (.elemName (c :: acc) k) [] := by
  obtain ⟨hopen', hclose', -, -⟩ := hinv
  simp only [TagMode.NameInv, List.mem_cons, not_or]
  exact ⟨⟨Ne.symm hopen, hopen'⟩, ⟨Ne.symm hclose, hclose'⟩, hk, hcount⟩

/-- One more name character keeps the invariant of the name being read. -/
theorem nameStep_inv {acc : List Char} {colon k : Nat} {c : Char}
    (hstep : nameStep colon c = some (some k)) (hinv : TagMode.NameInv (.elemName acc colon) []) :
    TagMode.NameInv (.elemName (c :: acc) k) [] := by
  have hle : colon ≤ 2 := hinv.2.2.1
  have hcount : acc.count ':' ≤ min colon 1 := hinv.2.2.2
  unfold nameStep at hstep
  split at hstep
  · -- right after a colon a name-start character must follow
    next h1 =>
    split at hstep
    · next hs =>
      obtain ⟨h₁, h₂, h₃⟩ := isNameStart_plain hs
      cases hstep
      have h1 : colon = 1 := by simpa using h1
      subst h1
      exact nameInv_cons hinv h₁ h₂ (by omega) (by simp [h₃]; omega)
    · cases hstep
  · next h1 =>
    split at hstep
    · next hn =>
      obtain ⟨h₁, h₂, h₃⟩ := isNameChar_plain hn
      cases hstep
      exact nameInv_cons hinv h₁ h₂ hle (by simp [h₃]; omega)
    · split at hstep
      · -- a colon is taken only while none has been
        next hc =>
        have hc : c = ':' := by simpa using hc
        subst hc
        split at hstep
        · cases hstep
        · next h2 =>
          cases hstep
          have h0 : colon = 0 := by simp at h1 h2; omega
          subst h0
          exact nameInv_cons hinv (by decide) (by decide) (by omega)
            (by simp; omega)
      · cases hstep

/-- The name being read reversed is the raw name of the tag. -/
theorem rawName_reverse {acc : List Char} {colon : Nat} {elem : List Char}
    (h : TagMode.NameInv (.elemName acc colon) elem) : RawName acc.reverse := by
  obtain ⟨h₁, h₂, -, h₄⟩ := h
  refine ⟨by simpa using h₁, by simpa using h₂, ?_⟩
  rw [List.count_reverse]
  omega

/-- The name of a start tag, as a scan reads it, has no brace and at most one
colon. -/
theorem scanTag_rawName {start : Nat} {elem : List Char} {attrs : List RawAttr} {mode : TagMode}
    {cs : List Char} {pos : Nat} {r : RawTag × List Char × Nat}
    (h : scanTag start elem attrs mode cs pos = .ok r) (hinv : mode.NameInv elem) :
    RawName r.1.name := by
  fun_induction scanTag start elem attrs mode cs pos
  case case2 hstep ih => exact ih h (nameStep_inv hstep hinv)
  case case4 ih => exact ih h (rawName_reverse hinv)
  case case5 => cases h; exact rawName_reverse hinv
  case case6 ih => exact ih h (rawName_reverse hinv)
  -- the tag ends with the name read
  case case10 | case32 | case35 =>
    simp +zetaDelta only [Except.ok.injEq] at h
    subst h
    exact hinv
  -- every other step fails, or goes on with the name read
  all_goals simp_all +zetaDelta [TagMode.NameInv, Scan.fail]

/-! ## Resolving element names -/

/-- A prefixed name splits at its first colon. -/
theorem splitPrefix_eq_some {raw : List Char} {p l : String} (h : splitPrefix raw = some (p, l)) :
    ∃ pre loc, raw = pre ++ ':' :: loc ∧ ':' ∉ pre ∧ l = String.ofList loc := by
  unfold splitPrefix at h
  rw [List.span_eq_takeWhile_dropWhile] at h
  split at h
  · next pre loc hspan =>
    simp only [Prod.mk.injEq] at hspan
    obtain ⟨hpre, hdrop⟩ := hspan
    simp only [Option.some.injEq, Prod.mk.injEq] at h
    refine ⟨pre, loc, ?_, ?_, h.2.symm⟩
    · rw [← List.takeWhile_append_dropWhile (p := (· ≠ ':')) (l := raw), hpre, hdrop]
    · intro hmem
      have := List.mem_takeWhile_imp (hpre ▸ hmem)
      simp at this
  · cases h

/-- A name without prefix has no colon. -/
theorem not_mem_of_splitPrefix_eq_none {raw : List Char} (h : splitPrefix raw = none) :
    ':' ∉ raw := by
  intro hmem
  unfold splitPrefix at h
  rw [List.span_eq_takeWhile_dropWhile] at h
  -- the colon stops the prefix, so what is left starts with it
  have hne : raw.dropWhile (· ≠ ':') ≠ [] := by
    intro hnil
    have := List.dropWhile_eq_nil_iff.mp hnil ':' hmem
    simp at this
  obtain ⟨c, rest, hcr⟩ := List.exists_cons_of_ne_nil hne
  have hc : c = ':' := by
    have := List.head?_dropWhile_not (· ≠ ':') raw
    rw [hcr] at this
    simpa using this
  rw [hcr, hc] at h
  cases h

/-- An element name resolved from a raw name is plain. -/
theorem resolveElement_plain {scope : Scope} {raw : List Char} {start : Nat} {q : QName}
    (h : resolveElement scope raw start = .ok q) (hraw : RawName raw) : q.Plain := by
  obtain ⟨hopen, hclose, hcount⟩ := hraw
  unfold resolveElement at h
  split at h
  · next p l hsplit =>
    obtain ⟨pre, loc, rfl, -, rfl⟩ := splitPrefix_eq_some hsplit
    split at h
    · cases h
      -- the one colon of the raw name is the one that split it
      have hloc : loc.count ':' = 0 := by
        simp only [List.count_append, List.count_cons_self] at hcount
        omega
      refine ⟨?_, ?_, ?_⟩ <;> simp only [String.toList_ofList]
      · exact fun hm => hopen (List.mem_append_right _ (List.mem_cons_of_mem _ hm))
      · exact fun hm => hclose (List.mem_append_right _ (List.mem_cons_of_mem _ hm))
      · exact List.count_eq_zero.mp hloc
    · simp [Scan.fail] at h
  · next hnone =>
    cases h
    exact ⟨by simpa using hopen, by simpa using hclose,
      by simpa using not_mem_of_splitPrefix_eq_none hnone⟩

/-! ## Trees under construction -/

theorem mem_iterList {x : Element} {cs : List Element} :
    x ∈ Element.iterList cs ↔ ∃ c ∈ cs, x ∈ c.iter := by
  induction cs with
  | nil => simp [Element.iterList]
  | cons c cs ih => simp [Element.iterList, ih]

theorem allPlain_mk {n : QName} {a : List (QName × String)} {t : Option String}
    {cs : List Element} {tl : Option String} :
    (Element.mk n a t cs tl).AllPlain ↔ n.Plain ∧ ∀ c ∈ cs, c.AllPlain := by
  simp only [Element.AllPlain, Element.iter, List.mem_cons, forall_eq_or_imp, mem_iterList,
    Element.name]
  constructor
  · rintro ⟨hn, hcs⟩
    exact ⟨hn, fun c hc x hx => hcs x ⟨c, hc, hx⟩⟩
  · rintro ⟨hn, hcs⟩
    exact ⟨hn, fun x ⟨c, hc, hx⟩ => hcs c hc x hx⟩

theorem allPlain_withTail {e : Element} {t : Option String} :
    (e.withTail t).AllPlain ↔ e.AllPlain := by
  rcases e with ⟨n, a, tx, cs, tl⟩
  simp only [Element.withTail, Element.name, Element.attrs, Element.text, Element.children,
    allPlain_mk]

/-- An element being read is plain when its name and its finished children
are. -/
def OpenElement.Plain (o : OpenElement) : Prop :=
  o.name.Plain ∧ ∀ c ∈ o.children.toList, c.AllPlain

theorem forall_mem_modify {α : Type} {P : α → Prop} {f : α → α} (hf : ∀ x, P x → P (f x)) :
    ∀ {l : List α} {i : Nat}, (∀ x ∈ l, P x) → ∀ x ∈ l.modify i f, P x
  | [], _, _ => by simp
  | a :: l, 0, hl => by
    simp only [List.modify_zero_cons, List.mem_cons, forall_eq_or_imp]
    exact ⟨hf a (hl a List.mem_cons_self), fun x hx => hl x (List.mem_cons_of_mem _ hx)⟩
  | a :: l, i + 1, hl => by
    simp only [List.modify_succ_cons, List.mem_cons, forall_eq_or_imp]
    exact ⟨hl a List.mem_cons_self,
      forall_mem_modify hf (fun x hx => hl x (List.mem_cons_of_mem _ hx))⟩

theorem OpenElement.addText_plain {o : OpenElement} {s : String} (h : o.Plain) :
    (o.addText s).Plain := by
  unfold OpenElement.addText
  split
  · exact h
  split
  · exact h
  · refine ⟨h.1, ?_⟩
    rw [Array.toList_modify]
    exact forall_mem_modify (fun c hc => allPlain_withTail.mpr hc) h.2

theorem OpenElement.close_allPlain {o : OpenElement} (h : o.Plain) : o.close.AllPlain :=
  allPlain_mk.mpr ⟨h.1, h.2⟩

theorem flushText_plain {stack : List OpenElement} {pending : List Char}
    (h : ∀ o ∈ stack, o.Plain) : ∀ o ∈ flushText stack pending, o.Plain := by
  unfold flushText
  split
  · exact h
  · exact h
  · next o rest _ =>
    simp only [List.mem_cons, forall_eq_or_imp] at h ⊢
    exact ⟨OpenElement.addText_plain h.1, h.2⟩

theorem addChild_plain {stack : List OpenElement} {e : Element}
    (h : ∀ o ∈ stack, o.Plain) (he : e.AllPlain) : ∀ o ∈ addChild stack e, o.Plain := by
  unfold addChild
  split
  · simp
  · next o rest =>
    simp only [List.mem_cons, forall_eq_or_imp] at h ⊢
    refine ⟨⟨h.1.1, ?_⟩, h.2⟩
    simp only [Array.toList_push, List.mem_append, List.mem_singleton]
    rintro c (hc | rfl)
    · exact h.1.2 c hc
    · exact he

/-! ## Reading a document -/

theorem flushText_cons_plain {stack : List OpenElement} {pending : List Char} {o : OpenElement}
    {rest : List OpenElement} (hstack : ∀ o ∈ stack, o.Plain) (h : flushText stack pending = o :: rest) :
    o.Plain ∧ ∀ o' ∈ rest, o'.Plain := by
  have hflush : ∀ o ∈ flushText stack pending, o.Plain := flushText_plain hstack
  rw [h] at hflush
  simpa using hflush

/-- The element a start tag opens has a plain name. -/
theorem startTag_plain {c : Char} {pos p : Nat} {rest more : List Char} {pos' : Nat} {tag : RawTag}
    {scope : Scope} {name : QName} (hc : isNameStart c = true)
    (hscan : scanTag pos [] [] (.elemName [c] 0) rest p = .ok (tag, more, pos'))
    (hres : resolveElement scope tag.name pos = .ok name) : name.Plain := by
  obtain ⟨h₁, h₂, h₃⟩ := isNameStart_plain hc
  refine resolveElement_plain hres (scanTag_rawName hscan ?_)
  simp [TagMode.NameInv, Ne.symm h₁, Ne.symm h₂, h₃]

/-- The content of a root element is read into a tree of plain names, as
long as the elements still open are plain: every start tag opens a plain
element, and every end tag closes one into its parent or into the result. -/
theorem readContent_allPlain {decls : Declarations} {fuel : Nat} {stack : List OpenElement}
    {pending cs : List Char} {pos : Nat} {r : Element × List Char × Nat}
    (h : readContent decls fuel stack pending cs pos = .ok r) (hstack : ∀ o ∈ stack, o.Plain) :
    r.1.AllPlain := by
  fun_induction readContent decls fuel stack pending cs pos
  -- an end tag closes the innermost open element: the root when it is the last one,
  -- else a new child of the element around it
  case case6 =>
    cases h
    exact OpenElement.close_allPlain (flushText_cons_plain hstack ‹_ = [_]›).1
  case case7 =>
    rename_i ih
    obtain ⟨ho, hrest⟩ := flushText_cons_plain hstack ‹_ = _ :: _›
    exact ih h (addChild_plain hrest (OpenElement.close_allPlain ho))
  -- a start tag opens an element with a plain name
  case case26 =>
    cases h
    exact OpenElement.close_allPlain ⟨startTag_plain ‹_› ‹scanTag _ _ _ _ _ _ = _› ‹_›,
      by simp +zetaDelta⟩
  case case27 =>
    rename_i ih
    exact ih h (addChild_plain (flushText_plain hstack)
      (OpenElement.close_allPlain ⟨startTag_plain ‹_› ‹scanTag _ _ _ _ _ _ = _› ‹_›,
        by simp +zetaDelta⟩))
  case case28 =>
    rename_i ih
    refine ih h ?_
    simp only [List.mem_cons, forall_eq_or_imp]
    exact ⟨⟨startTag_plain ‹_› ‹scanTag _ _ _ _ _ _ = _› ‹_›, by simp +zetaDelta⟩,
      flushText_plain hstack⟩
  -- markup, references and text leave the open elements as they are, or fail
  all_goals simp_all [Scan.fail]

/-- A document's root element, read after the markup before it, is a tree of
plain names. -/
theorem readProlog_allPlain {total fuel : Nat} {stage : PrologStage} {decls : Declarations}
    {cs : List Char} {pos : Nat} {root : Element}
    (h : readProlog total fuel stage decls cs pos = .ok root) : root.AllPlain := by
  fun_induction readProlog total fuel stage decls cs pos
  -- the root element is the content read from the first start tag
  case case25 =>
    simp only [‹readContent _ _ _ _ _ _ = _›, ‹readEpilog _ _ _ = _›, Except.ok.injEq] at h
    subst h
    exact readContent_allPlain ‹readContent _ _ _ _ _ _ = _› (by simp)
  -- a declaration keyword: a document type declaration is skipped, anything else fails
  case case18 | case19 | case20 =>
    simp only [‹scanDeclKeyword _ _ _ _ = _›] at h
    simp_all
  case case21 =>
    simp only [‹scanDeclKeyword _ _ _ _ = _›, if_neg ‹_›] at h
    simp [Scan.fail] at h
  -- the content or the markup after it fails
  case case23 | case24 =>
    simp only [‹readContent _ _ _ _ _ _ = _›] at h
    simp_all
  -- the markup before it leaves nothing behind, or fails
  all_goals simp_all [Scan.fail]

/-- Every element of a document that reads has a plain name. -/
theorem readDocument_allPlain {input : String} {root : Element}
    (h : readDocument input = .ok root) : root.AllPlain :=
  readProlog_allPlain h

/-- Every element of a response body that reads has a plain name. -/
theorem parseDocument_allPlain {raw : String} {root : Element}
    (h : parseDocument raw = .ok root) : root.AllPlain := by
  unfold parseDocument at h
  split at h
  · next r hr =>
    cases h
    exact readDocument_allPlain hr
  · cases h

end ImageCatalog.Xml
