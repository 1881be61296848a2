import ImageCatalog.Network
import Mathlib.Data.List.DropRight

/-!
# The primary connection decides the default networks

A network connection section names its primary connection by index. The
default networks of the section come from the first connection child whose
own index is that integer: its network is the DHCP default when its
allocation mode is DHCP, the static default otherwise. Indexes are compared
as integers, so `1`, `01`, ` +1 ` and the Arabic-Indic `١` name the same
connection.

`Element.childInteger e n` is the integer written as the text of the first
child of `e` named `n`, and `Element.modeDefaults c` what connection `c`
gives when it is the primary one.

Main results:

* `Element.childInteger_eq_some_iff`: a child integer is the trimmed text of
  the first such child read as an integer literal; it is missing when that
  child is missing, has no text, or its trimmed text is no literal.
* `ofSection_primary`: with no primary index, or no connection of that
  index, the section gives no default; otherwise the first connection of
  that index decides, whatever the connections after it say.
-/

namespace ImageCatalog

open ImageCatalog.Xml ImageCatalog.Text

namespace Text

theorem trim_toList (s : String) :
    (trim s).toList = (dropBlanks s.toList).rdropWhile isBlank := by
  simp [trim, List.rdropWhile, dropBlanks]

/-- A trimmed text trims to itself. -/
theorem trim_trim (s : String) : trim (trim s) = trim s := by
  apply String.ext
  rw [trim_toList, trim_toList]
  -- what is left after the front blanks starts with a non-blank, and so does
  -- every non-empty prefix of it
  have hfront : dropBlanks ((dropBlanks s.toList).rdropWhile isBlank) =
      (dropBlanks s.toList).rdropWhile isBlank := by
    rw [dropBlanks, List.dropWhile_eq_self_iff]
    intro hl
    have hne : (dropBlanks s.toList).rdropWhile isBlank ≠ [] := List.ne_nil_of_length_pos hl
    have hd : dropBlanks s.toList ≠ [] := by
      intro h
      simp [h, List.rdropWhile_nil] at hne
    rw [List.getElem_zero, List.IsPrefix.head (List.rdropWhile_prefix _ _) hne]
    rw [Bool.not_eq_true]
    exact List.head_dropWhile_not isBlank hd
  rw [hfront, List.rdropWhile_idempotent]

end Text

/-- A name trimmed before it is made non-empty is the same name. -/
theorem nonEmpty_map_trim (o : Option String) : nonEmpty (o.map trim) = nonEmpty o := by
  cases o with
  | none => rfl
  | some v => simp only [Option.map_some, nonEmpty, trim_trim]

/-- The empty text is no integer literal. -/
theorem parseInteger?_empty : parseInteger? "" = none := rfl

namespace Xml.Element

/-- An element is named by its own local name. -/
theorem named_mk_self (u : Option String) (n : String) (a : List (QName × String))
    (t : Option String) (c : List Element) (tl : Option String) :
    (Element.mk ⟨u, n⟩ a t c tl).named n = true :=
  beq_self_eq_true _

/-- The integer written as the text of the first child of `e` named `n`. -/
def childInteger (e : Element) (n : String) : Option Int :=
  integerOf (textOf (e.firstChild n))

/-- What a connection gives when it is the primary one: nothing without an
allocation mode; otherwise its network, trimmed and `none` when empty, as the
DHCP default when the mode is DHCP and as the static default else. -/
def modeDefaults (c : Element) : NetworkDefaults :=
  match textOf (c.firstChild "IpAddressAllocationMode") with
  | none => {}
  | some mode =>
    if upperAscii mode = "DHCP" then { dhcp := nonEmpty (c.get? "network") }
    else { static := nonEmpty (c.get? "network") }

/-- An integer read from a text element is the element's trimmed text read as
an integer literal: a blank text reads as no integer. -/
theorem integerOf_textOf (o : Option Element) :
    integerOf (textOf o) = (o.bind Element.text).bind fun t => parseInteger? (trim t) := by
  rcases o with _ | e
  · simp only [textOf, integerOf, Option.bind_none]
  rcases ht : e.text with _ | t
  · simp only [textOf, ht, integerOf, Option.bind_none, Option.bind_some]
  by_cases hb : (trim t).isEmpty
  · -- a blank text is no integer either way
    have hnil : trim t = "" := String.isEmpty_iff.mp hb
    simp only [textOf, ht, hb, if_true, integerOf, Option.bind_some, Option.bind_none]
    rw [hnil, parseInteger?_empty]
  · simp only [textOf, ht, hb, integerOf, Option.bind_some, Bool.false_eq_true, if_false]

/-- A child integer is there exactly when the first child of that name has a
text whose trimmed form is an integer literal. -/
theorem childInteger_eq_some_iff (e : Element) (n : String) (k : Int) :
    e.childInteger n = some k ↔
      ∃ c t, e.firstChild n = some c ∧ c.text = some t ∧ parseInteger? (trim t) = some k := by
  rw [childInteger, integerOf_textOf]
  constructor
  · intro h
    obtain ⟨t, ht, hk⟩ := Option.bind_eq_some_iff.mp h
    obtain ⟨c, hc, hct⟩ := Option.bind_eq_some_iff.mp ht
    exact ⟨c, t, hc, hct, hk⟩
  · rintro ⟨c, t, hc, hct, hk⟩
    simp [hc, hct, hk]

/-- The defaults a primary connection gives, as the section reader computes
them. -/
theorem modeDefaults_eq (c : Element) :
    c.modeDefaults =
      match textOf (c.firstChild "IpAddressAllocationMode") with
      | none => {}
      | some mode =>
        if upperAscii mode == "DHCP" then NetworkDefaults.ofNames (c.attrValue "network") none
        else NetworkDefaults.ofNames none (c.attrValue "network") := by
  unfold modeDefaults
  split
  · rfl
  · simp only [NetworkDefaults.ofNames, attrValue, nonEmpty_map_trim, beq_iff_eq]
    rfl

end Xml.Element

/-- A section without a primary index gives no default network. -/
theorem ofSection_of_childInteger_none {S : Element}
    (h : S.childInteger "PrimaryNetworkConnectionIndex" = none) :
    NetworkDefaults.ofSection S = {} := by
  unfold NetworkDefaults.ofSection
  rw [show integerOf (textOf (S.firstChild "PrimaryNetworkConnectionIndex")) = none from h]

/-- With primary index `k`, the section gives what the first connection of
index `k` gives, and nothing when there is none. -/
theorem ofSection_of_childInteger_some {S : Element} {k : Int}
    (h : S.childInteger "PrimaryNetworkConnectionIndex" = some k) :
    NetworkDefaults.ofSection S =
      (((S.childrenNamed "NetworkConnection").find?
          (fun c => c.childInteger "NetworkConnectionIndex" == some k)).map
        Element.modeDefaults).getD {} := by
  unfold NetworkDefaults.ofSection
  rw [show integerOf (textOf (S.firstChild "PrimaryNetworkConnectionIndex")) = some k from h]
  dsimp only
  rw [show (fun c : Element => integerOf (textOf (c.firstChild "NetworkConnectionIndex")) == some k) =
    (fun c => c.childInteger "NetworkConnectionIndex" == some k) from rfl]
  generalize (S.childrenNamed "NetworkConnection").find?
    (fun c => c.childInteger "NetworkConnectionIndex" == some k) = found
  cases found with
  | none => rfl
  | some c => exact (Element.modeDefaults_eq c).symm

/-- The default networks of a network connection section. Without a primary
index (no such child, no text, or a trimmed text that is no integer literal)
there are none. With primary index `k`, there are none when no connection
child has index `k`; otherwise the first connection child of index `k`
decides alone, whatever the connections after it say. -/
theorem ofSection_primary (S : Element) :
    (S.childInteger "PrimaryNetworkConnectionIndex" = none → NetworkDefaults.ofSection S = {}) ∧
    ∀ k, S.childInteger "PrimaryNetworkConnectionIndex" = some k →
      ((∀ c ∈ S.childrenNamed "NetworkConnection", c.childInteger "NetworkConnectionIndex" ≠ some k) →
          NetworkDefaults.ofSection S = {}) ∧
      ∀ before c after, S.childrenNamed "NetworkConnection" = before ++ c :: after →
        (∀ b ∈ before, b.childInteger "NetworkConnectionIndex" ≠ some k) →
        c.childInteger "NetworkConnectionIndex" = some k →
        NetworkDefaults.ofSection S = c.modeDefaults := by
  refine ⟨ofSection_of_childInteger_none, fun k hk => ⟨fun hnone => ?_, ?_⟩⟩
  · have hfind : (S.childrenNamed "NetworkConnection").find?
        (fun c => c.childInteger "NetworkConnectionIndex" == some k) = none := by
      rw [List.find?_eq_none]
      intro c hc
      simpa using hnone c hc
    rw [ofSection_of_childInteger_some hk, hfind]
    rfl
  · intro before c after hsplit hbefore hc
    have hfind : (S.childrenNamed "NetworkConnection").find?
        (fun c => c.childInteger "NetworkConnectionIndex" == some k) = some c := by
      rw [List.find?_eq_some_iff_append]
      refine ⟨by simpa using hc, before, after, hsplit, fun b hb => ?_⟩
      simpa using hbefore b hb
    rw [ofSection_of_childInteger_some hk, hfind]
    rfl

/-- A section whose primary index is written `01`, with two connections of
index `+1` and `١`: the first of them is the primary one. -/
theorem ofSection_primary_first_of_index :
    let c₁ : Element := .mk ⟨none, "NetworkConnection"⟩ [(⟨none, "network"⟩, " lan ")] none
      [.mk ⟨none, "NetworkConnectionIndex"⟩ [] (some " +1 ") [] none,
       .mk ⟨none, "IpAddressAllocationMode"⟩ [] (some "dhcp") [] none] none
    let c₂ : Element := .mk ⟨none, "NetworkConnection"⟩ [(⟨none, "network"⟩, "wan")] none
      [.mk ⟨none, "NetworkConnectionIndex"⟩ [] (some "١") [] none,
       .mk ⟨none, "IpAddressAllocationMode"⟩ [] (some "STATIC") [] none] none
    let p : Element := .mk ⟨none, "PrimaryNetworkConnectionIndex"⟩ [] (some "01") [] none
    let S : Element := .mk ⟨none, "NetworkConnectionSection"⟩ [] none [p, c₁, c₂] none
    S.childInteger "PrimaryNetworkConnectionIndex" = some 1 ∧
      S.childrenNamed "NetworkConnection" = [] ++ c₁ :: [c₂] ∧
      c₁.childInteger "NetworkConnectionIndex" = some 1 ∧
      c₂.childInteger "NetworkConnectionIndex" = some 1 ∧
      NetworkDefaults.ofSection S = c₁.modeDefaults := by
  intro c₁ c₂ p S
  -- names are compared through lower case; the kernel checks the given
  -- comparisons instead of evaluating them
  have hfirst : S.firstChild "PrimaryNetworkConnectionIndex" = some p :=
    List.find?_cons_of_pos (Element.named_mk_self _ _ _ _ _ _)
  have hP : S.childInteger "PrimaryNetworkConnectionIndex" = some 1 := by
    rw [Element.childInteger, hfirst]
    decide +kernel
  have h₁ : c₁.childInteger "NetworkConnectionIndex" = some 1 := by
    rw [Element.childInteger, show c₁.firstChild "NetworkConnectionIndex" = some _ from
      List.find?_cons_of_pos (Element.named_mk_self _ _ _ _ _ _)]
    decide +kernel
  have h₂ : c₂.childInteger "NetworkConnectionIndex" = some 1 := by
    rw [Element.childInteger, show c₂.firstChild "NetworkConnectionIndex" = some _ from
      List.find?_cons_of_pos (Element.named_mk_self _ _ _ _ _ _)]
    decide +kernel
  have hp : p.named "NetworkConnection" = false := by
    simp [p, Element.named, Element.name, Text.lower, ← String.toList_inj, String.toList_map]
  have hc : ∀ c ∈ [c₁, c₂], c.named "NetworkConnection" = true := by
    simp only [List.mem_cons, List.not_mem_nil, or_false, forall_eq_or_imp, forall_eq]
    exact ⟨Element.named_mk_self _ _ _ _ _ _, Element.named_mk_self _ _ _ _ _ _⟩
  have hsplit : S.childrenNamed "NetworkConnection" = [] ++ c₁ :: [c₂] := by
    rw [Element.childrenNamed, Element.children, List.filter_cons_of_neg (by simp [hp]),
      List.filter_eq_self.mpr hc]
    rfl
  exact ⟨hP, hsplit, h₁, h₂, ((ofSection_primary S).2 1 hP).2 [] c₁ [c₂] hsplit (by simp) h₁⟩

end ImageCatalog
