import ImageCatalog.Proofs.Redact.Scan

/-!
# How keys overlap

Redaction puts the marker `[REDACTED]` where a value stood, and a later scan
reads the text again. What it can read there depends on a few facts about
keys, shown here from `KeyLayout`:

* a key holds only plain characters, quotes, blanks, `:` and `=` after its
  first character (`KeyLayout.isKeyChar`), so it never reaches over a bracket
  of the marker, and it ends in a blank, a quote, `:` or `=`
  (`KeyLayout.last`);
* two keys of one kind never share their `:` or `=`: a name ends where the
  blanks and the quote before the `:` or `=` begin, so the names would have
  to end together (`KeyLayout.not_inside`);
* no key begins within the marker when no plain character follows it
  (`Secret.keyLen_marker`);
* a key of the session header and one of an authorization header never end
  together (`session_authorization_apart`).
-/

namespace ImageCatalog.Redact

open Text

/-! ## Runs at the end of a list -/

/-- Two ways of ending a list with a run of characters that `P` holds, each
after a character that `P` does not hold or after nothing, are the same. -/
theorem append_run_unique {P : Char → Bool} {X Y s s' : List Char} (h : X ++ s = Y ++ s')
    (hs : ∀ c ∈ s, P c) (hs' : ∀ c ∈ s', P c) (hX : ∀ c ∈ X.getLast?, P c = false)
    (hY : ∀ c ∈ Y.getLast?, P c = false) : X = Y ∧ s = s' := by
  -- read backwards, both runs are the run at the front
  have hrun : ∀ {Z r : List Char}, (∀ c ∈ r, P c) → (∀ c ∈ Z.getLast?, P c = false) →
      runLen P (Z ++ r).reverse = r.length := by
    intro Z r hr hZ
    rw [List.reverse_append, runLen_append_of_all (fun c hc => hr c (List.mem_reverse.1 hc))]
    cases hz : Z.reverse with
    | nil => simp
    | cons d w =>
      have hd : d ∈ Z.getLast? := by rw [← List.head?_reverse, hz]; rfl
      simp [runLen_cons_of_neg (hZ d hd)]
  have hlen : s.length = s'.length := by
    rw [← hrun hs hX, ← hrun hs' hY, h]
  exact List.append_inj' h hlen

/-! ## Names -/

/-- What stands in a key before its `:` or `=`: a name of `n` characters whose
characters after the first are plain, then quotes, then blanks. -/
def NamePart (n : Nat) (pre : List Char) : Prop :=
  ∃ a q s, pre = a ++ q ++ s ∧ a.length = n ∧ (∀ c ∈ a.tail, isPlain c) ∧ (∀ c ∈ q, isQuote c) ∧
    (∀ c ∈ s, isBlank c)

theorem getLast?_mem_tail {a : List Char} (ha : 2 ≤ a.length) : ∀ c ∈ a.getLast?, c ∈ a.tail := by
  intro c hc
  cases a with
  | nil => simp at ha
  | cons x a =>
    cases a with
    | nil => simp at ha
    | cons y a =>
      rw [List.getLast?_cons_cons] at hc
      exact List.mem_of_getLast? hc

theorem getLast?_append_mem {X Y : List Char} {c : Char} (hc : c ∈ (X ++ Y).getLast?) :
    c ∈ Y ∨ c ∈ X.getLast? := by
  rw [List.getLast?_append] at hc
  cases hY : Y.getLast? with
  | none => simp_all
  | some d =>
    rw [hY, Option.some_or] at hc
    obtain rfl := Option.some.inj hc
    exact Or.inl (List.mem_of_getLast? hY)

theorem getLast?_append_of_ne_nil {X Y : List Char} (hY : Y ≠ []) : (X ++ Y).getLast? = Y.getLast? := by
  rw [List.getLast?_append]
  cases h : Y.getLast? with
  | none => exact absurd (List.getLast?_eq_none_iff.1 h) hY
  | some d => rfl

namespace NamePart

variable {n : Nat} {pre pre' : List Char}

theorem length_le (h : NamePart n pre) : n ≤ pre.length := by
  obtain ⟨a, q, s, rfl, rfl, -⟩ := h
  simp

/-- After its first character a name part holds plain characters, quotes and
blanks, never `:` or `=`. -/
theorem tail (h : NamePart n pre) : ∀ c ∈ pre.tail, (isBlank c || isQuote c || isPlain c) = true := by
  obtain ⟨a, q, s, rfl, -, ha, hq, hs⟩ := h
  intro c hc
  cases a with
  | nil =>
    have hc' : c ∈ q ++ s := List.mem_of_mem_tail (by simpa using hc)
    rcases List.mem_append.1 hc' with hc' | hc'
    · simp [hq c hc']
    · simp [hs c hc']
  | cons x a =>
    simp only [List.cons_append, List.tail_cons, List.append_assoc, List.mem_append] at hc
    rcases hc with hc | hc | hc
    · simp [ha c (by simpa using hc)]
    · simp [hq c hc]
    · simp [hs c hc]

/-- Two name parts of one length that end together are the same. -/
theorem eq_nil_of_append (h : NamePart n pre) (h' : NamePart n pre') (hn : 2 ≤ n) {x : List Char}
    (heq : pre = x ++ pre') : x = [] := by
  obtain ⟨a, q, s, rfl, ha, haP, hq, hs⟩ := h
  obtain ⟨a', q', s', rfl, ha', haP', hq', hs'⟩ := h'
  -- a name ends in a plain character, and that is neither a blank nor a quote
  have hend : ∀ {b : List Char} {r : List Char}, b.length = n → (∀ c ∈ b.tail, isPlain c) →
      (∀ c ∈ r, isQuote c) → (∀ c ∈ (b ++ r).getLast?, isBlank c = false) ∧
        ∀ c ∈ b.getLast?, isQuote c = false := by
    intro b r hb hbP hr
    have hlast : ∀ c ∈ b.getLast?, isPlain c := fun c hc =>
      hbP c (getLast?_mem_tail (by omega) c hc)
    refine ⟨fun c hc => ?_, fun c hc => isQuote_of_isPlain (hlast c hc)⟩
    rcases getLast?_append_mem hc with hc | hc
    · exact isBlank_of_isQuote (hr c hc)
    · exact isBlank_of_isPlain (hlast c hc)
  obtain ⟨hblank, hquote⟩ := hend ha haP hq
  obtain ⟨hblank', hquote'⟩ := hend ha' haP' hq'
  -- the blanks before `:` or `=` are the same run, then the quotes, then the names
  have ha'ne : a' ≠ [] := by
    intro h
    rw [h] at ha'
    simp at ha'
    omega
  have h₁ := (append_run_unique (P := isBlank) (X := a ++ q) (Y := x ++ (a' ++ q'))
    (by simpa [List.append_assoc] using heq) hs hs' hblank (fun c hc => hblank' c (by
      rwa [getLast?_append_of_ne_nil (by simp [ha'ne])] at hc))).1
  have h₂ := (append_run_unique (P := isQuote) (X := a) (Y := x ++ a') (by simpa using h₁) hq hq'
    hquote (fun c hc => hquote' c (by rwa [getLast?_append_of_ne_nil ha'ne] at hc))).1
  have hlen := congrArg List.length h₂
  simp only [List.length_append] at hlen
  exact List.eq_nil_of_length_eq_zero (by omega)

end NamePart

/-! ## Keys -/

/-- The characters a key holds after its first: plain characters, quotes,
blanks, `:` and `=`. -/
def isKeyChar (c : Char) : Bool := isPlain c || isQuote c || isBlank c || isAssign c

theorem isAssign_of_isPlain {c : Char} (h : isPlain c = true) : isAssign c = false := by
  simp only [isPlain, Bool.not_eq_eq_eq_not, Bool.not_true, Bool.or_eq_false_iff] at h
  exact h.1.1.1.1.1.2

/-- Blanks, quotes and plain characters are not `:` or `=`. -/
theorem isAssign_of_blank_quote_plain {c : Char} (h : (isBlank c || isQuote c || isPlain c) = true) :
    isAssign c = false := by
  cases ha : isAssign c
  · rfl
  · simp [isBlank_of_isAssign ha, isQuote_of_isAssign ha] at h
    simp [isAssign_of_isPlain h] at ha

/-- The character at `j` of a list laid out as a name part, `:` or `=`, and
what follows. -/
theorem getElem?_parts {pre post t : List Char} {e d : Char} {j : Nat}
    (hj : j < pre.length + 1 + post.length) (hd : (pre ++ e :: (post ++ t))[j]? = some d) :
    (j < pre.length ∧ pre[j]? = some d) ∨ (j = pre.length ∧ d = e) ∨ d ∈ post := by
  by_cases hlt : j < pre.length
  · rw [List.getElem?_append_left hlt] at hd
    exact Or.inl ⟨hlt, hd⟩
  · rw [List.getElem?_append_right (by omega)] at hd
    obtain ⟨i, hi⟩ : ∃ i, j - pre.length = i := ⟨_, rfl⟩
    rw [hi] at hd
    cases i with
    | zero => exact Or.inr (Or.inl ⟨by omega, (Option.some.inj hd).symm⟩)
    | succ i =>
      rw [List.getElem?_cons_succ, List.getElem?_append_left (by omega)] at hd
      exact Or.inr (Or.inr (List.mem_of_getElem? hd))

namespace KeyLayout

variable {n k : Nat} {u : List Char}

/-- A key is its name part, its `:` or `=`, and what follows it up to the
value. -/
theorem parts (h : KeyLayout n u k) : ∃ pre e post t, u = pre ++ e :: (post ++ t) ∧
    k = pre.length + 1 + post.length ∧ NamePart n pre ∧ isAssign e ∧
    (∀ c ∈ post, (isBlank c || isQuote c || isPlain c) = true) ∧
    (∀ c ∈ post.getLast?, (isBlank c || isQuote c) = true) := by
  obtain ⟨a, q, s, e, r, t, rfl, rfl, ha, haP, hq, hs, he, hr, hlast⟩ := h
  exact ⟨a ++ q ++ s, e, r, t, by simp, by simp; omega, ⟨a, q, s, rfl, ha, haP, hq, hs⟩, he, hr, hlast⟩

theorem length_le (h : KeyLayout n u k) : k ≤ u.length := by
  obtain ⟨pre, e, post, t, rfl, rfl, -⟩ := h.parts
  simp
  omega

theorem lt (h : KeyLayout n u k) : n < k := by
  obtain ⟨pre, e, post, t, rfl, rfl, hpre, -⟩ := h.parts
  have := hpre.length_le
  omega

/-- Only the characters of a key matter to its layout. -/
theorem congr {w : List Char} (h : KeyLayout n u k) (hw : u.take k = w.take k) : KeyLayout n w k := by
  obtain ⟨a, q, s, e, r, t, rfl, rfl, hrest⟩ := h
  have htake : (a ++ (q ++ (s ++ e :: (r ++ t)))).take (a.length + q.length + s.length + 1 + r.length) =
      a ++ (q ++ (s ++ e :: r)) := by
    rw [show a.length + q.length + s.length + 1 + r.length = (a ++ (q ++ (s ++ e :: r))).length by
      simp; omega, show a ++ (q ++ (s ++ e :: (r ++ t))) = (a ++ (q ++ (s ++ e :: r))) ++ t by simp]
    exact List.take_left
  refine ⟨a, q, s, e, r, w.drop (a.length + q.length + s.length + 1 + r.length), ?_, rfl, hrest⟩
  conv_lhs => rw [← List.take_append_drop (a.length + q.length + s.length + 1 + r.length) w]
  rw [← hw, htake]
  simp

/-- After its first character a key holds only key characters. -/
theorem isKeyChar_of_getElem? (h : KeyLayout n u k) {j : Nat} {d : Char} (hj₁ : 1 ≤ j) (hj : j < k)
    (hd : u[j]? = some d) : isKeyChar d = true := by
  obtain ⟨pre, e, post, t, rfl, rfl, hpre, he, hpost, -⟩ := h.parts
  rcases getElem?_parts hj hd with ⟨hlt, hd⟩ | ⟨-, rfl⟩ | hd
  · have hmem : d ∈ pre.tail := by
      obtain ⟨i, rfl⟩ : ∃ i, j = i + 1 := ⟨j - 1, by omega⟩
      rw [← List.getElem?_tail] at hd
      exact List.mem_of_getElem? hd
    have := hpre.tail d hmem
    simp only [isKeyChar]
    grind
  · simp [isKeyChar, he]
  · have := hpost d hd
    simp only [isKeyChar]
    grind

/-- A key ends in a blank, a quote, `:` or `=`. -/
theorem last (h : KeyLayout n u k) : ∃ d, u[k - 1]? = some d ∧ (isBlank d || isQuote d || isAssign d) = true := by
  obtain ⟨pre, e, post, t, rfl, rfl, -, he, -, hlast⟩ := h.parts
  cases hpost : post.getLast? with
  | none =>
    rw [List.getLast?_eq_none_iff] at hpost
    subst hpost
    exact ⟨e, by simp, by simp [he]⟩
  | some d =>
    refine ⟨d, ?_, by simp [hlast d hpost]⟩
    have hne : post ≠ [] := fun h => by simp [h] at hpost
    rw [List.getElem?_append_right (by omega), show pre.length + 1 + post.length - 1 - pre.length =
      post.length - 1 + 1 by have := List.length_pos_of_ne_nil hne; omega, List.getElem?_cons_succ,
      List.getElem?_append_left (by have := List.length_pos_of_ne_nil hne; omega), ← List.getLast?_eq_getElem?, hpost]

/-- The second character of a key, within its name, is plain. -/
theorem second (h : KeyLayout n u k) (hn : 2 ≤ n) : ∃ d, u[1]? = some d ∧ isPlain d = true := by
  obtain ⟨a, q, s, e, r, t, rfl, -, ha, haP, -⟩ := h
  obtain ⟨x, y, a, rfl⟩ : ∃ x y a', a = x :: y :: a' := by
    match a, ha with
    | x :: y :: a', _ => exact ⟨x, y, a', rfl⟩
    | [], ha => simp at ha; omega
    | [_], ha => simp at ha; omega
  exact ⟨y, rfl, haP y (by simp)⟩

/-- Two keys of one kind never share their `:` or `=`: one that begins within
another ends past it. -/
theorem not_inside {p k' : Nat} (h : KeyLayout n u k) (h' : KeyLayout n (u.drop p) k') (hn : 2 ≤ n)
    (hp : 0 < p) (hk : p + k' ≤ k) : False := by
  obtain ⟨pre', e', post', t', heq, rfl, hpre', he', -, -⟩ := h'.parts
  have hlen := h.length_le
  obtain ⟨pre, e, post, t, rfl, rfl, hpre, he, hpost, -⟩ := h.parts
  -- where the second `:` or `=` stands in the first key
  have hd : (pre ++ e :: (post ++ t))[p + pre'.length]? = some e' := by
    rw [← List.getElem?_drop, heq]
    simp
  rcases getElem?_parts (by omega) hd with ⟨hlt, hd⟩ | ⟨hj, -⟩ | hd
  · -- inside the first name part there is no `:` or `=`
    have hmem : e' ∈ pre.tail := by
      obtain ⟨i, hi⟩ : ∃ i, p + pre'.length = i + 1 := ⟨p + pre'.length - 1, by omega⟩
      rw [hi, ← List.getElem?_tail] at hd
      exact List.mem_of_getElem? hd
    rw [isAssign_of_blank_quote_plain (hpre.tail e' hmem)] at he'
    cases he'
  · -- at the first `:` or `=`: the name parts end together
    have hpre_eq : pre = (pre ++ e :: (post ++ t)).take p ++ pre' := by
      have h₁ : (pre ++ e :: (post ++ t)).take (p + pre'.length) = pre := by
        rw [hj]
        simp
      rw [List.take_add, heq] at h₁
      simpa using h₁.symm
    have := hpre.eq_nil_of_append hpre' hn hpre_eq
    simp at this
    omega
  · rw [isAssign_of_blank_quote_plain (hpost e' hd)] at he'
    cases he'

end KeyLayout

/-! ## The marker -/

theorem marker_toList : marker.toList = ['[', 'R', 'E', 'D', 'A', 'C', 'T', 'E', 'D', ']'] := by decide

theorem length_marker : marker.toList.length = 10 := by rw [marker_toList]; rfl

/-- The marker holds no blank, quote, `:` or `=`. -/
theorem marker_not_separator : ∀ c ∈ marker.toList, (isBlank c || isQuote c || isAssign c) = false := by
  have h : marker.toList.all (fun c => !(isBlank c || isQuote c || isAssign c)) = true := by decide
  intro c hc
  simpa using List.all_eq_true.1 h c hc

/-- No key begins within the marker when what follows the marker does not
begin with a plain character: it would reach over the closing bracket. -/
theorem Secret.keyLen_marker (S : Secret) {j : Nat} (hj : j < 10) {w : List Char}
    (hw : ∀ c ∈ w.head?, isPlain c = false) : S.keyLen (marker.toList.drop j ++ w) = none := by
  cases hk : S.keyLen (marker.toList.drop j ++ w) with
  | none => rfl
  | some k =>
    exfalso
    have hlay := S.keyLayout hk
    have hn := S.two_le_nameLen
    obtain ⟨pre, e, post, t, heq, rfl, hpre, he, -⟩ := hlay.parts
    have hpre_len := hpre.length_le
    -- the `:` or `=` lies past the marker
    have hpast : 10 - j ≤ pre.length := by
      by_contra hlt
      have hd : (marker.toList.drop j ++ w)[pre.length]? = some e := by rw [heq]; simp
      rw [List.getElem?_append_left (by simp [length_marker]; omega)] at hd
      have := marker_not_separator e (List.mem_of_mem_drop (List.mem_of_getElem? hd))
      simp [he] at this
    by_cases hj9 : j < 9
    · -- the closing bracket stands inside the key
      have hd : (marker.toList.drop j ++ w)[9 - j]? = some ']' := by
        rw [List.getElem?_append_left (by simp [length_marker]; omega), List.getElem?_drop,
          show j + (9 - j) = 9 by omega, marker_toList]
        rfl
      have := hlay.isKeyChar_of_getElem? (by omega) (by omega) hd
      exact absurd this (by decide)
    · -- the key begins at the closing bracket; its second character follows the marker
      obtain ⟨d, hd, hplain⟩ := hlay.second hn
      rw [show j = 9 by omega, marker_toList] at hd
      have : w.head? = some d := by simpa [List.head?_eq_getElem?] using hd
      rw [hw d this] at hplain
      cases hplain

/-! ## The session header and an authorization header -/

theorem take_append_of_length {l t : List Char} {m : Nat} (h : m = l.length) : (l ++ t).take m = l := by
  subst h
  exact List.take_left

/-- A scheme word is plain to its last character. -/
theorem scheme_last_isPlain {B : List Char} (hB : Spells (codes "Basic") B ∨ Spells (codes "Bearer") B) :
    B ≠ [] ∧ ∀ c ∈ B.getLast?, isPlain c := by
  rcases hB with hB | hB
  · refine ⟨fun h => ?_, fun c hc => hB.isPlain (codes_subset_nameCodes (by decide)) c
      (List.mem_of_getLast? hc)⟩
    have := hB.length_eq
    rw [h, length_codes_basic] at this
    cases this
  · refine ⟨fun h => ?_, fun c hc => hB.isPlain (codes_subset_nameCodes (by decide)) c
      (List.mem_of_getLast? hc)⟩
    have := hB.length_eq
    rw [h, length_codes_bearer] at this
    cases this

/-- A key of the session header and a key of an authorization header never
end at the same place: the first ends in a quote, or in blanks after `:` or
`=` (or in that `:` or `=`), the second in blanks after the letter that ends
its scheme. -/
theorem session_authorization_apart {u v : List Char} {a b k k' : Nat}
    (hs : session.keyLen (u.drop a) = some k) (ha : authorization.keyLen (v.drop b) = some k')
    (hend : a + k = b + k') (heq : u.take (a + k) = v.take (b + k')) : False := by
  obtain ⟨A, q, s, e, s₂, q₂, t, hu, -, -, -, he, hs₂, hq₂, rfl⟩ := namedKeyLen_layout hs
  obtain ⟨k₁, -, hsch⟩ := Option.bind_eq_some_iff.1 ha
  obtain ⟨n, hn, rfl⟩ := Option.map_eq_some_iff.1 hsch
  obtain ⟨B, bl, t', hv, hB, hbl, hblank, rfl⟩ := schemeLen_layout hn
  -- both keys, as the text they end
  have hW₁ : u.take (a + (A.length + q.length + s.length + 1 + s₂.length + q₂.length)) =
      (u.take a ++ A ++ q ++ s ++ [e] ++ s₂) ++ q₂ := by
    rw [List.take_add, hu, show A ++ (q ++ (s ++ e :: (s₂ ++ (q₂ ++ t)))) =
      (A ++ q ++ s ++ [e] ++ s₂ ++ q₂) ++ t by simp, take_append_of_length (by simp; omega)]
    simp
  have hW₂ : v.take (b + (k₁ + (B.length + bl.length))) = (v.take (b + k₁) ++ B) ++ bl := by
    rw [← Nat.add_assoc, List.take_add, ← List.drop_drop, hv, ← List.append_assoc,
      take_append_of_length (by simp)]
    simp
  rw [hW₁, hW₂] at heq
  obtain ⟨hBne, hBplain⟩ := scheme_last_isPlain hB
  -- the authorization key ends in a blank
  obtain ⟨z, hz⟩ := Option.isSome_iff_exists.1 (List.getLast?_isSome.2 hbl)
  have hzb := hblank z (List.mem_of_getLast? hz)
  match q₂, hq₂ with
  | [x], hq₂ =>
    -- the session key ends in a quote
    have hlast := congrArg List.getLast? heq
    rw [getLast?_append_of_ne_nil (by simp), getLast?_append_of_ne_nil hbl, hz] at hlast
    simp only [List.getLast?_singleton, Option.some.injEq] at hlast
    rw [← hlast, isBlank_of_isQuote (hq₂.2 x (by simp))] at hzb
    cases hzb
  | [], _ =>
    -- both keys end in the same run of blanks, after `:` or `=` and after a letter
    rw [List.append_nil] at heq
    have hXY := (append_run_unique (P := isBlank) heq hs₂ hblank (fun c hc => by
      rw [getLast?_append_of_ne_nil (by simp)] at hc
      simp only [List.getLast?_singleton, Option.mem_def, Option.some.injEq] at hc
      rw [← hc]
      exact isBlank_of_isAssign he) (fun c hc => by
        rw [getLast?_append_of_ne_nil hBne] at hc
        exact isBlank_of_isPlain (hBplain c hc))).1
    have hlast := congrArg List.getLast? hXY
    rw [getLast?_append_of_ne_nil (by simp), getLast?_append_of_ne_nil hBne] at hlast
    simp only [List.getLast?_singleton] at hlast
    rw [isAssign_of_isPlain (hBplain e hlast.symm)] at he
    cases he
  | _ :: _ :: _, hq₂ => simp [OptQuote] at hq₂

end ImageCatalog.Redact
