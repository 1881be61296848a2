import ImageCatalog.Proofs.Redact.Overlap

/-!
# Redacted texts are clean

A text is clean for a kind of secret when every hit of that kind, at every
position, has the marker for its value. This module shows that the scan of
`Scan` makes a text clean for its own kind (`Secret.clean_scrub`), that a
later scan keeps a text clean for an earlier kind (`Secret.clean_scrub_of_follows`),
and that a scan leaves a clean text as it is (`Secret.scrub_of_clean`).

A scan changes a text only where it puts the marker, so the argument is about
what a scan can read near a marker: a key never reaches over the marker's
brackets, a key of one kind never begins inside another key of that kind, and
where a key of an earlier kind ends with a key of the later kind, the values
of the later kind are values of the earlier one, or the two never end
together (`Follows`).
-/

namespace ImageCatalog.Redact

open Text

namespace Secret

variable (S : Secret)

/-- At the front of `u`, a hit of `S`, if there is one, has the marker for its
value. -/
def CleanAt (u : List Char) : Prop :=
  ∀ k L, S.hit u = some (k, L) → (u.drop k).take L = marker.toList

/-- Every hit of `S` in `t`, at every position, has the marker for its
value. -/
def Clean (t : List Char) : Prop := ∀ p, S.CleanAt (t.drop p)

variable {S} {u t : List Char} {k L : Nat}

theorem cleanAt_of_hit_none (h : S.hit u = none) : S.CleanAt u := by
  intro k L h'
  rw [h] at h'
  cases h'

theorem Clean.drop (h : S.Clean t) (p : Nat) : S.Clean (t.drop p) := by
  intro p'
  rw [List.drop_drop]
  exact h _

theorem Clean.cleanAt (h : S.Clean t) : S.CleanAt t := h 0

theorem Clean.right {X Y : List Char} (h : S.Clean (X ++ Y)) : S.Clean Y := by
  have := h.drop X.length
  rwa [List.drop_left] at this

/-- A text is clean when it is clean at each position of a first part and its
second part is clean. -/
theorem clean_append {X Y : List Char} (hX : ∀ p < X.length, S.CleanAt ((X ++ Y).drop p))
    (hY : S.Clean Y) : S.Clean (X ++ Y) := by
  intro p
  by_cases hp : p < X.length
  · exact hX p hp
  · rw [List.drop_append, List.drop_eq_nil_of_le (by omega), List.nil_append]
    exact hY _

theorem clean_cons {c : Char} (h₀ : S.CleanAt (c :: t)) (h : S.Clean t) : S.Clean (c :: t) := by
  refine clean_append (X := [c]) (fun p hp => ?_) h
  obtain rfl : p = 0 := by simpa using hp
  exact h₀

/-! ## Hits -/

/-- A hit is a key, a run of value characters, and a rest that does not begin
with a value character. -/
theorem hit_split (h : S.hit u = some (k, L)) :
    ∃ key val rest, u = key ++ val ++ rest ∧ key.length = k ∧ val.length = L ∧ val ≠ [] ∧
      (∀ c ∈ val, S.isValue c) ∧ (∀ c ∈ rest.head?, S.isValue c = false) ∧ S.keyLen u = some k := by
  obtain ⟨hk, hL, hrun⟩ := (S.hit_eq_some).1 h
  have hle := S.keyLen_le hk
  obtain ⟨val, rest, hsplit, hlen, hval, hrest⟩ := @runLen_split S.isValue (u.drop k)
  refine ⟨u.take k, val, rest, ?_, by simp; omega, by omega, ?_, hval, hrest, hk⟩
  · rw [List.append_assoc, ← hsplit, List.take_append_drop]
  · rintro rfl
    simp at hlen
    omega

/-- A key followed by a value character begins a hit. -/
theorem hit_of_keyLen (hk : S.keyLen u = some k) {c : Char} (hc : (u.drop k).head? = some c)
    (hv : S.isValue c) : S.hit u = some (k, runLen S.isValue (u.drop k)) := by
  have hpos : 0 < runLen S.isValue (u.drop k) := by
    obtain ⟨w, hw⟩ := List.head?_eq_some_iff.1 hc
    rw [hw, runLen_cons_of_pos hv]
    omega
  unfold hit
  rw [hk, Option.bind_some, if_pos hpos]

/-- A key read in one text is read in another that agrees with it on the key,
when a value character follows. -/
theorem keyLen_of_take_eq {v : List Char} (hk : S.keyLen v = some k) (htake : v.take k = u.take k)
    (hval : ∀ c ∈ (u.drop k).head?, S.isValue c) : S.keyLen u = some k := by
  have := S.keyLen_take_append hk hval
  rwa [htake, List.take_append_drop] at this

/-- A key read in one text begins a hit in another that agrees with it on the
key, when a value character follows. -/
theorem hit_of_take_eq {v : List Char} (hk : S.keyLen v = some k) (htake : v.take k = u.take k)
    {c : Char} (hc : (u.drop k).head? = some c) (hv : S.isValue c) :
    S.hit u = some (k, runLen S.isValue (u.drop k)) := by
  refine hit_of_keyLen (keyLen_of_take_eq hk htake fun d hd => ?_) hc hv
  rw [hc] at hd
  cases hd
  exact hv

/-- The value of a hit begins with a value character. -/
theorem hit_value_head (h : S.hit u = some (k, L)) : ∃ c, (u.drop k).head? = some c ∧ S.isValue c := by
  obtain ⟨-, hL, hrun⟩ := (S.hit_eq_some).1 h
  have := head_of_lt_runLen (i := 0) (hrun ▸ hL)
  rwa [List.drop_zero] at this

/-- What follows a hit is shorter than the text. -/
theorem length_rest_lt {key val rest : List Char} (hu : u = key ++ val ++ rest) (hval : val ≠ []) :
    rest.length < u.length := by
  have := List.length_pos_of_ne_nil hval
  rw [hu]
  simp only [List.length_append]
  omega

/-- The marker, then something that does not begin with a value character:
the value read there is the marker. -/
theorem runLen_marker_append {w : List Char} (hw : ∀ c ∈ w.head?, S.isValue c = false) :
    runLen S.isValue (marker.toList ++ w) = 10 := by
  rw [runLen_append_of_all S.isValue_marker, length_marker]
  cases w with
  | nil => rfl
  | cons d w => rw [runLen_cons_of_neg (hw d (by simp))]

/-- The value of a clean hit is the marker, ten characters long. -/
theorem CleanAt.length_value (h : S.CleanAt u) (hhit : S.hit u = some (k, L)) : L = 10 := by
  have hlen := congrArg List.length (h k L hhit)
  have hle := S.hit_le hhit
  rw [List.length_take, List.length_drop, length_marker] at hlen
  omega

/-! ## What a scan leaves -/

/-- At a hit, a scan keeps the key, puts the marker for the value and scans on
after it. -/
theorem scrub_hit_split (h : S.hit u = some (k, L)) :
    ∃ key val rest, u = key ++ val ++ rest ∧ key.length = k ∧ val.length = L ∧ val ≠ [] ∧
      (∀ c ∈ val, S.isValue c) ∧ (∀ c ∈ rest.head?, S.isValue c = false) ∧ S.keyLen u = some k ∧
      S.scrub u = key ++ marker.toList ++ S.scrub rest := by
  obtain ⟨key, val, rest, rfl, rfl, rfl, hval, hvalv, hrest, hk⟩ := hit_split h
  refine ⟨key, val, rest, rfl, rfl, rfl, hval, hvalv, hrest, hk, ?_⟩
  have h₁ : (key ++ val ++ rest).take key.length = key := by rw [List.append_assoc, List.take_left]
  have h₂ : (key ++ val ++ rest).drop (key.length + val.length) = rest := List.drop_left' (by simp)
  rw [S.scrub_of_hit h, h₁, h₂, List.append_assoc]

/-- A scan leaves the text as it is, or keeps it up to the key of a first hit,
puts the marker for that hit's value and scans on after it. -/
theorem scrub_first_hit (u : List Char) :
    S.scrub u = u ∨ ∃ pre key val rest, u = pre ++ (key ++ val ++ rest) ∧
      S.hit (key ++ val ++ rest) = some (key.length, val.length) ∧ val ≠ [] ∧
      (∀ c ∈ val, S.isValue c) ∧ (∀ c ∈ rest.head?, S.isValue c = false) ∧
      S.scrub u = pre ++ key ++ marker.toList ++ S.scrub rest := by
  induction u with
  | nil => exact Or.inl (S.scrub_nil)
  | cons c t ih =>
    cases h : S.hit (c :: t) with
    | some kl =>
      obtain ⟨k, L⟩ := kl
      obtain ⟨key, val, rest, heq, rfl, rfl, hval, hvalv, hrest, -, hs⟩ := scrub_hit_split h
      exact Or.inr ⟨[], key, val, rest, heq, heq ▸ h, hval, hvalv, hrest, by rw [hs]; rfl⟩
    | none =>
      rw [S.scrub_cons_of_miss h]
      rcases ih with ih | ⟨pre, key, val, rest, rfl, hhit, hval, hvalv, hrest, hs⟩
      · exact Or.inl (by rw [ih])
      · exact Or.inr ⟨c :: pre, key, val, rest, rfl, hhit, hval, hvalv, hrest, by rw [hs]; rfl⟩

/-- A scan leaves a clean text as it is. -/
theorem scrub_of_clean : ∀ {t : List Char}, S.Clean t → S.scrub t = t
  | [], _ => S.scrub_nil
  | c :: t', h => by
    cases hhit : S.hit (c :: t') with
    | none => rw [S.scrub_cons_of_miss hhit, scrub_of_clean (t := t') (h.drop 1)]
    | some kl =>
      obtain ⟨k, L⟩ := kl
      obtain ⟨key, val, rest, heq, rfl, rfl, hne, -, -, -, hs⟩ := scrub_hit_split hhit
      -- the value of the hit is the marker already
      have hval := h.cleanAt _ _ hhit
      rw [heq] at h hval
      rw [List.append_assoc, List.drop_left, List.take_left] at hval
      rw [hs, heq, scrub_of_clean h.right, hval]
termination_by t => t.length
decreasing_by
  · simp
  · exact length_rest_lt heq hne

theorem hit_eq_none_of_keyLen (h : S.keyLen u = none) : S.hit u = none := by
  unfold hit
  rw [h]
  rfl

theorem head?_drop_append {X Z : List Char} {i : Nat} (hi : i < X.length) :
    ((X ++ Z).drop i).head? = (X.drop i).head? := by
  rw [List.drop_append_of_le_length (by omega), List.head?_append_of_ne_nil]
  simp
  omega

theorem getElem?_marker (Y w : List Char) : (Y ++ marker.toList ++ w)[Y.length]? = some '[' := by
  rw [List.append_assoc, List.getElem?_append_right (by omega), Nat.sub_self, marker_toList]
  rfl

/-- A key that reaches past the end of `Y` holds the opening bracket of the
marker after `Y`. -/
theorem keyLen_le_of_marker {Y w : List Char} {k' : Nat}
    (hk : S.keyLen (Y ++ marker.toList ++ w) = some k') (hY : Y ≠ []) : k' ≤ Y.length := by
  by_contra hgt
  have hpos : 1 ≤ Y.length := List.length_pos_of_ne_nil hY
  have := (S.keyLayout hk).isKeyChar_of_getElem? hpos (by omega) (getElem?_marker Y w)
  exact absurd this (by decide)

/-- A scan finds nothing at the front of a text where there was nothing to
find: up to the first marker it puts the text is as it was, and a key read
there that a value character follows was there before. -/
theorem hit_scrub_of_miss (h : S.hit u = none) : S.hit (S.scrub u) = none := by
  rcases S.scrub_first_hit u with hs | ⟨pre, key, val, rest', rfl, hhit, hval, hvalv, -, hout⟩
  · rw [hs]
    exact h
  have hu : pre ++ (key ++ val ++ rest') = (pre ++ key) ++ val ++ rest' := by simp
  have hpre : pre ≠ [] := by
    rintro rfl
    rw [List.nil_append, hhit] at h
    cases h
  rw [hout]
  cases hk' : S.hit ((pre ++ key) ++ marker.toList ++ S.scrub rest') with
  | none => rfl
  | some kl =>
    obtain ⟨k', L'⟩ := kl
    exfalso
    have hkey' := ((S.hit_eq_some).1 hk').1
    have hle := keyLen_le_of_marker hkey' (by simp [hpre])
    -- up to `k'` the scan kept the text, and a value character follows there as well
    have htake : ((pre ++ key) ++ marker.toList ++ S.scrub rest').take k' =
        ((pre ++ key) ++ val ++ rest').take k' := by
      rw [List.append_assoc, List.take_append_of_le_length hle, List.append_assoc,
        List.take_append_of_le_length hle]
    obtain ⟨c, hc, hcv⟩ : ∃ c, (((pre ++ key) ++ val ++ rest').drop k').head? = some c ∧ S.isValue c := by
      rcases Nat.lt_or_eq_of_le hle with hlt | heq
      · obtain ⟨c, hc, hcv⟩ := hit_value_head hk'
        rw [List.append_assoc, head?_drop_append hlt] at hc
        exact ⟨c, by rw [List.append_assoc, head?_drop_append hlt, hc], hcv⟩
      · obtain ⟨c, val', rfl⟩ := List.exists_cons_of_ne_nil hval
        exact ⟨c, by rw [heq, List.append_assoc, List.drop_left]; rfl, hvalv c (by simp)⟩
    rw [hu, hit_of_take_eq hkey' htake hc hcv] at h
    cases h

theorem isPlain_eq_false (S : Secret) {c : Char} (h : S.isValue c = false) : isPlain c = false := by
  cases hp : isPlain c
  · rfl
  · rw [S.isValue_of_isPlain hp] at h
    cases h

theorem drop_append_append {Y X W : List Char} {p : Nat} (hp : p ≤ Y.length) :
    (Y ++ X ++ W).drop p = Y.drop p ++ X ++ W := by
  rw [List.append_assoc, List.drop_append_of_le_length hp, List.append_assoc]

theorem take_drop_append {X Z Z' : List Char} {p k' : Nat} (h : p + k' ≤ X.length) :
    ((X ++ Z).drop p).take k' = ((X ++ Z').drop p).take k' := by
  rw [List.drop_append_of_le_length (by omega), List.drop_append_of_le_length (by omega),
    List.take_append_of_le_length (by simp; omega), List.take_append_of_le_length (by simp; omega)]

/-- No key begins inside the marker when no plain character follows it. -/
theorem cleanAt_inside_marker (S : Secret) {key w : List Char} (hw : ∀ c ∈ w.head?, isPlain c = false)
    {p : Nat} (hpk : key.length ≤ p) (hp : p < key.length + 10) :
    S.CleanAt ((key ++ marker.toList ++ w).drop p) := by
  apply cleanAt_of_hit_none
  apply hit_eq_none_of_keyLen
  have hdrop : (key ++ marker.toList ++ w).drop p = marker.toList.drop (p - key.length) ++ w := by
    rw [List.append_assoc, List.drop_append, List.drop_eq_nil_of_le hpk, List.nil_append,
      List.drop_append_of_le_length (by rw [length_marker]; omega)]
  rw [hdrop]
  exact S.keyLen_marker (by omega) hw

/-- Behind a key whose value a scan replaced by the marker, the text is clean
at the key's positions and the marker's: the key reads the marker as its
value, no key of the kind begins inside it, and none begins inside the
marker. -/
theorem cleanAt_marked {key val rest w : List Char}
    (hk : S.keyLen (key ++ val ++ rest) = some key.length) (hrest : ∀ c ∈ rest.head?, S.isValue c = false)
    (hw : w.head? = rest.head?) {p : Nat} (hp : p < key.length + 10) :
    S.CleanAt ((key ++ marker.toList ++ w).drop p) := by
  have hw' : ∀ c ∈ w.head?, S.isValue c = false := by rw [hw]; exact hrest
  rcases Nat.lt_or_ge p key.length with hpk | hpk
  · rcases Nat.eq_zero_or_pos p with rfl | hp0
    · -- the key itself, whose value is now the marker
      have hhead : ((key ++ marker.toList ++ w).drop key.length).head? = some '[' := by
        rw [List.append_assoc, List.drop_left, marker_toList]
        rfl
      have hhit := hit_of_take_eq hk (by simp [List.append_assoc]) hhead
        (S.isValue_marker '[' (by simp [marker_toList]))
      rw [List.drop_zero]
      intro k L h
      rw [hhit] at h
      cases h
      rw [List.append_assoc, List.drop_left, runLen_marker_append hw']
      simp [List.take_left' length_marker]
    · -- no key of the kind begins inside another
      apply cleanAt_of_hit_none
      apply hit_eq_none_of_keyLen
      cases hk' : S.keyLen ((key ++ marker.toList ++ w).drop p) with
      | none => rfl
      | some k' =>
        exfalso
        have hlay := S.keyLayout hk'
        -- it does not reach the marker
        have hle : p + k' ≤ key.length := by
          by_contra hgt
          have hd : ((key ++ marker.toList ++ w).drop p)[key.length - p]? = some '[' := by
            rw [List.getElem?_drop, show p + (key.length - p) = key.length by omega, getElem?_marker]
          exact absurd (hlay.isKeyChar_of_getElem? (by omega) (by omega) hd) (by decide)
        have hlay' := hlay.congr (w := (key ++ (val ++ rest)).drop p)
          (by rw [List.append_assoc]; exact take_drop_append hle)
        rw [← List.append_assoc] at hlay'
        exact (S.keyLayout hk).not_inside hlay' S.two_le_nameLen hp0 hle
  · exact S.cleanAt_inside_marker (fun c hc => S.isPlain_eq_false (hw' c hc)) hpk hp

/-- A scan makes a text clean for its own kind. -/
theorem clean_scrub : ∀ t : List Char, S.Clean (S.scrub t)
  | [] => by
    rw [S.scrub_nil]
    intro p
    rw [List.drop_nil]
    exact cleanAt_of_hit_none S.hit_nil
  | c :: t' => by
    cases hhit : S.hit (c :: t') with
    | none =>
      -- the first character is kept, and nothing is found at it
      have h₀ := hit_scrub_of_miss hhit
      rw [S.scrub_cons_of_miss hhit] at h₀ ⊢
      exact clean_cons (cleanAt_of_hit_none h₀) (clean_scrub t')
    | some kl =>
      -- the key is kept and its value becomes the marker
      obtain ⟨k, L⟩ := kl
      obtain ⟨key, val, rest, heq, rfl, rfl, hval, -, hrest, hk, hs⟩ := scrub_hit_split hhit
      rw [hs]
      rw [heq] at hk
      exact clean_append (X := key ++ marker.toList)
        (fun p hp => cleanAt_marked hk hrest (S.head?_scrub rest) (by simpa [length_marker] using hp))
        (clean_scrub rest)
termination_by t => t.length
decreasing_by
  · simp
  · exact length_rest_lt heq hval

/-! ## A later scan -/

theorem head?_of_runLen_eq_zero {ok : Char → Bool} {u : List Char} (h : runLen ok u = 0) :
    ∀ c ∈ u.head?, ok c = false := by
  intro c hc
  cases u with
  | nil => cases hc
  | cons d w =>
    obtain rfl := Option.some.inj hc
    cases hd : ok d
    · rfl
    · rw [runLen_cons_of_pos hd] at h
      omega

/-- A run that stops inside a common beginning of two lists stops at the same
place in both. -/
theorem runLen_eq_of_take_eq {ok : Char → Bool} {u v : List Char} {n : Nat}
    (h : u.take (n + 1) = v.take (n + 1)) (hn : n < u.length) (hr : runLen ok u = n) :
    runLen ok v = n := by
  obtain ⟨r, w, rfl, hrl, hr', hw⟩ := @runLen_split ok u
  rw [hr] at hrl
  subst hrl
  obtain ⟨x, w', rfl⟩ : ∃ x w', w = x :: w' := by
    cases w with
    | nil => simp at hn
    | cons x w' => exact ⟨x, w', rfl⟩
  -- `v` begins with the same run and the same character after it
  have hv : v = r ++ x :: v.drop (r.length + 1) := by
    conv_lhs => rw [← List.take_append_drop (r.length + 1) v]
    rw [← h, take_length_add_append]
    simp
  rw [hv, runLen_run hr' (hw x (by simp))]

/-- Where a key of `S'` ends with `Y`, `Y` ends in a blank, a quote, `:` or
`=`. -/
theorem getLast?_of_keyLen {S' : Secret} {Y Z : List Char} {b : Nat}
    (hkey : S'.keyLen ((Y ++ Z).drop b) = some (Y.length - b)) (hb : b < Y.length) :
    ∀ d ∈ Y.getLast?, (isBlank d || isQuote d || isAssign d) = true := by
  obtain ⟨d, hd, hsep⟩ := (S'.keyLayout hkey).last
  rw [List.getElem?_drop, show b + (Y.length - b - 1) = Y.length - 1 by omega,
    List.getElem?_append_left (by omega)] at hd
  intro d' hd'
  rw [List.getLast?_eq_getElem?, hd] at hd'
  obtain rfl := Option.some.inj hd'
  exact hsep

/-- A hit that a scan left whole, inside the text the scan kept before a key
it found: the hit was clean before, and its value, the marker, ends before
that key, which ends in a blank, a quote, `:` or `=`. -/
theorem cleanAt_before_marker {Y Z W : List Char} {k' L' : Nat}
    (hlast : ∀ d ∈ Y.getLast?, (isBlank d || isQuote d || isAssign d) = true)
    (hhit : S.hit (Y ++ marker.toList ++ W) = some (k', L')) (hk' : k' < Y.length)
    (hclean : S.CleanAt (Y ++ Z)) : ((Y ++ marker.toList ++ W).drop k').take L' = marker.toList := by
  obtain ⟨hkey', -, hrun'⟩ := (S.hit_eq_some).1 hhit
  -- the same key is read before the scan, followed by the same character
  have htake : (Y ++ marker.toList ++ W).take k' = (Y ++ Z).take k' := by
    rw [List.append_assoc, List.take_append_of_le_length (by omega),
      List.take_append_of_le_length (by omega)]
  obtain ⟨c, hc, hcv⟩ := hit_value_head hhit
  rw [List.append_assoc, head?_drop_append hk'] at hc
  have hc' : ((Y ++ Z).drop k').head? = some c := by rw [head?_drop_append hk', hc]
  have hhit₂ := hit_of_take_eq hkey' htake hc' hcv
  have hmark := hclean _ _ hhit₂
  have hlen₂ := hclean.length_value hhit₂
  rw [hlen₂] at hmark
  -- the marker lies inside `Y`: the last character of `Y` is no character of the marker
  have hfit : k' + 11 ≤ Y.length := by
    by_contra hlt
    obtain ⟨d, hd⟩ := Option.isSome_iff_exists.1 (List.getLast?_isSome.2 (List.ne_nil_of_length_pos
      (Nat.lt_of_le_of_lt (Nat.zero_le k') hk')))
    have hat : marker.toList[Y.length - 1 - k']? = some d := by
      rw [← hmark, List.getElem?_take_of_lt (by omega), List.getElem?_drop,
        show k' + (Y.length - 1 - k') = Y.length - 1 by omega, List.getElem?_append_left (by omega),
        ← List.getLast?_eq_getElem?, hd]
    have := marker_not_separator d (List.mem_of_getElem? hat)
    rw [hlast d hd] at this
    cases this
  -- after the key the two texts agree on the marker and the character after it
  have hagree : ((Y ++ Z).drop k').take 11 = ((Y ++ marker.toList ++ W).drop k').take 11 := by
    rw [List.append_assoc, List.drop_append_of_le_length (by omega),
      List.drop_append_of_le_length (by omega), List.take_append_of_le_length (by simp; omega),
      List.take_append_of_le_length (by simp; omega)]
  have hrun := runLen_eq_of_take_eq hagree (by simp; omega) hlen₂
  rw [hrun'] at hrun
  subst hrun
  have h10 := congrArg (List.take 10) hagree
  simp only [List.take_take, show min 10 11 = 10 from rfl] at h10
  rw [← h10, hmark]

/-- A hit that ends where a key of `S'` ends, after a scan of `S'` put the
marker for that key's value: when the values of `S'` are values of `S`, the
clean hit before the scan had the marker for both values, so the scan kept the
marker, and the hit still reads it. -/
theorem cleanAt_at_marker {S' : Secret} (hsub : ∀ c, S'.isValue c → S.isValue c) {Y val rest : List Char}
    {L' : Nat} (hval : val ≠ []) (hvalv : ∀ c ∈ val, S'.isValue c)
    (hrest : ∀ c ∈ rest.head?, S'.isValue c = false)
    (hhit : S.hit (Y ++ marker.toList ++ S'.scrub rest) = some (Y.length, L'))
    (hclean : S.CleanAt (Y ++ val ++ rest)) :
    ((Y ++ marker.toList ++ S'.scrub rest).drop Y.length).take L' = marker.toList := by
  obtain ⟨hkey', -, hrun'⟩ := (S.hit_eq_some).1 hhit
  obtain ⟨v₀, val', rfl⟩ := List.exists_cons_of_ne_nil hval
  have hv₀ : S.isValue v₀ := hsub v₀ (hvalv v₀ (by simp))
  have hc : ((Y ++ v₀ :: val' ++ rest).drop Y.length).head? = some v₀ := by
    rw [List.append_assoc, List.drop_left]
    rfl
  have hhit₂ := hit_of_take_eq hkey'
    (by rw [List.append_assoc, List.append_assoc, List.take_left, List.take_left]) hc hv₀
  have hmark := hclean _ _ hhit₂
  have hrun₂ := hclean.length_value hhit₂
  rw [List.append_assoc, List.drop_left] at hmark hrun₂
  -- the value before the scan was the marker, and the scan found exactly that value
  have hvalS : ∀ c ∈ v₀ :: val', S.isValue c := fun c hc => hsub c (hvalv c hc)
  rw [runLen_append_of_all hvalS] at hrun₂ hmark
  have hlenval : (v₀ :: val').length = 10 := by
    by_contra hne
    -- the value stopped short of the marker, yet the character after it is the marker's
    obtain ⟨r₀, rest', rfl⟩ : ∃ r₀ rest', rest = r₀ :: rest' := by
      cases rest with
      | nil => simp at hrun₂ hne; omega
      | cons r₀ rest' => exact ⟨r₀, rest', rfl⟩
    have hat : marker.toList[(v₀ :: val').length]? = some r₀ := by
      rw [← hmark, List.getElem?_take_of_lt (by omega), List.getElem?_append_right (by omega)]
      simp
    have := S'.isValue_marker r₀ (List.mem_of_getElem? hat)
    rw [hrest r₀ (by simp)] at this
    cases this
  have hrestS : ∀ c ∈ (S'.scrub rest).head?, S.isValue c = false := by
    rw [S'.head?_scrub]
    exact head?_of_runLen_eq_zero (by omega)
  rw [List.append_assoc, List.drop_left, runLen_marker_append hrestS] at hrun'
  subst hrun'
  rw [List.append_assoc, List.drop_left, List.take_left' length_marker]

end Secret

/-- Where a key of `S` and a key of `S'` end together, `S` reads the value of
`S'` as its own: every value character of `S'` is one of `S`, or no two such
keys end together in texts that agree up to them. -/
def Follows (S S' : Secret) : Prop :=
  (∀ c, S'.isValue c → S.isValue c) ∨
    ∀ {u v : List Char} {a b k k' : Nat}, S.keyLen (u.drop a) = some k → S'.keyLen (v.drop b) = some k' →
      a + k = b + k' → u.take (a + k) = v.take (b + k') → False

namespace Secret

variable {S S' : Secret}

/-- Before the marker a scan of `S'` put behind its key, in the text `Y` that
the scan kept, a text clean for `S` stays clean for `S`. -/
theorem cleanAt_marked_of_follows (hf : Follows S S') {Y val rest : List Char} {b p : Nat}
    (hkey : S'.keyLen ((Y ++ val ++ rest).drop b) = some (Y.length - b)) (hb : b < Y.length)
    (hval : val ≠ []) (hvalv : ∀ c ∈ val, S'.isValue c) (hrest : ∀ c ∈ rest.head?, S'.isValue c = false)
    (hp : p < Y.length) (hclean : S.CleanAt ((Y ++ val ++ rest).drop p)) :
    S.CleanAt ((Y ++ marker.toList ++ S'.scrub rest).drop p) := by
  intro k' L' hhit
  have hkey' := ((S.hit_eq_some).1 hhit).1
  rw [drop_append_append (Nat.le_of_lt hp)] at hhit hkey' hclean ⊢
  have hle := keyLen_le_of_marker hkey' (by simp; omega)
  have hlast : ∀ d ∈ (Y.drop p).getLast?, (isBlank d || isQuote d || isAssign d) = true := by
    rw [List.getLast?_drop, if_neg (by omega)]
    exact getLast?_of_keyLen (Z := val ++ rest) (by rwa [← List.append_assoc]) hb
  rcases Nat.lt_or_eq_of_le hle with hlt | heq
  · -- the hit lies in the kept text
    exact cleanAt_before_marker hlast hhit hlt (Z := val ++ rest) (by rwa [← List.append_assoc])
  · rcases hf with hsub | hapart
    · -- the hit ends with the key of `S'`
      rw [heq] at hhit ⊢
      exact cleanAt_at_marker hsub hval hvalv hrest hhit hclean
    · -- keys of `S` and `S'` never end together
      exfalso
      refine hapart (u := Y ++ marker.toList ++ S'.scrub rest) (a := p)
        (by rw [drop_append_append (Nat.le_of_lt hp), hkey', heq]) hkey
        (by simp; omega) ?_
      rw [show p + (Y.drop p).length = Y.length by simp; omega, show b + (Y.length - b) = Y.length by omega,
        List.append_assoc, List.take_left, List.append_assoc, List.take_left]

/-- A scan of `S'` keeps a text clean for `S` at its front. -/
theorem cleanAt_scrub_of_follows (hf : Follows S S') {t : List Char} (h : S.Clean t) :
    S.CleanAt (S'.scrub t) := by
  rcases S'.scrub_first_hit t with hs | ⟨pre, key, val, rest, rfl, hhit, hval, hvalv, hrest, hs⟩
  · rw [hs]
    exact h.cleanAt
  have hk := ((S'.hit_eq_some).1 hhit).1
  have hkey_pos : 0 < key.length := by
    have := (S'.keyLayout hk).lt
    omega
  have hu : pre ++ (key ++ val ++ rest) = (pre ++ key) ++ val ++ rest := by simp
  rw [hs]
  have := cleanAt_marked_of_follows hf (Y := pre ++ key) (b := pre.length) (p := 0)
    (by rw [← hu, List.drop_left]; simpa using hk) (by simp; omega) hval hvalv hrest (by simp; omega)
    (by rw [List.drop_zero, ← hu]; exact h.cleanAt)
  rwa [List.drop_zero] at this

/-- A scan of `S'` keeps a text clean for `S`, where `S` follows `S'`. -/
theorem clean_scrub_of_follows (hf : Follows S S') : ∀ {t : List Char}, S.Clean t → S.Clean (S'.scrub t)
  | [], h => by
    rw [S'.scrub_nil]
    exact h
  | c :: t', h => by
    cases hhit : S'.hit (c :: t') with
    | none =>
      have h₀ := cleanAt_scrub_of_follows hf h
      rw [S'.scrub_cons_of_miss hhit] at h₀ ⊢
      exact clean_cons h₀ (clean_scrub_of_follows hf (h.drop 1))
    | some kl =>
      obtain ⟨k, L⟩ := kl
      obtain ⟨key, val, rest, heq, rfl, rfl, hval, hvalv, hrest, hk, hs⟩ := scrub_hit_split hhit
      rw [hs]
      rw [heq] at hk h
      refine clean_append (X := key ++ marker.toList) (fun p hp => ?_) (clean_scrub_of_follows hf h.right)
      have hp' : p < key.length + 10 := by simpa [length_marker] using hp
      rcases Nat.lt_or_ge p key.length with hpk | hpk
      · exact cleanAt_marked_of_follows hf (b := 0) (by simpa using hk) (by omega) hval hvalv hrest hpk (h p)
      · exact S.cleanAt_inside_marker (fun c hc => S'.isPlain_eq_false (by
          rw [S'.head?_scrub] at hc
          exact hrest c hc)) hpk hp'
termination_by t => t.length
decreasing_by
  · simp
  · exact length_rest_lt heq hval

end Secret

end ImageCatalog.Redact
