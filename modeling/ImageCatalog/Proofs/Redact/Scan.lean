import ImageCatalog.Proofs.Redact.Attempts

/-!
# Redaction as a scan

`redactWith r` replaces every match of `r`, from left to right, by its first
group and the marker. For a secret pattern the matches are the hits of
`Secret.hit` (`Attempts`), so redaction is the scan `Secret.scrub`: at each
position where a key and a value begin, the key is kept, the value becomes
the marker and the scan goes on after the value; elsewhere one character is
kept and the scan moves on.

Main results: `redactWith_toList`, redaction by one secret pattern is the
scan, and `redact_toList`, redaction is the four scans one after the other.
The facts about scans that the rest relies on are `scrub_of_hit`,
`scrub_cons_of_miss`, `scrub_take_append` (the text before the first hit is
kept) and `head?_scrub` (a scan keeps the first character).
-/

namespace ImageCatalog.Redact

open Pattern

/-! ## Hits -/

namespace Secret

variable (S : Secret) {u : List Char} {k L : Nat}

theorem hit_eq_some :
    S.hit u = some (k, L) ↔ S.keyLen u = some k ∧ 0 < L ∧ runLen S.isValue (u.drop k) = L := by
  unfold hit
  cases S.keyLen u with
  | none => simp
  | some k' =>
    simp only [Option.bind_some, Option.some.injEq]
    split_ifs with hpos
    · simp only [Option.some.injEq, Prod.mk.injEq]
      constructor
      · rintro ⟨rfl, rfl⟩
        exact ⟨rfl, hpos, rfl⟩
      · rintro ⟨rfl, hL, rfl⟩
        exact ⟨rfl, rfl⟩
    · simp only [false_iff, not_and]
      rintro rfl hL rfl
      exact hpos hL

theorem hit_nil : S.hit [] = none := by
  cases h : S.hit [] with
  | none => rfl
  | some kl =>
    obtain ⟨k, L⟩ := kl
    obtain ⟨a, q, s, e, r, t, hu, -⟩ := S.keyLayout ((S.hit_eq_some).1 h).1
    simp at hu

/-- A hit lies within the text, and takes at least one character. -/
theorem hit_le (h : S.hit u = some (k, L)) : 0 < L ∧ k + L ≤ u.length := by
  obtain ⟨hk, hL, rfl⟩ := (S.hit_eq_some).1 h
  have hle := S.keyLen_le hk
  have : runLen S.isValue (u.drop k) ≤ (u.drop k).length := runLen_le _
  simp only [List.length_drop] at this
  exact ⟨hL, by omega⟩

end Secret

/-! ## The scan -/

/-- Redaction of one kind of secret, as a scan from left to right: where a
key and a value begin, the key is kept, the value becomes the marker and the
scan goes on after the value; elsewhere one character is kept. -/
def Secret.scrub (S : Secret) : List Char → List Char
  | [] => []
  | c :: t =>
    match _h : S.hit (c :: t) with
    | some (k, L) => (c :: t).take k ++ marker.toList ++ S.scrub ((c :: t).drop (k + L))
    | none => c :: S.scrub t
termination_by u => u.length
decreasing_by
  · have := (S.hit_le _h).1
    simp only [List.length_drop, List.length_cons]
    omega
  · simp

namespace Secret

variable (S : Secret) {u : List Char} {k L : Nat}

@[simp] theorem scrub_nil : S.scrub [] = [] := by
  rw [scrub]

theorem scrub_of_hit (h : S.hit u = some (k, L)) :
    S.scrub u = u.take k ++ marker.toList ++ S.scrub (u.drop (k + L)) := by
  cases u with
  | nil => rw [hit_nil] at h; cases h
  | cons c t =>
    rw [scrub]
    split
    · next k' L' h' =>
      rw [h] at h'
      cases h'
      rfl
    · next h' =>
      rw [h] at h'
      cases h'

theorem scrub_cons_of_miss {c : Char} {t : List Char} (h : S.hit (c :: t) = none) :
    S.scrub (c :: t) = c :: S.scrub t := by
  rw [scrub]
  split
  · next k' L' h' =>
    rw [h] at h'
    cases h'
  · rfl

/-- Before the first hit the text is kept as it is. -/
theorem scrub_take_append {j : Nat} (hj : j ≤ u.length) (h : ∀ i < j, S.hit (u.drop i) = none) :
    S.scrub u = u.take j ++ S.scrub (u.drop j) := by
  induction j generalizing u with
  | zero => simp
  | succ j ih =>
    cases u with
    | nil => simp at hj
    | cons c t =>
      rw [S.scrub_cons_of_miss (h 0 (Nat.zero_lt_succ j))]
      rw [ih (by simpa using hj) (fun i hi => by simpa using h (i + 1) (by omega))]
      simp

/-- A text with no hit at all is kept as it is. -/
theorem scrub_of_miss (h : ∀ i ≤ u.length, S.hit (u.drop i) = none) : S.scrub u = u := by
  rw [S.scrub_take_append (Nat.le_refl _) (fun i hi => h i (by omega))]
  simp

/-- A scan keeps the first character of the text. -/
theorem head?_scrub (u : List Char) : (S.scrub u).head? = u.head? := by
  cases u with
  | nil => simp
  | cons c t =>
    cases h : S.hit (c :: t) with
    | none => simp [S.scrub_cons_of_miss h]
    | some kl =>
      obtain ⟨k, L⟩ := kl
      have hk : 0 < k := by
        obtain ⟨a, q, s, e, r, t', -, rfl, ha, -⟩ := S.keyLayout ((S.hit_eq_some).1 h).1
        have := S.two_le_nameLen
        omega
      rw [S.scrub_of_hit h]
      obtain ⟨k', rfl⟩ : ∃ k', k = k' + 1 := ⟨k - 1, by omega⟩
      simp

end Secret

/-! ## Searching -/

theorem findSome?_range'_some {β : Type} {g : Nat → Option β} {b : β} :
    ∀ {s n : Nat}, (List.range' s n).findSome? g = some b →
      ∃ p, s ≤ p ∧ g p = some b ∧ ∀ p', s ≤ p' → p' < p → g p' = none
  | s, 0, h => by simp at h
  | s, n + 1, h => by
    rw [List.range'_succ, List.findSome?_cons] at h
    cases hs : g s with
    | some b' =>
      simp only [hs, Option.some.injEq] at h
      exact ⟨s, Nat.le_refl s, h ▸ hs, fun p' h₁ h₂ => absurd h₂ (by omega)⟩
    | none =>
      simp only [hs] at h
      obtain ⟨p, hsp, hp, hbefore⟩ := findSome?_range'_some h
      refine ⟨p, by omega, hp, fun p' h₁ h₂ => ?_⟩
      rcases Nat.eq_or_lt_of_le h₁ with rfl | hlt
      · exact hs
      · exact hbefore p' hlt h₂

theorem map_range_eq_range' (s n : Nat) : (List.range n).map (s + · + 1) = List.range' (s + 1) n := by
  rw [List.range'_eq_map_range]
  congr 1
  funext x
  omega

/-- A pattern whose matches are the hits of a secret. -/
structure FindsHits (r : Regex) (S : Secret) : Prop where
  unanchored : r.anchoredAtStart = false
  matchAt_eq : ∀ chars p, r.matchAt chars p false = (S.hit (chars.toList.drop p)).map (secretMatch p)

namespace FindsHits

variable {r : Regex} {S : Secret} {chars : Array Char} {start : Nat}

/-- A search that finds nothing passes only positions without a hit. -/
theorem searchFrom_none (hr : FindsHits r S) (h : r.searchFrom chars start false = none) :
    ∀ p, start ≤ p → S.hit (chars.toList.drop p) = none := by
  intro p hp
  unfold Regex.searchFrom at h
  rw [hr.matchAt_eq] at h
  cases hstart : S.hit (chars.toList.drop start) with
  | some kl => simp [hstart] at h
  | none =>
    simp only [hstart, Option.map_none, hr.unanchored, Bool.false_eq_true, if_false,
      map_range_eq_range', List.findSome?_eq_none_iff, List.mem_range'_1] at h
    rcases Nat.eq_or_lt_of_le hp with rfl | hlt
    · exact hstart
    · by_cases hin : p < start + 1 + (chars.size - start)
      · simpa [hr.matchAt_eq] using h p ⟨hlt, hin⟩
      · have : chars.toList.drop p = [] := List.drop_eq_nil_of_le (by simp; omega)
        rw [this]
        exact S.hit_nil

/-- A search finds the first hit from where it starts. -/
theorem searchFrom_some (hr : FindsHits r S) {mt : Match} (h : r.searchFrom chars start false = some mt) :
    ∃ p k L, start ≤ p ∧ S.hit (chars.toList.drop p) = some (k, L) ∧ mt = secretMatch p (k, L) ∧
      ∀ p', start ≤ p' → p' < p → S.hit (chars.toList.drop p') = none := by
  unfold Regex.searchFrom at h
  rw [hr.matchAt_eq] at h
  cases hstart : S.hit (chars.toList.drop start) with
  | some kl =>
    obtain ⟨k, L⟩ := kl
    simp only [hstart, Option.map_some, Option.some.injEq] at h
    exact ⟨start, k, L, Nat.le_refl _, hstart, h.symm, fun p' h₁ h₂ => absurd h₂ (by omega)⟩
  | none =>
    simp only [hstart, Option.map_none, hr.unanchored, Bool.false_eq_true, if_false,
      map_range_eq_range'] at h
    obtain ⟨p, hp, hmatch, hbefore⟩ := findSome?_range'_some h
    rw [hr.matchAt_eq] at hmatch
    obtain ⟨⟨k, L⟩, hhit, rfl⟩ := Option.map_eq_some_iff.1 hmatch
    refine ⟨p, k, L, by omega, hhit, rfl, fun p' h₁ h₂ => ?_⟩
    rcases Nat.eq_or_lt_of_le h₁ with rfl | hlt
    · exact hstart
    · simpa [hr.matchAt_eq] using hbefore p' hlt h₂

end FindsHits

/-! ## Redaction by one pattern -/

theorem groupText_secretMatch (chars : Array Char) (p k L : Nat) :
    (secretMatch p (k, L)).groupText chars 1 = String.ofList ((chars.toList.drop p).take k) := by
  simp [Match.groupText, secretMatch, Array.toList_extract, List.extract_eq_take_drop]

namespace FindsHits

variable {r : Regex} {S : Secret}

/-- The loop of `replaceAll`, given at least one round more than characters
are left, writes the scan of what is left. -/
theorem go_toList (hr : FindsHits r S) (chars : Array Char) :
    ∀ fuel start (acc : String), start ≤ chars.size → chars.size - start < fuel →
      (Regex.replaceAll.go r (fun chars mt => mt.groupText chars 1 ++ marker) chars fuel start start false
        acc).toList = acc.toList ++ S.scrub (chars.toList.drop start)
  | 0, _, _, _, hfuel => absurd hfuel (Nat.not_lt_zero _)
  | fuel + 1, start, acc, hstart, hfuel => by
    rw [Regex.replaceAll.go, if_neg (by omega)]
    cases hfind : r.searchFrom chars start false with
    | none =>
      have hmiss := hr.searchFrom_none hfind
      rw [S.scrub_of_miss fun i _ => by rw [List.drop_drop]; exact hmiss _ (by omega)]
      simp only [String.toList_append, String.toList_ofList, Array.toList_extract,
        List.extract_eq_take_drop, Array.size_eq_length_toList]
      rw [List.take_of_length_le (by simp)]
    | some mt =>
      obtain ⟨p, k, L, hp, hhit, rfl, hbefore⟩ := hr.searchFrom_some hfind
      have hle := S.hit_le hhit
      simp only [List.length_drop, Array.length_toList] at hle
      -- the match is not empty, so the next search need not move on
      have hadv : (p + k + L == p) = false := by
        simp only [beq_eq_false_iff_ne, ne_eq]
        omega
      have hnext := go_toList hr chars fuel (p + k + L)
        (acc ++ String.ofList (chars.extract start p).toList ++
          (String.ofList ((chars.toList.drop p).take k) ++ marker)) (by omega) (by omega)
      simp only [groupText_secretMatch]
      simp only [secretMatch]
      rw [hadv, hnext]
      -- the scan keeps what lies before the hit, then the key and the marker
      have hskip := S.scrub_take_append (u := chars.toList.drop start) (j := p - start) (by simp; omega)
        (fun i hi => by rw [List.drop_drop]; exact hbefore _ (by omega) (by omega))
      rw [hskip, List.drop_drop, show start + (p - start) = p by omega, S.scrub_of_hit hhit,
        List.drop_drop]
      simp [Array.toList_extract, List.extract_eq_take_drop, Nat.add_assoc]

end FindsHits

/-- Redaction by a pattern whose matches are the hits of a secret is the scan
of that secret. -/
theorem redactWith_toList {r : Regex} {S : Secret} (hr : FindsHits r S) (text : String) :
    (redactWith r text).toList = S.scrub text.toList := by
  have h := hr.go_toList text.toList.toArray (2 * text.toList.toArray.size + 2) 0 "" (by omega) (by omega)
  simpa [redactWith, Regex.replaceAll] using h

theorem sessionRegex_findsHits : FindsHits sessionRegex session := ⟨rfl, sessionRegex_matchAt⟩

theorem authorizationRegex_findsHits : FindsHits authorizationRegex authorization :=
  ⟨rfl, authorizationRegex_matchAt⟩

theorem passwordRegex_findsHits : FindsHits passwordRegex password := ⟨rfl, passwordRegex_matchAt⟩

theorem tokenRegex_findsHits : FindsHits tokenRegex token := ⟨rfl, tokenRegex_matchAt⟩

/-- Redaction is the four scans, one after the other. -/
theorem redact_toList (text : String) :
    (redact text).toList =
      token.scrub (password.scrub (authorization.scrub (session.scrub text.toList))) := by
  simp only [redact, secretRegexes_eq, List.foldl_cons, List.foldl_nil,
    redactWith_toList sessionRegex_findsHits, redactWith_toList authorizationRegex_findsHits,
    redactWith_toList passwordRegex_findsHits, redactWith_toList tokenRegex_findsHits]

end ImageCatalog.Redact
