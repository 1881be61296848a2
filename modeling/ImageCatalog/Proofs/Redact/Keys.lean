import Mathlib.Data.List.Forall2
import ImageCatalog.Proofs.Redact.Compiled

/-!
# Reading the key of a secret

The key of a secret is what the first group of its pattern holds: a name, a
separator `["']?\s*[:=]\s*["']?`, and for an authorization header a scheme
and the blanks after it. The patterns read keys greedily; since a value never
begins with a blank or a quote, the greedy reading is the only one a match can
use. This module gives those readers on lists of characters and what they
read.

Main results:

* `sepLen_layout` and `sepLen_value`: a separator is read as an optional
  quote, blanks, `:` or `=`, blanks and an optional quote, and is read again,
  the same, in front of any value.
* `Secret`: a kind of secret with the facts about its keys that redaction
  rests on: each key is laid out as `KeyLayout` says, and is read again in
  front of any value. `session`, `authorization`, `password` and `token` are
  the four kinds.
-/

namespace ImageCatalog.Redact

open Pattern Text

/-! ## Runs of characters -/

/-- The run of characters accepted by `ok` at the front of `u`. -/
def runLen (ok : Char → Bool) (u : List Char) : Nat := (u.takeWhile ok).length

section Runs

variable {ok : Char → Bool}

@[simp] theorem runLen_nil : runLen ok [] = 0 := rfl

theorem runLen_cons_of_pos {c : Char} (h : ok c = true) (t : List Char) :
    runLen ok (c :: t) = runLen ok t + 1 := by
  simp [runLen, h]

theorem runLen_cons_of_neg {c : Char} (h : ok c = false) (t : List Char) : runLen ok (c :: t) = 0 := by
  simp [runLen, h]

theorem runLen_append_of_all {s : List Char} (h : ∀ c ∈ s, ok c = true) (t : List Char) :
    runLen ok (s ++ t) = s.length + runLen ok t := by
  induction s with
  | nil => simp
  | cons c s ih =>
    simp only [List.mem_cons, forall_eq_or_imp] at h
    rw [List.cons_append, runLen_cons_of_pos h.1, ih h.2, List.length_cons]
    omega

/-- A run followed by a character it does not accept is exactly that run. -/
theorem runLen_run {s : List Char} (h : ∀ c ∈ s, ok c = true) {c : Char} (hc : ok c = false)
    (t : List Char) : runLen ok (s ++ c :: t) = s.length := by
  rw [runLen_append_of_all h, runLen_cons_of_neg hc, Nat.add_zero]

theorem runLen_le (u : List Char) : runLen ok u ≤ u.length :=
  List.IsPrefix.length_le (List.takeWhile_prefix ok)

/-- A list is its run followed by what comes after it, which does not begin
with an accepted character. -/
theorem runLen_split (u : List Char) :
    ∃ s t, u = s ++ t ∧ s.length = runLen ok u ∧ (∀ c ∈ s, ok c = true) ∧
      ∀ c ∈ t.head?, ok c = false := by
  induction u with
  | nil => exact ⟨[], [], rfl, rfl, by simp, by simp⟩
  | cons c u ih =>
    cases hc : ok c
    · exact ⟨[], c :: u, rfl, (runLen_cons_of_neg hc u).symm, by simp, by simpa using hc⟩
    · obtain ⟨s, t, rfl, hs, hall, ht⟩ := ih
      refine ⟨c :: s, t, rfl, ?_, ?_, ht⟩
      · rw [runLen_cons_of_pos hc, List.length_cons, hs]
      · simpa [hc] using hall

end Runs

theorem drop_length_add_append {α : Type} (l₁ l₂ : List α) (i : Nat) :
    (l₁ ++ l₂).drop (l₁.length + i) = l₂.drop i := by
  simp [List.drop_append]

theorem take_length_add_append {α : Type} (l₁ l₂ : List α) (i : Nat) :
    (l₁ ++ l₂).take (l₁.length + i) = l₁ ++ l₂.take i := by
  simp [List.take_append, List.take_of_length_le]

/-! ## Separators -/

/-- One quote at the front of a list, if there is one. -/
def quoteLen : List Char → Nat
  | c :: _ => if isQuote c then 1 else 0
  | [] => 0

/-- The separator at the front of `u`, read as its pattern reads it: an
optional quote, all blanks, `:` or `=`, all blanks and an optional quote. Its
length, or `none` when there is no `:` or `=` after the first blanks. -/
def sepLen (u : List Char) : Option Nat :=
  let i := quoteLen u + runLen isBlank (u.drop (quoteLen u))
  match u.drop i with
  | e :: t =>
    if isAssign e then some (i + 1 + runLen isBlank t + quoteLen (t.drop (runLen isBlank t)))
    else none
  | [] => none

theorem isQuote_of_isBlank {c : Char} (h : isBlank c = true) : isQuote c = false := by
  cases hq : isQuote c
  · rfl
  · simp only [isQuote, Bool.or_eq_true, beq_iff_eq] at hq
    rcases hq with rfl | rfl <;> simp [isBlank] at h

theorem isBlank_of_isAssign {c : Char} (h : isAssign c = true) : isBlank c = false := by
  simp only [isAssign, Bool.or_eq_true, beq_iff_eq] at h
  rcases h with rfl | rfl <;> rfl

theorem isQuote_of_isAssign {c : Char} (h : isAssign c = true) : isQuote c = false := by
  simp only [isAssign, Bool.or_eq_true, beq_iff_eq] at h
  rcases h with rfl | rfl <;> rfl

theorem isBlank_of_isQuote {c : Char} (h : isQuote c = true) : isBlank c = false := by
  cases hb : isBlank c
  · rfl
  · rw [isQuote_of_isBlank hb] at h
    exact absurd h (by decide)

/-- An optional quote: at most one character, a quote. -/
def OptQuote (q : List Char) : Prop := q.length ≤ 1 ∧ ∀ c ∈ q, isQuote c

theorem quoteLen_optQuote {q : List Char} (hq : OptQuote q) {t : List Char}
    (ht : q = [] → ∀ c ∈ t.head?, isQuote c = false) : quoteLen (q ++ t) = q.length := by
  match q, hq with
  | [], _ =>
    cases t with
    | nil => rfl
    | cons d t => simp [quoteLen, ht rfl d (by simp)]
  | [x], hq => simp [quoteLen, hq.2 x (by simp)]
  | _ :: _ :: _, hq => simp [OptQuote] at hq

/-- A separator laid out as its pattern reads it. -/
theorem sepLen_eq {q s s₂ q₂ t : List Char} {e : Char} (hq : OptQuote q) (hs : ∀ c ∈ s, isBlank c)
    (he : isAssign e) (hs₂ : ∀ c ∈ s₂, isBlank c) (hq₂ : OptQuote q₂)
    (ht : ∀ c ∈ t.head?, isBlank c = false ∧ isQuote c = false) :
    sepLen (q ++ (s ++ e :: (s₂ ++ (q₂ ++ t)))) =
      some (q.length + s.length + 1 + s₂.length + q₂.length) := by
  have hquote : quoteLen (q ++ (s ++ e :: (s₂ ++ (q₂ ++ t)))) = q.length := by
    refine quoteLen_optQuote hq fun _ c hc => ?_
    cases s with
    | nil => simp only [List.nil_append, List.head?_cons, Option.mem_def, Option.some.injEq] at hc
             exact hc ▸ isQuote_of_isAssign he
    | cons b s =>
      simp only [List.cons_append, List.head?_cons, Option.mem_def, Option.some.injEq] at hc
      exact hc ▸ isQuote_of_isBlank (hs b (by simp))
  have hblank₂ : runLen isBlank (s₂ ++ (q₂ ++ t)) = s₂.length := by
    rw [runLen_append_of_all hs₂]
    match q₂, hq₂ with
    | [], _ =>
      cases t with
      | nil => rfl
      | cons d t => simp [runLen_cons_of_neg (ht d (by simp)).1]
    | [x], hq₂ => simp [runLen_cons_of_neg (isBlank_of_isQuote (hq₂.2 x (by simp)))]
    | _ :: _ :: _, hq₂ => simp [OptQuote] at hq₂
  have hquote₂ : quoteLen ((s₂ ++ (q₂ ++ t)).drop s₂.length) = q₂.length := by
    rw [List.drop_left]
    exact quoteLen_optQuote hq₂ fun _ c hc => (ht c hc).2
  simp only [sepLen, hquote, List.drop_left]
  rw [runLen_run hs (isBlank_of_isAssign he), drop_length_add_append, List.drop_left]
  simp only [he, if_true, hblank₂, hquote₂]

theorem quoteLen_split (u : List Char) : ∃ q t, u = q ++ t ∧ q.length = quoteLen u ∧ OptQuote q := by
  cases u with
  | nil => exact ⟨[], [], rfl, rfl, by simp [OptQuote]⟩
  | cons c t =>
    cases hc : isQuote c
    · exact ⟨[], c :: t, rfl, by simp [quoteLen, hc], by simp [OptQuote]⟩
    · exact ⟨[c], t, rfl, by simp [quoteLen, hc], by simp [OptQuote, hc]⟩

/-- What a separator that is read consists of. -/
theorem sepLen_layout {u : List Char} {k : Nat} (h : sepLen u = some k) :
    ∃ q s e s₂ q₂ t, u = q ++ (s ++ e :: (s₂ ++ (q₂ ++ t))) ∧ OptQuote q ∧ (∀ c ∈ s, isBlank c) ∧
      isAssign e ∧ (∀ c ∈ s₂, isBlank c) ∧ OptQuote q₂ ∧
      k = q.length + s.length + 1 + s₂.length + q₂.length := by
  obtain ⟨q, t₀, rfl, hql, hq⟩ := quoteLen_split u
  obtain ⟨s, t₁, rfl, hsl, hs, -⟩ := @runLen_split isBlank t₀
  simp only [sepLen, ← hql, List.drop_left, ← hsl, drop_length_add_append] at h
  match t₁, h with
  | e :: t₂, h =>
    cases he : isAssign e
    · simp [he] at h
    · simp only [he, if_true, Option.some.injEq] at h
      obtain ⟨s₂, t₃, rfl, hs₂l, hs₂, -⟩ := @runLen_split isBlank t₂
      obtain ⟨q₂, t, rfl, hq₂l, hq₂⟩ := quoteLen_split t₃
      refine ⟨q, s, e, s₂, q₂, t, by simp, hq, hs, he, hs₂, hq₂, ?_⟩
      rw [← h, ← hs₂l, List.drop_left, ← hq₂l]

/-- A separator that is read is read the same in front of anything that does
not begin with a blank or a quote. -/
theorem sepLen_take_append {u : List Char} {k : Nat} (h : sepLen u = some k) {v : List Char}
    (hv : ∀ c ∈ v.head?, isBlank c = false ∧ isQuote c = false) : sepLen (u.take k ++ v) = some k := by
  obtain ⟨q, s, e, s₂, q₂, t, rfl, hq, hs, he, hs₂, hq₂, rfl⟩ := sepLen_layout h
  have htake : (q ++ (s ++ e :: (s₂ ++ (q₂ ++ t)))).take (q.length + s.length + 1 + s₂.length + q₂.length) =
      q ++ (s ++ e :: (s₂ ++ q₂)) := by
    rw [show q.length + s.length + 1 + s₂.length + q₂.length =
      q.length + (s.length + ((s₂.length + q₂.length) + 1)) by omega, take_length_add_append,
      take_length_add_append, List.take_succ_cons, take_length_add_append, List.take_left]
  rw [htake]
  simpa using sepLen_eq hq hs he hs₂ hq₂ hv

/-! ## Names and schemes -/

/-- Whether `u` begins with the letters of `w`, ignoring case. -/
def beginsWith : List Nat → List Char → Bool
  | [], _ => true
  | a :: w, c :: u => secretMode.acceptsLit a c.toNat && beginsWith w u
  | _ :: _, [] => false

/-- The characters `a` spell the word `w`, ignoring case. -/
def Spells (w : List Nat) (a : List Char) : Prop :=
  List.Forall₂ (fun x c => secretMode.acceptsLit x c.toNat = true) w a

theorem beginsWith_split {w : List Nat} {u : List Char} (h : beginsWith w u = true) :
    ∃ a t, u = a ++ t ∧ Spells w a := by
  induction w generalizing u with
  | nil => exact ⟨[], u, rfl, List.Forall₂.nil⟩
  | cons x w ih =>
    cases u with
    | nil => simp [beginsWith] at h
    | cons c u =>
      simp only [beginsWith, Bool.and_eq_true] at h
      obtain ⟨a, t, rfl, ha⟩ := ih h.2
      exact ⟨c :: a, t, rfl, List.Forall₂.cons h.1 ha⟩

theorem beginsWith_append {w : List Nat} {a : List Char} (h : Spells w a) (t : List Char) :
    beginsWith w (a ++ t) = true := by
  induction h with
  | nil => cases t <;> rfl
  | cons hx _ ih => simp [beginsWith, hx, ih]

theorem Spells.length_eq {w : List Nat} {a : List Char} (h : Spells w a) : a.length = w.length :=
  (List.Forall₂.length_eq h).symm

/-- The characters that spell a word of names are plain. -/
theorem Spells.isPlain {w : List Nat} {a : List Char} (h : Spells w a) (hw : ∀ x ∈ w, x ∈ nameCodes) :
    ∀ c ∈ a, isPlain c := by
  induction h with
  | nil => simp
  | cons hx _ ih =>
    simp only [List.mem_cons, forall_eq_or_imp] at hw ⊢
    exact ⟨isPlain_of_nameLetter hw.1 hx, ih hw.2⟩

/-- A name spelled by `w`, then a separator: the length of both. -/
def namedKeyLen (w : List Nat) (u : List Char) : Option Nat :=
  if beginsWith w u then (sepLen (u.drop w.length)).map (w.length + ·) else none

/-- What a named key that is read consists of. -/
theorem namedKeyLen_layout {w : List Nat} {u : List Char} {k : Nat} (h : namedKeyLen w u = some k) :
    ∃ a q s e s₂ q₂ t, u = a ++ (q ++ (s ++ e :: (s₂ ++ (q₂ ++ t)))) ∧ Spells w a ∧ OptQuote q ∧
      (∀ c ∈ s, isBlank c) ∧ isAssign e ∧ (∀ c ∈ s₂, isBlank c) ∧ OptQuote q₂ ∧
      k = a.length + q.length + s.length + 1 + s₂.length + q₂.length := by
  unfold namedKeyLen at h
  split at h
  · next hw =>
    obtain ⟨a, u', rfl, ha⟩ := beginsWith_split hw
    rw [← ha.length_eq, List.drop_left] at h
    obtain ⟨k', hk', rfl⟩ := Option.map_eq_some_iff.1 h
    obtain ⟨q, s, e, s₂, q₂, t, rfl, hq, hs, he, hs₂, hq₂, rfl⟩ := sepLen_layout hk'
    exact ⟨a, q, s, e, s₂, q₂, t, rfl, ha, hq, hs, he, hs₂, hq₂, by omega⟩
  · simp at h

theorem beginsWith_take_append {w : List Nat} {u : List Char} {m : Nat} (hw : w.length ≤ m)
    (hm : m ≤ u.length) (v : List Char) : beginsWith w (u.take m ++ v) = beginsWith w u := by
  induction w generalizing u m with
  | nil => cases u.take m ++ v <;> cases u <;> rfl
  | cons x w ih =>
    cases u with
    | nil => simp at hm; simp at hw; omega
    | cons c u =>
      obtain ⟨m, rfl⟩ : ∃ m', m = m' + 1 := ⟨m - 1, by simp at hw; omega⟩
      simp only [List.take_succ_cons, List.cons_append, beginsWith]
      rw [ih (by simpa using hw) (by simpa using hm)]

/-- A named key that is read is read the same in front of anything that does
not begin with a blank or a quote. -/
theorem namedKeyLen_take_append {w : List Nat} {u : List Char} {k : Nat} (h : namedKeyLen w u = some k)
    {v : List Char} (hv : ∀ c ∈ v.head?, isBlank c = false ∧ isQuote c = false) :
    namedKeyLen w (u.take k ++ v) = some k := by
  unfold namedKeyLen at h ⊢
  split at h
  · next hw =>
    obtain ⟨k', hk', rfl⟩ := Option.map_eq_some_iff.1 h
    obtain ⟨a, u', rfl, ha⟩ := beginsWith_split hw
    rw [← ha.length_eq, List.drop_left] at hk'
    have hk'le : k' ≤ u'.length := by
      obtain ⟨q, s, e, s₂, q₂, t, rfl, -, -, -, -, -, rfl⟩ := sepLen_layout hk'
      simp
      omega
    rw [← ha.length_eq, take_length_add_append, List.append_assoc, beginsWith_append ha,
      if_pos rfl, List.drop_left, sepLen_take_append hk' hv]
    rfl
  · simp at h

/-- The word of a scheme at the front of `u`: `Basic` is tried first, then
`Bearer`. -/
def schemeWordLen (u : List Char) : Option Nat :=
  if beginsWith (codes "Basic") u then some 5
  else if beginsWith (codes "Bearer") u then some 6 else none

/-- `Basic` or `Bearer` and the blanks after it, of which there is at least
one: their length. -/
def schemeLen (u : List Char) : Option Nat :=
  (schemeWordLen u).bind fun n =>
    if 0 < runLen isBlank (u.drop n) then some (n + runLen isBlank (u.drop n)) else none

theorem runLen_take_append {ok : Char → Bool} (u : List Char) {v : List Char}
    (hv : ∀ c ∈ v.head?, ok c = false) : runLen ok (u.take (runLen ok u) ++ v) = runLen ok u := by
  obtain ⟨s, t, rfl, hsl, hs, -⟩ := @runLen_split ok u
  rw [← hsl, List.take_left, runLen_append_of_all hs]
  cases v with
  | nil => rfl
  | cons d v => rw [runLen_cons_of_neg (hv d (by simp)), Nat.add_zero]

/-- What a scheme that is read consists of. -/
theorem schemeLen_layout {u : List Char} {m : Nat} (h : schemeLen u = some m) :
    ∃ b bl t, u = b ++ (bl ++ t) ∧ (Spells (codes "Basic") b ∨ Spells (codes "Bearer") b) ∧
      bl ≠ [] ∧ (∀ c ∈ bl, isBlank c) ∧ m = b.length + bl.length := by
  obtain ⟨n, hn, h⟩ := Option.bind_eq_some_iff.1 h
  have hword : ∃ b u', u = b ++ u' ∧ b.length = n ∧
      (Spells (codes "Basic") b ∨ Spells (codes "Bearer") b) := by
    unfold schemeWordLen at hn
    split at hn
    · next hbw =>
      obtain ⟨b, u', rfl, hb⟩ := beginsWith_split hbw
      exact ⟨b, u', rfl, by rw [hb.length_eq]; simpa [codes] using hn, .inl hb⟩
    · split at hn
      · next hbw =>
        obtain ⟨b, u', rfl, hb⟩ := beginsWith_split hbw
        exact ⟨b, u', rfl, by rw [hb.length_eq]; simpa [codes] using hn, .inr hb⟩
      · simp at hn
  obtain ⟨b, u', rfl, rfl, hb⟩ := hword
  rw [List.drop_left] at h
  split at h
  · next hpos =>
    obtain ⟨bl, t, rfl, hbl, hall, -⟩ := @runLen_split isBlank u'
    refine ⟨b, bl, t, rfl, hb, ?_, hall, ?_⟩
    · rintro rfl
      simp at hbl hpos
      omega
    · simp only [Option.some.injEq] at h
      omega
  · simp at h

/-- A scheme that is read is read the same in front of anything that does not
begin with a blank. -/
theorem schemeLen_take_append {u : List Char} {m : Nat} (h : schemeLen u = some m) {v : List Char}
    (hv : ∀ c ∈ v.head?, isBlank c = false) : schemeLen (u.take m ++ v) = some m := by
  obtain ⟨n, hn, h⟩ := Option.bind_eq_some_iff.1 h
  split at h
  · next hpos =>
    simp only [Option.some.injEq] at h
    subst h
    have hn5 : 5 ≤ n ∧ n ≤ 6 := by
      unfold schemeWordLen at hn
      split at hn
      · simp at hn; omega
      · split at hn <;> simp at hn; omega
    have hlen : n + runLen isBlank (u.drop n) ≤ u.length := by
      have := @runLen_le isBlank (u.drop n)
      simp at this
      have : n ≤ u.length := by
        by_contra hlt
        rw [List.drop_eq_nil_of_le (by omega)] at hpos
        simp at hpos
      omega
    have hword : schemeWordLen (u.take (n + runLen isBlank (u.drop n)) ++ v) = some n := by
      unfold schemeWordLen at hn ⊢
      rw [beginsWith_take_append (by simp [codes]; omega) hlen,
        beginsWith_take_append (by simp [codes]; omega) hlen]
      exact hn
    have hdrop : (u.take (n + runLen isBlank (u.drop n)) ++ v).drop n =
        (u.drop n).take (runLen isBlank (u.drop n)) ++ v := by
      rw [List.drop_append, List.drop_take, Nat.add_sub_cancel_left, List.length_take,
        Nat.min_eq_left hlen, Nat.sub_eq_zero_of_le (Nat.le_add_right _ _), List.drop_zero]
    simp only [schemeLen, hword, Option.bind_some, hdrop, runLen_take_append _ hv, if_pos hpos]
  · simp at h

/-! ## Keys -/

theorem codes_subset_nameCodes {w : String} (h : (codes w).all nameCodes.contains = true) :
    ∀ x ∈ codes w, x ∈ nameCodes := by
  intro x hx
  simpa using List.all_eq_true.1 h x hx

/-- How a key with a name of `n` characters lies at the front of `u`, `k`
characters long: the name, whose characters after the first are plain, an
optional quote, blanks, `:` or `=`, and then blanks, quotes and plain
characters that end in a blank or a quote, if there are any. -/
def KeyLayout (n : Nat) (u : List Char) (k : Nat) : Prop :=
  ∃ a q s e r t, u = a ++ (q ++ (s ++ e :: (r ++ t))) ∧
    k = a.length + q.length + s.length + 1 + r.length ∧ a.length = n ∧
    (∀ c ∈ a.tail, isPlain c) ∧ (∀ c ∈ q, isQuote c) ∧ (∀ c ∈ s, isBlank c) ∧ isAssign e ∧
    (∀ c ∈ r, isBlank c || isQuote c || isPlain c) ∧ (∀ c ∈ r.getLast?, isBlank c || isQuote c)

theorem namedKeyLen_keyLayout {w : List Nat} (hw : ∀ x ∈ w, x ∈ nameCodes) {u : List Char} {k : Nat}
    (h : namedKeyLen w u = some k) : KeyLayout w.length u k := by
  obtain ⟨a, q, s, e, s₂, q₂, t, rfl, ha, hq, hs, he, hs₂, hq₂, rfl⟩ := namedKeyLen_layout h
  have hr : ∀ c ∈ s₂ ++ q₂, isBlank c || isQuote c := by
    intro c hc
    rcases List.mem_append.1 hc with hc | hc
    · simp [hs₂ c hc]
    · simp [hq₂.2 c hc]
  refine ⟨a, q, s, e, s₂ ++ q₂, t, by simp, by simp; omega, ha.length_eq,
    fun c hc => ha.isPlain hw c (List.mem_of_mem_tail hc), hq.2, hs, he, fun c hc => ?_,
    fun c hc => hr c (List.mem_of_getLast? hc)⟩
  simp [hr c hc]

/-- A token's name: a character that is no letter, then `token`. -/
def tokenKeyLen : List Char → Option Nat
  | c :: u =>
    if secretMode.acceptsSet true [.range 97 122, .range 65 90] c.toNat then
      (namedKeyLen (codes "token") u).map (· + 1)
    else none
  | [] => none

/-- An authorization header: the name, a separator and a scheme. -/
def authorizationKeyLen (u : List Char) : Option Nat :=
  (namedKeyLen (codes "Authorization") u).bind fun k => (schemeLen (u.drop k)).map (k + ·)

theorem authorizationKeyLen_keyLayout {u : List Char} {k : Nat} (h : authorizationKeyLen u = some k) :
    KeyLayout 13 u k := by
  obtain ⟨k₁, hk₁, h⟩ := Option.bind_eq_some_iff.1 h
  obtain ⟨m, hm, rfl⟩ := Option.map_eq_some_iff.1 h
  obtain ⟨a, q, s, e, s₂, q₂, t, rfl, ha, hq, hs, he, hs₂, hq₂, rfl⟩ := namedKeyLen_layout hk₁
  have hdrop : (a ++ (q ++ (s ++ e :: (s₂ ++ (q₂ ++ t))))).drop
      (a.length + q.length + s.length + 1 + s₂.length + q₂.length) = t := by
    rw [show a.length + q.length + s.length + 1 + s₂.length + q₂.length =
      a.length + (q.length + (s.length + ((s₂.length + (q₂.length + 0)) + 1))) by omega,
      drop_length_add_append, drop_length_add_append, drop_length_add_append, List.drop_succ_cons,
      drop_length_add_append, drop_length_add_append, List.drop_zero]
  rw [hdrop] at hm
  obtain ⟨b, bl, t', rfl, hb, hbl, hblank, rfl⟩ := schemeLen_layout hm
  have hbplain : ∀ c ∈ b, isPlain c := by
    rcases hb with hb | hb
    · exact hb.isPlain (codes_subset_nameCodes (by decide))
    · exact hb.isPlain (codes_subset_nameCodes (by decide))
  have hr : ∀ c ∈ s₂ ++ (q₂ ++ (b ++ bl)), isBlank c || isQuote c || isPlain c := by
    intro c hc
    simp only [List.mem_append] at hc
    rcases hc with hc | hc | hc | hc
    · simp [hs₂ c hc]
    · simp [hq₂.2 c hc]
    · simp [hbplain c hc]
    · simp [hblank c hc]
  refine ⟨a, q, s, e, s₂ ++ (q₂ ++ (b ++ bl)), t', by simp, by simp; omega,
    by rw [ha.length_eq]; rfl, fun c hc => ha.isPlain (codes_subset_nameCodes (by decide)) c (List.mem_of_mem_tail hc),
    hq.2, hs, he, hr, fun c hc => ?_⟩
  have hlast : (s₂ ++ (q₂ ++ (b ++ bl))).getLast? = bl.getLast? := by
    cases hx : bl.getLast? with
    | none => exact absurd (List.getLast?_eq_none_iff.1 hx) hbl
    | some x => simp [List.getLast?_append, hx]
  rw [hlast] at hc
  simp [hblank c (List.mem_of_getLast? hc)]

theorem tokenKeyLen_keyLayout {u : List Char} {k : Nat} (h : tokenKeyLen u = some k) :
    KeyLayout 6 u k := by
  cases u with
  | nil => simp [tokenKeyLen] at h
  | cons c u =>
    simp only [tokenKeyLen] at h
    split at h
    · obtain ⟨k', hk', rfl⟩ := Option.map_eq_some_iff.1 h
      obtain ⟨a, q, s, e, s₂, q₂, t, rfl, ha, hq, hs, he, hs₂, hq₂, rfl⟩ := namedKeyLen_layout hk'
      have hr : ∀ d ∈ s₂ ++ q₂, isBlank d || isQuote d := by
        intro d hd
        rcases List.mem_append.1 hd with hd | hd
        · simp [hs₂ d hd]
        · simp [hq₂.2 d hd]
      -- the first character of the name is only known to be no letter; the rest spell `token`
      refine ⟨c :: a, q, s, e, s₂ ++ q₂, t, by simp, by simp; omega, by simp [ha.length_eq, codes],
        fun d hd => ha.isPlain (codes_subset_nameCodes (by decide)) d hd, hq.2, hs, he,
        fun d hd => ?_, fun d hd => hr d (List.mem_of_getLast? hd)⟩
      simp [hr d hd]
    · simp at h

theorem isBlank_of_isPlain {c : Char} (h : isPlain c = true) : isBlank c = false := by
  simp only [isPlain, Bool.not_eq_eq_eq_not, Bool.not_true, Bool.or_eq_false_iff] at h
  exact h.1.1.1.1.1.1.1

theorem isQuote_of_isPlain {c : Char} (h : isPlain c = true) : isQuote c = false := by
  simp only [isPlain, Bool.not_eq_eq_eq_not, Bool.not_true, Bool.or_eq_false_iff] at h
  exact h.1.1.1.1.1.1.2

theorem authorizationKeyLen_take_append {u : List Char} {k : Nat} (h : authorizationKeyLen u = some k)
    {v : List Char} (hv : ∀ c ∈ v.head?, isBlank c = false) :
    authorizationKeyLen (u.take k ++ v) = some k := by
  obtain ⟨k₁, hk₁, h⟩ := Option.bind_eq_some_iff.1 h
  obtain ⟨m, hm, rfl⟩ := Option.map_eq_some_iff.1 h
  have hk₁le : k₁ ≤ u.length := by
    obtain ⟨a, q, s, e, s₂, q₂, t, rfl, -, -, -, -, -, -, rfl⟩ := namedKeyLen_layout hk₁
    simp
    omega
  -- the scheme begins with a plain letter, which the separator does not take
  have hhead : ∀ c ∈ ((u.drop k₁).take m ++ v).head?, isBlank c = false ∧ isQuote c = false := by
    obtain ⟨b, bl, t, hsplit, hb, -, -, rfl⟩ := schemeLen_layout hm
    have hplain : ∀ c ∈ b, isPlain c := by
      rcases hb with hb | hb
      · exact hb.isPlain (codes_subset_nameCodes (by decide))
      · exact hb.isPlain (codes_subset_nameCodes (by decide))
    have hne : b ≠ [] := by
      rintro rfl
      rcases hb with hb | hb <;> simp [codes] at hb <;> cases hb
    obtain ⟨c₀, b', rfl⟩ := List.exists_cons_of_ne_nil hne
    intro c hc
    rw [hsplit, List.length_cons, show b'.length + 1 + bl.length = (b'.length + bl.length) + 1 by omega,
      List.cons_append, List.take_succ_cons] at hc
    simp only [List.cons_append, List.head?_cons, Option.mem_def, Option.some.injEq] at hc
    subst hc
    have := hplain c₀ (by simp)
    exact ⟨isBlank_of_isPlain this, isQuote_of_isPlain this⟩
  have hlen : (u.take k₁).length = k₁ := by simp [hk₁le]
  unfold authorizationKeyLen
  rw [List.take_add, List.append_assoc, namedKeyLen_take_append hk₁ hhead, Option.bind_some,
    List.drop_left' hlen, schemeLen_take_append hm hv]
  rfl

theorem tokenKeyLen_take_append {u : List Char} {k : Nat} (h : tokenKeyLen u = some k) {v : List Char}
    (hv : ∀ c ∈ v.head?, isBlank c = false ∧ isQuote c = false) : tokenKeyLen (u.take k ++ v) = some k := by
  cases u with
  | nil => simp [tokenKeyLen] at h
  | cons c u =>
    simp only [tokenKeyLen] at h
    split at h
    · next hc =>
      obtain ⟨k', hk', rfl⟩ := Option.map_eq_some_iff.1 h
      simp only [List.take_succ_cons, List.cons_append, tokenKeyLen, hc, if_true,
        namedKeyLen_take_append hk' hv, Option.map_some]
    · simp at h

/-! ## Kinds of secrets -/

/-- A kind of secret as redaction reads it: how its key is read and which
characters its value is made of, with what redaction relies on. -/
structure Secret where
  /-- The length of the key at the front of a text, when the text begins with
  one. -/
  keyLen : List Char → Option Nat
  /-- Whether a character belongs to a value. -/
  isValue : Char → Bool
  /-- The length of a key's name. -/
  nameLen : Nat
  two_le_nameLen : 2 ≤ nameLen
  keyLayout : ∀ {u k}, keyLen u = some k → KeyLayout nameLen u k
  keyLen_take_append : ∀ {u k v}, keyLen u = some k → (∀ c ∈ v.head?, isValue c) →
    keyLen (u.take k ++ v) = some k
  isValue_of_isPlain : ∀ {c}, isPlain c → isValue c
  isBlank_of_isValue : ∀ {c}, isValue c → isBlank c = false
  isQuote_of_isValue : ∀ {c}, isValue c → isQuote c = false
  isValue_marker : ∀ c ∈ marker.toList, isValue c

theorem isValueChar_of_isPlain {c : Char} (h : isPlain c = true) : isValueChar c = true := by
  simp only [isPlain, Bool.not_eq_eq_eq_not, Bool.not_true, Bool.or_eq_false_iff] at h
  simp [isValueChar, h]

theorem isCredentialChar_of_isPlain {c : Char} (h : isPlain c = true) : isCredentialChar c = true := by
  simp [isCredentialChar, isBlank_of_isPlain h, isQuote_of_isPlain h]

theorem isBlank_of_isValueChar {c : Char} (h : isValueChar c = true) : isBlank c = false := by
  simp only [isValueChar, Bool.not_eq_eq_eq_not, Bool.not_true, Bool.or_eq_false_iff] at h
  exact h.1.1.1.1

theorem isQuote_of_isValueChar {c : Char} (h : isValueChar c = true) : isQuote c = false := by
  simp only [isValueChar, Bool.not_eq_eq_eq_not, Bool.not_true, Bool.or_eq_false_iff] at h
  exact h.1.1.1.2

theorem isBlank_of_isCredentialChar {c : Char} (h : isCredentialChar c = true) : isBlank c = false := by
  simp only [isCredentialChar, Bool.not_eq_eq_eq_not, Bool.not_true, Bool.or_eq_false_iff] at h
  exact h.1

theorem isQuote_of_isCredentialChar {c : Char} (h : isCredentialChar c = true) :
    isQuote c = false := by
  simp only [isCredentialChar, Bool.not_eq_eq_eq_not, Bool.not_true, Bool.or_eq_false_iff] at h
  exact h.2

theorem marker_isValueChar : ∀ c ∈ marker.toList, isValueChar c := by
  have h : marker.toList.all isValueChar = true := by decide
  exact fun c hc => List.all_eq_true.1 h c hc

theorem marker_isCredentialChar : ∀ c ∈ marker.toList, isCredentialChar c := by
  have h : marker.toList.all isCredentialChar = true := by decide
  exact fun c hc => List.all_eq_true.1 h c hc

/-- A named secret whose value ends at a blank, a quote, `&`, `,` or `)`. -/
def namedSecret (w : String) (hw : (codes w).all nameCodes.contains = true)
    (hlen : 2 ≤ (codes w).length) : Secret where
  keyLen := namedKeyLen (codes w)
  isValue := isValueChar
  nameLen := (codes w).length
  two_le_nameLen := hlen
  keyLayout h := namedKeyLen_keyLayout (codes_subset_nameCodes hw) h
  keyLen_take_append h hv := namedKeyLen_take_append h fun c hc =>
    ⟨isBlank_of_isValueChar (hv c hc), isQuote_of_isValueChar (hv c hc)⟩
  isValue_of_isPlain := isValueChar_of_isPlain
  isBlank_of_isValue := isBlank_of_isValueChar
  isQuote_of_isValue := isQuote_of_isValueChar
  isValue_marker := marker_isValueChar

/-- The session header: `x-vcloud-authorization`, a separator and a value. -/
def session : Secret := namedSecret "x-vcloud-authorization" (by decide) (by decide)

/-- A password: `password`, a separator and a value. -/
def password : Secret := namedSecret "password" (by decide) (by decide)

/-- An authorization header: `Authorization`, a separator, `Basic` or
`Bearer`, blanks, and a credential that ends at a blank or a quote. -/
def authorization : Secret where
  keyLen := authorizationKeyLen
  isValue := isCredentialChar
  nameLen := 13
  two_le_nameLen := by decide
  keyLayout := authorizationKeyLen_keyLayout
  keyLen_take_append h hv := authorizationKeyLen_take_append h fun c hc =>
    isBlank_of_isCredentialChar (hv c hc)
  isValue_of_isPlain := isCredentialChar_of_isPlain
  isBlank_of_isValue := isBlank_of_isCredentialChar
  isQuote_of_isValue := isQuote_of_isCredentialChar
  isValue_marker := marker_isCredentialChar

/-- A token: a character that is no letter, `token`, a separator and a
value. -/
def token : Secret where
  keyLen := tokenKeyLen
  isValue := isValueChar
  nameLen := 6
  two_le_nameLen := by decide
  keyLayout := tokenKeyLen_keyLayout
  keyLen_take_append h hv := tokenKeyLen_take_append h fun c hc =>
    ⟨isBlank_of_isValueChar (hv c hc), isQuote_of_isValueChar (hv c hc)⟩
  isValue_of_isPlain := isValueChar_of_isPlain
  isBlank_of_isValue := isBlank_of_isValueChar
  isQuote_of_isValue := isQuote_of_isValueChar
  isValue_marker := marker_isValueChar

/-- What the pattern of a secret finds at the front of a text: the length of
the key and of the run of value characters after it, when there is a key and
at least one value character. -/
def Secret.hit (S : Secret) (u : List Char) : Option (Nat × Nat) :=
  (S.keyLen u).bind fun k =>
    if 0 < runLen S.isValue (u.drop k) then some (k, runLen S.isValue (u.drop k)) else none

end ImageCatalog.Redact
