import ImageCatalog.Pattern.Match

/-!
# Runs of the matching machine

The matcher of `Pattern.Match` runs one thread until it finds a match; a
thread that fails resumes the most recent choice on the stack. This module
describes a run by what it leaves behind, whatever stack it starts on:

* `Subject.Resumes t n pending`: within `n` steps the run from `t` has given
  up every choice it made beyond `pending`, and resumes `pending` on top of the
  stack it started with;
* `Subject.Settles t n o`: within `n` steps the run from `t` finds the thread
  `o`, or, for `o = none`, fails and resumes the stack below it.

The machine never looks at the part of the stack it did not push, so both
compose (`Resumes.settles_or`, `Resumes.then`).

Main results: one lemma per goal that consumes a character or opens a part of
the pattern (`settles_lit`, `settles_set`, `settles_word`, `settles_group`,
`settles_close`, ...), and the loops of greedy repetitions of one character
class: `settles_star` and `settles_plus` take the whole run of accepted
characters and fall back one character at a time, `settles_opt` takes an
optional character, and `settles_either` tries two alternatives in order.
-/

namespace ImageCatalog.Pattern

namespace Subject

variable (s : Subject)

/-- Resumes the topmost thread of a stack, if any. -/
def resume (fuel : Nat) : List Thread → Option Thread
  | [] => none
  | t :: stack => s.run fuel t stack

/-- Within `n` steps, the run from `t` resumes `pending` on top of its stack. -/
def Resumes (t : Thread) (n : Nat) (pending : List Thread) : Prop :=
  ∃ k ≤ n, ∀ fuel stack, s.run (k + fuel) t stack = s.resume fuel (pending ++ stack)

/-- Within `n` steps, the run from `t` finds `o`, or for `o = none` fails and
resumes its stack. -/
def Settles (t : Thread) (n : Nat) : Option Thread → Prop
  | some r => ∃ k ≤ n, ∀ fuel stack, s.run (k + fuel) t stack = some r
  | none => s.Resumes t n []

/-- Whether the character at `q` is there and `ok` accepts its code point. -/
def accepts (ok : Nat → Bool) (q : Nat) : Bool := (s.at? q).any ok

/-- How many characters from `q` on `ok` accepts in a row. -/
def runLen (ok : Nat → Bool) (q : Nat) : Nat :=
  ((s.chars.toList.drop q).takeWhile fun c => ok c.toNat).length

/-- Whether the characters from `q` on are accepted by the literals `w`, in
mode `m`. -/
def spells (m : Mode) : List Nat → Nat → Bool
  | [], _ => true
  | a :: w, q => s.accepts (m.acceptsLit a) q && spells m w (q + 1)

variable {s}

/-! ## Composing runs -/

theorem Resumes.mono {t : Thread} {n m : Nat} {pending : List Thread}
    (h : s.Resumes t n pending) (hn : n ≤ m) : s.Resumes t m pending := by
  obtain ⟨k, hk, h⟩ := h
  exact ⟨k, by omega, h⟩

theorem Settles.mono {t : Thread} {n m : Nat} {o : Option Thread}
    (h : s.Settles t n o) (hn : n ≤ m) : s.Settles t m o := by
  cases o with
  | none => exact Resumes.mono h hn
  | some r =>
    obtain ⟨k, hk, h⟩ := h
    exact ⟨k, by omega, h⟩

/-- A run that resumes `u` first goes on as the run from `u`. -/
theorem Resumes.then {t u : Thread} {n m : Nat} {pending : List Thread} {o : Option Thread}
    (h : s.Resumes t n (u :: pending)) (hu : s.Settles u m o) :
    match o with
    | some _ => s.Settles t (n + m) o
    | none => s.Resumes t (n + m) pending := by
  obtain ⟨k, hk, h⟩ := h
  cases o with
  | some r =>
    obtain ⟨k', hk', hu⟩ := hu
    refine ⟨k + k', by omega, fun fuel stack => ?_⟩
    rw [Nat.add_assoc, h, List.cons_append, resume, hu]
  | none =>
    obtain ⟨k', hk', hu⟩ := hu
    refine ⟨k + k', by omega, fun fuel stack => ?_⟩
    rw [Nat.add_assoc, h, List.cons_append, resume, hu, List.nil_append]

/-- A run that resumes `u` and nothing else settles as `u` does. -/
theorem Resumes.settles {t u : Thread} {n m : Nat} {o : Option Thread}
    (h : s.Resumes t n [u]) (hu : s.Settles u m o) : s.Settles t (n + m) o := by
  cases o with
  | some r => exact h.then hu
  | none => exact h.then hu

/-- A run that resumes `u` and then `v` settles as `u` does, or as `v` does
when `u` fails. -/
theorem Resumes.settles_or {t u v : Thread} {n m m' : Nat} {o o' : Option Thread}
    (h : s.Resumes t n [u, v]) (hu : s.Settles u m o) (hv : s.Settles v m' o') :
    s.Settles t (n + m + m') (o.or o') := by
  cases o with
  | some r => exact Settles.mono (h.then hu) (by omega)
  | none => exact (h.then hu).settles hv

/-! ## Single steps -/

theorem resumes_step {t t' : Thread} {more : List Thread}
    (h : ∀ stack, s.step t stack = .next t' (more ++ stack)) : s.Resumes t 1 (t' :: more) :=
  ⟨1, Nat.le_refl 1, fun fuel stack => by rw [Nat.add_comm, run, h]; rfl⟩

/-- A step that goes on as `t'` and pushes `u`. -/
theorem resumes_step_push {t t' u : Thread}
    (h : ∀ stack, s.step t stack = .next t' (u :: stack)) : s.Resumes t 1 [t', u] :=
  @resumes_step s t t' [u] h

/-- A step that goes on as `t'`, with nothing pushed. -/
theorem settles_step {t t' : Thread} {n : Nat} {o : Option Thread}
    (h : ∀ stack, s.step t stack = .next t' stack) (h' : s.Settles t' n o) :
    s.Settles t (n + 1) o := by
  have hstep : s.Resumes t 1 [t'] := resumes_step fun stack => h stack
  exact Settles.mono (hstep.settles h') (by omega)

/-- A step that gives up the current thread. -/
theorem settles_fail {t : Thread} (h : ∀ stack, s.step t stack = backtrack stack) :
    s.Settles t 1 none :=
  ⟨1, Nat.le_refl 1, fun fuel stack => by rw [Nat.add_comm, run, h]; cases stack <;> rfl⟩

theorem settles_found (q : Nat) (c : Array (Option (Nat × Nat))) :
    s.Settles ⟨[], q, c⟩ 1 (some ⟨[], q, c⟩) :=
  ⟨1, Nat.le_refl 1, fun _ _ => by rw [Nat.add_comm]; rfl⟩

theorem settles_nil {f q n : Nat} {rest : List Goal} {c : Array (Option (Nat × Nat))}
    {o : Option Thread} (h : s.Settles ⟨rest, q, c⟩ n o) :
    s.Settles ⟨.items f [] :: rest, q, c⟩ (n + 1) o :=
  settles_step (fun _ => rfl) h

theorem settles_close {g a q n : Nat} {rest : List Goal} {c : Array (Option (Nat × Nat))}
    {o : Option Thread} (h : s.Settles ⟨rest, q, c.setIfInBounds g (some (a, q))⟩ n o) :
    s.Settles ⟨.close g a :: rest, q, c⟩ (n + 1) o :=
  settles_step (fun _ => rfl) h

@[simp] theorem combineFlags_zero (f : Nat) : combineFlags f 0 0 = f := by
  simp [combineFlags]

/-- A capturing group with no flags of its own opens its body and marks where
it began. -/
theorem settles_group {f g q n : Nat} {body more : List Item} {rest : List Goal}
    {c : Array (Option (Nat × Nat))} {o : Option Thread}
    (h : s.Settles ⟨.items f body :: .close g q :: .items f more :: rest, q, c⟩ n o) :
    s.Settles ⟨.items f (.group (some g) 0 0 body :: more) :: rest, q, c⟩ (n + 1) o := by
  have hstep : ∀ stack, s.step ⟨.items f (.group (some g) 0 0 body :: more) :: rest, q, c⟩ stack =
      .next ⟨.items (combineFlags f 0 0) body :: .close g q :: .items f more :: rest, q, c⟩ stack :=
    fun _ => rfl
  exact settles_step hstep (by rwa [combineFlags_zero])

/-! ## Consuming one character -/

theorem accepts_iff {ok : Nat → Bool} {q : Nat} :
    s.accepts ok q = true ↔ ∃ x, s.at? q = some x ∧ ok x = true := by
  unfold accepts
  cases s.at? q <;> simp

theorem consume_eq (t : Thread) (gs : List Goal) (stack : List Thread) (ok : Nat → Bool) :
    s.consume t gs stack ok =
      if s.accepts ok t.pos then .next ⟨gs, t.pos + 1, t.caps⟩ stack else backtrack stack := by
  unfold consume accepts
  cases s.at? t.pos <;> simp

theorem settles_consume {t : Thread} {gs : List Goal} {ok : Nat → Bool} {n : Nat}
    {o : Option Thread} (hstep : ∀ stack, s.step t stack = s.consume t gs stack ok)
    (hok : s.accepts ok t.pos = true) (h : s.Settles ⟨gs, t.pos + 1, t.caps⟩ n o) :
    s.Settles t (n + 1) o :=
  settles_step (fun stack => by rw [hstep, consume_eq, if_pos hok]) h

theorem settles_consume_fail {t : Thread} {gs : List Goal} {ok : Nat → Bool}
    (hstep : ∀ stack, s.step t stack = s.consume t gs stack ok)
    (hok : s.accepts ok t.pos = false) : s.Settles t 1 none :=
  settles_fail fun stack => by rw [hstep, consume_eq, if_neg (by simp [hok])]

section Consume

variable {f q n : Nat} {more : List Item} {rest : List Goal} {c : Array (Option (Nat × Nat))}
  {o : Option Thread}

theorem settles_set {neg : Bool} {ms : List Member}
    (hok : s.accepts ((Mode.ofFlags f).acceptsSet neg ms) q = true)
    (h : s.Settles ⟨.items f more :: rest, q + 1, c⟩ n o) :
    s.Settles ⟨.items f (.set neg ms :: more) :: rest, q, c⟩ (n + 1) o :=
  settles_consume (fun _ => rfl) hok h

theorem settles_set_fail {neg : Bool} {ms : List Member}
    (hok : s.accepts ((Mode.ofFlags f).acceptsSet neg ms) q = false) :
    s.Settles ⟨.items f (.set neg ms :: more) :: rest, q, c⟩ 1 none :=
  settles_consume_fail (fun _ => rfl) hok

theorem settles_lit {a : Nat} (hok : s.accepts ((Mode.ofFlags f).acceptsLit a) q = true)
    (h : s.Settles ⟨.items f more :: rest, q + 1, c⟩ n o) :
    s.Settles ⟨.items f (.lit a :: more) :: rest, q, c⟩ (n + 1) o :=
  settles_consume (fun _ => rfl) hok h

theorem settles_lit_fail {a : Nat} (hok : s.accepts ((Mode.ofFlags f).acceptsLit a) q = false) :
    s.Settles ⟨.items f (.lit a :: more) :: rest, q, c⟩ 1 none :=
  settles_consume_fail (fun _ => rfl) hok

/-- A run of literals spelled out from `q` is consumed one character a step. -/
theorem settles_word {w : List Nat} (hw : s.spells (Mode.ofFlags f) w q = true)
    (h : s.Settles ⟨.items f more :: rest, q + w.length, c⟩ n o) :
    s.Settles ⟨.items f (w.map .lit ++ more) :: rest, q, c⟩ (n + w.length) o := by
  induction w generalizing q n with
  | nil => simpa using h
  | cons a w ih =>
    simp only [spells, Bool.and_eq_true] at hw
    have hrest := ih hw.2 (by simpa [Nat.add_assoc, Nat.add_comm 1] using h)
    simpa [Nat.add_assoc, Nat.add_comm 1] using settles_lit hw.1 hrest

/-- A run of literals not spelled out from `q` fails within its length. -/
theorem settles_word_fail {w : List Nat} (hw : s.spells (Mode.ofFlags f) w q = false) :
    s.Settles ⟨.items f (w.map .lit ++ more) :: rest, q, c⟩ w.length none := by
  induction w generalizing q with
  | nil => simp [spells] at hw
  | cons a w ih =>
    simp only [spells, Bool.and_eq_false_iff] at hw
    by_cases hok : s.accepts ((Mode.ofFlags f).acceptsLit a) q = true
    · have hw' : s.spells (Mode.ofFlags f) w (q + 1) = false := by simpa [hok] using hw
      simpa [Nat.add_comm] using settles_lit hok (ih hw')
    · exact Settles.mono (settles_lit_fail (by simpa using hok)) (by simp)

end Consume

/-! ## Runs of accepted characters -/

theorem at?_of_drop {q : Nat} {x : Char} {tl : List Char} (h : s.chars.toList.drop q = x :: tl) :
    s.at? q = some x.toNat ∧ s.chars.toList.drop (q + 1) = tl := by
  constructor
  · have hx : s.chars.toList[q]? = some x := by rw [← List.head?_drop, h]; rfl
    simp only [at?, ← Array.getElem?_toList, hx, Option.map_some]
  · rw [← List.tail_drop, h, List.tail_cons]

theorem at?_of_drop_nil {q : Nat} (h : s.chars.toList.drop q = []) : s.at? q = none := by
  have hx : s.chars.toList[q]? = none := by rw [← List.head?_drop, h]; rfl
  simp only [at?, ← Array.getElem?_toList, hx, Option.map_none]

theorem runLen_of_accepts {ok : Nat → Bool} {q : Nat} (h : s.accepts ok q = true) :
    s.runLen ok q = s.runLen ok (q + 1) + 1 := by
  unfold runLen
  rcases hd : s.chars.toList.drop q with _ | ⟨x, tl⟩
  · simp [accepts, at?_of_drop_nil hd] at h
  · obtain ⟨hx, htl⟩ := at?_of_drop hd
    simp only [accepts, hx, Option.any_some] at h
    simp [htl, h]

theorem runLen_of_reject {ok : Nat → Bool} {q : Nat} (h : s.accepts ok q = false) :
    s.runLen ok q = 0 := by
  unfold runLen
  rcases hd : s.chars.toList.drop q with _ | ⟨x, tl⟩
  · rfl
  · obtain ⟨hx, -⟩ := at?_of_drop hd
    simp only [accepts, hx, Option.any_some] at h
    simp [h]

theorem accepts_of_runLen_pos {ok : Nat → Bool} {q : Nat} (h : 0 < s.runLen ok q) :
    s.accepts ok q = true := by
  cases hok : s.accepts ok q
  · rw [runLen_of_reject hok] at h
    exact absurd h (Nat.lt_irrefl 0)
  · rfl

theorem reject_of_runLen_zero {ok : Nat → Bool} {q : Nat} (h : s.runLen ok q = 0) :
    s.accepts ok q = false := by
  cases hok : s.accepts ok q
  · rfl
  · rw [runLen_of_accepts hok] at h
    exact absurd h (Nat.succ_ne_zero _)

/-! ## Loops of repetitions -/

section Loops

variable {f lo hi count q m m' : Nat} {last : Option Nat} {body more : List Item}
  {rest : List Goal} {c : Array (Option (Nat × Nat))} {o o' : Option Thread}

theorem step_round_min (hlo : count < lo) (stack : List Thread) :
    s.step ⟨.round f lo hi false body count last :: rest, q, c⟩ stack =
      .next ⟨.items f body :: .round f lo hi false body (count + 1) last :: rest, q, c⟩ stack := by
  simp [step, hlo]

theorem step_round_push (hlo : lo ≤ count) (hhi : (count < hi || hi == maxRepeat) = true)
    (hlast : last ≠ some q) (stack : List Thread) :
    s.step ⟨.round f lo hi false body count last :: rest, q, c⟩ stack =
      .next ⟨.items f body :: .round f lo hi false body (count + 1) (some q) :: rest, q, c⟩
        (⟨rest, q, c⟩ :: stack) := by
  simp [step, Nat.not_lt.mpr hlo, hhi, hlast]

theorem step_round_exit (hlo : lo ≤ count) (hhi : (count < hi || hi == maxRepeat) = false)
    (stack : List Thread) :
    s.step ⟨.round f lo hi false body count last :: rest, q, c⟩ stack =
      .next ⟨rest, q, c⟩ stack := by
  simp [step, Nat.not_lt.mpr hlo, hhi]

/-- A round of a loop with no upper bound, past its least count and not right
after an empty round, tries the body once more and keeps the exit as a choice. -/
theorem resumes_round_open (hlo : lo ≤ count) (hlast : last ≠ some q) :
    s.Resumes ⟨.round f lo maxRepeat false body count last :: rest, q, c⟩ 1
      [⟨.items f body :: .round f lo maxRepeat false body (count + 1) (some q) :: rest, q, c⟩,
        ⟨rest, q, c⟩] :=
  resumes_step_push (step_round_push hlo (by simp) hlast)

variable {neg : Bool} {ms : List Member}

/-- Once a greedy repetition of one character class with no upper bound has
its least count, its loop takes the whole run of accepted characters; what
follows is tried after the run first, then after each shorter run. -/
theorem settles_round (hlo : lo ≤ count) (hlast : last ≠ some q)
    (hK : s.Settles ⟨rest, q + s.runLen ((Mode.ofFlags f).acceptsSet neg ms) q, c⟩ m o)
    (hfail : ∀ i < s.runLen ((Mode.ofFlags f).acceptsSet neg ms) q,
      s.Settles ⟨rest, q + i, c⟩ m' none) :
    s.Settles ⟨.round f lo maxRepeat false [.set neg ms] count last :: rest, q, c⟩
      (3 * s.runLen ((Mode.ofFlags f).acceptsSet neg ms) q + 2 + m +
        s.runLen ((Mode.ofFlags f).acceptsSet neg ms) q * m') o := by
  generalize hL : s.runLen ((Mode.ofFlags f).acceptsSet neg ms) q = L at hK hfail ⊢
  induction L generalizing q count last with
  | zero =>
    -- nothing is accepted at `q`: the loop's next round fails and what follows runs at `q`
    have hpush : s.Resumes ⟨.round f lo maxRepeat false [.set neg ms] count last :: rest, q, c⟩ 1 _ :=
      resumes_round_open hlo hlast
    have hagain : s.Settles ⟨.items f [.set neg ms] :: .round f lo maxRepeat false [.set neg ms]
        (count + 1) (some q) :: rest, q, c⟩ 1 none :=
      settles_set_fail (reject_of_runLen_zero hL)
    simpa using (hpush.settles_or hagain hK).mono (m := 3 * 0 + 2 + m + 0 * m') (by omega)
  | succ L ih =>
    -- the character at `q` is taken; the loop goes on from `q + 1` and falls back to `q` last
    have hok : s.accepts ((Mode.ofFlags f).acceptsSet neg ms) q = true :=
      accepts_of_runLen_pos (by omega)
    have hL' : s.runLen ((Mode.ofFlags f).acceptsSet neg ms) (q + 1) = L := by
      have := runLen_of_accepts hok
      omega
    have hnext := @ih (count + 1) (q + 1) (some q) (by omega) (by simp) hL'
      (by rwa [Nat.add_right_comm, Nat.add_assoc])
      (fun i hi => by simpa [Nat.add_right_comm, Nat.add_assoc] using hfail (i + 1) (by omega))
    have hagain := settles_set hok (settles_nil hnext)
    have hpush : s.Resumes ⟨.round f lo maxRepeat false [.set neg ms] count last :: rest, q, c⟩ 1 _ :=
      resumes_round_open hlo hlast
    simpa using (hpush.settles_or hagain (hfail 0 (by omega))).mono
      (m := 3 * (L + 1) + 2 + m + (L + 1) * m') (by rw [Nat.add_mul]; omega)

/-- A greedy repetition of one character class, with no bounds: what follows
is tried after the whole run of accepted characters, then after each shorter
run. -/
theorem settles_star
    (hK : s.Settles ⟨.items f more :: rest,
      q + s.runLen ((Mode.ofFlags f).acceptsSet neg ms) q, c⟩ m o)
    (hfail : ∀ i < s.runLen ((Mode.ofFlags f).acceptsSet neg ms) q,
      s.Settles ⟨.items f more :: rest, q + i, c⟩ m' none) :
    s.Settles ⟨.items f (.rep 0 maxRepeat .greedy [.set neg ms] :: more) :: rest, q, c⟩
      (3 * s.runLen ((Mode.ofFlags f).acceptsSet neg ms) q + 3 + m +
        s.runLen ((Mode.ofFlags f).acceptsSet neg ms) q * m') o := by
  have hloop := settles_round (Nat.le_refl 0) (by simp : (none : Option Nat) ≠ some q) hK hfail
  exact Settles.mono (settles_step (fun _ => rfl) hloop) (by omega)

/-- A greedy repetition of one character class, at least once and with no
upper bound, where the first character is accepted. -/
theorem settles_plus (hok : s.accepts ((Mode.ofFlags f).acceptsSet neg ms) q = true)
    (hK : s.Settles ⟨.items f more :: rest,
      q + s.runLen ((Mode.ofFlags f).acceptsSet neg ms) q, c⟩ m o)
    (hfail : ∀ i < s.runLen ((Mode.ofFlags f).acceptsSet neg ms) q, 0 < i →
      s.Settles ⟨.items f more :: rest, q + i, c⟩ m' none) :
    s.Settles ⟨.items f (.rep 1 maxRepeat .greedy [.set neg ms] :: more) :: rest, q, c⟩
      (3 * s.runLen ((Mode.ofFlags f).acceptsSet neg ms) q + 3 + m +
        s.runLen ((Mode.ofFlags f).acceptsSet neg ms) q * m') o := by
  have hL := runLen_of_accepts hok
  -- after the first character the loop is past its least count, at `q + 1`
  have hloop : s.Settles ⟨.round f 1 maxRepeat false [.set neg ms] 1 none :: .items f more :: rest,
      q + 1, c⟩ _ o := settles_round (Nat.le_refl 1) (by simp)
    (by rwa [hL, Nat.add_comm _ 1, ← Nat.add_assoc] at hK)
    (fun i hi => by simpa [Nat.add_assoc, Nat.add_comm 1] using hfail (i + 1) (by omega) (by omega))
  have hfirst := settles_set hok (settles_nil hloop)
  refine Settles.mono (settles_step (fun _ => rfl) (settles_step (step_round_min (by decide)) hfirst))
    ?_
  rw [hL, Nat.add_mul]
  omega

theorem settles_plus_fail (hok : s.accepts ((Mode.ofFlags f).acceptsSet neg ms) q = false) :
    s.Settles ⟨.items f (.rep 1 maxRepeat .greedy [.set neg ms] :: more) :: rest, q, c⟩ 3 none :=
  settles_step (fun _ => rfl) (settles_step (step_round_min (by decide)) (settles_set_fail hok))

/-- A greedy optional character of a class, where the character is accepted:
what follows is tried after it, then without it. -/
theorem settles_opt (hok : s.accepts ((Mode.ofFlags f).acceptsSet neg ms) q = true)
    (h₁ : s.Settles ⟨.items f more :: rest, q + 1, c⟩ m o)
    (h₀ : s.Settles ⟨.items f more :: rest, q, c⟩ m' o') :
    s.Settles ⟨.items f (.rep 0 1 .greedy [.set neg ms] :: more) :: rest, q, c⟩ (5 + m + m')
      (o.or o') := by
  have hpush : s.Resumes ⟨.round f 0 1 false [.set neg ms] 0 none :: .items f more :: rest, q, c⟩ 1
      _ := resumes_step_push (step_round_push (Nat.le_refl 0) (by decide) (by simp))
  have hagain : s.Settles ⟨.items f [.set neg ms] :: .round f 0 1 false [.set neg ms] (0 + 1) (some q) ::
      .items f more :: rest, q, c⟩ (m + 1 + 1 + 1) o :=
    settles_set hok (settles_nil (settles_step (step_round_exit (Nat.zero_le _) (by decide)) h₁))
  exact Settles.mono (settles_step (fun _ => rfl) (hpush.settles_or hagain h₀)) (by omega)

/-- A greedy optional character of a class, where the character is not
there. -/
theorem settles_opt_skip (hok : s.accepts ((Mode.ofFlags f).acceptsSet neg ms) q = false)
    (h₀ : s.Settles ⟨.items f more :: rest, q, c⟩ m o) :
    s.Settles ⟨.items f (.rep 0 1 .greedy [.set neg ms] :: more) :: rest, q, c⟩ (3 + m) o := by
  have hpush : s.Resumes ⟨.round f 0 1 false [.set neg ms] 0 none :: .items f more :: rest, q, c⟩ 1
      _ := resumes_step_push (step_round_push (Nat.le_refl 0) (by decide) (by simp))
  have hrun := hpush.settles_or (settles_set_fail hok) h₀
  rw [Option.none_or] at hrun
  exact Settles.mono (settles_step (fun _ => rfl) hrun) (by omega)

end Loops

/-- Two alternatives are tried in order, each followed by what comes after
them. -/
theorem settles_either {f q m m' : Nat} {w₁ w₂ more : List Item} {rest : List Goal}
    {c : Array (Option (Nat × Nat))} {o o' : Option Thread}
    (h₁ : s.Settles ⟨.items f w₁ :: .items f more :: rest, q, c⟩ m o)
    (h₂ : s.Settles ⟨.items f w₂ :: .items f more :: rest, q, c⟩ m' o') :
    s.Settles ⟨.items f (.branch [w₁, w₂] :: more) :: rest, q, c⟩ (1 + m + m') (o.or o') :=
  (resumes_step_push fun _ => rfl).settles_or h₁ h₂

end Subject

end ImageCatalog.Pattern
