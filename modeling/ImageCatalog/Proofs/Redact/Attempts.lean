import ImageCatalog.Proofs.Pattern.Machine
import ImageCatalog.Proofs.Redact.Keys

/-!
# An attempt of a secret pattern

`Regex.matchAt` tries a pattern at one position by running the backtracking
machine. For the four secret patterns this module computes the attempt: it
succeeds exactly when the text there begins with a key, read as the readers of
`Keys` read it, followed by at least one value character, and the match then
spans the key and the whole run of value characters after it.

The machine tries other ways of matching when the greedy one fails: shorter
runs of blanks, a separator without its quote. Each of them puts a blank or a
quote where the rest of the pattern needs a value, a scheme or a `:` or `=`,
so they all fail, and the attempt stands or falls with the greedy reading.

Main results: `Secret.Reads`, what the key items of a pattern do, shown for
the three forms of key (`namedKey_reads`, `authorizationKey_reads`,
`tokenKey_reads`), and `matchAt_secretRegex`, the attempt of a whole pattern
from it. `sessionRegex_matchAt` and its three companions instantiate it.
-/

namespace ImageCatalog.Pattern.Subject

variable {s : Subject}

/-! ## More on runs of the machine -/

variable (s) in
/-- The goals `g`, with captures `c`, fail within `n` steps at every position
whose character `bad` holds. -/
def FailsAt (bad : Char → Bool) (g : List Goal) (c : Array (Option (Nat × Nat))) (n : Nat) : Prop :=
  ∀ x d, (s.chars.toList.drop x).head? = some d → bad d = true → s.Settles ⟨g, x, c⟩ n none

theorem FailsAt.mono {bad : Char → Bool} {g : List Goal} {c : Array (Option (Nat × Nat))} {n n' : Nat}
    (h : s.FailsAt bad g c n) (hn : n ≤ n') : s.FailsAt bad g c n' :=
  fun x d hd hb => (h x d hd hb).mono hn

/-- Goals that fail at some characters still do after the end of a sequence
of items. -/
theorem FailsAt.nil {bad : Char → Bool} {f n : Nat} {rest : List Goal} {c : Array (Option (Nat × Nat))}
    (h : s.FailsAt bad rest c n) : s.FailsAt bad (.items f [] :: rest) c (n + 1) :=
  fun x d hd hb => settles_nil (h x d hd hb)

/-- A step that goes on as `t'`, with nothing pushed, resumes as `t'` does. -/
theorem resumes_of_step {t t' : Thread} {n : Nat} {pending : List Thread}
    (h : ∀ stack, s.step t stack = .next t' stack) (h' : s.Resumes t' n pending) :
    s.Resumes t (n + 1) pending := by
  obtain ⟨k, hk, h'⟩ := h'
  exact ⟨k + 1, by omega, fun fuel stack => by rw [Nat.add_right_comm, run, h]; exact h' fuel stack⟩

/-- A run that resumes `u` first, where `u` in turn resumes `pending'`,
resumes `pending'` and then what was under `u`. -/
theorem Resumes.trans {t u : Thread} {n m : Nat} {pending pending' : List Thread}
    (h : s.Resumes t n (u :: pending)) (hu : s.Resumes u m pending') :
    s.Resumes t (n + m) (pending' ++ pending) := by
  obtain ⟨k, hk, h⟩ := h
  obtain ⟨k', hk', hu⟩ := hu
  refine ⟨k + k', by omega, fun fuel stack => ?_⟩
  rw [Nat.add_assoc, h, List.cons_append, resume, hu, List.append_assoc]

variable {f lo count q m : Nat} {last : Option Nat} {more : List Item} {rest : List Goal}
  {c : Array (Option (Nat × Nat))} {neg : Bool} {ms : List Member}

theorem step_set_accepts (hok : s.accepts ((Mode.ofFlags f).acceptsSet neg ms) q = true)
    (stack : List Thread) :
    s.step ⟨.items f (.set neg ms :: more) :: rest, q, c⟩ stack =
      .next ⟨.items f more :: rest, q + 1, c⟩ stack := by
  show s.consume ⟨.items f (.set neg ms :: more) :: rest, q, c⟩ (.items f more :: rest) stack
    ((Mode.ofFlags f).acceptsSet neg ms) = _
  rw [consume_eq, if_pos hok]

/-- Past its least count, a greedy loop of one character class with no upper
bound takes the whole run of accepted characters, and when the body fails
after it, resumes what follows the loop at the end of the run; the exits after
shorter runs are left on the stack. -/
theorem resumes_round_run (hlo : lo ≤ count) (hlast : last ≠ some q) :
    ∃ pending, s.Resumes ⟨.round f lo maxRepeat false [.set neg ms] count last :: rest, q, c⟩
      (3 * s.runLen ((Mode.ofFlags f).acceptsSet neg ms) q + 2)
      (⟨rest, q + s.runLen ((Mode.ofFlags f).acceptsSet neg ms) q, c⟩ :: pending) := by
  generalize hL : s.runLen ((Mode.ofFlags f).acceptsSet neg ms) q = L
  induction L generalizing q count last with
  | zero =>
    -- the body fails at once and the exit at `q` is resumed
    have hpush : s.Resumes ⟨.round f lo maxRepeat false [.set neg ms] count last :: rest, q, c⟩ 1 _ :=
      resumes_round_open hlo hlast
    have hbody : s.Settles ⟨.items f [.set neg ms] :: .round f lo maxRepeat false [.set neg ms]
        (count + 1) (some q) :: rest, q, c⟩ 1 none := settles_set_fail (reject_of_runLen_zero hL)
    exact ⟨[], by simpa using hpush.then hbody⟩
  | succ L ih =>
    have hok : s.accepts ((Mode.ofFlags f).acceptsSet neg ms) q = true :=
      accepts_of_runLen_pos (by omega)
    have hL' : s.runLen ((Mode.ofFlags f).acceptsSet neg ms) (q + 1) = L := by
      have := runLen_of_accepts hok
      omega
    obtain ⟨pending, hnext⟩ := @ih (count + 1) (q + 1) (some q) (by omega) (by simp) hL'
    -- the body takes the character at `q` and the loop goes on from `q + 1`
    have hbody : s.Resumes ⟨.items f [.set neg ms] :: .round f lo maxRepeat false [.set neg ms]
        (count + 1) (some q) :: rest, q, c⟩ (3 * L + 2 + 1 + 1)
        (⟨rest, q + 1 + L, c⟩ :: pending) :=
      resumes_of_step (step_set_accepts hok) (resumes_of_step (fun _ => rfl) hnext)
    have hpush : s.Resumes ⟨.round f lo maxRepeat false [.set neg ms] count last :: rest, q, c⟩ 1 _ :=
      resumes_round_open hlo hlast
    refine ⟨pending ++ [⟨rest, q, c⟩], ?_⟩
    have := hpush.trans hbody
    rw [Nat.add_right_comm q 1 L, Nat.add_assoc q] at this
    exact Resumes.mono (by simpa using this) (by omega)

/-- A greedy repetition of one character class, at least once and with no
upper bound, whose first character is accepted and after whose whole run what
follows succeeds: the run is taken whole. -/
theorem settles_plus_found {r : Thread} (hok : s.accepts ((Mode.ofFlags f).acceptsSet neg ms) q = true)
    (hK : s.Settles ⟨.items f more :: rest, q + s.runLen ((Mode.ofFlags f).acceptsSet neg ms) q, c⟩ m
      (some r)) :
    s.Settles ⟨.items f (.rep 1 maxRepeat .greedy [.set neg ms] :: more) :: rest, q, c⟩
      (3 * s.runLen ((Mode.ofFlags f).acceptsSet neg ms) q + 3 + m) (some r) := by
  have hL := runLen_of_accepts hok
  obtain ⟨pending, hloop⟩ : ∃ pending, s.Resumes
      ⟨.round f 1 maxRepeat false [.set neg ms] 1 none :: .items f more :: rest, q + 1, c⟩
      (3 * s.runLen ((Mode.ofFlags f).acceptsSet neg ms) (q + 1) + 2)
      (⟨.items f more :: rest, q + 1 + s.runLen ((Mode.ofFlags f).acceptsSet neg ms) (q + 1), c⟩ ::
        pending) := resumes_round_run (Nat.le_refl 1) (by simp)
  rw [show q + 1 + s.runLen ((Mode.ofFlags f).acceptsSet neg ms) (q + 1) =
    q + s.runLen ((Mode.ofFlags f).acceptsSet neg ms) q by omega] at hloop
  have hfound := hloop.then hK
  have hfirst := settles_set hok (settles_nil hfound)
  refine Settles.mono (settles_step (fun _ => rfl) (settles_step (step_round_min (by decide)) hfirst)) ?_
  omega

/-- A run given at least the steps it settles within ends as it settles. -/
theorem run_of_settles {t : Thread} {n fuel : Nat} {o : Option Thread} (h : s.Settles t n o)
    (hn : n ≤ fuel) : s.run fuel t [] = o := by
  cases o with
  | some r =>
    obtain ⟨k, hk, h⟩ := h
    rw [show fuel = k + (fuel - k) by omega, h]
  | none =>
    obtain ⟨k, hk, h⟩ := h
    rw [show fuel = k + (fuel - k) by omega, h]
    rfl

end ImageCatalog.Pattern.Subject

namespace ImageCatalog.Redact

open Pattern Subject Text

variable {s : Subject}

/-! ## The machine on the characters of the text -/

theorem accepts_eq_head (ok : Nat → Bool) (q : Nat) :
    s.accepts ok q = ((s.chars.toList.drop q).head?.any fun c => ok c.toNat) := by
  simp only [Subject.accepts, Subject.at?, List.head?_drop, Array.getElem?_toList, Option.any_map]

theorem runLen_eq_runLen (ok : Nat → Bool) (q : Nat) :
    s.runLen ok q = runLen (fun c => ok c.toNat) (s.chars.toList.drop q) := rfl

theorem mode_secretFlags : Mode.ofFlags secretFlags = secretMode := rfl

theorem accepts_quote (q : Nat) :
    s.accepts ((Mode.ofFlags secretFlags).acceptsSet false [.lit 34, .lit 39]) q =
      ((s.chars.toList.drop q).head?.any isQuote) := by
  simp only [accepts_eq_head, mode_secretFlags, acceptsSet_quote]

theorem accepts_assign (q : Nat) :
    s.accepts ((Mode.ofFlags secretFlags).acceptsSet false [.lit 58, .lit 61]) q =
      ((s.chars.toList.drop q).head?.any isAssign) := by
  simp only [accepts_eq_head, mode_secretFlags, acceptsSet_assign]

theorem runLen_blank (q : Nat) :
    s.runLen ((Mode.ofFlags secretFlags).acceptsSet false [.category .space]) q =
      runLen isBlank (s.chars.toList.drop q) := by
  simp only [runLen_eq_runLen, mode_secretFlags, acceptsSet_blank]

theorem spells_eq (w : List Nat) (q : Nat) :
    s.spells (Mode.ofFlags secretFlags) w q = beginsWith w (s.chars.toList.drop q) := by
  induction w generalizing q with
  | nil => cases s.chars.toList.drop q <;> rfl
  | cons a w ih =>
    simp only [Subject.spells, ih, accepts_eq_head]
    cases hd : s.chars.toList.drop q with
    | nil =>
      have : s.chars.toList.drop (q + 1) = [] := by
        rw [← List.drop_drop, hd]
        rfl
      simp [this, beginsWith]
    | cons d t =>
      have : s.chars.toList.drop (q + 1) = t := by
        rw [← List.drop_drop, hd]
        rfl
      simp [this, beginsWith, mode_secretFlags]

/-- Within the run of blanks at the front of `u`, every position holds a
blank. -/
theorem head_of_lt_runLen {ok : Char → Bool} {u : List Char} {i : Nat} (h : i < runLen ok u) :
    ∃ d, (u.drop i).head? = some d ∧ ok d = true := by
  obtain ⟨r, t, rfl, hrl, hr, -⟩ := @runLen_split ok u
  rw [← hrl] at h
  refine ⟨r[i], ?_, hr _ (List.getElem_mem h)⟩
  rw [List.head?_drop, List.getElem?_append_left h, List.getElem?_eq_getElem h]

theorem runLen_le_size {ok : Char → Bool} (q : Nat) :
    runLen ok (s.chars.toList.drop q) ≤ s.chars.size - q := by
  have : runLen ok (s.chars.toList.drop q) ≤ _ := runLen_le (s.chars.toList.drop q)
  simpa using this

theorem runLen_eq_zero {ok : Char → Bool} {u : List Char} {d : Char} (hd : u.head? = some d)
    (h : ok d = false) : runLen ok u = 0 := by
  cases u with
  | nil => cases hd
  | cons d' t =>
    obtain rfl : d' = d := Option.some.inj hd
    exact runLen_cons_of_neg h t

theorem drop_add (q i : Nat) : s.chars.toList.drop (q + i) = (s.chars.toList.drop q).drop i :=
  (List.drop_drop ..).symm

/-! ## Separators -/

section Separator

variable {q m m' : Nat} {more : List Item} {rest : List Goal} {c : Array (Option (Nat × Nat))}
  {o : Option Thread}

/-- A greedy optional quote before goals that fail at a quote: what follows
runs after the quote when there is one. -/
theorem settles_optQuote {i : Nat} (hi : quoteLen (s.chars.toList.drop q) = i)
    (hq : s.FailsAt isQuote (.items secretFlags more :: rest) c m')
    (hK : s.Settles ⟨.items secretFlags more :: rest, q + i, c⟩ m o) :
    s.Settles ⟨.items secretFlags (.rep 0 1 .greedy [quoteItem] :: more) :: rest, q, c⟩
      (5 + m + m') o := by
  cases hd : s.chars.toList.drop q with
  | nil =>
    have hok := accepts_quote (s := s) q
    rw [hd] at hok hi
    subst hi
    exact (settles_opt_skip hok hK).mono (by omega)
  | cons d t =>
    have hok := accepts_quote (s := s) q
    rw [hd] at hok hi
    cases hdq : isQuote d
    · -- no quote: the option is skipped at once
      simp only [quoteLen, hdq] at hi
      subst hi
      exact (settles_opt_skip (by simpa [hdq] using hok) hK).mono (by omega)
    · -- a quote: taking it comes first, and leaving it fails
      simp only [quoteLen, hdq] at hi
      subst hi
      have h₀ := hq q d (by simp [hd]) hdq
      have h := settles_opt (by simpa [hdq] using hok) hK h₀
      rwa [Option.or_none] at h

/-- A greedy run of blanks before goals that fail at a blank: what follows
runs after the whole run. -/
theorem settles_blanks {L : Nat} (hL : runLen isBlank (s.chars.toList.drop q) = L)
    (hb : s.FailsAt isBlank (.items secretFlags more :: rest) c m')
    (hK : s.Settles ⟨.items secretFlags more :: rest, q + L, c⟩ m o) :
    s.Settles ⟨.items secretFlags (.rep 0 maxRepeat .greedy [blankItem] :: more) :: rest, q, c⟩
      (3 * L + 3 + m + L * m') o := by
  have hL' := (runLen_blank (s := s) q).trans hL
  have hfail : ∀ i < L, s.Settles ⟨.items secretFlags more :: rest, q + i, c⟩ m' none := by
    intro i hi
    obtain ⟨d, hd, hbd⟩ := head_of_lt_runLen (hL ▸ hi)
    exact hb (q + i) d (by rwa [drop_add]) hbd
  rw [← hL'] at hK hfail ⊢
  exact settles_star hK hfail

theorem isAssign_of_isBlank {d : Char} (h : isBlank d = true) : isAssign d = false := by
  cases ha : isAssign d
  · rfl
  · rw [isBlank_of_isAssign ha] at h
    cases h

theorem isAssign_of_isQuote {d : Char} (h : isQuote d = true) : isAssign d = false := by
  cases ha : isAssign d
  · rfl
  · rw [isQuote_of_isAssign ha] at h
    cases h

theorem assign_fails_blank :
    s.FailsAt isBlank (.items secretFlags (.set false [.lit 58, .lit 61] :: more) :: rest) c 1 := by
  intro x d hd hbd
  refine settles_set_fail ?_
  rw [accepts_assign, hd]
  simpa using isAssign_of_isBlank hbd

/-- Blanks and then `:` or `=` fail at a quote. -/
theorem blanksAssign_fails_quote : s.FailsAt isQuote (.items secretFlags
    (.rep 0 maxRepeat .greedy [blankItem] :: .set false [.lit 58, .lit 61] :: more) :: rest) c 4 := by
  intro x d hd hdq
  have hfail : s.Settles ⟨.items secretFlags (.set false [.lit 58, .lit 61] :: more) :: rest, x + 0, c⟩
      1 none :=
    settles_set_fail (by rw [Nat.add_zero, accepts_assign, hd]; simpa using isAssign_of_isQuote hdq)
  exact settles_blanks (runLen_eq_zero hd (isBlank_of_isQuote hdq)) assign_fails_blank hfail

/-- Before goals that fail at every blank and quote, the separator items read
the separator `sepLen` reads and go on after it. The other ways of reading it
leave a blank or a quote where those goals begin, or a blank where `:` or `=`
must stand. -/
theorem settles_separator {k : Nat}
    (hbq : s.FailsAt (fun d => isBlank d || isQuote d) (.items secretFlags more :: rest) c 8)
    (hsep : sepLen (s.chars.toList.drop q) = some k)
    (hK : s.Settles ⟨.items secretFlags more :: rest, q + k, c⟩ m o) :
    s.Settles ⟨.items secretFlags (separatorItems ++ more) :: rest, q, c⟩ (m + 14 * k + 32) o := by
  simp only [sepLen] at hsep
  generalize hi0 : quoteLen (s.chars.toList.drop q) = i0 at hsep
  generalize hL1 : runLen isBlank ((s.chars.toList.drop q).drop i0) = L1 at hsep
  split at hsep
  case h_2 => cases hsep
  rename_i e t hdrop
  split_ifs at hsep with he
  generalize hL2 : runLen isBlank t = L2 at hsep
  generalize hi2 : quoteLen (t.drop L2) = i2 at hsep
  obtain rfl := Option.some.inj hsep
  -- where the parts of the separator stand
  have hat : s.chars.toList.drop (q + i0 + L1) = e :: t := by
    rw [Nat.add_assoc, drop_add, hdrop]
  have hafter : s.chars.toList.drop (q + i0 + L1 + 1) = t := (at?_of_drop hat).2
  -- the closing quote, then the blanks after `:` or `=`
  have hE : s.Settles ⟨.items secretFlags (.rep 0 1 .greedy [quoteItem] :: more) :: rest,
      q + i0 + L1 + 1 + L2, c⟩ (5 + m + 8) o :=
    settles_optQuote (by rw [drop_add, hafter, hi2])
      (fun x d hd hdq => hbq x d hd (by simp [hdq])) (by rwa [show q + i0 + L1 + 1 + L2 + i2 =
        q + (i0 + L1 + 1 + L2 + i2) by omega])
  have hD := settles_blanks (by rw [hafter, hL2]) (fun x d hd hbd =>
      (settles_opt_skip (by rw [accepts_quote, hd]; simpa using isQuote_of_isBlank hbd)
        (hbq x d hd (by simp [hbd]))) : s.FailsAt isBlank _ c (3 + 8)) hE
  -- `:` or `=`, then the blanks and the opening quote before it
  have hC := settles_set (by rw [accepts_assign, hat]; simpa using he) hD
  have hB := settles_blanks (q := q + i0) (by rw [drop_add, hL1]) assign_fails_blank hC
  have hA := settles_optQuote hi0 blanksAssign_fails_quote hB
  simp only [separatorItems, List.cons_append, List.nil_append]
  exact hA.mono (by omega)

/-- Where `sepLen` reads no separator, the separator items fail, whatever
follows them. -/
theorem settles_separator_fail (hsep : sepLen (s.chars.toList.drop q) = none) :
    s.Settles ⟨.items secretFlags (separatorItems ++ more) :: rest, q, c⟩
      (4 * (s.chars.size - q) + 13) none := by
  simp only [sepLen] at hsep
  generalize hi0 : quoteLen (s.chars.toList.drop q) = i0 at hsep
  generalize hL1 : runLen isBlank ((s.chars.toList.drop q).drop i0) = L1 at hsep
  -- after the opening quote and the blanks there is no `:` or `=`
  have hno : ((s.chars.toList.drop q).drop (i0 + L1)).head?.any isAssign = false := by
    split at hsep
    · rename_i e t hdrop
      rw [hdrop]
      cases he : isAssign e
      · simp [he]
      · simp [he] at hsep
    · rename_i hdrop
      rw [hdrop]
      rfl
  have hC : s.Settles ⟨.items secretFlags (.set false [.lit 58, .lit 61] ::
      .rep 0 maxRepeat .greedy [blankItem] :: .rep 0 1 .greedy [quoteItem] :: more) :: rest,
      q + i0 + L1, c⟩ 1 none :=
    settles_set_fail (by rw [accepts_assign, Nat.add_assoc, drop_add, hno])
  have hB := settles_blanks (q := q + i0) (by rw [drop_add, hL1]) assign_fails_blank hC
  have hA := settles_optQuote hi0 blanksAssign_fails_quote hB
  have hL1le : L1 ≤ s.chars.size - q := by
    have : runLen isBlank (s.chars.toList.drop (q + i0)) ≤ s.chars.size - (q + i0) :=
      runLen_le_size (q + i0)
    rw [drop_add, hL1] at this
    omega
  simp only [separatorItems, List.cons_append, List.nil_append]
  exact hA.mono (by omega)

end Separator

/-! ## Values -/

section Value

variable {p x : Nat} {stops : List Member} {c : Array (Option (Nat × Nat))}

/-- The group of a secret's value. -/
def valueGroup (stops : List Member) : Item :=
  .group (some 2) 0 0 [.rep 1 maxRepeat .greedy [.set true stops]]

/-- What follows a key: the end of the key's group, opened at `p`, and the
value's group. -/
def afterKey (p : Nat) (stops : List Member) : List Goal :=
  [.close 1 p, .items secretFlags [valueGroup stops]]

/-- After a key that ends at `x`, a run of value characters is taken whole and
the match ends after it. -/
theorem settles_afterKey {L : Nat}
    (hL : s.runLen ((Mode.ofFlags secretFlags).acceptsSet true stops) x = L) (hpos : 0 < L) :
    s.Settles ⟨afterKey p stops, x, c⟩ (3 * L + 9)
      (some ⟨[], x + L, (c.setIfInBounds 1 (some (p, x))).setIfInBounds 2 (some (x, x + L))⟩) := by
  have hok := accepts_of_runLen_pos (hL ▸ hpos)
  have hend : s.Settles ⟨[.items secretFlags [], .close 2 x, .items secretFlags []], x + L,
      c.setIfInBounds 1 (some (p, x))⟩ 4
      (some ⟨[], x + L, (c.setIfInBounds 1 (some (p, x))).setIfInBounds 2 (some (x, x + L))⟩) :=
    settles_nil (settles_close (settles_nil (settles_found _ _)))
  have hrun := settles_plus_found hok (hL ▸ hend)
  rw [hL] at hrun
  exact (settles_close (settles_group hrun)).mono (by omega)

/-- After a key that ends where no value character stands, the attempt
fails. -/
theorem settles_afterKey_fail (hL : s.runLen ((Mode.ofFlags secretFlags).acceptsSet true stops) x = 0) :
    s.Settles ⟨afterKey p stops, x, c⟩ 5 none :=
  settles_close (settles_group (settles_plus_fail (reject_of_runLen_zero hL)))

theorem runLen_stops {S : Secret}
    (hstops : ∀ d : Char, secretMode.acceptsSet true stops d.toNat = S.isValue d) (x : Nat) :
    s.runLen ((Mode.ofFlags secretFlags).acceptsSet true stops) x =
      runLen S.isValue (s.chars.toList.drop x) := by
  simp only [runLen_eq_runLen, mode_secretFlags, hstops]

theorem Secret.isValue_eq_false (S : Secret) {d : Char} (h : (isBlank d || isQuote d) = true) :
    S.isValue d = false := by
  cases hv : S.isValue d
  · rfl
  · simp [S.isBlank_of_isValue hv, S.isQuote_of_isValue hv] at h

/-- Where the value characters are those of a secret, what follows a key
fails at every blank and quote. -/
theorem afterKey_fails {S : Secret}
    (hstops : ∀ d : Char, secretMode.acceptsSet true stops d.toNat = S.isValue d) :
    s.FailsAt (fun d => isBlank d || isQuote d) (afterKey p stops) c 6 := by
  intro x d hd hbq
  have hL : s.runLen ((Mode.ofFlags secretFlags).acceptsSet true stops) x = 0 := by
    rw [runLen_stops hstops]
    exact runLen_eq_zero hd (S.isValue_eq_false hbq)
  exact (settles_afterKey_fail hL).mono (by omega)

end Value

/-! ## Keys -/

/-- The key items `key` read the keys `keyLen` reads: before goals that fail
at every blank and quote, they go on after the key where the text begins with
one, and fail where it does not. -/
structure KeyReads (key : List Item) (keyLen : List Char → Option Nat) : Prop where
  found : ∀ {s : Subject} {q k m : Nat} {rest : List Goal} {c : Array (Option (Nat × Nat))}
    {o : Option Thread}, s.FailsAt (fun d => isBlank d || isQuote d) rest c 6 →
    keyLen (s.chars.toList.drop q) = some k → s.Settles ⟨rest, q + k, c⟩ m o →
    s.Settles ⟨.items secretFlags key :: rest, q, c⟩ (m + 16 * k + 64) o
  missing : ∀ {s : Subject} {q : Nat} {rest : List Goal} {c : Array (Option (Nat × Nat))},
    keyLen (s.chars.toList.drop q) = none →
    s.Settles ⟨.items secretFlags key :: rest, q, c⟩ (16 * (s.chars.size - q) + 96) none

theorem beginsWith_length_le {w : List Nat} {u : List Char} (h : beginsWith w u = true) :
    w.length ≤ u.length := by
  obtain ⟨a, t, rfl, ha⟩ := beginsWith_split h
  simp [← ha.length_eq]

section Named

variable {q k m : Nat} {more : List Item} {rest : List Goal} {c : Array (Option (Nat × Nat))}
  {o : Option Thread}

/-- A name and a separator, before goals that fail at every blank and quote:
the items go on after the key `namedKeyLen` reads. -/
theorem settles_namedKey {w : List Nat}
    (hmore : s.FailsAt (fun d => isBlank d || isQuote d) (.items secretFlags more :: rest) c 8)
    (hkey : namedKeyLen w (s.chars.toList.drop q) = some k)
    (hK : s.Settles ⟨.items secretFlags more :: rest, q + k, c⟩ m o) :
    s.Settles ⟨.items secretFlags (wordItems w ++ separatorItems ++ more) :: rest, q, c⟩
      (m + 15 * k + 32) o := by
  simp only [namedKeyLen] at hkey
  split_ifs at hkey with hbw
  obtain ⟨k₁, hsep, rfl⟩ := Option.map_eq_some_iff.1 hkey
  rw [← drop_add] at hsep
  have hsepr := settles_separator hmore hsep (by rwa [Nat.add_assoc])
  have hword := settles_word (by rwa [spells_eq]) hsepr
  rw [List.append_assoc]
  exact hword.mono (by omega)

/-- Where `namedKeyLen` reads no key, a name and a separator fail, whatever
follows them. -/
theorem settles_namedKey_fail {w : List Nat} (hw : w.length ≤ 64)
    (hkey : namedKeyLen w (s.chars.toList.drop q) = none) :
    s.Settles ⟨.items secretFlags (wordItems w ++ separatorItems ++ more) :: rest, q, c⟩
      (4 * (s.chars.size - q) + 77) none := by
  simp only [namedKeyLen] at hkey
  rw [List.append_assoc]
  by_cases hbw : beginsWith w (s.chars.toList.drop q) = true
  · rw [if_pos hbw, Option.map_eq_none_iff, ← drop_add] at hkey
    have hlen := beginsWith_length_le hbw
    simp only [List.length_drop, Array.length_toList] at hlen
    exact (settles_word (by rwa [spells_eq]) (settles_separator_fail hkey)).mono (by omega)
  · exact (settles_word_fail (by rw [spells_eq]; simpa using hbw)).mono (by omega)

/-- A name, then a separator. -/
theorem namedKey_reads {w : List Nat} (hw : w.length ≤ 64) :
    KeyReads (wordItems w ++ separatorItems) (namedKeyLen w) where
  found hrest hkey hK := by
    rw [← List.append_nil (wordItems w ++ separatorItems)]
    exact (settles_namedKey (hrest.nil.mono (by omega)) hkey (settles_nil hK)).mono (by omega)
  missing hkey := by
    rw [← List.append_nil (wordItems w ++ separatorItems)]
    exact (settles_namedKey_fail hw hkey).mono (by omega)

end Named

theorem length_drop_pos {q : Nat} {d : Char} {u : List Char} (hd : s.chars.toList.drop q = d :: u) :
    q < s.chars.size := by
  have := congrArg List.length hd
  simp only [List.length_drop, Array.length_toList, List.length_cons] at this
  omega

theorem accepts_notLetter (q : Nat) :
    s.accepts ((Mode.ofFlags secretFlags).acceptsSet true [.range 97 122, .range 65 90]) q =
      ((s.chars.toList.drop q).head?.any fun d =>
        secretMode.acceptsSet true [.range 97 122, .range 65 90] d.toNat) := by
  rw [accepts_eq_head, mode_secretFlags]

/-- A character that is no letter, then `token` and a separator. -/
theorem tokenKey_reads :
    KeyReads (notLetterItem :: wordItems (codes "token") ++ separatorItems) tokenKeyLen where
  found {s q k m rest c o} hrest hkey hK := by
    cases hd : s.chars.toList.drop q with
    | nil =>
      rw [hd] at hkey
      cases hkey
    | cons d u =>
      rw [hd] at hkey
      simp only [tokenKeyLen] at hkey
      split_ifs at hkey with hnl
      obtain ⟨k₁, hk₁, rfl⟩ := Option.map_eq_some_iff.1 hkey
      have hu : s.chars.toList.drop (q + 1) = u := (at?_of_drop hd).2
      have hname := (namedKey_reads (w := codes "token") (by decide)).found hrest (by rwa [hu])
        (by rwa [show q + 1 + k₁ = q + (k₁ + 1) by omega])
      have hset := settles_set (by rw [accepts_notLetter, hd]; simpa using hnl) hname
      exact hset.mono (by omega)
  missing {s q rest c} hkey := by
    cases hd : s.chars.toList.drop q with
    | nil =>
      exact (settles_set_fail (by rw [accepts_notLetter, hd]; rfl)).mono (by omega)
    | cons d u =>
      have hlt := length_drop_pos hd
      rw [hd] at hkey
      simp only [tokenKeyLen] at hkey
      by_cases hnl : secretMode.acceptsSet true [.range 97 122, .range 65 90] d.toNat = true
      · rw [if_pos hnl, Option.map_eq_none_iff] at hkey
        have hu : s.chars.toList.drop (q + 1) = u := (at?_of_drop hd).2
        have hname : namedKeyLen (codes "token") (s.chars.toList.drop (q + 1)) = none :=
          (congrArg (namedKeyLen (codes "token")) hu).trans hkey
        have hok : s.accepts ((Mode.ofFlags secretFlags).acceptsSet true [.range 97 122, .range 65 90]) q =
            true := by rw [accepts_notLetter, hd]; simpa using hnl
        exact (settles_set hok ((namedKey_reads (w := codes "token") (by decide)).missing hname)).mono
          (by omega)
      · exact (settles_set_fail (by rw [accepts_notLetter, hd]; simpa using hnl)).mono (by omega)

/-! ## Schemes -/

section Scheme

variable {x n m : Nat} {w : List Nat} {rest : List Goal} {c : Array (Option (Nat × Nat))}
  {o : Option Thread}

/-- `Basic` or `Bearer`, then blanks. -/
def schemeItems : List Item :=
  [.branch [wordItems (codes "Basic"), wordItems (codes "Bearer")], .rep 1 maxRepeat .greedy [blankItem]]

theorem codes_basic : codes "Basic" = [66, 97, 115, 105, 99] := by decide

theorem codes_bearer : codes "Bearer" = [66, 101, 97, 114, 101, 114] := by decide

/-- No character is both `a` and `e`, ignoring case. -/
theorem acceptsLit_e_of_a {k : Nat} (ha : secretMode.acceptsLit 97 k = true) :
    secretMode.acceptsLit 101 k = false := by
  have hcased : secretMode.cased 97 = true ∧ secretMode.cased 101 = true := by decide +kernel
  have hdisj : (secretMode.lower 97 :: secretMode.partners (secretMode.lower 97)).all
      (fun y => !(secretMode.lower 101 :: secretMode.partners (secretMode.lower 101)).contains y) =
        true := by
    decide +kernel
  cases he : secretMode.acceptsLit 101 k
  · rfl
  · have h := List.all_eq_true.1 hdisj _ (lower_of_acceptsLit hcased.1 ha)
    simp [lower_of_acceptsLit hcased.2 he] at h

/-- A text that begins with `Basic` does not begin with `Bearer`. -/
theorem beginsWith_bearer_of_basic {u : List Char} (h : beginsWith (codes "Basic") u = true) :
    beginsWith (codes "Bearer") u = false := by
  rw [codes_basic] at h
  rw [codes_bearer]
  rcases u with _ | ⟨c₀, _ | ⟨c₁, u⟩⟩
  · simp [beginsWith] at h
  · simp [beginsWith] at h
  · simp only [beginsWith, Bool.and_eq_true] at h
    simp [beginsWith, acceptsLit_e_of_a h.2.1]

/-- The word of a scheme, where the text spells it. -/
theorem settles_schemeWord (hlen : w.length = n) (hw : beginsWith w (s.chars.toList.drop x) = true)
    (h : s.Settles ⟨.items secretFlags [.rep 1 maxRepeat .greedy [blankItem]] :: rest, x + n, c⟩ m o) :
    s.Settles ⟨.items secretFlags (wordItems w) :: .items secretFlags [.rep 1 maxRepeat .greedy [blankItem]] ::
      rest, x, c⟩ (m + 1 + n) o := by
  subst hlen
  have hword := settles_word (by rwa [spells_eq]) (settles_nil h)
  rwa [List.append_nil] at hword

/-- The word of a scheme, where the text does not spell it. -/
theorem settles_schemeWord_fail (hlen : w.length = n) (hw : beginsWith w (s.chars.toList.drop x) = false) :
    s.Settles ⟨.items secretFlags (wordItems w) :: .items secretFlags [.rep 1 maxRepeat .greedy [blankItem]] ::
      rest, x, c⟩ n none := by
  subst hlen
  rw [← List.append_nil (wordItems w)]
  exact settles_word_fail (by rwa [spells_eq])

/-- After a scheme's word, its blanks: all of them are taken, at least one. -/
theorem settles_schemeBlanks {L : Nat} (hL : runLen isBlank (s.chars.toList.drop x) = L) (hpos : 0 < L)
    (hrest : s.FailsAt (fun d => isBlank d || isQuote d) rest c 6) (hK : s.Settles ⟨rest, x + L, c⟩ m o) :
    s.Settles ⟨.items secretFlags [.rep 1 maxRepeat .greedy [blankItem]] :: rest, x, c⟩ (m + 10 * L + 4) o := by
  have hL' := (runLen_blank (s := s) x).trans hL
  have hok := accepts_of_runLen_pos (hL' ▸ hpos)
  have hfail : ∀ i < L, 0 < i → s.Settles ⟨.items secretFlags [] :: rest, x + i, c⟩ 7 none := by
    intro i hi _
    obtain ⟨d, hd, hbd⟩ := head_of_lt_runLen (hL ▸ hi)
    exact hrest.nil (x + i) d (by rwa [drop_add]) (by simp [hbd])
  rw [← hL'] at hK hfail
  have hrun := settles_plus hok (settles_nil hK) hfail
  rw [hL'] at hrun
  exact hrun.mono (by omega)

theorem settles_schemeBlanks_fail (hL : runLen isBlank (s.chars.toList.drop x) = 0) :
    s.Settles ⟨.items secretFlags [.rep 1 maxRepeat .greedy [blankItem]] :: rest, x, c⟩ 3 none :=
  settles_plus_fail (reject_of_runLen_zero ((runLen_blank x).trans hL))

theorem length_codes_basic : (codes "Basic").length = 5 := by rw [codes_basic]; rfl

theorem length_codes_bearer : (codes "Bearer").length = 6 := by rw [codes_bearer]; rfl

/-- Before goals that fail at every blank and quote, the scheme items read
the scheme `schemeLen` reads and go on after it. -/
theorem settles_scheme (hrest : s.FailsAt (fun d => isBlank d || isQuote d) rest c 6)
    (hsch : schemeLen (s.chars.toList.drop x) = some n) (hK : s.Settles ⟨rest, x + n, c⟩ m o) :
    s.Settles ⟨.items secretFlags schemeItems :: rest, x, c⟩ (m + 10 * n + 20) o := by
  simp only [schemeLen] at hsch
  obtain ⟨nw, hnw, hsch⟩ := Option.bind_eq_some_iff.1 hsch
  generalize hL : runLen isBlank ((s.chars.toList.drop x).drop nw) = L at hsch
  split_ifs at hsch with hpos
  obtain rfl := Option.some.inj hsch
  have hblanks := settles_schemeBlanks (x := x + nw) (by rw [drop_add, hL]) hpos hrest
    (by rwa [Nat.add_assoc])
  simp only [schemeWordLen] at hnw
  split_ifs at hnw with hbasic hbearer
  · -- `Basic` is read; `Bearer` is not there to be tried after it
    obtain rfl := Option.some.inj hnw
    have h := settles_either (settles_schemeWord length_codes_basic hbasic hblanks)
      (settles_schemeWord_fail length_codes_bearer (beginsWith_bearer_of_basic hbasic))
    rw [Option.or_none] at h
    exact h.mono (by omega)
  · -- `Basic` fails and `Bearer` is read
    obtain rfl := Option.some.inj hnw
    have h := settles_either (settles_schemeWord_fail length_codes_basic (by simpa using hbasic))
      (settles_schemeWord length_codes_bearer hbearer hblanks)
    rw [Option.none_or] at h
    exact h.mono (by omega)

/-- Where `schemeLen` reads no scheme, the scheme items fail, whatever follows
them. -/
theorem settles_scheme_fail (hsch : schemeLen (s.chars.toList.drop x) = none) :
    s.Settles ⟨.items secretFlags schemeItems :: rest, x, c⟩ 20 none := by
  simp only [schemeLen, Option.bind_eq_none_iff] at hsch
  -- after a word that is read, no blank follows
  have hblank : ∀ nw, schemeWordLen (s.chars.toList.drop x) = some nw →
      s.Settles ⟨.items secretFlags [.rep 1 maxRepeat .greedy [blankItem]] :: rest, x + nw, c⟩ 3 none := by
    intro nw hnw
    refine settles_schemeBlanks_fail ?_
    have := hsch nw hnw
    split_ifs at this with hpos
    rw [drop_add]
    omega
  unfold schemeWordLen at hblank hsch
  by_cases hbasic : beginsWith (codes "Basic") (s.chars.toList.drop x) = true
  · have h := settles_either (settles_schemeWord length_codes_basic hbasic (hblank 5 (by simp [hbasic])))
      (settles_schemeWord_fail length_codes_bearer (beginsWith_bearer_of_basic hbasic))
    exact h.mono (by omega)
  · by_cases hbearer : beginsWith (codes "Bearer") (s.chars.toList.drop x) = true
    · have h := settles_either (settles_schemeWord_fail length_codes_basic (by simpa using hbasic))
        (settles_schemeWord length_codes_bearer hbearer (hblank 6 (by simp [hbasic, hbearer])))
      exact h.mono (by omega)
    · exact (settles_either (settles_schemeWord_fail length_codes_basic (by simpa using hbasic))
        (settles_schemeWord_fail length_codes_bearer (by simpa using hbearer))).mono (by omega)

end Scheme

/-- A letter of a name never stands for a blank or a quote. -/
theorem acceptsLit_name_eq_false {a : Nat} (ha : a ∈ nameCodes) {d : Char}
    (hbq : (isBlank d || isQuote d) = true) : secretMode.acceptsLit a d.toNat = false := by
  cases h : secretMode.acceptsLit a d.toNat
  · rfl
  · have hp := isPlain_of_nameLetter ha h
    simp [isBlank_of_isPlain hp, isQuote_of_isPlain hp] at hbq

/-- At a blank or a quote, both words of a scheme fail at their first
letter. -/
theorem scheme_fails {rest : List Goal} {c : Array (Option (Nat × Nat))} :
    s.FailsAt (fun d => isBlank d || isQuote d) (.items secretFlags schemeItems :: rest) c 8 := by
  intro x d hd hbq
  have hB : s.accepts ((Mode.ofFlags secretFlags).acceptsLit 66) x = false := by
    rw [accepts_eq_head, hd, mode_secretFlags]
    simpa using acceptsLit_name_eq_false (by decide) hbq
  have h₁ : s.Settles ⟨.items secretFlags (wordItems (codes "Basic")) ::
      .items secretFlags [.rep 1 maxRepeat .greedy [blankItem]] :: rest, x, c⟩ 1 none := by
    rw [codes_basic]
    exact settles_lit_fail hB
  have h₂ : s.Settles ⟨.items secretFlags (wordItems (codes "Bearer")) ::
      .items secretFlags [.rep 1 maxRepeat .greedy [blankItem]] :: rest, x, c⟩ 1 none := by
    rw [codes_bearer]
    exact settles_lit_fail hB
  exact (settles_either h₁ h₂).mono (by omega)

theorem namedKeyLen_le {w : List Nat} {u : List Char} {k : Nat} (h : namedKeyLen w u = some k) :
    k ≤ u.length := by
  obtain ⟨a, q, s, e, s₂, q₂, t, rfl, -, -, -, -, -, -, -, rfl⟩ := namedKeyLen_layout h
  simp
  omega

/-- The name `Authorization`, a separator and a scheme. -/
theorem authorizationKey_reads :
    KeyReads (wordItems (codes "Authorization") ++ separatorItems ++ schemeItems)
      authorizationKeyLen where
  found hrest hkey hK := by
    obtain ⟨k₁, hk₁, hsch⟩ := Option.bind_eq_some_iff.1 hkey
    obtain ⟨n, hn, rfl⟩ := Option.map_eq_some_iff.1 hsch
    rw [← drop_add] at hn
    have hscheme := settles_scheme hrest hn (by rwa [Nat.add_assoc])
    exact (settles_namedKey scheme_fails hk₁ hscheme).mono (by omega)
  missing {s q rest c} hkey := by
    rw [authorizationKeyLen, Option.bind_eq_none_iff] at hkey
    cases hk₁ : namedKeyLen (codes "Authorization") (s.chars.toList.drop q) with
    | none => exact (settles_namedKey_fail (by decide) hk₁).mono (by omega)
    | some k₁ =>
      have hn := hkey k₁ hk₁
      rw [Option.map_eq_none_iff, ← drop_add] at hn
      have hle := namedKeyLen_le hk₁
      simp only [List.length_drop, Array.length_toList] at hle
      exact (settles_namedKey scheme_fails hk₁ (settles_scheme_fail hn)).mono (by omega)

/-! ## Whole attempts -/

theorem Secret.keyLen_le (S : Secret) {u : List Char} {k : Nat} (h : S.keyLen u = some k) :
    k ≤ u.length := by
  obtain ⟨a, q, s, e, r, t, rfl, rfl, -⟩ := S.keyLayout h
  simp
  omega

/-- The match of a secret's pattern at `p` whose key and value have the
lengths `h`: the key is group 1 and the value group 2. -/
def secretMatch (p : Nat) (h : Nat × Nat) : Match :=
  ⟨p, p + h.1 + h.2, #[some (p, p + h.1 + h.2), some (p, p + h.1), some (p + h.1, p + h.1 + h.2)]⟩

/-- The machine started on a secret's pattern at `p` settles as `Secret.hit`
says, within the steps an attempt is given. -/
theorem settles_secretRegex {key : List Item} {stops : List Member} {S : Secret}
    (hkey : KeyReads key S.keyLen)
    (hstops : ∀ d : Char, secretMode.acceptsSet true stops d.toNat = S.isValue d) (p : Nat) :
    s.Settles ⟨[.items secretFlags [.group (some 1) 0 0 key, valueGroup stops]], p,
        Array.replicate 3 none⟩ (attemptFuel s.chars.size)
      ((S.hit (s.chars.toList.drop p)).map fun h =>
        ⟨[], p + h.1 + h.2, ((Array.replicate 3 none).setIfInBounds 1 (some (p, p + h.1))).setIfInBounds 2
          (some (p + h.1, p + h.1 + h.2))⟩) := by
  unfold Secret.hit
  cases hk : S.keyLen (s.chars.toList.drop p) with
  | none =>
    exact (settles_group (hkey.missing hk)).mono (by unfold attemptFuel; omega)
  | some k =>
    have hle := S.keyLen_le hk
    simp only [List.length_drop, Array.length_toList] at hle
    simp only [Option.bind_some]
    rw [← drop_add]
    have hL := runLen_stops (s := s) hstops (p + k)
    have hLle : runLen S.isValue (s.chars.toList.drop (p + k)) ≤ s.chars.size - (p + k) :=
      runLen_le_size (p + k)
    by_cases hpos : 0 < runLen S.isValue (s.chars.toList.drop (p + k))
    · -- a value follows the key: it is taken whole
      simp only [if_pos hpos, Option.map_some]
      exact (settles_group (hkey.found (afterKey_fails hstops) hk
        (settles_afterKey hL hpos))).mono (by unfold attemptFuel; omega)
    · simp only [if_neg hpos, Option.map_none]
      exact (settles_group (hkey.found (afterKey_fails hstops) hk
        (settles_afterKey_fail (hL.trans (by omega))))).mono (by unfold attemptFuel; omega)

/-- A secret's pattern matches at `p` exactly when `Secret.hit` finds a key
and a value there; the match spans both, with the key as group 1 and the
value as group 2. -/
theorem matchAt_secretRegex {key : List Item} {stops : List Member} {width : Nat} {S : Secret}
    (hkey : KeyReads key S.keyLen)
    (hstops : ∀ d : Char, secretMode.acceptsSet true stops d.toNat = S.isValue d)
    (chars : Array Char) (p : Nat) :
    (secretRegex key stops width).matchAt chars p false =
      (S.hit (chars.toList.drop p)).map (secretMatch p) := by
  have hrun := run_of_settles (settles_secretRegex (s := ⟨chars, (secretRegex key stops width).widths⟩)
    hkey hstops p) (Nat.le_refl _)
  simp only [Regex.matchAt, Bool.false_eq_true, if_false, List.append_nil]
  rw [show (secretRegex key stops width).groupCount = 3 from rfl]
  rw [show (secretRegex key stops width).flags = secretFlags from rfl,
    show (secretRegex key stops width).items = [.group (some 1) 0 0 key, valueGroup stops] from rfl] at *
  rw [hrun]
  cases S.hit (chars.toList.drop p) with
  | none => rfl
  | some h => rfl

theorem sessionRegex_matchAt (chars : Array Char) (p : Nat) :
    sessionRegex.matchAt chars p false = (session.hit (chars.toList.drop p)).map (secretMatch p) :=
  matchAt_secretRegex (namedKey_reads (by decide)) acceptsSet_valueStops chars p

theorem authorizationRegex_matchAt (chars : Array Char) (p : Nat) :
    authorizationRegex.matchAt chars p false =
      (authorization.hit (chars.toList.drop p)).map (secretMatch p) :=
  matchAt_secretRegex authorizationKey_reads acceptsSet_credentialStops chars p

theorem passwordRegex_matchAt (chars : Array Char) (p : Nat) :
    passwordRegex.matchAt chars p false = (password.hit (chars.toList.drop p)).map (secretMatch p) :=
  matchAt_secretRegex (namedKey_reads (by decide)) acceptsSet_valueStops chars p

theorem tokenRegex_matchAt (chars : Array Char) (p : Nat) :
    tokenRegex.matchAt chars p false = (token.hit (chars.toList.drop p)).map (secretMatch p) :=
  matchAt_secretRegex tokenKey_reads acceptsSet_valueStops chars p

end ImageCatalog.Redact
