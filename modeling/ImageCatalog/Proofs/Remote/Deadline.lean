import Mathlib.Data.Rat.Floor
import ImageCatalog.Remote.Client

/-!
# Polls before a deadline

A wait that checks a deadline, sleeps `p` seconds and polls, with `d` seconds
left before the deadline, polls as often as the deadline lets it:

* `pollsUntil p d = ⌈d / p⌉` times when it stops as soon as the deadline is
  reached (the clock at or past it), as the wait for a VM to settle does;
* `pollsBefore p d = ⌊d / p⌋ + 1` times when it stops only once the deadline
  is passed (the clock beyond it), as the wait for a task does.

Both are `0` exactly when the wait stops before its first poll, and both go
down by one with each sleep of `p` seconds (`pollsUntil_sub`,
`pollsBefore_sub`). The poll budget that bounds the loops of the library
covers both counts (`pollsUntil_le_pollBudget`, `pollsBefore_le_pollBudget`),
so the budget never ends a wait whose period is positive: the deadline does.
-/

namespace ImageCatalog.Remote

/-- The polls of a wait that stops once the deadline is reached: `⌈d / p⌉`,
or none when the deadline is already reached. -/
def pollsUntil (p d : Int) : Nat := ⌈(d : ℚ) / p⌉.toNat

/-- The polls of a wait that stops once the deadline is passed:
`⌊d / p⌋ + 1`, or none when the deadline is already passed. -/
def pollsBefore (p d : Int) : Nat := (⌊(d : ℚ) / p⌋ + 1).toNat

variable {p : Int}

theorem ceil_div_nonpos_iff (hp : 0 < p) (d : Int) : ⌈(d : ℚ) / p⌉ ≤ 0 ↔ d ≤ 0 := by
  have hpq : (0 : ℚ) < p := by exact_mod_cast hp
  rw [Int.ceil_le, Int.cast_zero, div_nonpos_iff]
  constructor
  · rintro (⟨_, h⟩ | ⟨h, _⟩)
    · linarith
    · exact_mod_cast h
  · intro h
    exact .inr ⟨by exact_mod_cast h, hpq.le⟩

theorem floor_div_neg_iff (hp : 0 < p) (d : Int) : ⌊(d : ℚ) / p⌋ < 0 ↔ d < 0 := by
  have hpq : (0 : ℚ) < p := by exact_mod_cast hp
  rw [Int.floor_lt, Int.cast_zero, div_neg_iff]
  constructor
  · rintro (⟨_, h⟩ | ⟨h, _⟩)
    · linarith
    · exact_mod_cast h
  · intro h
    exact .inr ⟨by exact_mod_cast h, hpq⟩

/-- One period less to wait is one period less of the quotient. -/
theorem sub_period_div (hp : 0 < p) (d : Int) : ((d - p : Int) : ℚ) / p = (d : ℚ) / p - 1 := by
  have hpq : (p : ℚ) ≠ 0 := by exact_mod_cast hp.ne'
  push_cast
  field_simp

/-- Rounding down the quotient of two integers is integer division. -/
theorem floor_div_eq_ediv (hp : 0 < p) (d : Int) : ⌊(d : ℚ) / p⌋ = d / p := by
  obtain ⟨k, rfl⟩ := Int.eq_ofNat_of_zero_le hp.le
  exact_mod_cast Rat.floor_intCast_div_natCast d k

theorem pollsUntil_eq_zero_iff (hp : 0 < p) (d : Int) : pollsUntil p d = 0 ↔ d ≤ 0 := by
  rw [pollsUntil, Int.toNat_eq_zero, ceil_div_nonpos_iff hp]

theorem pollsUntil_sub (hp : 0 < p) {d : Int} {n : Nat} (h : pollsUntil p d = n + 1) :
    pollsUntil p (d - p) = n := by
  unfold pollsUntil at h ⊢
  rw [sub_period_div hp, Int.ceil_sub_one]
  omega

theorem pollsBefore_eq_zero_iff (hp : 0 < p) (d : Int) : pollsBefore p d = 0 ↔ d < 0 := by
  rw [pollsBefore, Int.toNat_eq_zero, ← floor_div_neg_iff hp]
  omega

theorem pollsBefore_sub (hp : 0 < p) {d : Int} {n : Nat} (h : pollsBefore p d = n + 1) :
    pollsBefore p (d - p) = n := by
  unfold pollsBefore at h ⊢
  rw [sub_period_div hp, Int.floor_sub_one]
  omega

/-- The poll budget of a wait covers the polls before its deadline is reached. -/
theorem pollsUntil_le_pollBudget (hp : 0 < p) (span : Int) (changes : Nat) :
    pollsUntil p span ≤ Client.pollBudget span p changes := by
  have hceil := Int.ceil_le_floor_add_one ((span : ℚ) / p)
  rw [floor_div_eq_ediv hp] at hceil
  rw [pollsUntil, Client.pollBudget, if_pos hp]
  omega

/-- The poll budget of a wait covers the polls before its deadline is passed. -/
theorem pollsBefore_le_pollBudget (hp : 0 < p) (span : Int) (changes : Nat) :
    pollsBefore p span ≤ Client.pollBudget span p changes := by
  rw [pollsBefore, floor_div_eq_ediv hp, Client.pollBudget, if_pos hp]
  omega

end ImageCatalog.Remote
