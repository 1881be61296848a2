import ImageCatalog.Fault

/-!
# Running platform operations

Equations for the outcome and the final state of a platform operation
(`ExceptT Fault (StateM τ)`) run from a state, one for each operation of the
monad, so that proofs about an operation follow its `do` block without
unfolding the monad.
-/

namespace ImageCatalog

variable {τ α β : Type}

theorem run_pure (a : α) (st : τ) :
    (pure a : ExceptT Fault (StateM τ) α).run.run st = (.ok a, st) := rfl

theorem run_throw (e : Fault) (st : τ) :
    (throw e : ExceptT Fault (StateM τ) α).run.run st = (.error e, st) := rfl

theorem run_bind (x : ExceptT Fault (StateM τ) α) (f : α → ExceptT Fault (StateM τ) β) (st : τ) :
    (x >>= f).run.run st = match x.run.run st with
      | (.ok a, st') => (f a).run.run st'
      | (.error e, st') => (.error e, st') := by
  simp only [ExceptT.run_bind, StateT.run_bind]
  rcases x.run.run st with ⟨r, st'⟩
  cases r <;> rfl

/-- A composed operation that succeeds ran its first step to a value, and the
rest from the state that step left. -/
theorem run_bind_ok {x : ExceptT Fault (StateM τ) α} {f : α → ExceptT Fault (StateM τ) β} {st : τ} {b : β}
    (h : ((x >>= f).run.run st).1 = .ok b) :
    ∃ a st', x.run.run st = (.ok a, st') ∧ (f a).run.run st' = (x >>= f).run.run st := by
  rw [run_bind] at h ⊢
  rcases hx : x.run.run st with ⟨r, st'⟩
  rw [hx] at h
  cases r with
  | ok a => exact ⟨a, st', rfl, rfl⟩
  | error e => cases h

theorem run_tryCatch (x : ExceptT Fault (StateM τ) α) (h : Fault → ExceptT Fault (StateM τ) α)
    (st : τ) :
    (tryCatch x h).run.run st = match x.run.run st with
      | (.ok a, st') => (.ok a, st')
      | (.error e, st') => (h e).run.run st' := by
  show (ExceptT.tryCatch x h).run.run st = _
  simp only [ExceptT.tryCatch, ExceptT.run, ExceptT.mk, StateT.run_bind]
  generalize StateT.run x st = out
  rcases out with ⟨r, st'⟩
  cases r <;> rfl

end ImageCatalog
