import ImageCatalog.Proofs.Capture.Retry
import ImageCatalog.Proofs.Remote.Deadline

/-!
# Waiting for a VM to settle

Before a capture, a VM that is pending is polled until it reports another
state: the wait reads the clock once for its deadline, then, while the VM is
pending and the deadline is not reached, sleeps one poll period and looks the
VM up again. A lookup that fails on the platform, or finds no VM, is ignored;
the deadline is not.

The wait runs on a virtual clock: `CaptureServices.Clocked S clock` says that
the services `S` read the time from `clock`, that a sleep moves it by exactly
the time slept, and that a lookup leaves it alone. `CaptureServices.stamped`
writes every lookup down with the clock reading at which it was made and the
answer it got, so that a statement about the transcript holds for every
behaviour of the workload service.

Results:

* `Settles cn n w evs r`: the lookups `evs` of a wait for VM `w` with `n` polls
  left before the deadline, with the outcome `r` each way ends with. The wait
  ends still pending only with no poll left (`Settles.expired`).
* `Connection.settleWithin_polled`: with at least as much fuel as polls left,
  every wait follows `Settles`, its `k`-th lookup is made `k + 1` periods after
  it started, and the clock ends one period later per lookup.
* `Connection.settle_polls_until_deadline`: a capture timeout `T` and a period
  `p > 0` leave `⌈T / p⌉` polls: the wait follows `Settles` with that many,
  makes no more lookups, and ends still pending only after exactly that many.
-/

namespace ImageCatalog

open ImageCatalog.Remote

variable {σ : Type}

/-! ## Lookups written down with their time -/

/-- The services `S`, with every VM lookup written down with the clock reading
at which it was made and the answer it got. -/
def CaptureServices.stamped (S : CaptureServices σ) (clock : σ → Int) :
    CaptureServices (σ × List (Int × Event)) where
  workload vmId := noteCall (fun s r => (clock s, .workload vmId r)) (S.workload vmId)
  undeploy vappId := unnoted (S.undeploy vappId)
  deploy vappId := unnoted (S.deploy vappId)
  sendCapture dataCenterId body := unnoted (S.sendCapture dataCenterId body)
  loadVapp templateId name description createdAt :=
    unnoted (S.loadVapp templateId name description createdAt)
  waitFor response := unnoted (S.waitFor response)
  publish img := unnoted (S.publish img)
  now := unnoted S.now
  sleep seconds := unnoted (S.sleep seconds)
  pollLimit := unnoted S.pollLimit

/-- Services on the virtual clock `clock`: reading the time reads it, a sleep
moves it by exactly the time slept, and a VM lookup leaves it alone. -/
structure CaptureServices.Clocked (S : CaptureServices σ) (clock : σ → Int) : Prop where
  now : ∀ s, S.now.run.run s = (.ok (clock s), s)
  sleep : ∀ d s, ((S.sleep d).run.run s).1 = .ok () ∧ clock ((S.sleep d).run.run s).2 = clock s + d
  workload : ∀ vmId s, clock ((S.workload vmId).run.run s).2 = clock s

section Stamped

variable (S : CaptureServices σ) (clock : σ → Int)

@[simp] theorem stamped_now : (S.stamped clock).now = unnoted S.now := rfl

@[simp] theorem stamped_sleep (d : Int) : (S.stamped clock).sleep d = unnoted (S.sleep d) := rfl

@[simp] theorem stamped_pollLimit : (S.stamped clock).pollLimit = unnoted S.pollLimit := rfl

@[simp] theorem stamped_workload (vmId : String) :
    (S.stamped clock).workload vmId = noteCall (fun s r => (clock s, .workload vmId r)) (S.workload vmId) := rfl

end Stamped

/-! ## The rule of the wait -/

/-- The fault of a VM still pending at the capture's deadline. -/
def Connection.stillPending (cn : Connection) (w : Workload) : Fault :=
  .cloud ("VM " ++ w.workloadId ++ " still pending after " ++ toString cn.captureTimeout ++ "s")

/-- The lookups of a wait for VM `w` to settle, with the outcome each ends
with, when `n` polls are left before the deadline. A VM that is not pending is
the outcome, with no lookup. A pending VM with no poll left is still pending.
Otherwise the VM is looked up: a VM found replaces it, no VM or a platform
fault leave it as it was, and the wait goes on with one poll less; any other
fault ends the wait. -/
inductive Settles (cn : Connection) : Nat → Workload → List Event → Except Fault Workload → Prop
  | settled {n : Nat} {w : Workload} (hw : w.state ≠ .pending) : Settles cn n w [] (.ok w)
  | expired {w : Workload} (hw : w.state = .pending) : Settles cn 0 w [] (.error (cn.stillPending w))
  | refreshed {n : Nat} {w : Workload} (w' : Workload) {rest : List Event} {r : Except Fault Workload}
      (hw : w.state = .pending) (h : Settles cn n w' rest r) :
      Settles cn (n + 1) w (.workload w.workloadId (.ok (some w')) :: rest) r
  | vanished {n : Nat} {w : Workload} {rest : List Event} {r : Except Fault Workload}
      (hw : w.state = .pending) (h : Settles cn n w rest r) :
      Settles cn (n + 1) w (.workload w.workloadId (.ok none) :: rest) r
  | ignored {n : Nat} {w : Workload} (e : Fault) {rest : List Event} {r : Except Fault Workload}
      (hw : w.state = .pending) (he : e.isCloud = true) (h : Settles cn n w rest r) :
      Settles cn (n + 1) w (.workload w.workloadId (.error e) :: rest) r
  | failed {n : Nat} {w : Workload} (e : Fault) (hw : w.state = .pending) (he : e.isCloud = false) :
      Settles cn (n + 1) w [.workload w.workloadId (.error e)] (.error e)

namespace Settles

variable {cn : Connection} {n : Nat} {w : Workload} {evs : List Event} {r : Except Fault Workload}

/-- A wait makes at most as many lookups as it has polls left. -/
theorem length_le (h : Settles cn n w evs r) : evs.length ≤ n := by
  induction h with
  | settled | expired | failed => simp
  | refreshed _ _ _ ih | vanished _ _ ih | ignored _ _ _ _ ih =>
    simp only [List.length_cons]
    omega

/-- A wait that ends still pending has used every poll it had. -/
theorem length_of_stillPending (h : Settles cn n w evs r) {w' : Workload}
    (hr : r = .error (cn.stillPending w')) : evs.length = n := by
  induction h with
  | settled => cases hr
  | expired => rfl
  | refreshed _ _ _ ih | vanished _ _ ih | ignored _ _ _ _ ih => simp only [List.length_cons, ih hr]
  | failed e hw he =>
    -- the only fault that ends a wait early does not come from the platform
    cases hr
    simp [Connection.stillPending, Fault.isCloud] at he

/-- A VM that is not pending is the outcome at once, without a lookup. -/
theorem of_not_pending (h : Settles cn n w evs r) (hw : w.state ≠ .pending) : evs = [] ∧ r = .ok w := by
  cases h with
  | settled => exact ⟨rfl, rfl⟩
  | expired hp | refreshed _ hp _ | vanished hp _ | ignored _ hp _ _ | failed _ hp _ => exact absurd hp hw

/-- The lookups of a wait send no capture request. -/
theorem not_send (h : Settles cn n w evs r) : ∀ ev ∈ evs, ev.isSend = false := by
  induction h with
  | settled | expired => simp
  | failed => simp [Event.isSend]
  | refreshed _ _ _ ih | vanished _ _ ih | ignored _ _ _ _ ih =>
    intro ev hev
    rcases List.mem_cons.mp hev with rfl | hev
    · rfl
    · exact ih ev hev

end Settles

/-! ## One poll, then the whole wait -/

namespace Connection

section Steps

variable (cn : Connection) {S : CaptureServices σ} {clock : σ → Int} (deadline : Int)

theorem settleWithin_settled (fuel : Nat) {w : Workload} (hw : w.state ≠ .pending) (s : σ)
    (log : List (Int × Event)) :
    (cn.settleWithin (S.stamped clock) deadline fuel w).run.run (s, log) = (.ok w, (s, log)) := by
  rw [settleWithin.eq_def]
  dsimp only
  rw [VmState.bne_eq, decide_eq_false hw]
  rfl

theorem settleWithin_expired (hS : S.Clocked clock) (fuel : Nat) {w : Workload} (hw : w.state = .pending)
    {s : σ} (hs : deadline ≤ clock s) (log : List (Int × Event)) :
    (cn.settleWithin (S.stamped clock) deadline fuel w).run.run (s, log) =
      (.error (cn.stillPending w), (s, log)) := by
  rw [settleWithin.eq_def]
  dsimp only
  rw [VmState.bne_eq, decide_eq_true hw]
  simp only [Bool.not_true, Bool.false_eq_true, if_false]
  rw [run_bind, stamped_now, run_unnoted, hS.now]
  dsimp only
  rw [if_pos hs]
  rfl

/-- A pending VM before the deadline: the wait sleeps one period, looks the VM
up, writes the lookup down, and goes on from what the lookup answered. -/
theorem settleWithin_poll (hS : S.Clocked clock) (fuel : Nat) {w : Workload} (hw : w.state = .pending)
    {s : σ} (hs : clock s < deadline) (log : List (Int × Event)) :
    (cn.settleWithin (S.stamped clock) deadline (fuel + 1) w).run.run (s, log) =
      let s1 := ((S.sleep cn.capturePoll).run.run s).2
      let r := (S.workload w.workloadId).run.run s1
      let log' := log ++ [(clock s1, .workload w.workloadId r.1)]
      match r.1 with
      | .ok found => (cn.settleWithin (S.stamped clock) deadline fuel (found.getD w)).run.run (r.2, log')
      | .error e => if e.isCloud then (cn.settleWithin (S.stamped clock) deadline fuel w).run.run (r.2, log')
          else (.error e, (r.2, log')) := by
  rw [settleWithin.eq_def]
  dsimp only
  rw [VmState.bne_eq, decide_eq_true hw]
  simp only [Bool.not_true, Bool.false_eq_true, if_false]
  rw [run_bind, stamped_now, run_unnoted, hS.now]
  dsimp only
  rw [if_neg (not_le.mpr hs)]
  rw [run_bind, stamped_sleep, run_unnoted, (hS.sleep _ _).1]
  dsimp only
  rw [run_bind, run_tryCatch, run_bind, stamped_workload, run_noteCall]
  -- the answer of the lookup decides the rest
  generalize (S.workload w.workloadId).run.run ((S.sleep cn.capturePoll).run.run s).2 = out
  rcases out with ⟨r, s2⟩
  cases r with
  | ok found => cases found <;> rfl
  | error e =>
    dsimp only
    cases e.isCloud <;> rfl

end Steps

/-- The outcome and transcript `out` of a wait for VM `w`, started at clock `t`
with transcript `log` and `n` polls left before the deadline: the lookups it
wrote down follow `Settles`, the `k`-th was made `k + 1` periods after `t`,
and the clock ends one period later for each lookup. -/
def Polled (cn : Connection) (clock : σ → Int) (n : Nat) (w : Workload) (t : Int)
    (log : List (Int × Event)) (out : Except Fault Workload × (σ × List (Int × Event))) : Prop :=
  ∃ polls, out.2.2 = log ++ polls ∧ Settles cn n w (polls.map Prod.snd) out.1 ∧
    polls.map Prod.fst = (List.range polls.length).map (fun k : Nat => t + (k + 1) * cn.capturePoll) ∧
    clock out.2.1 = t + polls.length * cn.capturePoll

/-- A poll one period after `t`, followed by polls one period apart from there,
are polls one period apart from `t`. -/
theorem poll_times (t p : Int) (rest : List Int)
    (h : rest = (List.range rest.length).map (fun k : Nat => t + p + (k + 1) * p)) :
    (t + p) :: rest = (List.range (rest.length + 1)).map (fun k : Nat => t + (k + 1) * p) := by
  rw [List.range_succ_eq_map, List.map_cons, List.map_map, h, List.length_map, List.length_range]
  congr 1
  · ring
  · refine List.map_congr_left fun k _ => ?_
    simp only [Function.comp_apply, Nat.cast_succ]
    ring

/-- A lookup one period after `t`, answered with `ev`, followed by a wait from
there, is a wait from `t` with one poll more. -/
theorem Polled.poll {cn : Connection} {clock : σ → Int} {m : Nat} {w w' : Workload} {t : Int}
    {log : List (Int × Event)} {ev : Event} {out : Except Fault Workload × (σ × List (Int × Event))}
    (h : cn.Polled clock m w' (t + cn.capturePoll) (log ++ [(t + cn.capturePoll, ev)]) out)
    (hstep : ∀ rest r, Settles cn m w' rest r → Settles cn (m + 1) w (ev :: rest) r) :
    cn.Polled clock (m + 1) w t log out := by
  obtain ⟨polls, hlog, hset, htimes, hclock⟩ := h
  refine ⟨(t + cn.capturePoll, ev) :: polls, by simp [hlog], hstep _ _ hset, ?_, ?_⟩
  · have hcons := poll_times t cn.capturePoll (polls.map Prod.fst) (by rw [List.length_map]; exact htimes)
    rw [List.length_map] at hcons
    rw [List.map_cons, List.length_cons]
    exact hcons
  · rw [hclock, List.length_cons]
    push_cast
    ring

section Runs

variable (cn : Connection) {S : CaptureServices σ} {clock : σ → Int} (deadline : Int)

/-- A VM that is no longer pending, or a deadline already reached, ends the
wait before any poll. -/
theorem settleWithin_stops (hS : S.Clocked clock) (hp : 0 < cn.capturePoll) (fuel : Nat) {n : Nat}
    {w : Workload} {s : σ} (log : List (Int × Event))
    (hn : pollsUntil cn.capturePoll (deadline - clock s) = n)
    (hstop : w.state ≠ .pending ∨ deadline ≤ clock s) :
    cn.Polled clock n w (clock s) log ((cn.settleWithin (S.stamped clock) deadline fuel w).run.run (s, log)) := by
  by_cases hw : w.state = .pending
  · have hs : deadline ≤ clock s := hstop.resolve_left (not_not.mpr hw)
    have hzero : n = 0 := hn ▸ (pollsUntil_eq_zero_iff hp _).mpr (by omega)
    subst hzero
    rw [settleWithin_expired cn deadline hS fuel hw hs]
    exact ⟨[], by simp, .expired hw, rfl, by simp⟩
  · rw [settleWithin_settled cn deadline fuel hw]
    exact ⟨[], by simp, .settled hw, rfl, by simp⟩

/-- The wait, with at least as much fuel as polls left before the deadline,
follows `Settles`: its fuel never ends it, its deadline does. -/
theorem settleWithin_polled (hS : S.Clocked clock) (hp : 0 < cn.capturePoll) (fuel : Nat) :
    ∀ (n : Nat) (w : Workload) (s : σ) (log : List (Int × Event)),
      pollsUntil cn.capturePoll (deadline - clock s) = n → n ≤ fuel →
      cn.Polled clock n w (clock s) log ((cn.settleWithin (S.stamped clock) deadline fuel w).run.run (s, log)) := by
  induction fuel with
  | zero =>
    intro n w s log hn hfuel
    have hzero : n = 0 := by omega
    subst hzero
    have hs : deadline - clock s ≤ 0 := (pollsUntil_eq_zero_iff hp _).mp hn
    exact settleWithin_stops cn deadline hS hp 0 log hn (.inr (by omega))
  | succ fuel ih =>
    intro n w s log hn hfuel
    by_cases hstop : w.state ≠ .pending ∨ deadline ≤ clock s
    · exact settleWithin_stops cn deadline hS hp _ log hn hstop
    obtain ⟨hw, hs⟩ : w.state = .pending ∧ clock s < deadline := by
      simp only [not_or, not_not, not_le] at hstop
      exact hstop
    -- a poll is left: the wait sleeps one period and looks the VM up
    obtain ⟨m, rfl⟩ : ∃ m, n = m + 1 :=
      ⟨n - 1, by have := (pollsUntil_eq_zero_iff hp (deadline - clock s)).not.mpr (by omega); omega⟩
    rw [settleWithin_poll cn deadline hS fuel hw hs]
    dsimp only
    have hsleep := (hS.sleep cn.capturePoll s).2
    generalize ((S.sleep cn.capturePoll).run.run s).2 = s1 at hsleep ⊢
    have hlook := hS.workload w.workloadId s1
    generalize (S.workload w.workloadId).run.run s1 = out at hlook ⊢
    rcases out with ⟨r, s2⟩
    dsimp only at hlook ⊢
    have hleft : pollsUntil cn.capturePoll (deadline - clock s2) = m := by
      rw [hlook, hsleep, show deadline - (clock s + cn.capturePoll) = deadline - clock s - cn.capturePoll by ring]
      exact pollsUntil_sub hp hn
    -- the rest of the wait runs from the state the lookup left, one period later
    have hrest : ∀ w', cn.Polled clock m w' (clock s2) (log ++ [(clock s1, .workload w.workloadId r)])
        ((cn.settleWithin (S.stamped clock) deadline fuel w').run.run
          (s2, log ++ [(clock s1, .workload w.workloadId r)])) :=
      fun w' => ih m w' s2 _ hleft (by omega)
    simp only [hlook, hsleep] at hrest ⊢
    cases r with
    | ok found =>
      cases found with
      | none => exact (hrest w).poll (fun _ _ h => .vanished hw h)
      | some w' => exact (hrest w').poll (fun _ _ h => .refreshed w' hw h)
    | error e =>
      dsimp only
      cases he : e.isCloud with
      | true =>
        rw [if_pos rfl]
        exact (hrest w).poll (fun _ _ h => .ignored e hw he h)
      | false =>
        -- a fault that does not come from the platform ends the wait
        rw [if_neg Bool.false_ne_true]
        refine ⟨[(clock s + cn.capturePoll, .workload w.workloadId (.error e))], rfl, .failed e hw he,
          by simp, ?_⟩
        simp [hlook, hsleep]

end Runs

/-! ## The wait of a connection -/

/-- The services of a connection with the workload service `W` in place of its
own. -/
def withWorkloads (cn : Connection) (W : String → Session (Option Workload)) : CaptureServices World :=
  { cn.services with workload := W }

/-- The clock of the world is the virtual clock of a connection's services,
whatever workload service keeps it. -/
theorem withWorkloads_clocked (cn : Connection) {W : String → Session (Option Workload)}
    (hW : ∀ vmId w, ((W vmId).run.run w).2.clock = w.clock) : (cn.withWorkloads W).Clocked World.clock where
  now _ := rfl
  sleep _ _ := ⟨rfl, rfl⟩
  workload := hW

/-- For every workload service that leaves the clock alone, a positive poll
period `p` and a capture timeout `T`, the wait for a VM follows `Settles` with
`⌈T / p⌉` polls left: the `k`-th lookup is made `k + 1` periods after the wait
started, the clock ends one period later per lookup, a VM that is not pending
is returned without a lookup, there are at most `⌈T / p⌉` lookups, and a wait
that ends still pending made exactly that many. -/
theorem settle_polls_until_deadline (cn : Connection) (W : String → Session (Option Workload))
    (hW : ∀ vmId w, ((W vmId).run.run w).2.clock = w.clock) (hp : 0 < cn.capturePoll)
    (w : Workload) (world : World) (log : List (Int × Event)) :
    let out := (cn.settle ((cn.withWorkloads W).stamped World.clock) w).run.run (world, log)
    let n := pollsUntil cn.capturePoll cn.captureTimeout
    ∃ polls, out.2.2 = log ++ polls ∧ Settles cn n w (polls.map Prod.snd) out.1 ∧
      polls.map Prod.fst =
        (List.range polls.length).map (fun k : Nat => world.clock + (k + 1) * cn.capturePoll) ∧
      out.2.1.clock = world.clock + polls.length * cn.capturePoll ∧
      (w.state ≠ .pending → polls = [] ∧ out.1 = .ok w) ∧ polls.length ≤ n ∧
      ∀ w', out.1 = .error (cn.stillPending w') → polls.length = n := by
  intro out n
  -- the deadline and the poll budget are read once, and neither read changes the world
  have hout : out = (cn.settleWithin ((cn.withWorkloads W).stamped World.clock) (world.clock + cn.captureTimeout)
      (Client.pollBudget cn.captureTimeout cn.capturePoll world.routes.size) w).run.run (world, log) := by
    have hnow : (cn.withWorkloads W).now.run.run world = (.ok world.clock, world) := rfl
    have hlimit : (cn.withWorkloads W).pollLimit.run.run world =
        (.ok (Client.pollBudget cn.captureTimeout cn.capturePoll world.routes.size), world) := rfl
    show (cn.settle _ w).run.run (world, log) = _
    unfold settle
    rw [run_bind, stamped_now, run_unnoted, hnow]
    dsimp only
    rw [run_bind, stamped_pollLimit, run_unnoted, hlimit]
  have hleft : pollsUntil cn.capturePoll (world.clock + cn.captureTimeout - world.clock) = n := by
    rw [add_sub_cancel_left]
  obtain ⟨polls, hlog, hset, htimes, hclock⟩ := settleWithin_polled cn _ (cn.withWorkloads_clocked hW) hp _ n w
    world log hleft (pollsUntil_le_pollBudget hp _ _)
  rw [← hout] at hlog hset hclock
  refine ⟨polls, hlog, hset, htimes, hclock, fun hw => ?_, ?_, fun w' hr => ?_⟩
  · obtain ⟨hnil, hr⟩ := hset.of_not_pending hw
    exact ⟨List.map_eq_nil_iff.mp hnil, hr⟩
  · simpa using hset.length_le
  · simpa using hset.length_of_stillPending hr

/-- A connection that gives a capture ten minutes and polls every 15 seconds. -/
def patientCapture : Connection := { (default : Connection) with captureTimeout := 600, capturePoll := 15 }

/-- A workload service under which every VM stays pending. -/
def stuckVms (vmId : String) : Session (Option Workload) :=
  pure (some { workloadId := vmId, state := .pending, parentVappId := none, dataCenterId := none })

/-- A VM that never leaves the pending state is looked up once every 15
seconds, 40 times, and is reported still pending. -/
theorem settle_polls_until_deadline_stuck :
    (∀ vmId w, ((stuckVms vmId).run.run w).2.clock = w.clock) ∧ 0 < patientCapture.capturePoll ∧
    let vm : Workload := { workloadId := "vm-1", state := .pending, parentVappId := none, dataCenterId := none }
    let out := (patientCapture.settle ((patientCapture.withWorkloads stuckVms).stamped World.clock) vm).run.run
      ({}, [])
    let n := pollsUntil patientCapture.capturePoll patientCapture.captureTimeout
    ∃ polls, out.2.2 = [] ++ polls ∧ Settles patientCapture n vm (polls.map Prod.snd) out.1 ∧
      polls.map Prod.fst =
        (List.range polls.length).map (fun k : Nat => (({} : World).clock + (k + 1) * patientCapture.capturePoll)) ∧
      out.2.1.clock = ({} : World).clock + polls.length * patientCapture.capturePoll ∧
      (vm.state ≠ .pending → polls = [] ∧ out.1 = .ok vm) ∧ polls.length ≤ n ∧
      ∀ w', out.1 = .error (patientCapture.stillPending w') → polls.length = n :=
  ⟨fun _ _ => rfl, by decide,
    settle_polls_until_deadline patientCapture stuckVms (fun _ _ => rfl) (by decide) _ {} []⟩

end Connection

end ImageCatalog
