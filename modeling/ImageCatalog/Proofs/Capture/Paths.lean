import ImageCatalog.Proofs.Capture.Settle

/-!
# The ways a capture goes

A capture makes some eight steps that can each fail, between an undeploy and
the deploy that must follow it. This module names every way it can go, as
relations between the calls it records, the stages it reaches and its
outcome, one for each function of the capture:

* `Publishes`: the template named in an accepted reply is loaded, its task
  waited for, and it is published;
* `Readies`: the ready stage, the VM's data center, the capture request
  (`Sends`) and the publication;
* `ReadiesAfter`: the same, after the undeploy of a running VM's vApp;
* `Redeploys`: the deploy that ends the capture of a running VM;
* `CapturesFound` and `Captures`: the wait for the VM to settle (`Settles`),
  and before it the lookup of the VM and of its vApp.

For services whose clock and poll limit always answer
(`CaptureServices.Steady`), every capture goes one of these ways, whatever
the other services answer (`Connection.captureWith_captures`). Each relation
is the run lemma of one function, proved from the run lemmas of the functions
it calls.
-/

namespace ImageCatalog

open ImageCatalog.Xml ImageCatalog.Remote

variable {σ α : Type}

/-- The stages of a capture that nothing stopped, before the vApp is deployed
again. -/
def captureStages : List CaptureState := [.awaitingReady, .ready, .capturing, .captured, .published]

/-- A platform operation that can answer `a`: from some state it returns `a`. -/
def Answers (x : ExceptT Fault (StateM σ) α) (a : α) : Prop := ∃ st st', x.run.run st = (.ok a, st')

/-- Services whose clock and poll limit always answer: reading the clock,
sleeping and asking for the poll limit never fail. -/
structure CaptureServices.Steady (S : CaptureServices σ) : Prop where
  now : ∀ s, ∃ t s', S.now.run.run s = (.ok t, s')
  sleep : ∀ d s, ∃ s', (S.sleep d).run.run s = (.ok (), s')
  pollLimit : ∀ s, ∃ n s', S.pollLimit.run.run s = (.ok n, s')

namespace CaptureServices.Steady

variable {S : CaptureServices σ} (hS : S.Steady) (s : σ) (log : List Event)
include hS

/-- Recorded, the clock still answers, and it writes nothing down. -/
theorem recorded_now : ∃ t s', S.recorded.now.run.run (s, log) = (.ok t, (s', log)) :=
  let ⟨t, s', h⟩ := hS.now s
  ⟨t, s', (congrArg (fun r : Except Fault Int × σ => (r.1, (r.2, log))) h :)⟩

theorem recorded_sleep (d : Int) : ∃ s', (S.recorded.sleep d).run.run (s, log) = (.ok (), (s', log)) :=
  let ⟨s', h⟩ := hS.sleep d s
  ⟨s', (congrArg (fun r : Except Fault Unit × σ => (r.1, (r.2, log))) h :)⟩

theorem recorded_pollLimit : ∃ n s', S.recorded.pollLimit.run.run (s, log) = (.ok n, (s', log)) :=
  let ⟨n, s', h⟩ := hS.pollLimit s
  ⟨n, s', (congrArg (fun r : Except Fault Nat × σ => (r.1, (r.2, log))) h :)⟩

end CaptureServices.Steady

/-! ## The ways a capture goes -/

section Paths

variable (cn : Connection) (S : CaptureServices σ) (o : CaptureOptions)

/-- How the publication of a captured template goes, once the capture request
was accepted with `response`, read as `root`: with the calls it makes, the
stages it reaches and its outcome. The template's id is read from the reply;
the template is loaded, its task waited for (the captured stage), and it is
published (the published stage). The first step that fails ends it. -/
inductive Publishes (response : String) (root : Element) :
    List Event → List CaptureState → Except Fault Image → Prop
  | noTemplateId {e : Fault} (h : cn.capturedTemplateId root = .error e) : Publishes response root [] [] (.error e)
  | loadFailed {tid : String} {e : Fault} (h : cn.capturedTemplateId root = .ok tid) :
      Publishes response root [.loadVapp tid (.error e)] [] (.error e)
  | lost {tid : String} (h : cn.capturedTemplateId root = .ok tid) :
      Publishes response root [.loadVapp tid (.ok none)] []
        (.error (.cloud ("Captured vApp template " ++ tid ++ " was lost")))
  | waitFailed {tid : String} {img : Image} {e : Fault} (h : cn.capturedTemplateId root = .ok tid) :
      Publishes response root [.loadVapp tid (.ok (some img)), .waitFor response (.error e)] [] (.error e)
  | publishFailed {tid : String} {img : Image} {e : Fault} (h : cn.capturedTemplateId root = .ok tid) :
      Publishes response root
        [.loadVapp tid (.ok (some img)), .waitFor response (.ok ()), .publish img.imageId (.error e)]
        [.captured] (.error e)
  | published {tid : String} {img img' : Image} (h : cn.capturedTemplateId root = .ok tid)
      (hload : ∃ t, Answers (S.loadVapp tid o.name o.effectiveDescription t) (some img))
      (hpub : Answers (S.publish img) img') :
      Publishes response root
        [.loadVapp tid (.ok (some img)), .waitFor response (.ok ()), .publish img.imageId (.ok img')]
        [.captured, .published] (.ok img')

/-- How a capture goes from a settled VM `w` whose vApp `vappId` is ready: the
ready stage; the VM's data center, without which it stops; the capturing
stage and the request step (`Sends`); and, once the request is accepted, the
publication. -/
inductive Readies (vappId : String) (w : Workload) : List Event → List CaptureState → Except Fault Image → Prop
  | noDataCenter (h : w.dataCenterId = none) :
      Readies vappId w [] [.ready] (.error (.cloud ("Unable to determine the VDC of vApp " ++ vappId)))
  | refused {d : String} {sends : List Event} {e : Fault} (h : w.dataCenterId = some d)
      (hs : Sends o.vmId vappId d (cn.captureRequest o vappId) sends (.error e)) :
      Readies vappId w sends [.ready, .capturing] (.error e)
  | accepted {d : String} {sends : List Event} {response : String} {root : Element} {evs : List Event}
      {sts : List CaptureState} {r : Except Fault Image} (h : w.dataCenterId = some d)
      (hs : Sends o.vmId vappId d (cn.captureRequest o vappId) sends (.ok (response, root)))
      (hp : Publishes cn S o response root evs sts r) :
      Readies vappId w (sends ++ evs) (.ready :: .capturing :: sts) r

/-- How a capture goes from a settled VM `w` of vApp `vappId`, when `running`
tells whether it must be undeployed first: an undeploy that fails ends it
before the ready stage. -/
inductive ReadiesAfter (vappId : String) (w : Workload) :
    Bool → List Event → List CaptureState → Except Fault Image → Prop
  | stopped {evs : List Event} {sts : List CaptureState} {r : Except Fault Image}
      (h : Readies cn S o vappId w evs sts r) : ReadiesAfter vappId w false evs sts r
  | undeployFailed (e : Fault) : ReadiesAfter vappId w true [.undeploy vappId (.error e)] [] (.error e)
  | undeployed {evs : List Event} {sts : List CaptureState} {r : Except Fault Image}
      (h : Readies cn S o vappId w evs sts r) :
      ReadiesAfter vappId w true (.undeploy vappId (.ok ()) :: evs) sts r

end Paths

/-- How the end of a capture goes from the outcome `r` of its capture step:
a vApp that was undeployed (`running`) is deployed again, and the redeployed
stage follows a deploy that returned; a failed deploy replaces the outcome. -/
inductive Redeploys (vappId : String) : Bool → Except Fault Image → List Event → List CaptureState →
    Except Fault Image → Prop
  | kept {r : Except Fault Image} : Redeploys vappId false r [] [] r
  | redeployed {r : Except Fault Image} : Redeploys vappId true r [.deploy vappId (.ok ())] [.redeployed] r
  | deployFailed {r : Except Fault Image} (d : Fault) :
      Redeploys vappId true r [.deploy vappId (.error d)] [] (.error d)

section Paths

variable (cn : Connection) (S : CaptureServices σ) (o : CaptureOptions)

/-- How a capture goes once VM `w` is found in vApp `vappId`, indexed by the VM
it settled in, if it did: the awaiting stage, the wait (`Settles`, with some
number of polls), the capture step from the settled VM, undeployed first when
it is not stopped, and the end, which deploys the vApp again in that case. -/
inductive CapturesFound (vappId : String) (w : Workload) :
    Option Workload → List Event → List CaptureState → Except Fault Image → Prop
  | unsettled {n : Nat} {polls : List Event} {e : Fault} (h : Settles cn n w polls (.error e)) :
      CapturesFound vappId w none polls [.awaitingReady] (.error e)
  | settled {n : Nat} {polls : List Event} {w' : Workload} {evs : List Event} {sts : List CaptureState}
      {r : Except Fault Image} {tail : List Event} {fin : List CaptureState} {r' : Except Fault Image}
      (h : Settles cn n w polls (.ok w'))
      (hc : ReadiesAfter cn S o vappId w' (w'.state != .stopped) evs sts r)
      (hd : Redeploys vappId (w'.state != .stopped) r tail fin r') :
      CapturesFound vappId w (some w') (polls ++ evs ++ tail) (.awaitingReady :: (sts ++ fin)) r'

/-- How a whole capture goes, indexed by the vApp and the VM it settled in, if
it got that far: a VM id is required; the VM is looked up and must be found
in a vApp; then the capture goes as `CapturesFound` says. -/
inductive Captures : Option (String × Workload) → List Event → List CaptureState → Except Fault Image → Prop
  | noVmId (h : o.vmId.isEmpty = true) :
      Captures none [] [] (.error (.cloud "A capture operation requires a valid VM ID"))
  | lookupFailed (h : o.vmId.isEmpty = false) (e : Fault) :
      Captures none [.workload o.vmId (.error e)] [] (.error e)
  | noVm (h : o.vmId.isEmpty = false) :
      Captures none [.workload o.vmId (.ok none)] [] (.error (.cloud ("No such virtual machine: " ++ o.vmId)))
  | noVapp (h : o.vmId.isEmpty = false) {w : Workload} (hv : w.parentVappId = none) :
      Captures none [.workload o.vmId (.ok (some w))] []
        (.error (.cloud ("Unable to determine virtual machine vApp for capture: " ++ o.vmId)))
  | found (h : o.vmId.isEmpty = false) {w : Workload} {vappId : String} {settled : Option Workload}
      {evs : List Event} {sts : List CaptureState} {r : Except Fault Image} (hv : w.parentVappId = some vappId)
      (hf : CapturesFound cn S o vappId w settled evs sts r) :
      Captures (settled.map (vappId, ·)) (.workload o.vmId (.ok (some w)) :: evs) sts r

end Paths

/-- The outcome `out` of a capture step, started from progress `p` and
transcript `log`, went as `R` says: its calls follow the log, and its stages
those of the progress. -/
def Goes (R : List Event → List CaptureState → Except Fault α → Prop) (p : CaptureProgress) (log : List Event)
    (out : (Except Fault α × CaptureProgress) × (σ × List Event)) : Prop :=
  ∃ evs sts, out.2.2 = log ++ evs ∧ out.1.2.states = p.states ++ sts ∧ R evs sts out.1.1

namespace Connection

variable (cn : Connection) {S : CaptureServices σ} (o : CaptureOptions) (p : CaptureProgress) (s : σ)
  (log : List Event)

theorem publishCaptured_publishes (hS : S.Steady) (response : String) (root : Element) :
    Goes (Publishes cn S o response root) p log
      (runCapture (cn.publishCaptured S.recorded o response root) p (s, log)) := by
  unfold publishCaptured
  dsimp only
  cases hid : cn.capturedTemplateId root with
  | error e =>
    dsimp only
    rw [runCapture_bind, runCapture_throw]
    exact ⟨[], [], by simp, by simp, .noTemplateId hid⟩
  | ok tid =>
    dsimp only
    rw [runCapture_bind, runCapture_pure]
    dsimp only
    rw [runCapture_bind]
    obtain ⟨t, s1, hnow⟩ := hS.recorded_now s log
    rw [runCapture_onPlatform, hnow]
    dsimp only
    rw [runCapture_bind]
    rw [recorded_loadVapp, runCapture_noteCall]
    -- the load, recorded with its answer
    rcases hload : (S.loadVapp tid o.name o.effectiveDescription (t * 1000)).run.run s1 with ⟨r, s2⟩
    dsimp only
    cases r with
    | error e => exact ⟨_, [], rfl, by simp, .loadFailed hid⟩
    | ok found =>
      cases found with
      | none =>
        dsimp only
        rw [runCapture_bind, runCapture_throw]
        exact ⟨_, [], rfl, by simp, .lost hid⟩
      | some img =>
        dsimp only
        rw [runCapture_bind, runCapture_pure]
        dsimp only
        rw [runCapture_bind]
        rw [recorded_waitFor, runCapture_noteCall]
        -- the wait for the capture's task
        rcases hwait : (S.waitFor response).run.run s2 with ⟨rw, s3⟩
        dsimp only
        cases rw with
        | error e =>
          exact ⟨[.loadVapp tid (.ok (some img)), .waitFor response (.error e)], [], by simp, by simp,
            .waitFailed hid⟩
        | ok u =>
          dsimp only
          rw [runCapture_bind, runCapture_reach]
          dsimp only
          rw [runCapture_bind]
          rw [recorded_publish, runCapture_noteCall]
          -- the publication
          rcases hpub : (S.publish img).run.run s3 with ⟨rp, s4⟩
          dsimp only
          cases rp with
          | error e =>
            exact ⟨[.loadVapp tid (.ok (some img)), .waitFor response (.ok ()), .publish img.imageId (.error e)],
              [.captured], by simp, by simp, .publishFailed hid⟩
          | ok img' =>
            dsimp only
            rw [runCapture_bind, runCapture_reach]
            dsimp only
            rw [runCapture_pure]
            exact ⟨[.loadVapp tid (.ok (some img)), .waitFor response (.ok ()), .publish img.imageId (.ok img')],
              [.captured, .published], by simp, by simp,
              .published hid ⟨t * 1000, s1, s2, hload⟩ ⟨s3, s4, hpub⟩⟩

/-- Waiting for a VM to settle, with recorded services whose clock answers,
follows `Settles` for some number of polls: however the clock, the poll limit
and the lookups answer, each lookup is one poll. -/
theorem settleWithin_settles (hS : S.Steady) (deadline : Int) (fuel : Nat) :
    ∀ (w : Workload) (s : σ) (log : List Event), ∃ n polls,
      ((cn.settleWithin S.recorded deadline fuel w).run.run (s, log)).2.2 = log ++ polls ∧
      Settles cn n w polls ((cn.settleWithin S.recorded deadline fuel w).run.run (s, log)).1 := by
  induction fuel with
  | zero =>
    intro w s log
    rw [settleWithin.eq_def]
    dsimp only
    by_cases hw : w.state = .pending
    · rw [VmState.bne_eq, decide_eq_true hw]
      simp only [Bool.not_true, Bool.false_eq_true, if_false]
      obtain ⟨t, s1, hnow⟩ := hS.recorded_now s log
      rw [run_bind, hnow]
      dsimp only
      -- with no fuel left the wait ends as at its deadline
      split <;> exact ⟨0, [], by rw [List.append_nil]; rfl, .expired hw⟩
    · rw [VmState.bne_eq, decide_eq_false hw]
      exact ⟨0, [], by rw [List.append_nil]; rfl, .settled hw⟩
  | succ fuel ih =>
    intro w s log
    rw [settleWithin.eq_def]
    dsimp only
    by_cases hw : w.state = .pending
    · rw [VmState.bne_eq, decide_eq_true hw]
      simp only [Bool.not_true, Bool.false_eq_true, if_false]
      obtain ⟨t, s1, hnow⟩ := hS.recorded_now s log
      rw [run_bind, hnow]
      dsimp only
      by_cases hlate : t ≥ deadline
      · rw [if_pos hlate, run_bind, run_throw]
        exact ⟨0, [], by rw [List.append_nil], .expired hw⟩
      rw [if_neg hlate]
      obtain ⟨s2, hsleep⟩ := hS.recorded_sleep s1 log cn.capturePoll
      rw [run_bind, hsleep]
      dsimp only
      rw [run_bind, run_tryCatch, run_bind]
      rw [recorded_workload, run_noteCall]
      -- one poll: the lookup's answer decides how the wait goes on
      generalize (S.workload w.workloadId).run.run s2 = out
      rcases out with ⟨r, s3⟩
      cases r with
      | ok found =>
        cases found with
        | none =>
          dsimp only
          obtain ⟨n, polls, hlog, hset⟩ := ih w s3 (log ++ [.workload w.workloadId (.ok none)])
          exact ⟨n + 1, _ :: polls, hlog.trans (by simp), .vanished hw hset⟩
        | some w' =>
          dsimp only
          obtain ⟨n, polls, hlog, hset⟩ := ih w' s3 (log ++ [.workload w.workloadId (.ok (some w'))])
          exact ⟨n + 1, _ :: polls, hlog.trans (by simp), .refreshed w' hw hset⟩
      | error e =>
        dsimp only
        cases he : e.isCloud with
        | true =>
          obtain ⟨n, polls, hlog, hset⟩ := ih w s3 (log ++ [.workload w.workloadId (.error e)])
          exact ⟨n + 1, _ :: polls, hlog.trans (by simp), .ignored e hw he hset⟩
        | false => exact ⟨1, [_], rfl, .failed e hw he⟩
    · rw [VmState.bne_eq, decide_eq_false hw]
      exact ⟨0, [], by rw [List.append_nil]; rfl, .settled hw⟩

theorem settle_settles (hS : S.Steady) (w : Workload) :
    ∃ n polls, ((cn.settle S.recorded w).run.run (s, log)).2.2 = log ++ polls ∧
      Settles cn n w polls ((cn.settle S.recorded w).run.run (s, log)).1 := by
  obtain ⟨t, s1, hnow⟩ := hS.recorded_now s log
  obtain ⟨m, s2, hlimit⟩ := hS.recorded_pollLimit s1 log
  unfold settle
  rw [run_bind, hnow]
  dsimp only
  rw [run_bind, hlimit]
  exact settleWithin_settles cn hS _ m w s2 log

theorem captureReady_readies (hS : S.Steady) (vappId : String) (w : Workload) :
    Goes (Readies cn S o vappId w) p log (runCapture (cn.captureReady S.recorded o vappId w) p (s, log)) := by
  unfold captureReady
  rw [runCapture_bind, runCapture_reach]
  dsimp only
  cases hdc : w.dataCenterId with
  | none =>
    dsimp only
    rw [runCapture_bind, runCapture_throw]
    exact ⟨[], [.ready], by simp, by simp, .noDataCenter hdc⟩
  | some d =>
    dsimp only
    rw [runCapture_bind, runCapture_pure]
    dsimp only
    rw [runCapture_bind, runCapture_reach]
    dsimp only
    rw [runCapture_bind]
    -- the request step, from the progress that has reached the capturing stage
    obtain ⟨sends, hlog, hsends, hprog⟩ := postCapture_sends S
      { p with states := p.states ++ [.ready] ++ [.capturing] } s log o vappId d (cn.captureRequest o vappId)
    rcases hpost : runCapture (postCapture S.recorded o vappId d (cn.captureRequest o vappId))
      { p with states := p.states ++ [.ready] ++ [.capturing] } (s, log) with ⟨⟨r, p3⟩, s3, log3⟩
    rw [hpost] at hlog hsends hprog
    dsimp only at hlog hsends hprog
    subst hlog hprog
    cases r with
    | error e => exact ⟨sends, [.ready, .capturing], rfl, by simp, .refused hdc hsends⟩
    | ok v =>
      obtain ⟨response, root⟩ := v
      dsimp only
      obtain ⟨evs, sts, hlog', hsts, hpub⟩ := publishCaptured_publishes cn o _ s3 (log ++ sends) hS response root
      exact ⟨sends ++ evs, .ready :: .capturing :: sts, by rw [hlog', List.append_assoc], by rw [hsts]; simp,
        .accepted hdc hsends hpub⟩

theorem captureSettled_readiesAfter (hS : S.Steady) (vappId : String) (w : Workload) (running : Bool) :
    Goes (ReadiesAfter cn S o vappId w running) p log
      (runCapture (cn.captureSettled S.recorded o vappId w running) p (s, log)) := by
  unfold captureSettled
  cases running with
  | false =>
    obtain ⟨evs, sts, hlog, hsts, h⟩ := captureReady_readies cn o p s log hS vappId w
    exact ⟨evs, sts, hlog, hsts, .stopped h⟩
  | true =>
    simp only [if_true]
    rw [runCapture_bind]
    rw [recorded_undeploy, runCapture_noteCall]
    -- the undeploy, recorded with its answer
    rcases hu : (S.undeploy vappId).run.run s with ⟨r, s1⟩
    dsimp only
    cases r with
    | error e => exact ⟨_, [], rfl, by simp, .undeployFailed e⟩
    | ok u =>
      dsimp only
      obtain ⟨evs, sts, hlog, hsts, h⟩ :=
        captureReady_readies cn o p s1 (log ++ [.undeploy vappId (.ok u)]) hS vappId w
      exact ⟨.undeploy vappId (.ok ()) :: evs, sts, by rw [hlog]; simp, hsts, .undeployed h⟩

/-- The end of a capture, which deploys the vApp again when the VM was running
and then hands back the outcome `res` of the capture step. -/
theorem redeploy_goes (vappId : String) (running : Bool) (res : Except Fault Image)
    (finish : CaptureRunOn (σ × List Event) Image) (hres : ∀ p' st, runCapture finish p' st = ((res, p'), st)) :
    Goes (Redeploys vappId running res) p log (runCapture
      (if running then do
          onPlatform (S.recorded.deploy vappId)
          reach .redeployed
          finish
        else finish) p (s, log)) := by
  cases running with
  | false =>
    rw [if_neg Bool.false_ne_true, hres]
    exact ⟨[], [], by simp, by simp, .kept⟩
  | true =>
    rw [if_pos rfl, runCapture_bind]
    rw [recorded_deploy, runCapture_noteCall]
    rcases hd : (S.deploy vappId).run.run s with ⟨d, s1⟩
    dsimp only
    cases d with
    | error d => exact ⟨_, [], rfl, by simp, .deployFailed d⟩
    | ok u =>
      dsimp only
      rw [runCapture_bind, runCapture_reach]
      dsimp only
      rw [hres]
      exact ⟨[.deploy vappId (.ok ())], [.redeployed], rfl, rfl, .redeployed⟩

/-- A wait that settled, the capture step from the settled VM and the end of
the capture make the capture of a found VM. -/
theorem settled_goes {vappId : String} {w w' : Workload} {n : Nat} {polls evs : List Event}
    {sts : List CaptureState} {res : Except Fault Image} {p2 : CaptureProgress}
    {out : (Except Fault Image × CaptureProgress) × (σ × List Event)}
    (hset : Settles cn n w polls (.ok w')) (hc : ReadiesAfter cn S o vappId w' (w'.state != .stopped) evs sts res)
    (hsts : p2.states = p.states ++ [.awaitingReady] ++ sts)
    (hend : Goes (Redeploys vappId (w'.state != .stopped) res) p2 (log ++ polls ++ evs) out) :
    Goes (CapturesFound cn S o vappId w (some w')) p log out := by
  obtain ⟨tail, fin, hlog, hfin, hd⟩ := hend
  exact ⟨polls ++ evs ++ tail, .awaitingReady :: (sts ++ fin), by rw [hlog]; simp,
    by rw [hfin, hsts]; simp, .settled hset hc hd⟩

theorem captureFound_found (hS : S.Steady) (vappId : String) (w : Workload) :
    ∃ settled, Goes (CapturesFound cn S o vappId w settled) p log
      (runCapture (cn.captureFound S.recorded o vappId w) p (s, log)) := by
  unfold captureFound
  rw [runCapture_bind, runCapture_reach]
  dsimp only
  rw [runCapture_bind, runCapture_onPlatform]
  obtain ⟨n, polls, hlog, hset⟩ := settle_settles cn s log hS w
  rcases hrun : (cn.settle S.recorded w).run.run (s, log) with ⟨r, s1, log1⟩
  rw [hrun] at hlog hset
  dsimp only at hlog hset
  subst hlog
  cases r with
  | error e => exact ⟨none, polls, [.awaitingReady], rfl, rfl, .unsettled hset⟩
  | ok w' =>
    dsimp only
    rw [runCapture_bind, runCapture_outcome]
    -- the capture step from the settled VM, then the end of the capture
    obtain ⟨evs, sts, hlog2, hsts2, hc⟩ := captureSettled_readiesAfter cn o
      { p with states := p.states ++ [.awaitingReady] } s1 (log ++ polls) hS vappId w' (w'.state != .stopped)
    generalize runCapture (cn.captureSettled S.recorded o vappId w' (w'.state != .stopped))
      { p with states := p.states ++ [.awaitingReady] } (s1, log ++ polls) = mid at hlog2 hsts2 hc ⊢
    rcases mid with ⟨⟨res, p2⟩, s2, log2⟩
    dsimp only at hlog2 hsts2 hc ⊢
    subst hlog2
    exact ⟨some w', settled_goes cn o p log hset hc hsts2
      (redeploy_goes p2 s2 _ vappId _ res _ fun _ _ => by cases res <;> rfl)⟩

/-- Every capture, with recorded services whose clock answers, goes one of the
ways of `Captures`. -/
theorem captureWith_captures (hS : S.Steady) :
    ∃ found, Goes (Captures cn S o found) p log (runCapture (cn.captureWith S.recorded o) p (s, log)) := by
  unfold captureWith
  by_cases hvm : o.vmId.isEmpty
  · simp only [hvm, if_true]
    rw [runCapture_bind, runCapture_throw]
    exact ⟨none, [], [], by simp, by simp, .noVmId hvm⟩
  have hne : o.vmId.isEmpty = false := Bool.eq_false_iff.mpr hvm
  simp only [hne, Bool.false_eq_true, if_false]
  rw [runCapture_bind]
  rw [recorded_workload, runCapture_noteCall]
  -- the VM's lookup, recorded with its answer
  rcases hw : (S.workload o.vmId).run.run s with ⟨r, s1⟩
  dsimp only
  cases r with
  | error e => exact ⟨none, _, [], rfl, by simp, .lookupFailed hne e⟩
  | ok found =>
    cases found with
    | none =>
      dsimp only
      rw [runCapture_bind, runCapture_throw]
      exact ⟨none, _, [], rfl, by simp, .noVm hne⟩
    | some w =>
      dsimp only
      rw [runCapture_bind, runCapture_pure]
      dsimp only
      cases hv : w.parentVappId with
      | none =>
        dsimp only
        rw [runCapture_bind, runCapture_throw]
        exact ⟨none, _, [], rfl, by simp, .noVapp hne hv⟩
      | some vappId =>
        dsimp only
        rw [runCapture_bind, runCapture_pure]
        obtain ⟨settled, evs, sts, hlog, hsts, hf⟩ :=
          captureFound_found cn o p s1 (log ++ [.workload o.vmId (.ok (some w))]) hS vappId w
        exact ⟨settled.map (vappId, ·), _ :: evs, sts, by rw [hlog]; simp, hsts, .found hne hv hf⟩

end Connection

end ImageCatalog
