import ImageCatalog.Proofs.Capture.ServiceLog

/-!
# A capture deploys again what it shut down to capture

A running VM cannot be captured, so `captureFound` shuts its vApp down before the
capture request and deploys it again afterwards, whether the capture succeeded or
not. Whether to deploy again is decided once, from the state the VM settled in. The
retry after a busy-entity conflict looks at the VM again and shuts the vApp down
if it is running by then; that second shutdown is not followed by a deploy.

The results hold for every behaviour of the services: each call of
`CaptureServices.logged S` may answer anything or fail, and only its name and
argument are recorded.

Main results:

* `DeploysBack v calls`: `calls` deploy `v` at most once, as their last call, and
  exactly when they undeploy `v` before their first capture request.
* `Connection.captureReady_log`: from a ready vApp, a capture makes no deploy and
  its first call, if any, is the capture request.
* `Connection.captureWith_deploysBack`: the calls of every capture satisfy
  `DeploysBack v`, for every vApp `v`.
* `captureWith_refusedTwice_leaves_undeployed`: a VM that is stopped when the
  capture starts and running when the capture is refused gets its vApp shut down
  by the retry and never deployed again.
-/

namespace ImageCatalog
open ImageCatalog.Xml ImageCatalog.Remote

variable {σ : Type}

/-! ## The shape of a capture's calls -/

/-- The calls of a capture deploy vApp `v` at most once, as the last call, and
exactly when they undeploy `v` before the first capture request. -/
def DeploysBack (v : String) (calls : List ServiceCall) : Prop :=
  calls.count (.deploy v) ≤ 1 ∧ (.deploy v ∈ calls → calls.getLast? = some (.deploy v)) ∧
    (.deploy v ∈ calls ↔ .undeploy v ∈ calls.takeWhile (!·.isCaptureRequest))

namespace DeploysBack

variable {v : String}

/-- Lookups neither deploy nor undeploy. -/
theorem not_mem_of_lookups {calls : List ServiceCall} (h : ∀ c ∈ calls, c.isLookup) :
    ServiceCall.deploy v ∉ calls ∧ ServiceCall.undeploy v ∉ calls :=
  ⟨fun hc => by simpa [ServiceCall.isLookup] using h _ hc,
    fun hc => by simpa [ServiceCall.isLookup] using h _ hc⟩

theorem deploy_not_mem {calls : List ServiceCall} (h : ∀ c ∈ calls, !c.isDeploy) :
    ServiceCall.deploy v ∉ calls :=
  fun hc => by simpa [ServiceCall.isDeploy] using h _ hc

theorem of_lookups {calls : List ServiceCall} (h : ∀ c ∈ calls, c.isLookup) :
    DeploysBack v calls := by
  obtain ⟨hd, hu⟩ := not_mem_of_lookups h
  refine ⟨by simp [List.count_eq_zero.mpr hd], fun hc => absurd hc hd, ?_⟩
  exact ⟨fun hc => absurd hc hd, fun hc => absurd (List.takeWhile_subset _ hc) hu⟩

/-- Calls that open with a capture request, followed by calls that undeploy
nothing, undeploy nothing before their first capture request. -/
theorem undeploy_not_mem_takeWhile {rest more : List ServiceCall}
    (hh : ∀ c ∈ rest.head?, c.isCaptureRequest) (hmore : ServiceCall.undeploy v ∉ more) :
    ServiceCall.undeploy v ∉ (rest ++ more).takeWhile (!·.isCaptureRequest) := by
  cases rest with
  | nil => exact fun hc => hmore (List.takeWhile_subset _ hc)
  | cons c rest =>
    have hcap : c.isCaptureRequest := hh c rfl
    simp [hcap]

theorem lookups_pass {lookups rest : List ServiceCall} (hl : ∀ c ∈ lookups, c.isLookup) :
    (lookups ++ rest).takeWhile (!·.isCaptureRequest) =
      lookups ++ rest.takeWhile (!·.isCaptureRequest) := by
  refine List.takeWhile_append_of_pos fun c hc => ?_
  have := hl c hc
  cases c <;> simp_all [ServiceCall.isLookup, ServiceCall.isCaptureRequest]

/-- A capture of a VM that was stopped: lookups, then calls that open with a
capture request and deploy nothing. -/
theorem of_stopped {lookups rest : List ServiceCall}
    (hl : ∀ c ∈ lookups, c.isLookup) (hr : ∀ c ∈ rest, !c.isDeploy)
    (hh : ∀ c ∈ rest.head?, c.isCaptureRequest) : DeploysBack v (lookups ++ rest) := by
  obtain ⟨hld, hlu⟩ := not_mem_of_lookups (v := v) hl
  have hrd : ServiceCall.deploy v ∉ rest := deploy_not_mem hr
  have hd : ServiceCall.deploy v ∉ lookups ++ rest := by simp [hld, hrd]
  refine ⟨by simp [List.count_eq_zero.mpr hd], fun hc => absurd hc hd, ?_⟩
  rw [lookups_pass hl]
  have hu : ServiceCall.undeploy v ∉
      (rest ++ ([] : List ServiceCall)).takeWhile fun c => !c.isCaptureRequest :=
    undeploy_not_mem_takeWhile hh (by simp)
  rw [List.append_nil] at hu
  simp [hd, hlu, hu]

/-- A capture of a VM that was running: lookups, the undeploy of `v0`, calls
that open with a capture request and deploy nothing, and the deploy of `v0`. -/
theorem of_running {v0 : String} {lookups rest : List ServiceCall}
    (hl : ∀ c ∈ lookups, c.isLookup) (hr : ∀ c ∈ rest, !c.isDeploy)
    (hh : ∀ c ∈ rest.head?, c.isCaptureRequest) :
    DeploysBack v (lookups ++ (.undeploy v0 :: rest) ++ [.deploy v0]) := by
  obtain ⟨hld, hlu⟩ := not_mem_of_lookups (v := v) hl
  have hrd : ServiceCall.deploy v ∉ rest := deploy_not_mem hr
  have hmem : ServiceCall.deploy v ∈ lookups ++ (.undeploy v0 :: rest) ++ [.deploy v0] ↔ v = v0 := by
    simp [hld, hrd]
  refine ⟨?_, fun hc => ?_, ?_⟩
  · simp [List.count_eq_zero.mpr hld, List.count_eq_zero.mpr hrd, List.count_cons]
    split <;> simp
  · rw [hmem.mp hc]
    exact List.getLast?_concat
  · rw [hmem, List.append_assoc, lookups_pass hl, List.cons_append,
      List.takeWhile_cons_of_pos (by rfl)]
    have hu : ServiceCall.undeploy v ∉
        (rest ++ [ServiceCall.deploy v0]).takeWhile fun c => !c.isCaptureRequest :=
      undeploy_not_mem_takeWhile hh (by simp)
    simp only [List.mem_append, List.mem_cons, hlu, hu, ServiceCall.undeploy.injEq, false_or,
      or_false]

end DeploysBack

/-! ## What each stage of a capture calls -/

namespace Connection

section Stages

variable {Q : ServiceCall → Prop}

theorem retryCapture_logs (S : CaptureServices σ) (o : CaptureOptions)
    (vappId dataCenterId body : String) (hw : Q (.workload o.vmId)) (hu : Q (.undeploy vappId))
    (hs : Q (.sendCapture dataCenterId)) :
    StepLogsOnly Q (retryCapture S.logged o vappId dataCenterId body) := by
  unfold retryCapture
  refine StepLogsOnly.bind (StepLogsOnly.modify _) fun _ => ?_
  refine StepLogsOnly.bind (StepLogsOnly.noteCall (fun _ _ => hw) _) fun w => ?_
  split
  · exact StepLogsOnly.throw _
  split
  · exact StepLogsOnly.bind (StepLogsOnly.noteCall (fun _ _ => hu) _) fun _ => StepLogsOnly.noteCall (fun _ _ => hs) _
  · exact StepLogsOnly.noteCall (fun _ _ => hs) _

theorem postCapture_leads (S : CaptureServices σ) (o : CaptureOptions) (vappId dataCenterId body : String)
    (hw : Q (.workload o.vmId)) (hu : Q (.undeploy vappId)) (hs : Q (.sendCapture dataCenterId)) :
    Leads (.sendCapture dataCenterId) Q (postCapture S.logged o vappId dataCenterId body) := by
  unfold postCapture
  refine Leads.bind (Leads.outcome (Leads.noteCall (fun _ _ => rfl) _)) fun r => ?_
  split
  · exact StepLogsOnly.pure _
  simp only []
  split
  · exact StepLogsOnly.throw_bind _ _
  · exact retryCapture_logs S o vappId dataCenterId body hw hu hs

/-- Once a vApp is ready, the capture's first call, if it makes one, is the
capture request, and it never deploys. -/
theorem captureReady_log (cn : Connection) (S : CaptureServices σ) (o : CaptureOptions)
    (vappId : String) (w : Workload) (p : CaptureProgress) (s : σ) (log : List ServiceCall) :
    ∃ rest, (runCapture (cn.captureReady S.logged o vappId w) p (s, log)).2.2 = log ++ rest ∧
      (∀ c ∈ rest, !c.isDeploy) ∧ (∀ c ∈ rest.head?, c.isCaptureRequest) := by
  have hlogs : StepLogsOnly (fun c => !c.isDeploy) (cn.captureReady S.logged o vappId w) := by
    unfold captureReady
    refine StepLogsOnly.bind (StepLogsOnly.reach _) fun _ => ?_
    simp only []
    split
    · refine StepLogsOnly.bind (StepLogsOnly.pure _) fun dataCenterId => ?_
      refine StepLogsOnly.bind (StepLogsOnly.reach _) fun _ => ?_
      refine StepLogsOnly.bind ((postCapture_leads (Q := fun c => !c.isDeploy) S o vappId _ _ rfl rfl rfl).logsOnly rfl) fun r => ?_
      exact publishCaptured_notes cn S Event.call o _ _ (fun _ _ => rfl) (fun _ => rfl) (fun _ _ => rfl)
    · exact StepLogsOnly.throw_bind _ _
  have hopens : Opens (fun c => c.isCaptureRequest) (cn.captureReady S.logged o vappId w) := by
    unfold captureReady
    refine Opens.bind_silent (StepLogsOnly.reach _) fun _ => ?_
    simp only []
    split
    · refine Opens.bind_silent (StepLogsOnly.pure _) fun dataCenterId => ?_
      refine Opens.bind_silent (StepLogsOnly.reach _) fun _ => ?_
      refine Opens.of_leads (Leads.bind (postCapture_leads (Q := fun c => !c.isDeploy) S o vappId _ _ rfl rfl rfl) fun r => ?_) rfl
      exact publishCaptured_notes cn S Event.call o _ _ (fun _ _ => rfl) (fun _ => rfl) (fun _ _ => rfl)
    · exact Opens.throw_bind _ _
  obtain ⟨rest, hrest, hnd⟩ := hlogs p s log
  obtain ⟨rest', hrest', hcap⟩ := hopens p s log
  have : rest' = rest := List.append_cancel_left (hrest'.symm.trans hrest)
  subst this
  exact ⟨rest', hrest, hnd, hcap⟩

end Stages

theorem captureSettled_log (cn : Connection) (S : CaptureServices σ) (o : CaptureOptions)
    (vappId : String) (w : Workload) (running : Bool) (p : CaptureProgress) (s : σ)
    (log : List ServiceCall) :
    ∃ rest, (runCapture (cn.captureSettled S.logged o vappId w running) p (s, log)).2.2 =
      log ++ ((if running then [.undeploy vappId] else []) ++ rest) ∧
      (∀ c ∈ rest, !c.isDeploy) ∧ (∀ c ∈ rest.head?, c.isCaptureRequest) := by
  unfold captureSettled
  cases running with
  | false =>
    simp only [Bool.false_eq_true, if_false, List.nil_append]
    exact captureReady_log cn S o vappId w p s log
  | true =>
    simp only [if_true]
    rw [runCapture_bind, runCapture_onPlatform]
    -- the undeploy is logged whatever its outcome
    rcases hu : (S.logged.undeploy vappId).run.run (s, log) with ⟨r, s', log'⟩
    have hlog' : log' = log ++ [.undeploy vappId] := by
      rw [show (S.logged.undeploy vappId).run.run (s, log) = _ from run_noteCall (fun _ _ => ServiceCall.undeploy vappId) (S.undeploy vappId) s log] at hu
      exact (Prod.mk.inj (Prod.mk.inj hu).2).2.symm
    subst hlog'
    cases r with
    | error e => exact ⟨[], by simp, by simp, by simp⟩
    | ok _ =>
      obtain ⟨rest, hrest, hnd, hcap⟩ := captureReady_log cn S o vappId w p s' (log ++ [.undeploy vappId])
      exact ⟨rest, by simpa using hrest, hnd, hcap⟩

/-! ## Whole captures -/

theorem captureFound_deploysBack (cn : Connection) (S : CaptureServices σ) (o : CaptureOptions)
    (vappId : String) (w : Workload) (p : CaptureProgress) (s : σ) {lookups : List ServiceCall}
    (hl : ∀ c ∈ lookups, c.isLookup) (v : String) :
    DeploysBack v (runCapture (cn.captureFound S.logged o vappId w) p (s, lookups)).2.2 := by
  unfold captureFound
  rw [runCapture_bind, runCapture_reach]
  dsimp only
  rw [runCapture_bind, runCapture_onPlatform]
  have hsettle : LogsOnly (fun c : ServiceCall => c.isLookup) (cn.settle S.logged w) :=
    settle_notes cn S Event.call (fun _ _ => rfl) w
  obtain ⟨ws, hws, hwl⟩ := hsettle s lookups
  rcases hset : (cn.settle S.logged w).run.run (s, lookups) with ⟨r, s1, L1⟩
  rw [hset] at hws
  dsimp only at hws
  subst hws
  have hl1 : ∀ c ∈ lookups ++ ws, c.isLookup := by
    intro c hc
    rcases List.mem_append.mp hc with hc | hc
    · exact hl c hc
    · exact hwl c hc
  cases r with
  | error e => exact DeploysBack.of_lookups hl1
  | ok w' =>
    dsimp only
    rw [runCapture_bind, runCapture_outcome]
    obtain ⟨rest, hrest, hnd, hcap⟩ :=
      captureSettled_log cn S o vappId w' (w'.state != .stopped) { p with states := p.states ++ [.awaitingReady] } s1 (lookups ++ ws)
    generalize runCapture (cn.captureSettled S.logged o vappId w' (w'.state != .stopped)) { p with states := p.states ++ [.awaitingReady] } (s1, lookups ++ ws) = out at hrest ⊢
    rcases out with ⟨⟨res, p2⟩, s2, L2⟩
    dsimp only at hrest ⊢
    subst hrest
    cases hrun : (w'.state != VmState.stopped)
    · simp only [Bool.false_eq_true, if_false, List.nil_append]
      cases res <;> exact DeploysBack.of_stopped hl1 hnd hcap
    · simp only [if_true, List.singleton_append]
      rw [runCapture_bind, runCapture_onPlatform]
      simp only [CaptureServices.logged, CaptureServices.noted, run_noteCall, Event.call]
      rcases ((S.deploy vappId).run.run s2) with ⟨r3, s3⟩
      have hback : DeploysBack v (lookups ++ ws ++ (.undeploy vappId :: rest) ++ [.deploy vappId]) :=
        DeploysBack.of_running hl1 hnd hcap
      cases r3 with
      | error e => exact hback
      | ok u => cases res <;> exact hback


theorem captureWith_deploysBack (cn : Connection) (S : CaptureServices σ) (o : CaptureOptions)
    (p : CaptureProgress) (s : σ) (v : String) :
    DeploysBack v (runCapture (cn.captureWith S.logged o) p (s, [])).2.2 := by
  have hnone : DeploysBack v [] := DeploysBack.of_lookups (by simp)
  have hone : ∀ c ∈ [ServiceCall.workload o.vmId], c.isLookup := by
    simp [ServiceCall.isLookup]
  unfold captureWith
  by_cases hvm : o.vmId.isEmpty
  · simp only [hvm, if_true]
    rw [runCapture_bind, runCapture_throw]
    exact hnone
  · simp only [hvm, Bool.false_eq_true, if_false]
    rw [runCapture_bind, runCapture_onPlatform]
    rw [show S.logged.workload o.vmId = noteCall (fun _ _ => .workload o.vmId) (S.workload o.vmId) from rfl,
      run_noteCall, List.nil_append]
    rcases (S.workload o.vmId).run.run s with ⟨r, s1⟩
    cases r with
    | error e => exact DeploysBack.of_lookups hone
    | ok found =>
      dsimp only
      rcases found with _ | w
      · exact DeploysBack.of_lookups hone
      · simp only [pure_bind]
        split
        · exact captureFound_deploysBack cn S o _ w _ s1 hone v
        · exact DeploysBack.of_lookups hone

end Connection

/-- Services under which the capture of `vm-1` in vApp `vapp-1` is refused twice
for a conflict: the VM reads stopped at first and running once refused.
The state counts the lookups made so far. -/
def refusedTwice : CaptureServices Nat where
  workload _ := do
    let n ← getThe Nat
    set (n + 1)
    return some { workloadId := "vm-1", state := if n = 0 then .stopped else .running,
                  parentVappId := some "vapp-1", dataCenterId := some "vdc-1" }
  undeploy _ := pure ()
  deploy _ := pure ()
  sendCapture _ _ := throw (.cloud conflictMessage)
  loadVapp _ _ _ _ := pure none
  waitFor _ := pure ()
  publish img := pure img
  now := pure 0
  sleep _ := pure ()
  pollLimit := pure 0

/-- The retry shuts down the vApp it finds running, and nothing deploys it again:
the VM was stopped when the capture decided whether to deploy it back. -/
theorem captureWith_refusedTwice_leaves_undeployed :
    (runCapture ((default : Connection).captureWith refusedTwice.logged { vmId := "vm-1", name := "web" })
      {} (0, [])).2.2 =
      [.workload "vm-1", .sendCapture "vdc-1", .workload "vm-1", .undeploy "vapp-1",
        .sendCapture "vdc-1"] := by
  decide +kernel

end ImageCatalog
