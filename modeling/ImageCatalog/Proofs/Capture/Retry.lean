import ImageCatalog.Proofs.Capture.ServiceLog
import ImageCatalog.Proofs.Remote.Reads
import Mathlib.Control.Monad.Basic

/-!
# The retry of a refused capture request

A capture request that the platform refuses with "stop the vApp and try
again" gets one retry: the VM is looked up again, its vApp is undeployed when
the VM is not stopped, and the request is sent once more. Every other failure
ends the request step as it came.

The rule depends on what each call answered, so the calls of a capture are
recorded with their answers: `CaptureServices.recorded S` writes every remote
call of `S` at the end of a transcript of `Event`s. As `S` is arbitrary, a
statement about the transcript of `captureWith cn S.recorded` holds for every
behaviour of the workload service and the transport.

Main results:

* `Sends` and `Retries`: the transcripts of a capture request step, one
  constructor per way it can go, with the outcome each ends with.
* `postCapture_sends`: every run of the request step follows `Sends`, and
  marks the capture retried exactly when it looked the VM up again.
* `RequestRule`, `captureWith_sends_once_or_twice`: every capture follows the
  rule of the capture requests. One that reaches the capturing stage sends one
  or two requests, all in its request step; no lookup or undeploy follows the
  step; and a failure of the step ends the capture, unless the final deploy of
  the vApp fails, whose fault then ends it. A request through the services of
  a connection is one POST of its body to the data center's capture action
  (`Connection.sendCapture_posts`).
* `captureWith_deploy_fault_replaces`: a refusal that is not a conflict is not
  the fault of a capture whose final deploy fails.

The rule is assembled stage by stage: `captureReady_around` and
`captureSettled_around` place a capture step around its request step
(`AroundRequest`), `deployBack_tail` says how the end of the capture goes
(`DeployedBack`), and `AroundRequest.rule` puts the two together.
-/

namespace ImageCatalog

open ImageCatalog.Xml ImageCatalog.Remote

variable {σ α β : Type}

section Recorded

variable (S : CaptureServices σ)

theorem recorded_workload (vmId : String) :
    S.recorded.workload vmId = noteCall (fun _ => .workload vmId) (S.workload vmId) := rfl

theorem recorded_undeploy (vappId : String) :
    S.recorded.undeploy vappId = noteCall (fun _ => .undeploy vappId) (S.undeploy vappId) := rfl

theorem recorded_deploy (vappId : String) :
    S.recorded.deploy vappId = noteCall (fun _ => .deploy vappId) (S.deploy vappId) := rfl

theorem recorded_sendCapture (dataCenterId body : String) :
    S.recorded.sendCapture dataCenterId body =
      noteCall (fun _ => .sendCapture dataCenterId body) (S.sendCapture dataCenterId body) := rfl

theorem recorded_loadVapp (templateId name description : String) (createdAt : Int) :
    S.recorded.loadVapp templateId name description createdAt =
      noteCall (fun _ => .loadVapp templateId) (S.loadVapp templateId name description createdAt) := rfl

theorem recorded_waitFor (response : String) :
    S.recorded.waitFor response = noteCall (fun _ => .waitFor response) (S.waitFor response) := rfl

theorem recorded_publish (img : Image) :
    S.recorded.publish img = noteCall (fun _ => .publish img.imageId) (S.publish img) := rfl

end Recorded

/-- Whether a fault is the refusal that earns a capture its retry: a platform
fault whose message, in lower case, asks to stop the vApp and try again. -/
def Fault.isConflict (e : Fault) : Bool := e.isCloud && Text.hasInfix (Text.lower e.message) conflictMessage

theorem Fault.not_conflict (e : Fault) :
    (!e.isCloud || !Text.hasInfix (Text.lower e.message) conflictMessage) = !e.isConflict := by
  unfold Fault.isConflict
  cases e.isCloud <;> rfl

/-- The derived comparison of power states tells them apart as equality does. -/
theorem VmState.bne_eq (a b : VmState) : (a != b) = !decide (a = b) := by
  cases a <;> cases b <;> rfl

/-! ## The rule of the request step -/

/-- The transcripts of the retry after a refusal for a conflict, with the
outcome each ends with: the VM is looked up again; when it is found and not
stopped its vApp is undeployed; then the request is sent once more, and its
answer is the outcome. -/
inductive Retries (vmId vappId dataCenterId body : String) :
    List Event → Except Fault (String × Element) → Prop
  | lookupFailed (e : Fault) :
      Retries vmId vappId dataCenterId body [.workload vmId (.error e)] (.error e)
  | vanished :
      Retries vmId vappId dataCenterId body [.workload vmId (.ok none)]
        (.error (.cloud ("Virtual machine " ++ vmId ++ " went away")))
  | undeployFailed (w : Workload) (hw : w.state ≠ .stopped) (e : Fault) :
      Retries vmId vappId dataCenterId body [.workload vmId (.ok (some w)), .undeploy vappId (.error e)]
        (.error e)
  | resent (w : Workload) (hw : w.state ≠ .stopped) (r : Except Fault (String × Element)) :
      Retries vmId vappId dataCenterId body
        [.workload vmId (.ok (some w)), .undeploy vappId (.ok ()), .sendCapture dataCenterId body r] r
  | resentStopped (w : Workload) (hw : w.state = .stopped) (r : Except Fault (String × Element)) :
      Retries vmId vappId dataCenterId body [.workload vmId (.ok (some w)), .sendCapture dataCenterId body r] r

/-- The transcripts of a capture request step, with the outcome each ends with:
the request is sent; an answer is the outcome, a refusal that is no conflict
too, and a refusal for a conflict is retried once. -/
inductive Sends (vmId vappId dataCenterId body : String) :
    List Event → Except Fault (String × Element) → Prop
  | accepted (r : String × Element) :
      Sends vmId vappId dataCenterId body [.sendCapture dataCenterId body (.ok r)] (.ok r)
  | refused (e : Fault) (he : e.isConflict = false) :
      Sends vmId vappId dataCenterId body [.sendCapture dataCenterId body (.error e)] (.error e)
  | retried (e : Fault) (he : e.isConflict = true) {rest : List Event} {r : Except Fault (String × Element)}
      (hr : Retries vmId vappId dataCenterId body rest r) :
      Sends vmId vappId dataCenterId body (.sendCapture dataCenterId body (.error e) :: rest) r

/-! ## Steps that only add stages -/

section Stages

variable {τ : Type}

/-- From every progress and state, the capture step `x` adds stages after those
of the progress and leaves the retry mark as it is. -/
def AddsStages (x : CaptureRunOn τ α) : Prop :=
  ∀ p st, ∃ more, (runCapture x p st).1.2 = { p with states := p.states ++ more }

namespace AddsStages

theorem pure (a : α) : AddsStages (pure a : CaptureRunOn τ α) :=
  fun p _ => ⟨[], by rw [runCapture_pure, List.append_nil]⟩

theorem throw (e : Fault) : AddsStages (throw e : CaptureRunOn τ α) :=
  fun p _ => ⟨[], by rw [runCapture_throw, List.append_nil]⟩

theorem reach (st : CaptureState) : AddsStages (reach st : CaptureRunOn τ Unit) :=
  fun _ _ => ⟨[st], by rw [runCapture_reach]⟩

theorem onPlatform (x : ExceptT Fault (StateM τ) α) : AddsStages (onPlatform x) :=
  fun _ _ => ⟨[], by rw [runCapture_onPlatform, List.append_nil]⟩

theorem bind {x : CaptureRunOn τ α} {f : α → CaptureRunOn τ β}
    (hx : AddsStages x) (hf : ∀ a, AddsStages (f a)) : AddsStages (x >>= f) := by
  intro p st
  obtain ⟨more, hp⟩ := hx p st
  rw [runCapture_bind]
  rcases hrun : runCapture x p st with ⟨⟨r, p'⟩, st'⟩
  rw [hrun] at hp
  dsimp only at hp
  cases r with
  | error e => exact ⟨more, hp⟩
  | ok a =>
    obtain ⟨more', hp'⟩ := hf a p' st'
    exact ⟨more ++ more', by rw [hp', hp, List.append_assoc]⟩

/-- A failure stops a step before anything that follows it. -/
theorem throw_bind (e : Fault) (f : α → CaptureRunOn τ β) : AddsStages (MonadExcept.throw e >>= f) :=
  fun p _ => ⟨[], by rw [runCapture_bind, runCapture_throw, List.append_nil]⟩

end AddsStages

/-- Publishing a captured template adds stages and leaves the retry mark alone,
whatever the services. -/
theorem Connection.publishCaptured_addsStages (cn : Connection) (S : CaptureServices τ) (o : CaptureOptions)
    (response : String) (root : Element) : AddsStages (cn.publishCaptured S o response root) := by
  unfold Connection.publishCaptured
  simp only []
  split
  · refine AddsStages.bind (AddsStages.pure _) fun t => ?_
    refine AddsStages.bind (AddsStages.onPlatform _) fun now => ?_
    refine AddsStages.bind (AddsStages.onPlatform _) fun found => ?_
    split
    · refine AddsStages.bind (AddsStages.pure _) fun img => ?_
      refine AddsStages.bind (AddsStages.onPlatform _) fun _ => ?_
      refine AddsStages.bind (AddsStages.reach _) fun _ => ?_
      refine AddsStages.bind (AddsStages.onPlatform _) fun img => ?_
      exact AddsStages.bind (AddsStages.reach _) fun _ => AddsStages.pure _
    · exact AddsStages.throw_bind _ _
  · exact AddsStages.throw_bind _ _

end Stages

section Runs

variable (S : CaptureServices σ) (p : CaptureProgress) (s : σ) (log : List Event)

/-- The retry after a refusal for a conflict follows `Retries`, and marks the
capture retried. -/
theorem retryCapture_retries (o : CaptureOptions) (vappId dataCenterId body : String) :
    ∃ rest, (runCapture (Connection.retryCapture S.recorded o vappId dataCenterId body) p (s, log)).2.2 = log ++ rest ∧
      Retries o.vmId vappId dataCenterId body rest
        (runCapture (Connection.retryCapture S.recorded o vappId dataCenterId body) p (s, log)).1.1 ∧
      (runCapture (Connection.retryCapture S.recorded o vappId dataCenterId body) p (s, log)).1.2 =
        { p with retried := true } := by
  unfold Connection.retryCapture
  rw [runCapture_bind, runCapture_modify]
  dsimp only
  rw [runCapture_bind]
  rw [recorded_workload, runCapture_noteCall]
  -- the fresh lookup, recorded with its answer
  rcases hw : (S.workload o.vmId).run.run s with ⟨r, s1⟩
  dsimp only
  cases r with
  | error e => exact ⟨_, rfl, .lookupFailed e, rfl⟩
  | ok found =>
    cases found with
    | none => exact ⟨_, rfl, .vanished, rfl⟩
    | some w =>
      dsimp only
      by_cases hstop : w.state = .stopped
      · have hcond : (w.state != VmState.stopped) = false := by
          rw [VmState.bne_eq, decide_eq_true hstop]; rfl
        simp only [hcond, Bool.false_eq_true, if_false]
        rw [recorded_sendCapture, runCapture_noteCall]
        exact ⟨_, by simp, .resentStopped w hstop _, rfl⟩
      · have hcond : (w.state != VmState.stopped) = true := by
          rw [VmState.bne_eq, decide_eq_false hstop]; rfl
        simp only [hcond, if_true]
        rw [runCapture_bind, recorded_undeploy, runCapture_noteCall]
        -- the undeploy, recorded with its answer; the request is sent again only after it succeeded
        rcases hu : (S.undeploy vappId).run.run s1 with ⟨ru, s2⟩
        dsimp only
        cases ru with
        | error e => exact ⟨_, by simp, .undeployFailed w hstop e, rfl⟩
        | ok u =>
          dsimp only
          rw [recorded_sendCapture, runCapture_noteCall]
          exact ⟨_, by simp, .resent w hstop _, rfl⟩

/-- A retry records at least the fresh lookup. -/
theorem Retries.ne_nil {vmId vappId dataCenterId body : String} {rest : List Event}
    {r : Except Fault (String × Element)} (h : Retries vmId vappId dataCenterId body rest r) : rest ≠ [] := by
  cases h <;> simp

/-- The request step follows `Sends`, and marks the capture retried exactly
when it recorded more than its first request, that is, when it looked the VM
up again. -/
theorem postCapture_sends (o : CaptureOptions) (vappId dataCenterId body : String) :
    ∃ sends, (runCapture (Connection.postCapture S.recorded o vappId dataCenterId body) p (s, log)).2.2 =
        log ++ sends ∧
      Sends o.vmId vappId dataCenterId body sends
        (runCapture (Connection.postCapture S.recorded o vappId dataCenterId body) p (s, log)).1.1 ∧
      (runCapture (Connection.postCapture S.recorded o vappId dataCenterId body) p (s, log)).1.2 =
        { p with retried := p.retried || decide (2 ≤ sends.length) } := by
  unfold Connection.postCapture
  rw [runCapture_bind, runCapture_outcome]
  rw [recorded_sendCapture, runCapture_noteCall]
  -- the first request, recorded with its answer
  rcases h1 : (S.sendCapture dataCenterId body).run.run s with ⟨r1, s1⟩
  dsimp only
  cases r1 with
  | ok r => exact ⟨_, rfl, .accepted r, by rw [runCapture_pure]; simp⟩
  | error e =>
    dsimp only
    rw [Fault.not_conflict]
    cases hc : e.isConflict with
    | false =>
      rw [Bool.not_false, if_pos rfl, runCapture_bind, runCapture_throw]
      exact ⟨_, rfl, .refused e hc, by simp⟩
    | true =>
      rw [Bool.not_true, if_neg Bool.false_ne_true]
      obtain ⟨rest, hlog, hretries, hprog⟩ := retryCapture_retries S p s1
        (log ++ [.sendCapture dataCenterId body (.error e)]) o vappId dataCenterId body
      have htwo : 2 ≤ (Event.sendCapture dataCenterId body (.error e) :: rest).length := by
        have := List.length_pos_iff.mpr hretries.ne_nil
        simp only [List.length_cons]
        omega
      refine ⟨_ :: rest, by rw [hlog]; simp, .retried e hc hretries, ?_⟩
      rw [hprog, decide_eq_true htwo, Bool.or_true]


/-- How a capture step that started from progress `p` and transcript `log`
went around the request step: either it stopped before the capturing stage
with no request sent, or it recorded calls that send no request, the request
step with the data center and the capture request of vApp `vappId`, and calls
that send no request, look no VM up and undeploy nothing, and a failed request
step ended it with the step's fault. -/
def AroundRequest (cn : Connection) (o : CaptureOptions) (vappId : String) (p : CaptureProgress)
    (log : List Event) (res : (Except Fault α × CaptureProgress) × (σ × List Event)) : Prop :=
  (∃ pre new, res.2.2 = log ++ pre ∧ (∀ ev ∈ pre, ev.isSend = false) ∧
    res.1.2 = { p with states := p.states ++ new } ∧ CaptureState.capturing ∉ new) ∨
  ∃ pre dataCenterId sends after r more,
    res.2.2 = log ++ pre ++ sends ++ after ∧ (∀ ev ∈ pre, ev.isSend = false) ∧
    Sends o.vmId vappId dataCenterId (cn.captureRequest o vappId) sends r ∧
    (∀ ev ∈ after, ev.isSend = false ∧ ev.isLookupOrUndeploy = false) ∧
    res.1.2 = { states := p.states ++ more, retried := p.retried || decide (2 ≤ sends.length) } ∧
    CaptureState.capturing ∈ more ∧ ∀ e, r = .error e → after = [] ∧ res.1.1 = .error e

/-- How the end of a capture went from progress `p` and transcript `log`,
after a capture step that ended with `res`: the vApp may be deployed again,
a call that sends no request, looks no VM up and undeploys nothing; the outcome
`res` is kept, unless that deploy failed, whose fault then replaces it. -/
def DeployedBack (vappId : String) (res : Except Fault α) (p : CaptureProgress) (log : List Event)
    (out : (Except Fault α × CaptureProgress) × (σ × List Event)) : Prop :=
  ∃ after more, out.2.2 = log ++ after ∧ out.1.2 = { p with states := p.states ++ more } ∧
    CaptureState.capturing ∉ more ∧ (∀ ev ∈ after, ev.isSend = false ∧ ev.isLookupOrUndeploy = false) ∧
    ((after = [] ∨ after = [.deploy vappId (.ok ())]) ∧ out.1.1 = res ∨
      ∃ d, after = [.deploy vappId (.error d)] ∧ out.1.1 = .error d)

/-- The rule of the capture requests of a whole capture that started from
progress `p` and transcript `log`. Either it stopped before the capturing
stage and sent no request, or it reached that stage for one vApp and one data
center, and its transcript is: calls that send no request; the request step,
which follows `Sends`; and calls that send no request, look no VM up and
undeploy nothing. It then sent one or two requests in all, it is marked retried
when the step looked the VM up again, and a failed request step ends it with
the step's fault, unless the deploy at the end fails, whose fault ends it
instead. -/
def RequestRule (cn : Connection) (o : CaptureOptions) (p : CaptureProgress) (log : List Event)
    (out : (Except Fault Image × CaptureProgress) × (σ × List Event)) : Prop :=
  (∃ new rest, out.1.2 = { p with states := p.states ++ new } ∧ CaptureState.capturing ∉ new ∧
    out.2.2 = log ++ rest ∧ ∀ ev ∈ rest, ev.isSend = false) ∨
  ∃ vappId dataCenterId before sends after r new,
    out.2.2 = log ++ before ++ sends ++ after ∧ (∀ ev ∈ before, ev.isSend = false) ∧
    Sends o.vmId vappId dataCenterId (cn.captureRequest o vappId) sends r ∧
    (∀ ev ∈ after, ev.isSend = false ∧ ev.isLookupOrUndeploy = false) ∧
    (out.2.2.countP Event.isSend = log.countP Event.isSend + 1 ∨
      out.2.2.countP Event.isSend = log.countP Event.isSend + 2) ∧
    out.1.2 = { states := p.states ++ new, retried := p.retried || decide (2 ≤ sends.length) } ∧
    CaptureState.capturing ∈ new ∧
    ∀ e, r = .error e → (after = [] ∨ after = [.deploy vappId (.ok ())]) ∧ out.1.1 = .error e ∨
      ∃ d, after = [.deploy vappId (.error d)] ∧ out.1.1 = .error d

/-- The request step sends the request once, or twice when it retried. -/
theorem Sends.countP_isSend {vmId vappId dataCenterId body : String} {sends : List Event}
    {r : Except Fault (String × Element)} (h : Sends vmId vappId dataCenterId body sends r) :
    sends.countP Event.isSend = 1 ∨ sends.countP Event.isSend = 2 := by
  cases h with
  | accepted | refused => exact .inl rfl
  | retried e he hr =>
    cases hr with
    | lookupFailed | vanished | undeployFailed => exact .inl rfl
    | resent | resentStopped => exact .inr rfl

theorem countP_isSend_quiet {evs : List Event} (h : ∀ ev ∈ evs, ev.isSend = false) :
    evs.countP Event.isSend = 0 :=
  List.countP_eq_zero.mpr fun ev hev => by simp [h ev hev]

section Composition

variable {cn : Connection} {o : CaptureOptions} {vappId : String} {p : CaptureProgress} {log : List Event}

/-- Calls that send no request and stages short of capturing, made before a
step, leave its place around the request step as it was. -/
theorem AroundRequest.prepend {p' : CaptureProgress} {ws : List Event} {st : List CaptureState}
    {res : (Except Fault α × CaptureProgress) × (σ × List Event)}
    (h : AroundRequest cn o vappId p' (log ++ ws) res) (hws : ∀ ev ∈ ws, ev.isSend = false)
    (hst : CaptureState.capturing ∉ st) (hstates : p'.states = p.states ++ st) (hretried : p'.retried = p.retried) :
    AroundRequest cn o vappId p log res := by
  rcases h with ⟨pre, new, hlog, hpre, hprog, hnew⟩ |
    ⟨pre, dataCenterId, sends, after, r, more, hlog, hpre, hsends, hafter, hprog, hmore, herr⟩
  · exact .inl ⟨ws ++ pre, st ++ new, by rw [hlog, List.append_assoc], List.forall_mem_append.mpr ⟨hws, hpre⟩,
      by rw [hprog, hstates, hretried, List.append_assoc], by simp [hst, hnew]⟩
  · exact .inr ⟨ws ++ pre, dataCenterId, sends, after, r, st ++ more, by rw [hlog]; simp,
      List.forall_mem_append.mpr ⟨hws, hpre⟩, hsends, hafter, by rw [hprog, hstates, hretried, List.append_assoc],
      List.mem_append_right _ hmore, herr⟩

/-- A capture step placed around the request step, followed by the end of the
capture, follows the rule of the capture requests. -/
theorem AroundRequest.rule {mid out : (Except Fault Image × CaptureProgress) × (σ × List Event)}
    (h : AroundRequest cn o vappId p log mid) (hd : DeployedBack vappId mid.1.1 mid.1.2 mid.2.2 out) :
    RequestRule cn o p log out := by
  obtain ⟨tail, more', hout, hprog', hmore', htail, hres⟩ := hd
  rcases h with ⟨pre, new, hlog, hpre, hprog, hnew⟩ |
    ⟨pre, dataCenterId, sends, after, r, more, hlog, hpre, hsends, hafter, hprog, hmore, herr⟩
  · -- no request: the deploy at the end sends none either
    exact .inl ⟨new ++ more', pre ++ tail, by rw [hprog', hprog]; simp, by simp [hnew, hmore'],
      by rw [hout, hlog, List.append_assoc], List.forall_mem_append.mpr ⟨hpre, fun ev hev => (htail ev hev).1⟩⟩
  · have hafter' : ∀ ev ∈ after ++ tail, ev.isSend = false ∧ ev.isLookupOrUndeploy = false :=
      List.forall_mem_append.mpr ⟨hafter, htail⟩
    have hcount : out.2.2.countP Event.isSend = log.countP Event.isSend + sends.countP Event.isSend := by
      rw [hout, hlog]
      simp only [List.countP_append, countP_isSend_quiet hpre,
        countP_isSend_quiet fun ev hev => (hafter ev hev).1,
        countP_isSend_quiet fun ev hev => (htail ev hev).1]
      omega
    refine .inr ⟨vappId, dataCenterId, pre, sends, after ++ tail, r, more ++ more',
      by rw [hout, hlog]; simp, hpre, hsends, hafter', ?_, by rw [hprog', hprog]; simp,
      List.mem_append_left _ hmore, fun e he => ?_⟩
    · rw [hcount]
      rcases hsends.countP_isSend with h1 | h1 <;> simp [h1]
    -- a failed request step leaves nothing but the deploy
    obtain ⟨rfl, hmid⟩ := herr e he
    rw [hmid] at hres
    simpa using hres

/-- Calls that send no request, made before a whole capture, leave it
following the rule. -/
theorem RequestRule.prepend {ws : List Event} {out : (Except Fault Image × CaptureProgress) × (σ × List Event)}
    (hws : ∀ ev ∈ ws, ev.isSend = false) (h : RequestRule cn o p (log ++ ws) out) : RequestRule cn o p log out := by
  rcases h with ⟨new, rest, hprog, hnew, hlog, hrest⟩ |
    ⟨vappId, dataCenterId, before, sends, after, r, new, hlog, hbefore, hsends, hafter, hcount, rest⟩
  · exact .inl ⟨new, ws ++ rest, hprog, hnew, by rw [hlog, List.append_assoc],
      List.forall_mem_append.mpr ⟨hws, hrest⟩⟩
  · rw [List.countP_append, countP_isSend_quiet hws, Nat.add_zero] at hcount
    exact .inr ⟨vappId, dataCenterId, ws ++ before, sends, after, r, new, by rw [hlog]; simp,
      List.forall_mem_append.mpr ⟨hws, hbefore⟩, hsends, hafter, hcount, rest⟩

end Composition

/-! ## The stages around the request step -/

namespace Connection

variable (cn : Connection)

/-- What runs after `x` and keeps the calls leaves the calls `x` made. -/
theorem calls_bind_stays {x : Session α} {f : α → Session β} (hf : ∀ a, Stays (.cachesOnly fun _ => False) (f a))
    (w : World) : ((x >>= f).run.run w).2.calls = (x.run.run w).2.calls := by
  rw [run_bind]
  rcases x.run.run w with ⟨r, w1⟩
  cases r with
  | error e => rfl
  | ok a => exact (hf a w1).2.2.1

/-- A capture request of a connection makes one call: a POST of the request's
body to the capture action of the data center. -/
theorem sendCapture_posts (dataCenterId body : String) (w : World) :
    ∃ call : Call, ((cn.sendCapture dataCenterId body).run.run w).2.calls = w.calls.push call ∧
      call.method = "POST" ∧ call.url = cn.client.toUrl "vdc" dataCenterId ++ "/action/captureVApp" ∧
      call.body = some body := by
  unfold sendCapture Client.post Client.request
  rw [calls_bind_stays ?_, calls_bind_stays ?_, calls_bind_stays ?_, run_exchange]
  · exact ⟨_, rfl, rfl, rfl, rfl⟩
  -- after the exchange, nothing but reading the reply
  · intro a
    cases a with
    | reply r => exact Stays.pure r
    | refuse m => exact Stays.throw _
  · exact fun r => Stays.bind (Client.checkStatus_stays _ _) fun _ => Stays.pure _
  · intro response
    dsimp only
    split
    · exact Stays.throw_bind _ _
    · exact Stays.bind (Stays.orFail _) fun _ => Stays.bind (Stays.orFail _) fun _ => Stays.pure _

/-- From a settled VM, a capture either stops before the capturing stage, when
the VM names no data center, or runs the request step with the data center and
the capture request of the vApp, followed by calls that send no request, look
no VM up and undeploy nothing. A failed request step ends it with its fault. -/
theorem captureReady_around (o : CaptureOptions) (vappId : String) (w : Workload) :
    AroundRequest cn o vappId p log (runCapture (cn.captureReady S.recorded o vappId w) p (s, log)) := by
  unfold captureReady
  rw [runCapture_bind, runCapture_reach]
  dsimp only
  cases hdc : w.dataCenterId with
  | none =>
    -- no data center: the capture stops at the ready stage
    left
    refine ⟨[], [.ready], ?_, by simp, ?_, by simp⟩
    · rw [runCapture_bind, runCapture_throw, List.append_nil]
    · rw [runCapture_bind, runCapture_throw]
  | some dataCenterId =>
    right
    dsimp only
    rw [runCapture_bind, runCapture_pure]
    dsimp only
    rw [runCapture_bind, runCapture_reach]
    dsimp only
    rw [runCapture_bind]
    -- the request step, from the progress that has reached the capturing stage
    obtain ⟨sends, hlog, hsends, hprog⟩ := postCapture_sends S
      { p with states := p.states ++ [.ready] ++ [.capturing] } s log o vappId dataCenterId
        (cn.captureRequest o vappId)
    rcases hpost : runCapture (postCapture S.recorded o vappId dataCenterId (cn.captureRequest o vappId))
      { p with states := p.states ++ [.ready] ++ [.capturing] } (s, log) with ⟨⟨r, p3⟩, s3, log3⟩
    rw [hpost] at hlog hsends hprog
    dsimp only at hlog hsends hprog
    subst hlog hprog
    cases r with
    | error e =>
      refine ⟨[], dataCenterId, sends, [], .error e, [.ready, .capturing], by simp, by simp, hsends,
        by simp, by simp, by simp, ?_⟩
      intro e' he
      cases he
      exact ⟨rfl, rfl⟩
    | ok v =>
      dsimp only
      -- publishing sends no request, looks no VM up, undeploys nothing and only adds stages
      have hquiet : StepLogsOnly (fun ev => ev.isSend = false ∧ ev.isLookupOrUndeploy = false)
          (cn.publishCaptured S.recorded o v.1 v.2) :=
        publishCaptured_notes cn S id o v.1 v.2 (fun _ _ => ⟨rfl, rfl⟩) (fun _ => ⟨rfl, rfl⟩)
          (fun _ _ => ⟨rfl, rfl⟩)
      obtain ⟨after, hafter, hq⟩ :=
        hquiet ⟨p.states ++ [.ready] ++ [.capturing], p.retried || decide (2 ≤ sends.length)⟩ s3 (log ++ sends)
      obtain ⟨more, hp⟩ := cn.publishCaptured_addsStages S.recorded o v.1 v.2
        ⟨p.states ++ [.ready] ++ [.capturing], p.retried || decide (2 ≤ sends.length)⟩ (s3, log ++ sends)
      refine ⟨[], dataCenterId, sends, after, .ok v, [.ready, .capturing] ++ more, by simpa using hafter,
        by simp, hsends, hq, ?_, by simp, fun e he => nomatch he⟩
      rw [hp]
      simp

/-- A running VM has its vApp undeployed first, a call that sends no request;
a failed undeploy stops the capture before the capturing stage. -/
theorem captureSettled_around (o : CaptureOptions) (vappId : String) (w : Workload) (running : Bool) :
    AroundRequest cn o vappId p log
      (runCapture (cn.captureSettled S.recorded o vappId w running) p (s, log)) := by
  unfold captureSettled
  cases running with
  | false => exact captureReady_around S p s log cn o vappId w
  | true =>
    simp only [if_true]
    rw [runCapture_bind]
    rw [recorded_undeploy, runCapture_noteCall]
    rcases hu : (S.undeploy vappId).run.run s with ⟨r, s1⟩
    dsimp only
    have hsend : ∀ a, (Event.undeploy vappId a).isSend = false := fun _ => rfl
    cases r with
    | error e => exact .inl ⟨[.undeploy vappId (.error e)], [], rfl, by simp [hsend], by simp, by simp⟩
    | ok u =>
      dsimp only
      -- the rest runs from the transcript that ends with the undeploy
      exact (captureReady_around S p s1 (log ++ [.undeploy vappId (.ok u)]) cn o vappId w).prepend
        (by simp [hsend]) (List.not_mem_nil) (List.append_nil _).symm rfl

/-- The end of a capture, which deploys the vApp again when the VM was running
and then hands back the outcome `res` of the capture step. -/
theorem deployBack_tail (vappId : String) (running : Bool) (res : Except Fault α)
    (finish : CaptureRunOn (σ × List Event) α) (hres : ∀ p' st, runCapture finish p' st = ((res, p'), st)) :
    DeployedBack vappId res p log (runCapture
      (if running then do
          onPlatform (S.recorded.deploy vappId)
          reach .redeployed
          finish
        else finish) p (s, log)) := by
  cases running with
  | false =>
    rw [if_neg Bool.false_ne_true, hres]
    exact ⟨[], [], by simp, by simp, by simp, by simp, .inl ⟨.inl rfl, rfl⟩⟩
  | true =>
    rw [if_pos rfl, runCapture_bind]
    rw [recorded_deploy, runCapture_noteCall]
    rcases hd : (S.deploy vappId).run.run s with ⟨d, s1⟩
    dsimp only
    cases d with
    | error d => exact ⟨[.deploy vappId (.error d)], [], rfl, by simp, by simp, by simp [Event.isSend,
        Event.isLookupOrUndeploy], .inr ⟨d, rfl, rfl⟩⟩
    | ok u =>
      dsimp only
      rw [runCapture_bind, runCapture_reach]
      dsimp only
      rw [hres]
      exact ⟨[.deploy vappId (.ok ())], [.redeployed], rfl, rfl, by simp, by simp [Event.isSend,
        Event.isLookupOrUndeploy], .inl ⟨.inr rfl, rfl⟩⟩

theorem captureFound_rule (o : CaptureOptions) (vappId : String) (w : Workload) :
    RequestRule cn o p log (runCapture (cn.captureFound S.recorded o vappId w) p (s, log)) := by
  unfold captureFound
  rw [runCapture_bind, runCapture_reach]
  dsimp only
  rw [runCapture_bind, runCapture_onPlatform]
  have hsettle : LogsOnly (fun ev : Event => ev.isSend = false) (cn.settle S.recorded w) :=
    settle_notes cn S id (fun _ _ => rfl) w
  obtain ⟨ws, hws, hquiet⟩ := hsettle s log
  rcases hset : (cn.settle S.recorded w).run.run (s, log) with ⟨r, s1, log1⟩
  rw [hset] at hws
  dsimp only at hws
  subst hws
  cases r with
  | error e =>
    -- the VM never settled: nothing past the waiting stage
    exact .inl ⟨[.awaitingReady], ws, rfl, by simp, by simp, hquiet⟩
  | ok w' =>
    dsimp only
    rw [runCapture_bind, runCapture_outcome]
    have haround : AroundRequest cn o vappId p log _ :=
      (captureSettled_around S { p with states := p.states ++ [.awaitingReady] } s1 (log ++ ws)
        cn o vappId w' (w'.state != .stopped)).prepend hquiet (by simp) rfl rfl
    generalize runCapture (cn.captureSettled S.recorded o vappId w' (w'.state != .stopped))
      { p with states := p.states ++ [.awaitingReady] } (s1, log ++ ws) = mid at haround ⊢
    rcases mid with ⟨⟨res, p2⟩, s2, log2⟩
    dsimp only
    exact haround.rule (deployBack_tail S p2 s2 log2 vappId _ res _ fun _ _ => by cases res <;> rfl)

/-- Every capture follows the rule of the capture requests, whatever the
services answer; and a capture request through the services of the connection
is one POST of the request's body to the data center's capture action. -/
theorem captureWith_sends_once_or_twice (o : CaptureOptions) :
    RequestRule cn o p log (runCapture (cn.captureWith S.recorded o) p (s, log)) ∧
    ∀ dataCenterId body w, ∃ call : Call,
      ((cn.services.sendCapture dataCenterId body).run.run w).2.calls = w.calls.push call ∧
      call.method = "POST" ∧ call.url = cn.client.toUrl "vdc" dataCenterId ++ "/action/captureVApp" ∧
      call.body = some body := by
  refine ⟨?_, cn.sendCapture_posts⟩
  unfold captureWith
  split
  · -- no VM id: nothing is called
    rw [runCapture_bind, runCapture_throw]
    exact .inl ⟨[], [], by simp, by simp, by simp, by simp⟩
  · rw [runCapture_bind]
    rw [recorded_workload, runCapture_noteCall]
    rcases hw : (S.workload o.vmId).run.run s with ⟨r, s1⟩
    have hlookup : ∀ ev ∈ [Event.workload o.vmId r], ev.isSend = false := by simp [Event.isSend]
    dsimp only
    cases r with
    | error e => exact .inl ⟨[], _, by simp, by simp, rfl, hlookup⟩
    | ok found =>
      dsimp only
      cases found with
      | none =>
        rw [runCapture_bind, runCapture_throw]
        exact .inl ⟨[], _, by simp, by simp, rfl, hlookup⟩
      | some w =>
        dsimp only
        rw [runCapture_bind, runCapture_pure]
        dsimp only
        cases hv : w.parentVappId with
        | none =>
          dsimp only
          rw [runCapture_bind, runCapture_throw]
          exact .inl ⟨[], _, by simp, by simp, rfl, hlookup⟩
        | some vappId =>
          dsimp only
          rw [runCapture_bind, runCapture_pure]
          exact (captureFound_rule S p s1 _ cn o vappId w).prepend hlookup

end Connection

end Runs

/-- Services under which VM `vm-1`, running in vApp `vapp-1`, has its capture
request refused with a fault that is no conflict, and the deploy at the end
fails. -/
def refusedThenUndeployable : CaptureServices Unit where
  workload _ := pure (some { workloadId := "vm-1", state := .running, parentVappId := some "vapp-1",
                             dataCenterId := some "vdc-1" })
  undeploy _ := pure ()
  deploy _ := throw (.cloud "deploy failed")
  sendCapture _ _ := throw (.cloud "boom")
  loadVapp _ _ _ _ := pure none
  waitFor _ := pure ()
  publish img := pure img
  now := pure 0
  sleep _ := pure ()
  pollLimit := pure 0

/-- The capture request is refused once, for no conflict, and nothing is
called after it but the deploy; the capture fails with the deploy's fault, not
with the refusal. -/
theorem captureWith_deploy_fault_replaces :
    (runCapture ((default : Connection).captureWith refusedThenUndeployable.recorded
      { vmId := "vm-1", name := "web" }) {} ((), [])).2.2.map Event.call =
      [.workload "vm-1", .undeploy "vapp-1", .sendCapture "vdc-1", .deploy "vapp-1"] ∧
    (Fault.cloud "boom").isConflict = false ∧
    (runCapture ((default : Connection).captureWith refusedThenUndeployable.recorded
      { vmId := "vm-1", name := "web" }) {} ((), [])).1.1 = .error (.cloud "deploy failed") := by
  refine ⟨by decide +kernel, by decide +kernel, by decide +kernel⟩

end ImageCatalog
