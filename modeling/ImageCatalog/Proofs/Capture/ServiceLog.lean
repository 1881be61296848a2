import ImageCatalog.Capture
import ImageCatalog.Proofs.Platform

/-!
# The calls a capture makes

A capture is written against `CaptureServices`, so what it does to the platform
is the sequence of calls it makes on them. `CaptureServices.noted S note` runs
services `S` and writes each remote call (a VM lookup, an undeploy, a deploy, a
capture request, a template load, a task wait, a publication), with the answer
it got, at the end of a log kept beside the platform state, as the entry
`note ev`; reading the clock, sleeping and the poll limit are no remote calls.
`CaptureServices.logged` keeps only the call (`ServiceCall`),
`CaptureServices.recorded` the call with its answer (`Event`). As `S` is
arbitrary, a statement about the log of `captureWith cn (S.noted note)` holds
for every behaviour of the services, failures included: a call that fails stays
written.

* `noteCall` and `unnoted`: one operation, with an entry written for it or not.
* `LogsOnly Q x` and `StepLogsOnly Q x`: from every state, `x` only appends
  entries that satisfy `Q` to the log (for a platform operation and for a
  capture step). Both are closed under `pure`, `throw`, `bind` and `tryCatch`.
* `Leads c x`: from every state, the first entry `x` appends is `c`.
* `runCapture` runs a capture step, with its equations for each operation.
* `Connection.settle_notes`, `Connection.publishCaptured_notes`: what settling a
  VM and publishing a captured template write, whatever the entries are.
-/

namespace ImageCatalog

open ImageCatalog.Xml ImageCatalog.Remote

/-- A remote call of a capture, with the argument that tells it apart. -/
inductive ServiceCall where
  | workload (vmId : String)
  | undeploy (vappId : String)
  | deploy (vappId : String)
  | sendCapture (dataCenterId : String)
  | loadVapp (templateId : String)
  | waitFor (response : String)
  | publish (imageId : String)
  deriving DecidableEq, Repr

namespace ServiceCall

/-- Whether a call is a capture request. -/
def isCaptureRequest : ServiceCall → Bool
  | .sendCapture _ => true
  | _ => false

/-- Whether a call deploys a vApp. -/
def isDeploy : ServiceCall → Bool
  | .deploy _ => true
  | _ => false

/-- Whether a call looks up a VM. -/
def isLookup : ServiceCall → Bool
  | .workload _ => true
  | _ => false

end ServiceCall

/-- A remote call of a capture with the answer it got. -/
inductive Event where
  | workload (vmId : String) (answer : Except Fault (Option Workload))
  | undeploy (vappId : String) (answer : Except Fault Unit)
  | deploy (vappId : String) (answer : Except Fault Unit)
  | sendCapture (dataCenterId body : String) (answer : Except Fault (String × Element))
  | loadVapp (templateId : String) (answer : Except Fault (Option Image))
  | waitFor (response : String) (answer : Except Fault Unit)
  | publish (imageId : String) (answer : Except Fault Image)

namespace Event

/-- Whether an event is a capture request. -/
def isSend : Event → Bool
  | .sendCapture .. => true
  | _ => false

/-- Whether an event looks a VM up or undeploys a vApp. -/
def isLookupOrUndeploy : Event → Bool
  | .workload .. | .undeploy .. => true
  | _ => false

/-- The call of an event, without its answer. -/
def call : Event → ServiceCall
  | .workload vmId _ => .workload vmId
  | .undeploy vappId _ => .undeploy vappId
  | .deploy vappId _ => .deploy vappId
  | .sendCapture dataCenterId _ _ => .sendCapture dataCenterId
  | .loadVapp templateId _ => .loadVapp templateId
  | .waitFor response _ => .waitFor response
  | .publish imageId _ => .publish imageId

end Event

variable {σ ε α β : Type}

/-- A service operation that writes an entry at the end of a log kept beside
its state, made from the state the operation starts in and its outcome; the
entry stays written whatever the outcome. -/
def noteCall (entry : σ → Except Fault α → ε) (x : ExceptT Fault (StateM σ) α) :
    ExceptT Fault (StateM (σ × List ε)) α :=
  ExceptT.mk fun st => let r := x.run.run st.1; (r.1, (r.2, st.2 ++ [entry st.1 r.1]))

/-- A service operation that writes nothing: the log is left alone. -/
def unnoted (x : ExceptT Fault (StateM σ) α) : ExceptT Fault (StateM (σ × List ε)) α :=
  ExceptT.mk fun st => let r := x.run.run st.1; (r.1, (r.2, st.2))

/-- The services `S`, with every remote call written at the end of the log as
`note ev`, where `ev` is the call with the answer it got. -/
def CaptureServices.noted (S : CaptureServices σ) (note : Event → ε) : CaptureServices (σ × List ε) where
  workload vmId := noteCall (fun _ r => note (.workload vmId r)) (S.workload vmId)
  undeploy vappId := noteCall (fun _ r => note (.undeploy vappId r)) (S.undeploy vappId)
  deploy vappId := noteCall (fun _ r => note (.deploy vappId r)) (S.deploy vappId)
  sendCapture dataCenterId body :=
    noteCall (fun _ r => note (.sendCapture dataCenterId body r)) (S.sendCapture dataCenterId body)
  loadVapp templateId name description createdAt :=
    noteCall (fun _ r => note (.loadVapp templateId r)) (S.loadVapp templateId name description createdAt)
  waitFor response := noteCall (fun _ r => note (.waitFor response r)) (S.waitFor response)
  publish img := noteCall (fun _ r => note (.publish img.imageId r)) (S.publish img)
  now := unnoted S.now
  sleep seconds := unnoted (S.sleep seconds)
  pollLimit := unnoted S.pollLimit

/-- The services `S`, with every remote call logged by its name and argument. -/
def CaptureServices.logged (S : CaptureServices σ) : CaptureServices (σ × List ServiceCall) :=
  S.noted Event.call

/-- The services `S`, with every remote call recorded with its answer. -/
def CaptureServices.recorded (S : CaptureServices σ) : CaptureServices (σ × List Event) :=
  S.noted id

/-! ## Platform operations -/

theorem run_noteCall (entry : σ → Except Fault α → ε) (x : ExceptT Fault (StateM σ) α) (s : σ)
    (log : List ε) :
    (noteCall entry x).run.run (s, log) =
      ((x.run.run s).1, ((x.run.run s).2, log ++ [entry s (x.run.run s).1])) := rfl

theorem run_unnoted (x : ExceptT Fault (StateM σ) α) (s : σ) (log : List ε) :
    (unnoted x).run.run (s, log) = ((x.run.run s).1, ((x.run.run s).2, log)) := rfl

/-- From every state, `x` only appends entries that satisfy `Q` to the log. -/
def LogsOnly (Q : ε → Prop) (x : ExceptT Fault (StateM (σ × List ε)) α) : Prop :=
  ∀ s log, ∃ new, (x.run.run (s, log)).2.2 = log ++ new ∧ ∀ c ∈ new, Q c

namespace LogsOnly

variable {Q : ε → Prop}

theorem pure (a : α) : LogsOnly Q (pure a : ExceptT Fault (StateM (σ × List ε)) α) :=
  fun _ log => ⟨[], by rw [run_pure, List.append_nil], by simp⟩

theorem throw (e : Fault) : LogsOnly Q (throw e : ExceptT Fault (StateM (σ × List ε)) α) :=
  fun _ log => ⟨[], by rw [run_throw, List.append_nil], by simp⟩

/-- A failure stops an operation before anything that follows it. -/
theorem throw_bind (e : Fault) (f : α → ExceptT Fault (StateM (σ × List ε)) β) :
    LogsOnly Q (MonadExcept.throw e >>= f) :=
  fun _ log => ⟨[], by rw [List.append_nil]; rfl, by simp⟩

theorem noteCall {entry : σ → Except Fault α → ε} (hq : ∀ s r, Q (entry s r))
    (x : ExceptT Fault (StateM σ) α) : LogsOnly Q (noteCall entry x) :=
  fun _ _ => ⟨[_], rfl, by simpa using hq _ _⟩

theorem unnoted (x : ExceptT Fault (StateM σ) α) : LogsOnly Q (unnoted x) :=
  fun _ log => ⟨[], by rw [List.append_nil]; rfl, by simp⟩

/-- Two runs one after the other append their entries one after the other,
whatever a log holds. -/
theorem append {log log' new more final : List ε}
    (h1 : log' = log ++ new) (h2 : final = log' ++ more) (hnew : ∀ c ∈ new, Q c)
    (hmore : ∀ c ∈ more, Q c) : ∃ all, final = log ++ all ∧ ∀ c ∈ all, Q c :=
  ⟨new ++ more, by rw [h2, h1, List.append_assoc], fun c hc =>
    (List.mem_append.mp hc).elim (hnew c) (hmore c)⟩

theorem bind {x : ExceptT Fault (StateM (σ × List ε)) α}
    {f : α → ExceptT Fault (StateM (σ × List ε)) β}
    (hx : LogsOnly Q x) (hf : ∀ a, LogsOnly Q (f a)) : LogsOnly Q (x >>= f) := by
  intro s log
  obtain ⟨new, hlog, hnew⟩ := hx s log
  rw [run_bind]
  rcases hrun : x.run.run (s, log) with ⟨r, s', log'⟩
  rw [hrun] at hlog
  cases r with
  | error e => exact ⟨new, hlog, hnew⟩
  | ok a =>
    obtain ⟨more, hmore, hq⟩ := hf a s' log'
    exact append hlog hmore hnew hq

theorem tryCatch {x : ExceptT Fault (StateM (σ × List ε)) α}
    {h : Fault → ExceptT Fault (StateM (σ × List ε)) α}
    (hx : LogsOnly Q x) (hh : ∀ e, LogsOnly Q (h e)) : LogsOnly Q (tryCatch x h) := by
  intro s log
  obtain ⟨new, hlog, hnew⟩ := hx s log
  rw [run_tryCatch]
  rcases hrun : x.run.run (s, log) with ⟨r, s', log'⟩
  rw [hrun] at hlog
  cases r with
  | ok a => exact ⟨new, hlog, hnew⟩
  | error e =>
    obtain ⟨more, hmore, hq⟩ := hh e s' log'
    exact append hlog hmore hnew hq

end LogsOnly

/-! ## Capture steps -/

section Steps

variable {τ : Type}

/-- The outcome, the progress and the platform state after a capture step run
from progress `p` and state `st`. -/
def runCapture (x : CaptureRunOn τ α) (p : CaptureProgress) (st : τ) :
    (Except Fault α × CaptureProgress) × τ :=
  ((x.run).run p).run st

theorem runCapture_pure (a : α) (p : CaptureProgress) (st : τ) :
    runCapture (pure a : CaptureRunOn τ α) p st = ((.ok a, p), st) := rfl

theorem runCapture_throw (e : Fault) (p : CaptureProgress) (st : τ) :
    runCapture (throw e : CaptureRunOn τ α) p st = ((.error e, p), st) := rfl

theorem runCapture_onPlatform (x : ExceptT Fault (StateM τ) α) (p : CaptureProgress) (st : τ) :
    runCapture (onPlatform x) p st = (((x.run.run st).1, p), (x.run.run st).2) := rfl

theorem runCapture_modify (f : CaptureProgress → CaptureProgress) (p : CaptureProgress) (st : τ) :
    runCapture (modifyThe CaptureProgress f : CaptureRunOn τ Unit) p st = ((.ok (), f p), st) := rfl

theorem runCapture_reach (st : CaptureState) (p : CaptureProgress) (s : τ) :
    runCapture (reach st : CaptureRunOn τ Unit) p s = ((.ok (), { p with states := p.states ++ [st] }), s) :=
  rfl

theorem runCapture_bind (x : CaptureRunOn τ α) (f : α → CaptureRunOn τ β) (p : CaptureProgress)
    (st : τ) :
    runCapture (x >>= f) p st = match runCapture x p st with
      | ((.ok a, p'), st') => runCapture (f a) p' st'
      | ((.error e, p'), st') => ((.error e, p'), st') := by
  simp only [runCapture, ExceptT.run_bind, StateT.run_bind]
  generalize ((x.run).run p).run st = out
  rcases out with ⟨⟨r, p'⟩, st'⟩
  cases r <;> rfl

theorem runCapture_tryCatch (x : CaptureRunOn τ α) (h : Fault → CaptureRunOn τ α)
    (p : CaptureProgress) (st : τ) :
    runCapture (tryCatch x h) p st = match runCapture x p st with
      | ((.ok a, p'), st') => ((.ok a, p'), st')
      | ((.error e, p'), st') => runCapture (h e) p' st' := by
  show runCapture (ExceptT.tryCatch x h) p st = _
  simp only [runCapture, ExceptT.tryCatch, ExceptT.run, ExceptT.mk, StateT.run_bind]
  generalize StateT.run (StateT.run x p) st = out
  rcases out with ⟨⟨r, p'⟩, st'⟩
  cases r <;> rfl

/-- A step kept with its outcome never fails, and ends where the step ends. -/
theorem runCapture_outcome (x : CaptureRunOn τ α) (p : CaptureProgress) (st : τ) :
    runCapture (outcome x) p st =
      ((.ok (runCapture x p st).1.1, (runCapture x p st).1.2), (runCapture x p st).2) := by
  simp only [outcome, runCapture_tryCatch, runCapture_bind, runCapture_pure]
  rcases runCapture x p st with ⟨⟨r, p'⟩, st'⟩
  cases r <;> rfl

end Steps

theorem runCapture_noteCall (entry : σ → Except Fault α → ε) (x : ExceptT Fault (StateM σ) α)
    (p : CaptureProgress) (s : σ) (log : List ε) :
    runCapture (onPlatform (noteCall entry x)) p (s, log) =
      (((x.run.run s).1, p), ((x.run.run s).2, log ++ [entry s (x.run.run s).1])) := rfl

/-- From every state, the capture step `x` only appends calls that satisfy `Q`
to the log. -/
def StepLogsOnly (Q : ε → Prop) (x : CaptureRunOn (σ × List ε) α) : Prop :=
  ∀ p s log, ∃ new, (runCapture x p (s, log)).2.2 = log ++ new ∧ ∀ c ∈ new, Q c

namespace StepLogsOnly

variable {Q : ε → Prop}

theorem pure (a : α) : StepLogsOnly Q (pure a : CaptureRunOn (σ × List ε) α) :=
  fun _ _ log => ⟨[], by rw [runCapture_pure, List.append_nil], by simp⟩

theorem throw (e : Fault) : StepLogsOnly Q (throw e : CaptureRunOn (σ × List ε) α) :=
  fun _ _ log => ⟨[], by rw [runCapture_throw, List.append_nil], by simp⟩

theorem modify (f : CaptureProgress → CaptureProgress) :
    StepLogsOnly Q (modifyThe CaptureProgress f : CaptureRunOn (σ × List ε) Unit) :=
  fun _ _ log => ⟨[], by rw [runCapture_modify, List.append_nil], by simp⟩

theorem onPlatform {x : ExceptT Fault (StateM (σ × List ε)) α} (hx : LogsOnly Q x) :
    StepLogsOnly Q (onPlatform x) := fun _ s log => hx s log

theorem reach (st : CaptureState) : StepLogsOnly Q (reach st : CaptureRunOn (σ × List ε) Unit) :=
  modify _

theorem noteCall {entry : σ → Except Fault α → ε} (hq : ∀ s r, Q (entry s r))
    (y : ExceptT Fault (StateM σ) α) : StepLogsOnly Q (ImageCatalog.onPlatform (noteCall entry y)) :=
  onPlatform (LogsOnly.noteCall hq y)

theorem unnoted (y : ExceptT Fault (StateM σ) α) :
    StepLogsOnly Q (ImageCatalog.onPlatform (unnoted y)) :=
  onPlatform (LogsOnly.unnoted y)

/-- A failure stops a step before anything that follows it. -/
theorem throw_bind (e : Fault) (f : α → CaptureRunOn (σ × List ε) β) :
    StepLogsOnly Q (MonadExcept.throw e >>= f) :=
  fun _ _ log => ⟨[], by rw [runCapture_bind, runCapture_throw, List.append_nil], by simp⟩

theorem bind {x : CaptureRunOn (σ × List ε) α}
    {f : α → CaptureRunOn (σ × List ε) β}
    (hx : StepLogsOnly Q x) (hf : ∀ a, StepLogsOnly Q (f a)) : StepLogsOnly Q (x >>= f) := by
  intro p s log
  obtain ⟨new, hlog, hnew⟩ := hx p s log
  rw [runCapture_bind]
  rcases hrun : runCapture x p (s, log) with ⟨⟨r, p'⟩, s', log'⟩
  rw [hrun] at hlog
  cases r with
  | error e => exact ⟨new, hlog, hnew⟩
  | ok a =>
    obtain ⟨more, hmore, hq⟩ := hf a p' s' log'
    exact LogsOnly.append hlog hmore hnew hq

theorem outcome {x : CaptureRunOn (σ × List ε) α} (hx : StepLogsOnly Q x) :
    StepLogsOnly Q (outcome x) := by
  intro p s log
  rw [runCapture_outcome]
  exact hx p s log

end StepLogsOnly

namespace StepLogsOnly

variable {Q R : ε → Prop}

theorem mono {x : CaptureRunOn (σ × List ε) α} (hx : StepLogsOnly Q x)
    (hqr : ∀ c, Q c → R c) : StepLogsOnly R x := by
  intro p s log
  obtain ⟨new, hlog, hnew⟩ := hx p s log
  exact ⟨new, hlog, fun c hc => hqr c (hnew c hc)⟩

end StepLogsOnly

/-- From every state, the first call that the capture step `x` appends is `c`,
and every later one satisfies `Q`. -/
def Leads (c : ε) (Q : ε → Prop) (x : CaptureRunOn (σ × List ε) α) :
    Prop :=
  ∀ p s log, ∃ rest, (runCapture x p (s, log)).2.2 = log ++ c :: rest ∧ ∀ c' ∈ rest, Q c'

namespace Leads

variable {c : ε} {Q : ε → Prop}

theorem noteCall {entry : σ → Except Fault α → ε} (hc : ∀ s r, entry s r = c)
    (y : ExceptT Fault (StateM σ) α) : Leads c Q (onPlatform (noteCall entry y)) :=
  fun _ s log => ⟨[], by rw [runCapture_noteCall, hc], by simp⟩

theorem outcome {x : CaptureRunOn (σ × List ε) α} (hx : Leads c Q x) :
    Leads c Q (outcome x) := by
  intro p s log
  rw [runCapture_outcome]
  exact hx p s log

/-- What runs after a step that leads with `c` keeps `c` first. -/
theorem bind {x : CaptureRunOn (σ × List ε) α}
    {f : α → CaptureRunOn (σ × List ε) β}
    (hx : Leads c Q x) (hf : ∀ a, StepLogsOnly Q (f a)) : Leads c Q (x >>= f) := by
  intro p s log
  obtain ⟨rest, hlog, hrest⟩ := hx p s log
  rw [runCapture_bind]
  rcases hrun : runCapture x p (s, log) with ⟨⟨r, p'⟩, s', log'⟩
  rw [hrun] at hlog
  dsimp only at hlog
  cases r with
  | error e => exact ⟨rest, hlog, hrest⟩
  | ok a =>
    obtain ⟨more, hmore, hq⟩ := hf a p' s' log'
    refine ⟨rest ++ more, by rw [hmore, hlog]; simp, fun c' hc' => ?_⟩
    rcases List.mem_append.mp hc' with hc' | hc'
    · exact hrest c' hc'
    · exact hq c' hc'

theorem logsOnly {x : CaptureRunOn (σ × List ε) α} (hx : Leads c Q x) (hc : Q c) :
    StepLogsOnly Q x := by
  intro p s log
  obtain ⟨rest, hlog, hrest⟩ := hx p s log
  refine ⟨c :: rest, hlog, fun c' hc' => ?_⟩
  rcases List.mem_cons.mp hc' with rfl | hc'
  · exact hc
  · exact hrest c' hc'

end Leads

/-- From every state, the first call the capture step `x` appends, if it
appends any, satisfies `Q`. -/
def Opens (Q : ε → Prop) (x : CaptureRunOn (σ × List ε) α) : Prop :=
  ∀ p s log, ∃ new, (runCapture x p (s, log)).2.2 = log ++ new ∧ ∀ c ∈ new.head?, Q c

namespace Opens

variable {Q : ε → Prop}

theorem of_leads {c : ε} {R : ε → Prop} {x : CaptureRunOn (σ × List ε) α}
    (hx : Leads c R x) (hc : Q c) : Opens Q x := by
  intro p s log
  obtain ⟨rest, hlog, -⟩ := hx p s log
  exact ⟨c :: rest, hlog, by simpa using hc⟩

theorem throw_bind (e : Fault) (f : α → CaptureRunOn (σ × List ε) β) :
    Opens Q (MonadExcept.throw e >>= f) :=
  fun _ _ log => ⟨[], by rw [runCapture_bind, runCapture_throw, List.append_nil], by simp⟩

/-- A step that makes no call leaves the first call to what follows it. -/
theorem bind_silent {x : CaptureRunOn (σ × List ε) α}
    {f : α → CaptureRunOn (σ × List ε) β}
    (hx : StepLogsOnly (fun _ => False) x) (hf : ∀ a, Opens Q (f a)) : Opens Q (x >>= f) := by
  intro p s log
  obtain ⟨new, hlog, hnew⟩ := hx p s log
  have hnil : new = [] := List.eq_nil_iff_forall_not_mem.mpr hnew
  subst hnil
  rw [runCapture_bind]
  rcases hrun : runCapture x p (s, log) with ⟨⟨r, p'⟩, s', log'⟩
  rw [hrun, List.append_nil] at hlog
  dsimp only at hlog
  cases r with
  | error e => exact ⟨[], by simpa using hlog, by simp⟩
  | ok a =>
    obtain ⟨more, hmore, hq⟩ := hf a p' s' log'
    exact ⟨more, by rw [hmore, hlog], hq⟩

end Opens

/-! ## What the stages of a capture write -/

namespace Connection

variable {Q : ε → Prop} (cn : Connection) (S : CaptureServices σ) (note : Event → ε)

/-- Polling a VM writes only its lookups, however often it polls. -/
theorem settleWithin_notes (hq : ∀ vmId r, Q (note (.workload vmId r))) (deadline : Int) (fuel : Nat)
    (w : Workload) : LogsOnly Q (cn.settleWithin (S.noted note) deadline fuel w) := by
  induction fuel using Nat.strongRecOn generalizing w with
  | _ fuel ih =>
    rw [settleWithin.eq_def]
    dsimp only
    split
    · exact LogsOnly.pure w
    refine LogsOnly.bind (LogsOnly.unnoted _) fun t => ?_
    -- past the deadline or out of fuel the loop stops; otherwise it polls once and goes on
    split
    · exact LogsOnly.throw_bind _ _
    cases fuel with
    | zero => exact LogsOnly.throw _
    | succ fuel =>
      refine LogsOnly.bind (LogsOnly.unnoted _) fun _ => ?_
      refine LogsOnly.bind (LogsOnly.tryCatch ?_ fun e => ?_) fun r => ?_
      · exact LogsOnly.bind (LogsOnly.noteCall (fun _ r => hq _ r) _) fun _ => LogsOnly.pure _
      · split
        · exact LogsOnly.pure _
        · exact LogsOnly.throw _
      · split
        · exact ih fuel (Nat.lt_succ_self fuel) _
        · exact ih fuel (Nat.lt_succ_self fuel) _

/-- Settling a VM writes only its lookups. -/
theorem settle_notes (hq : ∀ vmId r, Q (note (.workload vmId r))) (w : Workload) :
    LogsOnly Q (cn.settle (S.noted note) w) := by
  unfold settle
  exact LogsOnly.bind (LogsOnly.unnoted _) fun _ =>
    LogsOnly.bind (LogsOnly.unnoted _) fun _ => settleWithin_notes cn S note hq _ _ w

/-- Publishing a captured template writes only the template's load, the wait
for its task and its publication. -/
theorem publishCaptured_notes (o : CaptureOptions) (response : String) (root : Element)
    (hl : ∀ t r, Q (note (.loadVapp t r))) (hw : ∀ r, Q (note (.waitFor response r)))
    (hp : ∀ i r, Q (note (.publish i r))) :
    StepLogsOnly Q (cn.publishCaptured (S.noted note) o response root) := by
  unfold publishCaptured
  simp only []
  split
  · refine StepLogsOnly.bind (StepLogsOnly.pure _) fun t => ?_
    refine StepLogsOnly.bind (StepLogsOnly.unnoted _) fun now => ?_
    refine StepLogsOnly.bind (StepLogsOnly.noteCall (fun _ => hl _) _) fun found => ?_
    split
    · refine StepLogsOnly.bind (StepLogsOnly.pure _) fun img => ?_
      refine StepLogsOnly.bind (StepLogsOnly.noteCall (fun _ => hw) _) fun _ => ?_
      refine StepLogsOnly.bind (StepLogsOnly.reach _) fun _ => ?_
      refine StepLogsOnly.bind (StepLogsOnly.noteCall (fun _ => hp _) _) fun img => ?_
      exact StepLogsOnly.bind (StepLogsOnly.reach _) fun _ => StepLogsOnly.pure _
    · exact StepLogsOnly.throw_bind _ _
  · exact StepLogsOnly.throw_bind _ _

end Connection

end ImageCatalog
