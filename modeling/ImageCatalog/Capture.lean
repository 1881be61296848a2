import ImageCatalog.Workload.Power
import ImageCatalog.Template.Loader
import ImageCatalog.Publish

/-!
# Capturing a VM

A capture turns the vApp that holds a VM into a new vApp template and
publishes it. The vApp has to be undeployed for the capture, so a VM that
is not stopped has its vApp shut down first and deployed again once the
capture is over, whether it succeeded or not.

The capture goes through `CaptureState`s, recorded in a `CaptureProgress`:
waiting for the VM to leave the pending state, ready, capturing, captured
(the new template is loaded and its task has finished), published, and
redeployed.

The platform sometimes refuses a capture with "Stop the vApp and try again"
even after the vApp was undeployed. That refusal gets exactly one retry,
after a fresh look at the VM's power state; any other failure, or a second
refusal, ends the capture.

The capture is written against `CaptureServices`: the workload service
(a VM's power state, undeploying and deploying its vApp), the capture request,
the loader, the task wait, the publisher and the clock. `Connection.services`
are the ones a connection offers, and `Connection.capture` runs the capture
with them.
-/

namespace ImageCatalog

open ImageCatalog.Xml ImageCatalog.Remote

/-- The stages of a capture. -/
inductive CaptureState where
  | awaitingReady | ready | capturing | captured | published | redeployed
  deriving BEq, Repr, Inhabited

/-- The name of a stage. -/
def CaptureState.name : CaptureState → String
  | .awaitingReady => "awaiting_ready"
  | .ready => "ready"
  | .capturing => "capturing"
  | .captured => "captured"
  | .published => "published"
  | .redeployed => "redeployed"

/-- The stages a capture went through, and whether it retried. -/
structure CaptureProgress where
  states : List CaptureState := []
  retried : Bool := false
  deriving Repr, Inhabited

/-- What to capture and what to call the template. -/
structure CaptureOptions where
  vmId : String
  name : String
  description : Option String := none
  deriving Repr, Inhabited

/-- The description of the template: the one given, else the name. -/
def CaptureOptions.effectiveDescription (o : CaptureOptions) : String :=
  match o.description with
  | some d => if d.isEmpty then o.name else d
  | none => o.name

/-- The refusal that earns a capture its retry, in lower case. -/
def conflictMessage : String := "stop the vapp and try again"

/-- A capture in progress over a platform whose state is `σ`: operations on
the platform that also record the stages, which survive a failure. -/
abbrev CaptureRunOn (σ : Type) := ExceptT Fault (StateT CaptureProgress (StateM σ))

/-- A capture in progress against the remote world. -/
abbrev CaptureRun := CaptureRunOn World

/-- Runs a platform operation within a capture. -/
def onPlatform {σ α : Type} (x : ExceptT Fault (StateM σ) α) : CaptureRunOn σ α :=
  ExceptT.mk (StateT.lift x.run)

/-- Records a stage. -/
def reach {σ : Type} (s : CaptureState) : CaptureRunOn σ Unit :=
  modifyThe CaptureProgress fun p => { p with states := p.states ++ [s] }

/-- Runs a capture step and keeps its outcome, failure included. -/
def outcome {σ α : Type} (x : CaptureRunOn σ α) : CaptureRunOn σ (Except Fault α) :=
  tryCatch (do let v ← x; pure (.ok v)) fun e => pure (.error e)

/-- What a capture asks of the platform, whose state is `σ`: the workload
service (a VM with its power state, undeploying a vApp with the shutdown
action, deploying it), sending a capture request to a data center, loading
the new template (by id, with its name, description and fallback creation
time), waiting for the task of a reply, publishing an image, the clock, and
how many polls a wait for a VM may take. -/
structure CaptureServices (σ : Type) where
  workload : String → ExceptT Fault (StateM σ) (Option Workload)
  undeploy : String → ExceptT Fault (StateM σ) Unit
  deploy : String → ExceptT Fault (StateM σ) Unit
  sendCapture : String → String → ExceptT Fault (StateM σ) (String × Element)
  loadVapp : String → String → String → Int → ExceptT Fault (StateM σ) (Option Image)
  waitFor : String → ExceptT Fault (StateM σ) Unit
  publish : Image → ExceptT Fault (StateM σ) Image
  now : ExceptT Fault (StateM σ) Int
  sleep : Int → ExceptT Fault (StateM σ) Unit
  pollLimit : ExceptT Fault (StateM σ) Nat

namespace Connection

/-- The body of a capture request for a vApp. -/
def captureRequest (cn : Connection) (o : CaptureOptions) (vappId : String) : String :=
  "<CaptureVAppParams xmlns=\"" ++ cloudNamespace ++ "\" xmlns:ovf=\"" ++ ovfNamespace ++ "\" " ++
  "name=\"" ++ escapeMarkup o.name ++ "\">" ++
  "<Description>" ++ escapeMarkup o.effectiveDescription ++ "</Description>" ++
  "<Source href=\"" ++ cn.client.toUrl "vApp" vappId ++ "\" type=\"" ++ MediaType.vApp ++ "\"/>" ++
  "<CustomizationSection><ovf:Info/><CustomizeOnInstantiate>true</CustomizeOnInstantiate>" ++
  "</CustomizationSection></CaptureVAppParams>"

/-- Sends a capture request to a data center; the reply must be a document
without an error. -/
def sendCapture (cn : Connection) (dataCenterId body : String) : Session (String × Element) := do
  let url := cn.client.toUrl "vdc" dataCenterId ++ "/action/captureVApp"
  let response ← cn.client.post "captureVApp" url MediaType.captureParams body
  if response.isEmpty then cloudFault "No error or other information was in the response"
  let root ← orFail (parseDocument response)
  orFail (checkError root)
  return (response, root)

/-- The capture services of a connection. -/
def services (cn : Connection) : CaptureServices World where
  workload := cn.workload
  undeploy vappId := cn.undeploy vappId "shutdown"
  deploy := cn.deploy
  sendCapture := cn.sendCapture
  loadVapp templateId name description createdAt :=
    cn.loadVapp templateId cn.scope.account false (some name) (some description) createdAt
  waitFor response := cn.client.waitFor (some response)
  publish := cn.publish
  now := Remote.now
  sleep := Remote.sleep
  pollLimit := do
    return Client.pollBudget cn.captureTimeout cn.capturePoll (← getThe World).routes.size

variable {σ : Type}

/-- Polls a pending VM until it reports another state, at most `fuel`
times; failures while polling are ignored, the deadline is not. -/
def settleWithin (cn : Connection) (S : CaptureServices σ) (deadline : Int) :
    Nat → Workload → ExceptT Fault (StateM σ) Workload
  | fuel, w => do
    if w.state != .pending then return w
    if (← S.now) ≥ deadline then
      throw (.cloud ("VM " ++ w.workloadId ++ " still pending after " ++ toString cn.captureTimeout ++ "s"))
    match fuel with
    | 0 => throw (.cloud ("VM " ++ w.workloadId ++ " still pending after " ++ toString cn.captureTimeout ++ "s"))
    | fuel + 1 =>
      S.sleep cn.capturePoll
      let refreshed ← tryCatch (do let r ← S.workload w.workloadId; pure (some r)) fun e =>
        if e.isCloud then pure none else throw e
      match refreshed with
      | some (some w') => cn.settleWithin S deadline fuel w'
      | _ => cn.settleWithin S deadline fuel w

/-- Polls a pending VM until it settles or the capture timeout passes. -/
def settle (cn : Connection) (S : CaptureServices σ) (w : Workload) :
    ExceptT Fault (StateM σ) Workload := do
  let deadline := (← S.now) + cn.captureTimeout
  cn.settleWithin S deadline (← S.pollLimit) w

/-- The retry after a "stop the vApp" refusal: a fresh look at the VM, an
undeploy of its vApp when it is not stopped, and the capture request once
more. -/
def retryCapture (S : CaptureServices σ) (o : CaptureOptions) (vappId dataCenterId body : String) :
    CaptureRunOn σ (String × Element) := do
  modifyThe CaptureProgress fun p => { p with retried := true }
  match ← onPlatform (S.workload o.vmId) with
  | none => throw (.cloud ("Virtual machine " ++ o.vmId ++ " went away"))
  | some w =>
    if w.state != .stopped then onPlatform (S.undeploy vappId)
    onPlatform (S.sendCapture dataCenterId body)

/-- Sends a capture request, retrying once after the "stop the vApp"
refusal. -/
def postCapture (S : CaptureServices σ) (o : CaptureOptions) (vappId dataCenterId body : String) :
    CaptureRunOn σ (String × Element) := do
  match ← outcome (onPlatform (S.sendCapture dataCenterId body)) with
  | .ok r => return r
  | .error e =>
    if !e.isCloud || !Text.hasInfix (Text.lower e.message) conflictMessage then throw e
    retryCapture S o vappId dataCenterId body

/-- The id of the template a capture reply names. -/
def capturedTemplateId (cn : Connection) (root : Element) : Except Fault String :=
  match root.findFirst "VAppTemplate" with
  | none => .error (.cloud "No vApp templates were found in response")
  | some t =>
    match t.target with
    | none => .error (.cloud "No vApp template id was found in response")
    | some h => .ok (cn.client.toId h)

/-- What follows an accepted capture request: the new template named in the
reply `root` is loaded, its task (in `response`) waited for, and it is
published. -/
def publishCaptured (cn : Connection) (S : CaptureServices σ) (o : CaptureOptions)
    (response : String) (root : Element) : CaptureRunOn σ Image := do
  let templateId ← match cn.capturedTemplateId root with
    | .ok t => pure t
    | .error e => throw e
  let nowMs := (← onPlatform S.now) * 1000
  let img ← match ← onPlatform (S.loadVapp templateId o.name o.effectiveDescription nowMs) with
    | some img => pure img
    | none => throw (.cloud ("Captured vApp template " ++ templateId ++ " was lost"))
  onPlatform (S.waitFor response)
  reach .captured
  let img ← onPlatform (S.publish img)
  reach .published
  return img

/-- The capture once vApp `vappId` of the settled VM `w` is ready: the capture
is sent to the VM's data center, and the new template is published. -/
def captureReady (cn : Connection) (S : CaptureServices σ) (o : CaptureOptions)
    (vappId : String) (w : Workload) : CaptureRunOn σ Image := do
  reach .ready
  let dataCenterId ← match w.dataCenterId with
    | some d => pure d
    | none => throw (.cloud ("Unable to determine the VDC of vApp " ++ vappId))
  let body := cn.captureRequest o vappId
  reach .capturing
  let (response, root) ← postCapture S o vappId dataCenterId body
  cn.publishCaptured S o response root

/-- The capture of a settled VM `w` in vApp `vappId`: the vApp is undeployed
first when `running`. -/
def captureSettled (cn : Connection) (S : CaptureServices σ) (o : CaptureOptions)
    (vappId : String) (w : Workload) (running : Bool) : CaptureRunOn σ Image := do
  if running then onPlatform (S.undeploy vappId)
  cn.captureReady S o vappId w

/-- The capture of VM `w`, found in vApp `vappId`: wait for the VM to settle,
capture, and deploy the vApp again when the VM was running once settled,
whatever the capture's outcome. -/
def captureFound (cn : Connection) (S : CaptureServices σ) (o : CaptureOptions) (vappId : String)
    (w : Workload) : CaptureRunOn σ Image := do
  reach .awaitingReady
  let w ← onPlatform (cn.settle S w)
  let running := w.state != .stopped
  let result ← outcome (cn.captureSettled S o vappId w running)
  if running then
    onPlatform (S.deploy vappId)
    reach .redeployed
  match result with
  | .ok img => return img
  | .error e => throw e

/-- Captures a VM's vApp as a new template and publishes it, with the
services `S`: a VM that is not stopped once it settles has its vApp
undeployed for the capture and deployed again afterwards, whatever the
capture's outcome. -/
def captureWith (cn : Connection) (S : CaptureServices σ) (o : CaptureOptions) :
    CaptureRunOn σ Image := do
  if o.vmId.isEmpty then throw (.cloud "A capture operation requires a valid VM ID")
  let w ← match ← onPlatform (S.workload o.vmId) with
    | some w => pure w
    | none => throw (.cloud ("No such virtual machine: " ++ o.vmId))
  let vappId ← match w.parentVappId with
    | some v => pure v
    | none => throw (.cloud ("Unable to determine virtual machine vApp for capture: " ++ o.vmId))
  cn.captureFound S o vappId w

/-- Captures a VM's vApp as a new template and publishes it. -/
def capture (cn : Connection) (o : CaptureOptions) : CaptureRun Image :=
  cn.captureWith cn.services o

end Connection

end ImageCatalog
