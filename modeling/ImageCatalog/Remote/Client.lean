import ImageCatalog.Remote.World
import ImageCatalog.Document
import ImageCatalog.Redact
import ImageCatalog.Config.Settings

/-!
# Talking to the platform

A `Client` sends requests under `<endpoint>/api`, with the timeout and
certificate check of its settings, and reads the platform's replies:

* `Client.getUrl` reads a resource: `none` when the platform answers 403 or
  404, or with an empty body; any other status of 400 and above is a fault
  whose detail is the error document's message, or else the body (or the
  reason), redacted and shortened.
* `Client.post` sends a body and returns the reply's body.
* `Client.delete` removes a resource and waits for the task it starts.
* `Client.waitFor` follows the first task of a reply until it ends: success
  returns, failure, cancellation and abortion are faults, and so is a task
  that outlives the task timeout or disappears.

Addresses: `Client.toUrl` puts a resource (`vm` lives under `vApp`) and id
under the base address; with compatible identifiers an id that starts with
`/` is a path of its own. `Client.toId` turns an address back into an id.
-/

namespace ImageCatalog.Remote

open ImageCatalog.Xml ImageCatalog.Config

/-! ## Media types of the platform's documents -/

namespace MediaType
/-- An organization. -/
def org : String := "application/vnd.vmware.vcloud.org+xml"
/-- A catalog. -/
def catalog : String := "application/vnd.vmware.vcloud.catalog+xml"
/-- A catalog item. -/
def catalogItem : String := "application/vnd.vmware.vcloud.catalogItem+xml"
/-- A vApp. -/
def vApp : String := "application/vnd.vmware.vcloud.vApp+xml"
/-- A vApp template. -/
def vAppTemplate : String := "application/vnd.vmware.vcloud.vAppTemplate+xml"
/-- A virtual data center. -/
def vdc : String := "application/vnd.vmware.vcloud.vdc+xml"
/-- A catalog, as an administrator creates it. -/
def adminCatalog : String := "application/vnd.vmware.admin.catalog+xml"
/-- Parameters of a capture. -/
def captureParams : String := "application/vnd.vmware.vcloud.captureVAppParams+xml"
/-- Parameters of a deployment. -/
def deployParams : String := "application/vnd.vmware.vcloud.deployVAppParams+xml"
/-- Parameters of an undeployment. -/
def undeployParams : String := "application/vnd.vmware.vcloud.undeployVAppParams+xml"
end MediaType

/-- The namespace of the platform's documents. -/
def cloudNamespace : String := "http://www.vmware.com/vcloud/v1.5"

/-- The namespace of machine descriptions. -/
def ovfNamespace : String := "http://schemas.dmtf.org/ovf/envelope/1"

/-- What a client needs of its settings. -/
structure Client where
  baseUrl : String
  compat : Bool
  timeout : Value
  verify : Value
  taskPollSeconds : Int
  taskTimeoutMinutes : Int
  deriving Repr, Inhabited

/-- The endpoint without trailing slashes. -/
def trimSlashes (s : String) : String :=
  String.ofList (s.toList.reverse.dropWhile (· == '/')).reverse

/-- The client of a set of settings. -/
def Client.ofSettings (s : Settings) : Client :=
  { baseUrl := trimSlashes (s.get .endpoint).render ++ "/api",
    compat := (s.get .compat).truthy,
    timeout := s.get .requestTimeoutSeconds,
    verify := s.get .verifySsl,
    taskPollSeconds := (s.get .taskPollSeconds).intD 5,
    taskTimeoutMinutes := (s.get .taskTimeoutMinutes).intD 60 }

namespace Client

/-- The address of a resource. -/
def toUrl (c : Client) (resource id : String) : String :=
  if c.compat && id.startsWith "/" then c.baseUrl ++ id
  else
    let path := if resource == "vm" then "vApp" else resource
    c.baseUrl ++ "/" ++ path ++ "/" ++ id

/-- The administrative address of a resource. -/
def toAdminUrl (c : Client) (resource id : String) : String :=
  c.baseUrl ++ "/admin/" ++ resource ++ "/" ++ id

/-- The id of a resource address: its last part, or its last two parts as a
path with compatible identifiers; a short address is its own id. -/
def toId (c : Client) (href : String) : String :=
  let parts := href.splitOn "/"
  if parts.length > 2 then
    let last := parts.getLastD ""
    if c.compat then "/" ++ parts.getD (parts.length - 2) "" ++ "/" ++ last else last
  else href

/-- Sends a request and returns the reply; a refused connection is a fault. -/
def request (c : Client) (method url : String) (body : Option String := none)
    (mediaType : Option String := none) : Session Reply := do
  let call : Call := { method := method, url := url, contentType := mediaType.filter (!·.isEmpty),
                       body := body, timeout := c.timeout, verify := c.verify }
  match ← exchange call with
  | .reply r => pure r
  | .refuse m => cloudFault (method ++ " " ++ url ++ " failed: " ++ Redact.redact m)

/-- Fails on an error status, with the best detail the reply offers. -/
def checkStatus (r : Reply) (what : String) : Session Unit := do
  if r.status < 400 then return
  let message := if r.body.isEmpty then none
    else match parseDocument r.body with
      | .ok root => errorMessage root
      | .error _ => none
  let fallback := if !r.body.isEmpty then r.body else r.reason
  let detail := match message with
    | some m => if m.isEmpty then Redact.shorten fallback else m
    | none => Redact.shorten fallback
  cloudFault (what ++ " failed with HTTP " ++ toString r.status ++ ": " ++ detail)

/-- Reads a full address; `none` when the resource is not there. -/
def getUrl (c : Client) (url : String) : Session (Option String) := do
  let r ← c.request "GET" url
  if r.status == 403 || r.status == 404 then return none
  checkStatus r ("GET " ++ url)
  return if r.body.isEmpty then none else some r.body

/-- Reads a resource by kind and id. -/
def get (c : Client) (resource id : String) : Session (Option String) :=
  c.getUrl (c.toUrl resource id)

/-- Sends a body for an action and returns the reply's body. -/
def post (c : Client) (action url mediaType body : String) : Session String := do
  let r ← c.request "POST" url (some body) (some mediaType)
  checkStatus r action
  return r.body

/-- The number of polls that a wait of `span` seconds allows at a period of
`period` seconds, with room for every change the script can make. -/
def pollBudget (span period : Int) (changes : Nat) : Nat :=
  (if period > 0 then (span / period).toNat else 0) + changes + 3

/-- The status of a task, lower-cased. -/
def taskStatus (task : Element) : String := Text.lower ((task.attrValue "status").getD "")

/-- The message of a failed task. -/
def failureDetail (task : Element) : String :=
  match (task.firstChild "Error").bind (·.attrValue "message") with
  | some d => if d.isEmpty then "" else ": " ++ d
  | none => ""

/-- Follows a task until it ends, polling at most `fuel` times. -/
def followTask (c : Client) (deadline : Int) : Nat → Option Element → Session Unit
  | _, none => pure ()
  | fuel, some task => do
    let status := taskStatus task
    let href := task.attrValue "href"
    if status == "success" then return
    if status == "error" || status == "canceled" || status == "aborted" then
      let shown := match href with
        | some h => if h.isEmpty then "(unknown)" else h
        | none => "(unknown)"
      cloudFault ("Task " ++ shown ++ " ended with status " ++ status ++ failureDetail task)
    match href with
    | none => return
    | some h =>
      if (← now) > deadline then cloudFault ("Timed out waiting for task " ++ h)
      match fuel with
      | 0 => cloudFault ("Timed out waiting for task " ++ h)
      | fuel + 1 =>
        sleep c.taskPollSeconds
        match ← c.getUrl h with
        | none => cloudFault ("Task " ++ h ++ " disappeared")
        | some xml =>
          let root ← orFail (parseDocument xml)
          c.followTask deadline fuel (root.findFirst "Task")

/-- Waits for the task of a reply, if it holds one. -/
def waitFor (c : Client) (response : Option String) : Session Unit := do
  match response with
  | none => return
  | some body =>
    if body.isEmpty then return
    let root ← orFail (parseDocument body)
    let span := c.taskTimeoutMinutes * 60
    let deadline := (← now) + span
    let changes := (← getThe World).routes.size
    c.followTask deadline (pollBudget span c.taskPollSeconds changes) (root.findFirst "Task")

/-- Deletes a resource and waits for the task that the deletion starts. -/
def delete (c : Client) (resource id : String) : Session Unit := do
  let r ← c.request "DELETE" (c.toUrl resource id)
  if r.status == 404 then cloudFault ("No such " ++ resource ++ ": " ++ id)
  checkStatus r ("delete " ++ resource ++ " " ++ id)
  c.waitFor (some r.body)

end Client

end ImageCatalog.Remote
