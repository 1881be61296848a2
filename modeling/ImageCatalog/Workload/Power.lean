import ImageCatalog.Connection
import ImageCatalog.Workload
import ImageCatalog.Xml.Writer

/-!
# VM power operations

What the capture needs from the compute side: a VM's power state with its
parent vApp and that vApp's data center (each found through the link that
goes up to a document of its kind), and undeploying and deploying a vApp,
waiting for the task each starts.
-/

namespace ImageCatalog

open ImageCatalog.Xml ImageCatalog.Remote

/-- The request body that undeploys a vApp with a power action. -/
def undeployBody (mode : String) : String :=
  "<UndeployVAppParams xmlns=\"" ++ cloudNamespace ++ "\">" ++
  "<UndeployPowerAction>" ++ mode ++ "</UndeployPowerAction></UndeployVAppParams>"

/-- The request body that deploys and powers on a vApp. -/
def deployBody : String := "<DeployVAppParams xmlns=\"" ++ cloudNamespace ++ "\" powerOn=\"true\"/>"

namespace Connection

/-- The id behind the first link of an element that goes up to a document
of `mediaType` and has a target. -/
def upLink (cn : Connection) (e : Element) (mediaType : String) : Option String :=
  ((e.childrenNamed "Link").find? (fun l => l.linksTo "up" mediaType && l.target.isSome)).bind
    fun l => l.target.map cn.client.toId

/-- A VM with its parent vApp and data center; `none` when it is missing. -/
def workload (cn : Connection) (vmId : String) : Session (Option Workload) := do
  match ← cn.client.get "vm" vmId with
  | none => return none
  | some xml =>
    let root ← orFail (parseDocument xml)
    match root.findFirst "Vm" with
    | none => return none
    | some vm =>
      let vappId := cn.upLink vm MediaType.vApp
      let vdcId ← match vappId with
        | none => pure none
        | some v => do
          match ← cn.client.get "vApp" v with
          | none => pure none
          | some vx =>
            let vroot ← orFail (parseDocument vx)
            pure ((vroot.findFirst "VApp").bind fun va => cn.upLink va MediaType.vdc)
      return some { workloadId := vmId, state := VmState.ofStatus (vm.attrValue "status"),
                    parentVappId := vappId, dataCenterId := vdcId, name := vm.attrValue "name" }

/-- Undeploys a vApp with a power action and waits for it. -/
def undeploy (cn : Connection) (vappId mode : String) : Session Unit := do
  let url := cn.client.toUrl "vApp" vappId ++ "/action/undeploy"
  let response ← cn.client.post "undeploy" url MediaType.undeployParams (undeployBody mode)
  cn.client.waitFor (some response)

/-- Deploys and powers on a vApp and waits for it. -/
def deploy (cn : Connection) (vappId : String) : Session Unit := do
  let url := cn.client.toUrl "vApp" vappId ++ "/action/deploy"
  let response ← cn.client.post "deploy" url MediaType.deployParams deployBody
  if response.isEmpty then cloudFault ("No response deploying vApp " ++ vappId)
  cn.client.waitFor (some response)

end Connection

end ImageCatalog
