import ImageCatalog.Text.Integer

/-!
# Workloads

A VM as the capture sees it: its power state, the vApp that holds it and
the virtual data center of that vApp. The power state comes from the numeric
status the platform reports; an unknown or unreadable status is `pending`.
-/

namespace ImageCatalog

open ImageCatalog.Text

/-- The power state of a VM. -/
inductive VmState where
  | pending | running | stopped | suspended | error
  deriving BEq, DecidableEq, Repr, Inhabited

/-- The name of a power state. -/
def VmState.name : VmState → String
  | .pending => "pending"
  | .running => "running"
  | .stopped => "stopped"
  | .suspended => "suspended"
  | .error => "error"

/-- The power state of a numeric status code, if the code is known. -/
def VmState.ofCode? : Int → Option VmState
  | -1 => some .error
  | 0 => some .pending
  | 1 => some .stopped
  | 3 => some .suspended
  | 4 => some .running
  | 5 | 6 | 7 => some .pending
  | 8 => some .stopped
  | 9 | 10 => some .pending
  | _ => none

/-- The power state of a status as written: `pending` unless it is an
integer literal of a known code. -/
def VmState.ofStatus (status : Option String) : VmState :=
  match parseInteger? (status.getD "") with
  | some n => (VmState.ofCode? n).getD .pending
  | none => .pending

/-- A VM with its parent vApp and data center, when known. -/
structure Workload where
  workloadId : String
  state : VmState
  parentVappId : Option String
  dataCenterId : Option String
  name : Option String := none
  deriving Repr, BEq, Inhabited

end ImageCatalog
