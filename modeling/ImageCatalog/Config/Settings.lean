import ImageCatalog.Config.Value
import ImageCatalog.Fault
import ImageCatalog.Text.Blank
import ImageCatalog.Text.Case
import ImageCatalog.Text.Integer

/-!
# Settings

The settings of a session with the platform: where it is (`endpoint`), which
organization (`orgId`, also the region) and account, the protocol version,
certificate checking, the form of identifiers, cache lifetimes and polling
periods.

* `Settings.ofPairs` keeps the known keys of a record and ignores the rest;
  `Settings.toPairs` lists the settings that are set, in field order.
* `Settings.applyEnvironment` lets variables named `VCIMAGE_<KEY>` override
  a setting; the kind of the current value decides how the text is read
  (a truth value from `1`, `true` or `yes`, an integer as integers are
  written, anything else as the text itself).
* `Settings.validate` insists on an endpoint and an organization.
* `Settings.accountNumber` is the account, or the organization when no
  account is given.
-/

namespace ImageCatalog.Config

/-- A setting, by its key. -/
inductive Field where
  | endpoint | orgId | account | apiVersion | verifySsl | compat
  | catalogTtlMinutes | imageListTtlMinutes | captureTimeoutMinutes | capturePollSeconds
  | taskPollSeconds | taskTimeoutMinutes | requestTimeoutSeconds
  deriving BEq, DecidableEq, Repr, Inhabited

namespace Field

/-- Every setting, in the order they are listed and written. -/
def all : List Field :=
  [.endpoint, .orgId, .account, .apiVersion, .verifySsl, .compat, .catalogTtlMinutes,
   .imageListTtlMinutes, .captureTimeoutMinutes, .capturePollSeconds, .taskPollSeconds,
   .taskTimeoutMinutes, .requestTimeoutSeconds]

/-- The key of a setting in files and records. -/
def key : Field → String
  | .endpoint => "endpoint"
  | .orgId => "org_id"
  | .account => "account"
  | .apiVersion => "api_version"
  | .verifySsl => "verify_ssl"
  | .compat => "compat"
  | .catalogTtlMinutes => "catalog_ttl_minutes"
  | .imageListTtlMinutes => "image_list_ttl_minutes"
  | .captureTimeoutMinutes => "capture_timeout_minutes"
  | .capturePollSeconds => "capture_poll_seconds"
  | .taskPollSeconds => "task_poll_seconds"
  | .taskTimeoutMinutes => "task_timeout_minutes"
  | .requestTimeoutSeconds => "request_timeout_seconds"

/-- The value a setting has when nothing sets it. -/
def default : Field → Value
  | .endpoint | .orgId | .account => .none
  | .apiVersion => .str "5.1"
  | .verifySsl => .bool true
  | .compat => .bool false
  | .catalogTtlMinutes => .int 30
  | .imageListTtlMinutes => .int 6
  | .captureTimeoutMinutes => .int 10
  | .capturePollSeconds => .int 15
  | .taskPollSeconds => .int 5
  | .taskTimeoutMinutes => .int 60
  | .requestTimeoutSeconds => .int 60

/-- The setting with a given key. -/
def ofKey? (k : String) : Option Field := all.find? (·.key == k)

/-- The environment variable that overrides a setting. -/
def envName (f : Field) : String := "VCIMAGE_" ++ Text.upperAscii f.key

end Field

/-- The values of all settings, in field order. -/
structure Settings where
  values : List (Field × Value) := Field.all.map fun f => (f, f.default)
  deriving Repr, Inhabited

namespace Settings

/-- The value of a setting. -/
def get (s : Settings) (f : Field) : Value :=
  match s.values.find? (·.1 == f) with
  | some (_, v) => v
  | none => f.default

/-- Sets one setting. -/
def set (s : Settings) (f : Field) (v : Value) : Settings :=
  { values := Field.all.map fun g => (g, if g == f then v else s.get g) }

/-- The settings given by a record: known keys are kept, others ignored. -/
def ofPairs (pairs : List (String × Value)) : Settings :=
  pairs.foldl (fun s (k, v) =>
    match Field.ofKey? k with
    | some f => s.set f v
    | none => s) {}

/-- The settings that are set, in field order, with their keys. -/
def toPairs (s : Settings) : List (String × Value) :=
  Field.all.filterMap fun f =>
    let v := s.get f
    if v.isNone then none else some (f.key, v)

/-- Whether a text turns a truth-valued setting on. -/
def enables (raw : String) : Bool :=
  let t := Text.lower (Text.trim raw)
  t == "1" || t == "true" || t == "yes"

/-- A setting's value read from the text of its variable. -/
def readOverride (f : Field) (current : Value) (raw : String) : Except Fault Value :=
  match current with
  | .bool _ => pure (.bool (enables raw))
  | .int _ =>
    match Text.parseInteger? raw with
    | some n => pure (.int n)
    | none => throw (.config ("Invalid value for " ++ f.envName ++ ": " ++ raw))
  | _ => pure (.str raw)

/-- The settings with the variable of `env` that overrides `f` applied, if
there is one. -/
def applyOverride (env : List (String × String)) (acc : Settings) (f : Field) :
    Except Fault Settings :=
  match env.find? (·.1 == f.envName) with
  | some (_, raw) => do
    let v ← readOverride f (acc.get f) raw
    pure (acc.set f v)
  | none => pure acc

/-- The settings with every overriding variable of `env` applied. -/
def applyEnvironment (s : Settings) (env : List (String × String)) : Except Fault Settings :=
  Field.all.foldlM (applyOverride env) s

/-- The file the settings live in, as messages name it. -/
def defaultFile : String := "~/.vcimage/config.toml"

/-- Refuses settings without an endpoint or an organization. -/
def validate (s : Settings) : Except Fault Unit :=
  let missing := [Field.endpoint, Field.orgId].filter fun f => !(s.get f).truthy
  if missing.isEmpty then pure ()
  else
    throw (.config ("Missing required configuration: " ++ ", ".intercalate (missing.map Field.key) ++
      ". Set them in " ++ defaultFile ++ " or via " ++
      ", ".intercalate (missing.map Field.envName) ++ "."))

/-- The account a session acts for: the account if given, else the
organization. -/
def accountNumber (s : Settings) : Value :=
  let a := s.get .account
  if a.truthy then a else s.get .orgId

end Settings

end ImageCatalog.Config
