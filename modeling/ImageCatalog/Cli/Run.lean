import ImageCatalog.Cli.Program
import ImageCatalog.Config.File
import ImageCatalog.Support
import ImageCatalog.Time.Display
import ImageCatalog.Text.Case
import ImageCatalog.Text.Blank

/-!
# Running the tool

A command line is read (`Command.read`) and then carried out against the
platform. Every task loads the settings file (or the defaults, when no file
is named), applies the environment, opens a connection — whose headers
every later request carries — and then does its work, writing lines to the
standard output.

A fault of the platform, the settings or a listing pattern is reported as
`Error: <message>` on the standard error and ends the run with status 1;
any other fault ends it with status 1 and no message. Usage mistakes end
with status 2, pages shown on request with 0. Removing an image asks for
confirmation unless `--yes` is given: `y`/`yes` goes on, `n`/`no`, an empty
answer or the end of the input aborts (status 1), and anything else is
refused and asked again.
-/

namespace ImageCatalog.Cli

open ImageCatalog.Config ImageCatalog.Remote

/-- What the tool has written to its two streams and the lines of input
still to be read. -/
structure Terminal where
  out : String := ""
  err : String := ""
  typed : List String := []
  deriving Repr, Inhabited

/-- The tool's actions: they write to the terminal, act on the platform and
may end the run early with an exit status. -/
abbrev Tool := ExceptT Nat (StateT Terminal (StateM World))

/-- What a run of the tool wrote and how it ended. -/
structure Outcome where
  exitCode : Nat
  out : String
  err : String
  deriving Repr, BEq, Inhabited

/-- What the tool can see around it: the settings files there are, by path,
and the environment. -/
structure Surroundings where
  files : List (String × String) := []
  env : List (String × String) := []
  deriving Repr, Inhabited

/-- The lines of a typed text: a line ends at `\n`, `\r` or `\r\n`, and a
final line end starts no further line. -/
def typedLines (text : String) : List String :=
  let rec go : List Char → List Char → List String
    | [], cur => if cur.isEmpty then [] else [String.ofList cur.reverse]
    | '\r' :: '\n' :: rest, cur => String.ofList cur.reverse :: go rest []
    | '\r' :: rest, cur => String.ofList cur.reverse :: go rest []
    | '\n' :: rest, cur => String.ofList cur.reverse :: go rest []
    | c :: rest, cur => go rest (c :: cur)
  go text.toList []

namespace Tool

/-- Writes a text to the standard output. -/
def write (text : String) : Tool Unit := modifyThe Terminal fun t => { t with out := t.out ++ text }

/-- Writes a line to the standard output. -/
def say (line : String) : Tool Unit := write (line ++ "\n")

/-- Writes a line to the standard error. -/
def complain (line : String) : Tool Unit := modifyThe Terminal fun t => { t with err := t.err ++ line ++ "\n" }

/-- Ends the run with an exit status. -/
def stop {α : Type} (code : Nat) : Tool α := throw code

/-- Reads a line of input; `none` at the end. -/
def readLine : Tool (Option String) := do
  let t ← getThe Terminal
  match t.typed with
  | l :: rest => set { t with typed := rest }; pure (some l)
  | [] => pure none

/-- Whether the tool reports a fault: faults of the platform, of the
settings and of a listing pattern are reported, others only end the run. -/
def reports : Fault → Bool
  | .cloud _ | .unreadable _ | .badPattern .. | .internal _ | .config _ => true
  | .tooLarge _ | .invalidValue _ | .systemLimit _ => false

/-- Ends the run for a fault, reporting it if the tool reports such
faults. -/
def fail {α : Type} (f : Fault) : Tool α := do
  if reports f then complain ("Error: " ++ f.message)
  stop 1

/-- Goes on with a value, or ends the run for a fault. -/
def expect {α : Type} (x : Except Fault α) : Tool α :=
  match x with
  | .ok a => pure a
  | .error f => fail f

/-- Acts on the platform; a fault ends the run. -/
def platform {α : Type} (x : Session α) : Tool α := do
  let r ← liftM (m := StateM World) x.run
  expect r

/-- Acts on the platform with a capture; a fault ends the run. -/
def capturing {α : Type} (x : CaptureRun α) : Tool α := do
  let (r, _) ← liftM (m := StateM World) (x.run.run {})
  expect r

/-- Asks a yes-or-no question whose answer defaults to no; only a yes goes
on. Each answer is echoed after the prompt. -/
def confirm (question : String) : Nat → Tool Unit
  | 0 => do complain "Aborted!"; stop 1
  | fuel + 1 => do
    write (question ++ " [y/N]: ")
    match ← readLine with
    | none => complain "Aborted!"; stop 1
    | some line =>
      say line
      let answer := Text.lower (Text.trim line)
      if answer == "y" || answer == "yes" then pure ()
      else if answer == "n" || answer == "no" || answer.isEmpty then do complain "Aborted!"; stop 1
      else do
        say "Error: invalid input"
        confirm question fuel

end Tool

/-- The settings the tool runs with: those of the named file with the
environment applied; when no file is named, those of the default file if
there is one, else the defaults with the environment applied. A named file
that does not exist is a fault. -/
def loadSettings (sur : Surroundings) (path : Option String) : Except Fault Settings :=
  match path.filter (!·.isEmpty) with
  | none =>
    match sur.files.lookup Settings.defaultFile with
    | some text => Settings.load text sur.env
    | none => ({} : Settings).applyEnvironment sur.env
  | some p =>
    match sur.files.lookup p with
    | some text => Settings.load text sur.env
    | none => throw (.config ("Config file not found: " ++ p))

/-- The session token the environment gives. -/
def sessionToken (sur : Surroundings) : Option String :=
  (sur.env.lookup "VCIMAGE_AUTH_TOKEN").filter (!·.isEmpty)

/-- Loads the settings and opens a connection. -/
def connect (sur : Surroundings) (values : Values) : Tool Connection := do
  let s ← Tool.expect (loadSettings sur (values.text? "config_path"))
  Tool.platform (Connection.start s (sessionToken sur))

/-- Rows laid out in columns as wide as their widest cell, two spaces
apart. -/
def tableText (title : String) (header : List String) (rows : List (List String)) : List String :=
  let all := header :: rows
  let widths := header.length.fold (fun i _ acc => acc ++ [(all.map fun r => (r.getD i "").length).foldl max 0]) []
  let line (r : List String) := "  ".intercalate ((r.zip widths).map fun (c, w) => c ++ String.ofList (List.replicate (w - c.length) ' '))
  title :: all.map (fun r => (line r).trimAsciiEnd.toString)

/-- The listing of images. -/
def imageTable (title : String) (images : List Image) : List String :=
  tableText title ["ID", "Name", "Owner", "Platform", "Arch", "Created"]
    (images.map fun i => [i.imageId, i.name, i.ownerId, i.platform.name, i.architecture.name, Time.showMinute i.createdAt])

/-- The listing of catalogs. -/
def catalogTable (title : String) (catalogs : List Catalog) : List String :=
  tableText title ["ID", "Name", "Owner", "Published"]
    (catalogs.map fun c => [c.catalogId, c.name.getD "-", c.owner, if c.published then "yes" else "no"])

/-- The filter a name pattern asks for; none for no pattern or an empty
one. -/
def patternFilter (pattern : Option String) : Except Fault (Option ReadyFilter) :=
  match pattern.filter (!·.isEmpty) with
  | none => pure none
  | some p => some <$> ImageFilter.prepare { namePattern := some p }

/-- Shows one image: its fields, its VMs if it has any, and its tags in
order of their keys, without the network configuration. -/
def showImage (img : Image) : Tool Unit := do
  Tool.say ("Image: " ++ img.imageId)
  Tool.say ("  Name: " ++ img.name)
  Tool.say ("  Description: " ++ img.description)
  Tool.say ("  Owner: " ++ img.ownerId)
  Tool.say ("  Region: " ++ img.regionId)
  Tool.say ("  Platform: " ++ img.platform.name)
  Tool.say ("  Architecture: " ++ img.architecture.name)
  Tool.say "  State: active"
  Tool.say ("  Created: " ++ (← Tool.expect (Time.showMinute? img.createdAt)))
  if !img.childVmIds.isEmpty then Tool.say ("  VMs: " ++ ", ".intercalate img.childVmIds)
  let tags := img.tags.mergeSort (fun a b => decide (a.1 ≤ b.1))
  for (k, v) in tags do
    if k != Tag.networkConfig then Tool.say ("  " ++ k ++ ": " ++ v)

/-- Carries out a task with the values given on the command line. -/
def perform (sur : Surroundings) (values : Values) : Task → Tool Unit
  | .listImages => do
    let filter ← Tool.expect (patternFilter (values.text? "name_pattern"))
    let cn ← connect sur values
    let images ← Tool.platform (cn.images filter)
    if images.isEmpty then Tool.say "No images found."
    else
      for l in imageTable "vApp Templates" images do Tool.say l
      Tool.say ("\nTotal: " ++ toString images.length ++ " images")
  | .showImage => do
    let id := (values.text? "image_id").getD ""
    let cn ← connect sur values
    match ← Tool.platform (cn.findImage id) with
    | none => Tool.complain ("Error: No such image: " ++ id); Tool.stop 1
    | some img => showImage img
  | .searchPublic => do
    let filter ← Tool.expect (patternFilter (values.text? "name_pattern"))
    let cn ← connect sur values
    let images ← Tool.platform (cn.publicImages filter)
    if images.isEmpty then Tool.say "No public images found."
    else
      for l in imageTable "Public vApp Templates" images do Tool.say l
      Tool.say ("\nTotal: " ++ toString images.length ++ " images")
  | .capture => do
    let vm := (values.text? "vm_id").getD ""
    let name := (values.text? "name").getD ""
    let cn ← connect sur values
    Tool.say ("Capturing " ++ vm ++ " as '" ++ name ++ "'...")
    let img ← Tool.capturing (cn.captureImage { vmId := vm, name := name, description := values.text? "description" })
    Tool.say ("\n✓ Captured image " ++ img.imageId)
    Tool.say ("  Name: " ++ img.name)
    Tool.say ("  Platform: " ++ img.platform.name)
  | .remove => do
    let id := (values.text? "image_id").getD ""
    if !values.isSet "yes" then
      let pending := (← getThe Terminal).typed.length
      Tool.confirm ("Delete image '" ++ id ++ "'? This action cannot be undone!") (pending + 1)
    let cn ← connect sur values
    Tool.platform (cn.remove id)
    Tool.say ("\n✓ Image '" ++ id ++ "' deleted successfully!")
  | .listCatalogs => do
    let published := values.isSet "published"
    let cn ← connect sur values
    let catalogs ← Tool.platform (cn.catalogs published)
    if catalogs.isEmpty then
      Tool.say ("No " ++ (if published then "public" else "private") ++ " catalogs found.")
    else
      for l in catalogTable (if published then "Public Catalogs" else "Private Catalogs") catalogs do Tool.say l

/-- What the tool does for a command line read as `inv`, invoked as
`prog`. -/
def respond (sur : Surroundings) (prog : String) : Invocation Task → Tool Unit
  | .run task values => perform sur values task
  | .help page => Tool.say page
  | .version => Tool.say (prog ++ ", version " ++ toolVersion)
  | .bareHelp page => do Tool.complain page; Tool.stop 2
  | .usage usageLine path message => do
    Tool.complain usageLine
    Tool.complain ("Try '" ++ path ++ " --help' for help.")
    Tool.complain ""
    Tool.complain ("Error: " ++ message)
    Tool.stop 2

/-- Runs the tool, invoked as `prog`, on the words of a command line with
`typed` as its input. -/
def runTool (sur : Surroundings) (prog : String) (words : List String) (typed : String) : StateM World Outcome := do
  let (r, t) ← ((respond sur prog (toolCommand.read prog words)).run.run { typed := typedLines typed })
  let code := match r with
    | .ok () => 0
    | .error c => c
  pure { exitCode := code, out := t.out, err := t.err }

end ImageCatalog.Cli
