import ImageCatalog.Cli.Run

/-!
# The command line

The tool's entry point. It reads the settings file that the command line
names (or the default one, under the home directory), the variables of the
environment that settings and sessions read, and the standard input; then
it runs the tool with no platform within reach — every request is answered
`404 Not Found` — and writes what the tool wrote to the two streams before
exiting with its status.
-/

namespace ImageCatalog.Cli

/-- The variables of the environment the tool reads. -/
def variableNames : List String := "VCIMAGE_AUTH_TOKEN" :: Config.Field.all.map Config.Field.envName

/-- The text of a file, if it can be read. -/
def readIfThere (path : String) : IO (Option String) := do
  try
    return some (← IO.FS.readFile path)
  catch _ =>
    return none

/-- The settings files the tool may read for a command line: the one it
names, or else the default file. -/
def settingsFiles (words : List String) : IO (List (String × String)) := do
  let named := match toolCommand.read "vcimage" words with
    | .run _ values => (values.text? "config_path").filter (!·.isEmpty)
    | _ => none
  match named with
  | some p =>
    match ← readIfThere p with
    | some text => return [(p, text)]
    | none => return []
  | none =>
    let home := (← IO.getEnv "HOME").getD ""
    match ← readIfThere (home ++ "/" ++ (Config.Settings.defaultFile.drop 2).toString) with
    | some text => return [(Config.Settings.defaultFile, text)]
    | none => return []

end ImageCatalog.Cli

open ImageCatalog.Cli in
/-- Runs the tool on the command line's words. -/
def main (words : List String) : IO UInt32 := do
  let files ← settingsFiles words
  let mut env : List (String × String) := []
  for n in variableNames do
    if let some v ← IO.getEnv n then env := env ++ [(n, v)]
  let typed ← (← IO.getStdin).readToEnd
  let (o, _) := (runTool { files := files, env := env } "vcimage" words typed).run {}
  IO.print o.out
  IO.eprint o.err
  return o.exitCode.toUInt32
