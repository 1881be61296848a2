import ImageCatalog.Config.Settings
import ImageCatalog.Toml.Reader
import ImageCatalog.Toml.Editor

/-!
# The settings file

Settings live in a TOML file. Loading reads the file's root table, keeps the
known keys (`Settings.ofPairs`) and then lets the environment override them;
a file that cannot be read fails with the reader's message after
`Failed to load config: `, while a bad override keeps its own message.

Saving writes every setting that is set, in field order, into the file's
text as it stands (or into an empty document), through a TOML editor that
keeps the layout of the document (`Toml.Editor`); a file that the editor
cannot take in, or a value that it cannot write, fails after
`Failed to save config: `.
-/

namespace ImageCatalog.Config

namespace Settings

/-- The settings a file's text gives, with the environment applied. -/
def load (text : String) (env : List (String × String)) : Except Fault Settings :=
  match Toml.readTable text with
  | .ok root => (ofPairs root).applyEnvironment env
  | .error e => throw (.config ("Failed to load config: " ++ e.message))

/-- The text of the settings file after saving `s` with the editor `ed` into
`existing` (no file when `none`). -/
def save {D : Type} (s : Settings) (ed : Toml.Editor D) (existing : Option String) : Except Fault String :=
  let failed (m : String) : Fault := .config ("Failed to save config: " ++ m)
  match (existing.map ed.parse).getD (.ok ed.empty) with
  | .error m => throw (failed m)
  | .ok doc =>
    match s.toPairs.foldlM (fun d p => ed.set d p.1 p.2) doc with
    | .ok d => pure (ed.dump d)
    | .error m => throw (failed m)

end Settings

end ImageCatalog.Config
