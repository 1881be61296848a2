import ImageCatalog.Cli.Wrap

/-!
# Commands

A program's command line is a tree of commands. A group holds other
commands and takes the first word that is not an option as the name of one
of them; a leaf names a task of the program. Every command has options
(`--name VALUE`, flags, and the options that show help or the version) and
a leaf may have arguments, one word each, all required.

Every command also has `-h`/`--help`, which shows its help page: the usage
line, the description (`Wrap.layoutText`), the options with their help and,
for a group, its commands with the first sentence of theirs.
-/

namespace ImageCatalog.Cli

/-- What an option does. -/
inductive OptionKind where
  /-- Takes a value; `required` options must be given. -/
  | value (metavar : String) (required : Bool)
  /-- Is set by being given. -/
  | flag
  /-- Shows the help page and stops. -/
  | help
  /-- Shows the program's version and stops. -/
  | version
  deriving Repr, BEq, Inhabited

/-- An option: the key its value is kept under, its names as written
(`--verbose`, `-v`), what it does and its help. -/
structure Opt where
  key : String
  names : List String
  kind : OptionKind
  help : String
  deriving Repr, Inhabited

/-- A parameter of a command. -/
inductive Param where
  | option (o : Opt)
  /-- An argument: one word, required, shown as `metavar`. -/
  | argument (key : String) (metavar : String)
  deriving Repr, Inhabited

/-- What a group does when it is given no command. -/
inductive Bare where
  /-- It shows its help page and succeeds. -/
  | showsHelp
  /-- Given no words at all it shows its help page as an error; given only
  options it fails for want of a command. -/
  | needsCommand
  deriving Repr, BEq, Inhabited

/-- A command of a tree whose leaves name tasks of type `τ`. -/
inductive Command (τ : Type) where
  | group (name help : String) (params : List Param) (bare : Bare) (commands : List (Command τ))
  | leaf (name help : String) (params : List Param) (task : τ)
  deriving Inhabited

namespace Command

variable {τ : Type}

/-- The name of a command. -/
def name : Command τ → String
  | .group n .. => n
  | .leaf n .. => n

/-- The description of a command. -/
def help : Command τ → String
  | .group _ h .. => h
  | .leaf _ h .. => h

/-- The help option every command has. -/
def helpOption : Opt :=
  { key := "help", names := ["--help", "-h"], kind := .help, help := "Show this message and exit." }

/-- The parameters of a command, the help option last. -/
def params : Command τ → List Param
  | .group _ _ ps .. => ps ++ [.option helpOption]
  | .leaf _ _ ps _ => ps ++ [.option helpOption]

/-- The options of a command, in order. -/
def options (c : Command τ) : List Opt :=
  c.params.filterMap fun | .option o => some o | .argument .. => none

/-- The arguments of a command, in order: keys and metavars. -/
def arguments (c : Command τ) : List (String × String) :=
  c.params.filterMap fun | .argument k m => some (k, m) | .option _ => none

/-- The subcommands of a group, by name. -/
def subcommand? (c : Command τ) (word : String) : Option (Command τ) :=
  match c with
  | .group _ _ _ _ cs => cs.find? (·.name == word)
  | .leaf .. => none

/-- The usage of a command after its path: `[OPTIONS]`, then its arguments
or, for a group, `COMMAND [ARGS]...`. -/
def usageTail (c : Command τ) : String :=
  match c with
  | .group .. => "[OPTIONS] COMMAND [ARGS]..."
  | .leaf .. => " ".intercalate ("[OPTIONS]" :: c.arguments.map (·.2))

/-- The usage line of a command reached by `path`. -/
def usageLine (c : Command τ) (path : String) : String :=
  "Usage: " ++ path ++ " " ++ c.usageTail

end Command

/-- The names of an option as its help shows them: single-dash names
first. -/
def Opt.shownNames (o : Opt) : String :=
  let dashes (n : String) : Nat := if n.startsWith "--" then 2 else if n.startsWith "-" then 1 else 0
  let sorted := o.names.mergeSort (fun a b => dashes a ≤ dashes b)
  ", ".intercalate sorted

/-- An option's row in a help page. -/
def Opt.row (o : Opt) : String × String :=
  match o.kind with
  | .value m required => (o.shownNames ++ " " ++ m, if required then o.help ++ "  [required]" else o.help)
  | _ => (o.shownNames, o.help)

/-- The width of help pages. -/
def pageWidth : Nat := 78

namespace Command

variable {τ : Type}

/-- The help page of a command reached by `path`, without a final line
break. -/
def helpPage (c : Command τ) (path : String) : String :=
  let description := if c.help.isEmpty then "" else "\n" ++ layoutText pageWidth 2 c.help ++ "\n"
  let optionRows := c.options.map Opt.row
  let optionPart := "\nOptions:\n" ++ columns pageWidth 2 optionRows
  let commandPart := match c with
    | .group _ _ _ _ cs =>
      if cs.isEmpty then ""
      else
        let sorted := cs.mergeSort (fun a b => decide (a.name ≤ b.name))
        let widest := (sorted.map (·.name.length)).foldl max 0
        let limit := pageWidth - 6 - widest
        "\nCommands:\n" ++ columns pageWidth 2 (sorted.map fun s => (s.name, (shortHelp s.help limit).trimAscii.toString))
    | .leaf .. => ""
  let page := c.usageLine path ++ "\n" ++ description ++ optionPart ++ commandPart
  String.ofList (page.toList.reverse.dropWhile (· == '\n')).reverse

end Command

end ImageCatalog.Cli
