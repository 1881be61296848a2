import ImageCatalog.Cli.Command
import ImageCatalog.Cli.Suggest
import ImageCatalog.Text.Quote

/-!
# Reading a command line

The words of a command line are read command by command, from the root of
the tree. At each command:

* options come first; a word `--` ends them, `--name=value` gives a value
  in the same word, a word that starts with one dash and is no long option
  is a run of single-letter options, and an unknown long option fails with
  the close names as a suggestion (`Suggest.closeMatches`);
* a group stops reading options at its first other word, which names the
  next command; a leaf reads options everywhere and gives its other words
  to its arguments in order;
* then the parameters are settled: the options that show help or the
  version first, then the rest in the order they were first given, then in
  the order they are declared. The first that shows a page or is missing
  decides; words left over after a leaf's arguments are an error last.

The result is an `Invocation`: a task with its values, a page to show, or a
usage error with the command it concerns.
-/

namespace ImageCatalog.Cli

/-- A value given on the command line: a word, or a flag that was set. -/
inductive Given where
  | text (value : String)
  | set
  deriving Repr, BEq, Inhabited

/-- The values given on the way to a task, by key; a later value replaces
an earlier one. -/
abbrev Values := List (String × Given)

namespace Values

/-- The values with `k` given as `g`. -/
def put (vs : Values) (k : String) (g : Given) : Values := vs.filter (·.1 != k) ++ [(k, g)]

/-- The word given for `k`. -/
def text? (vs : Values) (k : String) : Option String :=
  match vs.lookup k with
  | some (.text s) => some s
  | _ => none

/-- Whether the flag `k` was set. -/
def isSet (vs : Values) (k : String) : Bool := vs.lookup k == some .set

end Values

/-- What reading a command line asks for. -/
inductive Invocation (τ : Type) where
  /-- Run a task with the values given. -/
  | run (task : τ) (values : Values)
  /-- Show a help page and succeed. -/
  | help (page : String)
  /-- Show the program's version and succeed. -/
  | version
  /-- Show a group's help page as an error: the group was given no words. -/
  | bareHelp (page : String)
  /-- A usage error of the command reached by `path`, with its usage line. -/
  | usage (usageLine path message : String)
  deriving Inhabited

/-- The dash prefix of an option name (`--`, `-` or none) and the rest. -/
def splitOption (w : String) : String × String :=
  match w.toList with
  | [] => ("", "")
  | c :: rest =>
    if c.isAlphanum then ("", w)
    else match rest with
      | d :: more => if d == c then (String.ofList [c, c], String.ofList more) else (String.singleton c, String.ofList rest)
      | [] => (String.singleton c, "")

/-- Whether an option name is a single letter after a single dash. -/
def isShortName (n : String) : Bool :=
  let (p, v) := splitOption n
  p.length == 1 && v.length == 1

/-- A mistake in a command line. -/
inductive Problem where
  /-- An option no command has; `close` are the names that resemble it. -/
  | noSuchOption (name : String) (close : List String)
  | needsValue (name : String)
  | takesNoValue (name : String)
  | missingOption (names : List String)
  | missingArgument (metavar : String)
  | extraArguments (words : List String)
  | noSuchCommand (word : String)
  | missingCommand
  deriving Repr, BEq, Inhabited

/-- The message of a mistake. -/
def Problem.message : Problem → String
  | .noSuchOption n close =>
    "No such option: " ++ n ++ match close with
      | [] => ""
      | [one] => " Did you mean " ++ one ++ "?"
      | many => " (Possible options: " ++ ", ".intercalate many ++ ")"
  | .needsValue n => "Option " ++ Text.quote n ++ " requires an argument."
  | .takesNoValue n => "Option " ++ Text.quote n ++ " does not take a value."
  | .missingOption ns => "Missing option " ++ " / ".intercalate (ns.map ("'" ++ · ++ "'")) ++ "."
  | .missingArgument m => "Missing argument '" ++ m ++ "'."
  | .extraArguments ws =>
    (if ws.length == 1 then "Got unexpected extra argument (" else "Got unexpected extra arguments (") ++
      " ".intercalate ws ++ ")"
  | .noSuchCommand w => "No such command " ++ Text.quote w ++ "."
  | .missingCommand => "Missing command."

/-- Why reading stops before a task runs. -/
inductive Stop where
  | help
  | version
  | problem (p : Problem)
  deriving Repr, BEq, Inhabited

/-- The state of reading one command's words: the words still to read, the
words that are not options, the values given and the keys in the order
they were given. -/
structure Reading where
  rest : List String
  loose : List String := []
  values : Values := []
  order : List String := []
  deriving Repr, Inhabited

namespace Reading

/-- Records a value for an option. -/
def give (r : Reading) (o : Opt) (g : Given) : Reading :=
  { r with values := r.values.put o.key g, order := r.order ++ [o.key] }

/-- Takes the value of an option that needs one. -/
def takeValue (r : Reading) (name : String) : Except Stop (String × Reading) :=
  match r.rest with
  | v :: more => pure (v, { r with rest := more })
  | [] => throw (.problem (.needsValue name))

end Reading

/-- Whether an option takes a value. -/
def Opt.takesValue (o : Opt) : Bool :=
  match o.kind with
  | .value .. => true
  | _ => false

/-- The options of a list that carry a name. -/
def optionNamed (opts : List Opt) (n : String) : Option Opt := opts.find? (·.names.contains n)

/-- The long names of a list of options, in order. -/
def longNames (opts : List Opt) : List String :=
  opts.flatMap fun o => o.names.filter (!isShortName ·)

/-- Reads a long option, maybe with a value after `=`. -/
def readLong (opts : List Opt) (name : String) (attached : Option String) (r : Reading) : Except Stop Reading :=
  match (optionNamed opts name).filter (fun _ => !isShortName name) with
  | none => throw (.problem (.noSuchOption name (closeMatches name (longNames opts))))
  | some o =>
    if o.takesValue then do
      let r := match attached with
        | some v => { r with rest := v :: r.rest }
        | none => r
      let (v, r) ← r.takeValue name
      pure (r.give o (.text v))
    else if attached.isSome then
      throw (.problem (.takesNoValue name))
    else pure (r.give o .set)

/-- Reads a run of single-letter options after the dash `dash`; an option
that takes a value takes the rest of the run, or the next word. -/
def readShort (opts : List Opt) (dash : Char) : List Char → Reading → Except Stop Reading
  | [], r => pure r
  | c :: more, r =>
    let name := String.ofList [dash, c]
    match (optionNamed opts name).filter (fun _ => isShortName name) with
    | none => throw (.problem (.noSuchOption name []))
    | some o =>
      if o.takesValue then do
        let r := if more.isEmpty then r else { r with rest := String.ofList more :: r.rest }
        let (v, r) ← r.takeValue name
        pure (r.give o (.text v))
      else readShort opts dash more (r.give o .set)

/-- The dash prefixes the options of a list use. -/
def prefixes (opts : List Opt) : List String :=
  opts.flatMap fun o => o.names.map (splitOption · |>.1)

/-- Reads a word that starts with a dash: as a long option, else (if it
does not start with a two-character prefix) as a run of short ones. -/
def readOptionWord (opts : List Opt) (w : String) (r : Reading) : Except Stop Reading :=
  let (name, attached) := match w.splitOn "=" with
    | n :: v :: vs => (n, some ("=".intercalate (v :: vs)))
    | _ => (w, none)
  match readLong opts name attached r with
  | .error (.problem (.noSuchOption n close)) =>
    if !(prefixes opts).contains (String.ofList (w.toList.take 2)) then
      match w.toList with
      | d :: cs => readShort opts d cs r
      | [] => .error (.problem (.noSuchOption n close))
    else .error (.problem (.noSuchOption n close))
  | other => other

/-- Reads the options among the words; `anywhere` lets options follow
other words, otherwise the first other word ends the options. -/
def readOptions (opts : List Opt) (anywhere : Bool) : Nat → Reading → Except Stop Reading
  | 0, r => pure r
  | fuel + 1, r =>
    match r.rest with
    | [] => pure r
    | w :: more =>
      let r := { r with rest := more }
      if w == "--" then pure r
      else if w.length > 1 && (prefixes opts).contains (String.ofList (w.toList.take 1)) then do
        let r ← readOptionWord opts w r
        readOptions opts anywhere fuel r
      else if anywhere then readOptions opts anywhere fuel { r with loose := r.loose ++ [w] }
      else pure { r with rest := w :: more }

/-- Whether a parameter shows a page when given. -/
def Param.isEager : Param → Bool
  | .option o => o.kind == .help || o.kind == .version
  | .argument .. => false

/-- The key of a parameter. -/
def Param.key : Param → String
  | .option o => o.key
  | .argument k _ => k

/-- The parameters in the order they are settled: eager ones first, each
part by the position the key was first given at (declaration order for
those not given). -/
def settleOrder (params : List Param) (order : List String) : List Param :=
  let byGiven (ps : List Param) := ps.mergeSort (fun a b => order.idxOf a.key ≤ order.idxOf b.key)
  byGiven (params.filter Param.isEager) ++ byGiven (params.filter (!·.isEager))

/-- Settles one parameter: a page to show, a missing value, or nothing. -/
def settleOne (values : Values) : Param → Except Stop Unit
  | .option o =>
    match o.kind with
    | .help => if values.isSet o.key then throw .help else pure ()
    | .version => if values.isSet o.key then throw .version else pure ()
    | .value _ true =>
      if (values.lookup o.key).isNone then
        throw (.problem (.missingOption o.names))
      else pure ()
    | _ => pure ()
  | .argument k m =>
    if (values.lookup k).isNone then throw (.problem (.missingArgument m)) else pure ()

/-- Reads a command's own words: its options, then its arguments, then
settles its parameters. Gives the values and the words left over. -/
def readCommand {τ : Type} (c : Command τ) (anywhere : Bool) (words : List String) :
    Except Stop (Values × List String) := do
  let r ← readOptions c.options anywhere (words.length + 1) { rest := words }
  let positional := r.loose ++ r.rest
  let args : List (String × String) := c.arguments
  let r := (args.zip positional).foldl (fun (r : Reading) (kw : (String × String) × String) =>
    { r with values := r.values.put kw.1.1 (.text kw.2) }) r
  let r := { r with order := r.order ++ args.map Prod.fst }
  (settleOrder c.params r.order).forM (settleOne r.values)
  pure (r.values, positional.drop args.length)

/-- Reads the words given to command `c`, reached by `path`, with the
values given on the way. -/
def readFrom {τ : Type} : Nat → Command τ → String → List String → Values → Invocation τ
  | 0, c, path, _, _ => .usage (c.usageLine path) path Problem.missingCommand.message
  | fuel + 1, c, path, words, given =>
    let stopped (s : Stop) : Invocation τ := match s with
      | .help => .help (c.helpPage path)
      | .version => .version
      | .problem p => .usage (c.usageLine path) path p.message
    let join (vs : Values) := vs.foldl (fun acc (k, g) => acc.put k g) given
    match c with
    | .leaf _ _ _ task =>
      match readCommand c true words with
      | .error s => stopped s
      | .ok (vs, []) => .run task (join vs)
      | .ok (_, extra) => stopped (.problem (.extraArguments extra))
    | .group _ _ _ bare _ =>
      if bare == .needsCommand && words.isEmpty then .bareHelp (c.helpPage path)
      else match readCommand c false words with
        | .error s => stopped s
        | .ok (_, []) => if bare == .showsHelp then .help (c.helpPage path) else stopped (.problem .missingCommand)
        | .ok (vs, w :: more) =>
          match c.subcommand? w with
          | some sub => readFrom fuel sub (path ++ " " ++ w) more (join vs)
          | none =>
            let unknown := Stop.problem (.noSuchCommand w)
            -- a word that looks like an option is read again as one of the group's own
            if (splitOption w).1.isEmpty then stopped unknown
            else match readCommand c false (w :: more) with
              | .error s => stopped s
              | .ok _ => stopped unknown

/-- Reads a command line for the program `root`, invoked as `prog`. -/
def Command.read {τ : Type} (root : Command τ) (prog : String) (words : List String) : Invocation τ :=
  readFrom (words.length + 2) root prog words []

end ImageCatalog.Cli
