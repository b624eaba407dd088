import Manuscript.Page.Format
import Manuscript.Text.Split

/-!
# The command line

The program has three commands: `build` writes the output of a project, `dump` shows the compiled
stream, and `tags` shows the tag table. Every command takes the project's folder and options of its
own, and `--verbose` may stand in front of the command too. Arguments are read from left to right;
the first that cannot be used makes the whole line unusable, and the first that asks for help or the
version is answered at once. Behind two hyphens everything is taken as it stands.
-/

namespace Manuscript.Cli

/-- The forms in which a result is shown. -/
inductive Form where
  | human
  | json
  deriving DecidableEq, Repr

/-- Reads the exact name of a form. -/
def Form.ofText? (s : String) : Option Form :=
  if s = "human" then some .human else if s = "json" then some .json else none

/-- What the program is asked to do. -/
inductive Command where
  /-- Build formats, all if none is named. -/
  | build (project : String) (formats : List Format) (settings : Option String)
  | dump (project : String) (form : Form)
  | tags (project : String) (form : Form) (settings : Option String)
  deriving DecidableEq, Repr

/-- Why there is no command to carry out. -/
inductive Stop where
  /-- The arguments cannot be used. -/
  | usage
  | help
  | version
  deriving DecidableEq, Repr

/-- The options of the commands. -/
inductive Opt where
  | verbose
  | help
  | format (f : Format)
  /-- The settings file, which is a value. -/
  | settings
  /-- The form of the result, which is a value. -/
  | form
  deriving DecidableEq, Repr

/-- The kinds of commands. -/
inductive Kind where
  | build
  | dump
  | tags
  deriving DecidableEq, Repr

namespace Kind

/-- Reads the exact name of a command. -/
def ofText? (s : String) : Option Kind :=
  if s = "build" then some build
  else if s = "dump" then some dump
  else if s = "tags" then some tags
  else none

/-- The long option with a name. -/
def long? (k : Kind) (name : String) : Option Opt :=
  if name = "verbose" then some .verbose
  else if name = "help" then some .help
  else if name = "config" then (if k = dump then none else some .settings)
  else if name = "format" then (if k = build then none else some .form)
  else if k = build then (Format.all.find? fun f ↦ f.name = name).map .format
  else none

/-- The short option with a letter, which is the first of a format's name. -/
def short? (k : Kind) (c : Char) : Option Opt :=
  if c = 'v' then some .verbose
  else if c = 'h' then some .help
  else if k = build then (Format.all.find? fun f ↦ f.name.toList.head? = some c).map .format
  else none

end Kind

/-- The arguments of a command as far as they are read. -/
structure Parsed where
  /-- The options without a value. -/
  flags : List Opt
  settings : Option String
  form : Option Form
  project : Option String
  deriving DecidableEq, Repr

namespace Parsed

/-- Nothing read. -/
def none : Parsed := ⟨[], .none, .none, .none⟩

/-- Adds an option without a value, which must not be there yet. -/
def addFlag (p : Parsed) (o : Opt) : Except Stop Parsed :=
  if o = .help then .error .help
  else if o ∈ p.flags then .error .usage
  else .ok { p with flags := o :: p.flags }

/-- Adds the short options of one argument. -/
def addShort (k : Kind) : Parsed → List Char → Except Stop Parsed
  | p, [] => .ok p
  | p, c :: cs =>
    match k.short? c with
    | some o => do addShort k (← p.addFlag o) cs
    | .none => .error .usage

/-- Whether an option has a value. -/
def takesValue (o : Opt) : Bool :=
  o = .settings || o = .form

/-- Adds an option with its value. The value of the settings must not be empty. -/
def addValue (p : Parsed) (o : Opt) (value : String) : Except Stop Parsed :=
  match o with
  | .settings =>
    if p.settings.isSome || value = "" then .error .usage
    else .ok { p with settings := some value }
  | .form =>
    match p.form, Form.ofText? value with
    | .none, some form => .ok { p with form := some form }
    | _, _ => .error .usage
  | _ => .error .usage

/-- Adds an argument that is no option: the project, which must not be empty. -/
def addPositional (p : Parsed) (arg : String) : Except Stop Parsed :=
  if p.project.isSome || arg = "" then .error .usage else .ok { p with project := some arg }

/-- Adds arguments as they stand. -/
def addPositionals (p : Parsed) (args : List String) : Except Stop Parsed :=
  args.foldlM addPositional p

end Parsed

/-- Whether an argument looks like an option. A single hyphen does not. -/
def looksLikeOption (arg : String) : Bool :=
  arg ≠ "-" && (Text.afterPrefix? "-" arg).isSome

/-- Adds a long option, given its name and the value behind its sign. -/
def addLong (k : Kind) (p : Parsed) (name : String) (value : Option String) : Except Stop Parsed :=
  match k.long? name, value with
  | some o, some value => p.addValue o value
  | some o, none => if Parsed.takesValue o then .error .usage else p.addFlag o
  | none, _ => .error .usage

/-- The option that takes the next argument as its value, if an argument is such an option. -/
def openOption? (k : Kind) (arg : String) : Option Opt :=
  ((Text.afterPrefix? "--" arg).bind k.long?).filter Parsed.takesValue

/-- Adds one argument that does not take the next one. -/
def addArg (k : Kind) (p : Parsed) (arg : String) : Except Stop Parsed :=
  match Text.afterPrefix? "--" arg with
  | some long =>
    match Text.splitOnce "=" long with
    | some (name, value) => addLong k p name (some value)
    | none => addLong k p long none
  | none =>
    if looksLikeOption arg then p.addShort k (arg.toList.drop 1) else p.addPositional arg

/-- Adds arguments from left to right. -/
def addArgs (k : Kind) : Parsed → List String → Except Stop Parsed
  | p, [] => .ok p
  | p, [arg] => if arg = "--" then .ok p else addArg k p arg
  | p, arg :: next :: rest =>
    if arg = "--" then p.addPositionals (next :: rest)
    else
      match openOption? k arg with
      | some o =>
        if looksLikeOption next then .error .usage
        else do addArgs k (← p.addValue o next) rest
      | none => do addArgs k (← addArg k p arg) (next :: rest)

/-- The command that the arguments of a kind of command spell. -/
def Parsed.command (p : Parsed) (k : Kind) : Command :=
  let project := p.project.getD "."
  let form := p.form.getD .human
  match k with
  | .build => .build project (Format.all.filter fun f ↦ .format f ∈ p.flags) p.settings
  | .dump => .dump project form
  | .tags => .tags project form p.settings

/-- Reads short options in front of the command, and says whether `-v` is among them or was
before. -/
def leadingShort (verbose : Bool) : List Char → Except Stop Bool
  | [] => .ok verbose
  | c :: cs =>
    if c = 'v' then (if verbose then .error .usage else leadingShort true cs)
    else if c = 'h' then .error .help
    else if c = 'V' then .error .version
    else .error .usage

/-- Reads an option in front of the command. -/
def leadingOption (verbose : Bool) (arg : String) : Except Stop Bool :=
  match Text.afterPrefix? "--" arg with
  | some name =>
    if name = "verbose" then leadingShort verbose ['v']
    else if name = "help" then .error .help
    else if name = "version" then .error .version
    else .error .usage
  | none => leadingShort verbose (arg.toList.drop 1)

/-- What is asked for behind the word `help`: nothing, or one command. -/
def helpOn (topics : List String) : Stop :=
  match topics with
  | [] => .help
  | [topic] => if topic = "help" ∨ (Kind.ofText? topic).isSome then .help else .usage
  | _ => .usage

/-- Reads the arguments in front of the command, and then the command. -/
def parseFrom (verbose : Bool) : List String → Except Stop Command
  | [] => .error .usage
  | arg :: rest =>
    if looksLikeOption arg then do parseFrom (← leadingOption verbose arg) rest
    else if arg = "help" then .error (helpOn rest)
    else
      match Kind.ofText? arg with
      | some k => (addArgs k .none rest).map fun p ↦ p.command k
      | none => .error .usage

/-- Reads the arguments of the program. -/
def parse (args : List String) : Except Stop Command :=
  parseFrom false args

end Manuscript.Cli
