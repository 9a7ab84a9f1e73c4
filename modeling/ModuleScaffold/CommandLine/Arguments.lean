import ModuleScaffold.Text.Basic

/-!
# Reading the command line

The program has one command, `generate`, with options that may stand before and
behind the name of the module.  A long option takes its value behind an equals
sign or as the next argument, a short one directly behind its letter or as the
next argument, and letters of flags may be written together.  Two hyphens end the
options.  Of several values for one option the last one counts.

Reading ends in an `Invocation`.  Asking for help or for the list of backends
comes before anything else that can be wrong, except for what cannot be read as
options at all.
-/

namespace ModuleScaffold

/-- An option without a value. -/
inductive Flag where
  | help
  | listBackends
  /-- Chooses the backend with repositories of entities. -/
  | typeorm
  | verbose
deriving DecidableEq, Repr

/-- An option with a value. -/
inductive Setting where
  | orm
  | root
  /-- The source directory, seen from the root. -/
  | sourceDirectory
  | aggregator
deriving DecidableEq, Repr

/-- An option. -/
inductive Switch where
  | flag (flag : Flag)
  | setting (setting : Setting)
deriving DecidableEq, Repr

/-- The option with a long spelling. -/
def Switch.ofLong? (t : Text) : Option Switch :=
  [("--help".toList, Switch.flag .help),
    ("--list-backends".toList, .flag .listBackends),
    ("--typeorm".toList, .flag .typeorm),
    ("--verbose".toList, .flag .verbose),
    ("--orm".toList, .setting .orm),
    ("--root".toList, .setting .root),
    ("--src-dir".toList, .setting .sourceDirectory),
    ("--aggregator".toList, .setting .aggregator)].lookup t

/-- The option with a letter. -/
def Switch.ofLetter? : Char → Option Switch
  | 'h' => some (.flag .help)
  | 'l' => some (.flag .listBackends)
  | 'v' => some (.flag .verbose)
  | 'o' => some (.setting .orm)
  | 'r' => some (.setting .root)
  | _ => none

/-- What the arguments of the command say, one by one. -/
inductive Argument where
  | flag (flag : Flag)
  | setting (setting : Setting) (value : Text)
  /-- The name of a module. -/
  | name (t : Text)
deriving DecidableEq, Repr

/-- What one argument says, with the option that takes the next argument as its
value, if there is one. -/
abbrev Argument.Group := List Argument × Option Setting

/-- Reads letters of options that are written together. -/
def Argument.ofLetters? : Text → Option Argument.Group
  | [] => some ([], none)
  | c :: rest =>
    match Switch.ofLetter? c with
    | none => none
    | some (.flag f) =>
      (ofLetters? rest).map fun (arguments, pending) =>
        (.flag f :: arguments, pending)
    | some (.setting s) =>
      if rest = [] then
        some ([], some s)
      else
        some ([.setting s rest], none)

/-- Reads one argument that begins with a hyphen. -/
def Argument.ofOption? (t : Text) : Option Argument.Group :=
  let long := t.takeWhile (· != '=')
  let value? : Option Text :=
    if '=' ∈ t then some (t.drop (long.length + 1)) else none
  match Switch.ofLong? long, value? with
  | some (.setting s), some value => some ([.setting s value], none)
  | some (.setting s), none => some ([], some s)
  | some (.flag f), none => some ([.flag f], none)
  | some (.flag _), some _ => none
  | none, _ =>
    if "--".toList.isPrefixOf t then none else ofLetters? (t.drop 1)

/-- Whether an argument is an option: a hyphen alone is a name. -/
def isOption : Text → Bool
  | '-' :: _ :: _ => true
  | _ => false

/-- Reads the arguments of the command, or fails on an option that is unknown,
has no value, or is a flag with a value. -/
def Argument.readAll? : List Text → Option (List Argument)
  | [] => some []
  | t :: rest =>
    if t = "--" then
      some (rest.map .name)
    else if isOption t then
      match ofOption? t with
      | none => none
      | some (arguments, none) => (readAll? rest).map (arguments ++ ·)
      | some (arguments, some s) =>
        match rest with
        | [] => none
        | value :: others =>
          (readAll? others).map (arguments ++ .setting s value :: ·)
    else
      (readAll? rest).map (.name t :: ·)

/-- What the command is asked to do. -/
structure Options where
  /-- The name of the module as typed. -/
  name : Option Text := none
  orm : Option Text := none
  /-- Whether the backend with repositories of entities is asked for. -/
  typeorm : Bool := false
  root : Option Text := none
  sourceDirectory : Option Text := none
  aggregator : Option Text := none
  /-- Whether each step is reported. -/
  verbose : Bool := false
deriving DecidableEq, Repr

/-- The options after one more argument. -/
def Options.add (o : Options) : Argument → Options
  | .name t => { o with name := some t }
  | .setting .orm value => { o with orm := some value }
  | .setting .root value => { o with root := some value }
  | .setting .sourceDirectory value => { o with sourceDirectory := some value }
  | .setting .aggregator value => { o with aggregator := some value }
  | .flag .typeorm => { o with typeorm := true }
  | .flag .verbose => { o with verbose := true }
  | .flag _ => o

/-- Whether a directory is given by a text with the null character, which no
path can have. -/
def Options.hasNullCharacter (o : Options) : Bool :=
  [o.root, o.sourceDirectory].any fun value => value.any fun t => '\x00' ∈ t

/-- What a command line asks for. -/
inductive Invocation where
  | help
  | listBackends
  | generate (options : Options)
  /-- Nothing that the program does. -/
  | usageError
deriving DecidableEq, Repr

/-- The flag that comes before all else, if it is set: the first one of help and
list. -/
def Argument.urgent? (arguments : List Argument) : Option Flag :=
  arguments.findSome? fun
    | .flag .help => some .help
    | .flag .listBackends => some .listBackends
    | _ => none

/-- Whether an argument is a name. -/
def Argument.isName : Argument → Bool
  | .name _ => true
  | _ => false

/-- What the arguments behind the word `generate` ask for. -/
def Invocation.ofCommandArguments (arguments : List Text) : Invocation :=
  match Argument.readAll? arguments with
  | none => .usageError
  | some arguments =>
    match Argument.urgent? arguments with
    | some .help => .help
    | some _ => .listBackends
    | none =>
      let options := arguments.foldl Options.add {}
      if 1 < arguments.countP Argument.isName ∨ options.hasNullCharacter then
        .usageError
      else
        .generate options

/-- Whether an argument ahead of the command asks for help. -/
def asksForHelp (t : Text) : Bool :=
  t == "--help".toList || (t.drop 1).all (· == 'h')

/-- Reads the options ahead of the command: whether one of them asks for help,
or `help` was asked for already, and what follows them.  Reading fails on any
other option. -/
def readLeading? (help : Bool) : List Text → Option (Bool × List Text)
  | [] => some (help, [])
  | t :: rest =>
    if t = "--" then
      some (help, rest)
    else if isOption t then
      if asksForHelp t then readLeading? true rest else none
    else
      some (help, t :: rest)

/-- Whether the options at the beginning of a command line ask for help, and
nothing is wrong with them. -/
def leadsWithHelp (arguments : List Text) : Bool :=
  (readLeading? false arguments).any Prod.fst

/-- What a command line asks for.  Two hyphens end the options ahead of the
command, but what follows them and does not begin with a command is read for a
request for help once more. -/
def Invocation.ofArguments (arguments : List Text) : Invocation :=
  match readLeading? false arguments with
  | none => .usageError
  | some (true, _) => .help
  | some (false, rest) =>
    match rest with
    | [] => .usageError
    | command :: others =>
      if command = "generate" then
        ofCommandArguments others
      else if leadsWithHelp rest then
        .help
      else
        .usageError

end ModuleScaffold
