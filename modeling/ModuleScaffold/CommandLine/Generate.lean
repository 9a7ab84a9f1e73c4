import ModuleScaffold.Aggregator.Patch
import ModuleScaffold.CommandLine.Arguments
import ModuleScaffold.CommandLine.Lines
import ModuleScaffold.ModuleDirectory

/-!
# The command

A run generates the directory of a module and registers the module, and ends
with an exit code.  A refusal while the directory is written ends the run; once
the directory is complete, a refusal to update the root module is only reported,
together with what is left to do by hand.
-/

namespace ModuleScaffold

/-- The exit code of a run. -/
abbrev ExitCode := Nat

/-- The settings that may come from outside the command line. -/
structure Environment where
  root : Option Text := none
  sourceDirectory : Option Text := none

/-- A value from outside the command line.  An empty one counts as none. -/
def Environment.nonempty (value : Option Text) : Option Text :=
  value.filter (· ≠ [])

/-- The backend that the options choose, or the name that is none. -/
def Options.backend (o : Options) : Except Text Backend :=
  match o.orm with
  | none => .ok (if o.typeorm then .typeorm else .prisma)
  | some orm =>
    match Backend.ofValue? orm with
    | none => .error orm
    | some backend => .ok (if o.typeorm then .typeorm else backend)

/-- The configuration that options and environment give; the root is
`currentDirectory` unless they name another. -/
def Options.config (o : Options) (environment : Environment) (backend : Backend)
    (currentDirectory : Path) : Config where
  root :=
    match o.root <|> Environment.nonempty environment.root with
    | none => currentDirectory
    | some root => .ofText root
  sourceDirectory :=
    .ofText <|
      (o.sourceDirectory <|>
        Environment.nonempty environment.sourceDirectory).getD
          defaultSourceDirectory
  aggregator := o.aggregator.getD defaultAggregator
  backend := backend

variable {m : Type → Type} [Monad m] [MonadExceptOf Failure m] [FileAccess m]
  [Reporting m]

/-- Prints lines one after the other as they stand. -/
def sayAll (lines : List Text) : m Unit :=
  (lines.map Line.plain).forM Reporting.say

/-- The result of an action, or its failure. -/
def attempt {α : Type} (action : m α) : m (Except Failure α) :=
  tryCatch (Except.ok <$> action) fun failure => return .error failure

/-- Registers a module and reports what became of it.  A refusal is reported
too.  Printing the report is no part of what may be refused. -/
def reportRegistration (config : Config) (n : ModuleName) : m Unit := do
  match ← attempt (patch config.aggregatorPath n) with
  | .ok outcome => (Lines.registered config n outcome).forM Reporting.say
  | .error (.refused cause path) =>
    sayAll (Lines.updateFailed config n (.refused cause path))
  | .error failure => throw failure

/-- Generates a module in its directory and registers it. -/
def generateModule (config : Config) (n : ModuleName) : m ExitCode := do
  let target := config.targetDirectory n
  if ← FileAccess.isThere target then
    sayAll (Lines.targetExists target)
    return 1
  let artifacts := buildArtifacts config.backend n
  Reporting.note (.rendered artifacts.length n.pascal config.backend)
  sayAll (Lines.heading n config.backend)
  match ← attempt (materialize target artifacts) with
  | .ok filenames =>
    sayAll (Lines.created filenames config.backend)
    reportRegistration config n
    sayAll (Lines.done n)
    return 0
  | .error (.directoryExists _) =>
    sayAll (Lines.targetExists target)
    return 1
  | .error (.refused cause path) =>
    sayAll (Lines.writeFailed (.refused cause path) target)
    return 1
  | .error failure => throw failure

/-- Runs the command with its options. -/
def generate (o : Options) (environment : Environment) : m ExitCode := do
  Reporting.setVerbose o.verbose
  match o.name with
  | none =>
    sayAll Lines.missingName
    return 1
  | some raw =>
    match o.backend with
    | .error orm =>
      sayAll (Lines.unknownBackend orm)
      return 2
    | .ok backend =>
      match ModuleName.derive raw with
      | .error e =>
        sayAll (Lines.invalidName e)
        return 1
      | .ok n =>
        let currentDirectory ← FileAccess.currentDirectory
        generateModule (o.config environment backend currentDirectory) n

/-- Runs what a command line asks for. -/
def runCommandLine (arguments : List Text) (environment : Environment) :
    m ExitCode := do
  match Invocation.ofArguments arguments with
  | .help => return 0
  | .usageError => return 2
  | .listBackends =>
    sayAll Lines.backends
    return 0
  | .generate options => generate options environment

end ModuleScaffold
