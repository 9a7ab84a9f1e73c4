import ModuleScaffold.Aggregator.Registration
import ModuleScaffold.Config
import ModuleScaffold.Files.Failure
import ModuleScaffold.Text.Markup

/-!
# What the command prints

Every message of the command, as the lines that it takes.  A line is printed as it
stands, but for the report on a registration, which names the root module as the option
does.
-/

namespace ModuleScaffold.Lines

/-- The version of the program. -/
def version : Text := "0.1.0"

/-- The line that sets two messages apart. -/
def gap : Text := "│"

/-- A text in a column of ten. -/
def padded (t : Text) : Text :=
  t ++ List.replicate (10 - t.length) ' '

/-- The list of backends. -/
def backends : List Text :=
  List.flatten
    [["", "◆  Available backends", gap],
    Backend.all.flatMap fun backend =>
      [gap ++ "  " ++ padded backend.value ++ " " ++ backend.label,
        gap ++ "  " ++ padded [] ++ " " ++ backend.description,
        gap],
    [""]]

/-- There is no name to generate a module for. -/
def missingName : List Text :=
  ["Error: Missing module name.",
    "Usage: nestgen generate NAME [--orm prisma|typeorm]"]

/-- The name of the backend is not one. -/
def unknownBackend (orm : Text) : List Text :=
  let names := Backend.all.map fun backend => ("'" ++ backend.value ++ "'" : Text)
  List.flatten
    [["", "Error: " ++ orm.quoted ++ " is not a valid backend.",
      "Valid values: " ++ List.intercalate (", " : Text) names],
    backends]

/-- The name of the module cannot be used. -/
def invalidName (e : InvalidName) : List Text :=
  ["Error: " ++ e.message]

/-- The target directory is there already. -/
def targetExists (target : Path) : List Text :=
  ["Error: Directory '" ++ target.toText ++ "' already exists.",
    "Remove it or choose another module name."]

/-- The heading of a generation. -/
def heading (n : ModuleName) (backend : Backend) : List Text :=
  ["", "●  nestgen v" ++ version, gap,
    "◇  Creating " ++ n.kebab ++ "/ with " ++ backend.label ++ "..."]

/-- The target directory could not be written. -/
def writeFailed (failure : Failure) (target : Path) : List Text :=
  ["Error: " ++ failure.message,
    "Inspect and remove '" ++ target.toText ++ "' before retrying."]

/-- The files that were written. -/
def created (filenames : List Text) (backend : Backend) : List Text :=
  List.flatten
    [filenames.map fun filename =>
      gap ++ "  " ++ filename ++ " — generated with " ++ backend.value,
    [gap]]

/-- What is left to do by hand when the class is not in the list. -/
def manualStep (config : Config) (n : ModuleName) : Text :=
  gap ++ "  Manual step: add " ++ n.moduleClass ++
    " to the imports array of " ++ config.aggregatorPath.toText

/-- The root module could not be read or written. -/
def updateFailed (config : Config) (n : ModuleName) (failure : Failure) :
    List Text :=
  ["▲  Could not update " ++ config.aggregatorPath.toText ++ ": " ++
      failure.message,
    manualStep config n, gap]

/-- What became of the registration.  The file name of the root module is printed as it
was given, so that markup in it is read; paths are printed as they stand. -/
def registered (config : Config) (n : ModuleName) : Outcome → List Line
  | .inserted =>
    [.marked ("◇  Registered " ++ n.moduleClass ++ " in ") config.aggregator [],
      .plain gap]
  | .alreadyPresent =>
    [.marked ("◇  " ++ n.moduleClass ++ " already registered in ") config.aggregator [],
      .plain gap]
  | .skipped =>
    [.marked "◇  No " config.aggregator " found, registration skipped", .plain gap]
  | .listNotFound =>
    [.plain ("▲  No imports list found in " ++ config.aggregatorPath.toText),
      .plain (manualStep config n), .plain gap]

/-- The end of a generation. -/
def done (n : ModuleName) : List Text :=
  ["●  Done! Module " ++ n.pascal ++ " created in " ++ n.kebab ++ "/", ""]

end ModuleScaffold.Lines
