import ModuleScaffold.CommandLine.Generate

/-!
# The program

Runs the command on the files of the computer.  The permission bits of a file
cannot be read here, so an updated root module has those of a new file.
-/

namespace ModuleScaffold

/-- Actions on the files of the computer, with a switch for notes. -/
abbrev Computer := ReaderT (IO.Ref Bool) (ExceptT Failure IO)

/-- The cause that a system error stands for. -/
def Cause.ofSystem (number : UInt32) (description : String) : Cause :=
  let known : List Cause :=
    [.notFound, .alreadyThere, .notDirectory, .isDirectory, .nameTooLong,
      .tooManyLinks]
  match known.find? fun cause => cause.number == number.toNat with
  | some cause => cause
  | none => .other number.toNat description

/-- The cause of a refused operation. -/
def Cause.ofError : IO.Error → Cause
  | .alreadyExists _ number details | .noFileOrDirectory _ number details
  | .invalidArgument _ number details | .permissionDenied _ number details
  | .resourceExhausted _ number details | .inappropriateType _ number details
  | .noSuchThing _ number details | .interrupted _ number details
  | .otherError number details | .resourceBusy number details
  | .resourceVanished number details | .unsupportedOperation number details
  | .hardwareFault number details | .unsatisfiedConstraints number details
  | .illegalOperation number details | .protocolError number details
  | .timeExpired number details => .ofSystem number details
  | .unexpectedEof => .other 0 "unexpected end of file"
  | .userError message => .other 0 message

namespace Computer

/-- Runs a system operation on a path; an error becomes a refusal. -/
def operate {α : Type} (path : Path) (operation : String → IO α) :
    Computer α := fun _ =>
  ExceptT.mk do
    try
      return .ok (← operation (String.ofList path.toText))
    catch e =>
      return .error (.refused (.ofError e) path)

/-- Whether a path leads to something.  For a path that does not, opening it
tells the cause. -/
def isThere (path : Path) : Computer Bool :=
  let looked := operate path fun name => do
    try
      let _ ← IO.FS.realPath name
    catch _ =>
      let _ ← IO.FS.Handle.mk name .read
    return true
  tryCatch looked fun failure =>
    match failure with
    | .refused .notFound _ | .refused .notDirectory _
    | .refused .tooManyLinks _ => return false
    | _ => throw failure

end Computer

instance : FileAccess Computer where
  currentDirectory := do
    return .ofText (toString (← (IO.currentDir : IO _)))
  isThere := Computer.isThere
  -- behind a directory, and only there, a dot leads somewhere
  isDirectory path := Computer.operate path fun name => do
    try
      let _ ← IO.FS.realPath (name ++ "/.")
      return true
    catch _ =>
      return false
  read path := Computer.operate path fun name => IO.FS.readBinFile name
  write path bytes := Computer.operate path fun name =>
    IO.FS.writeBinFile name bytes
  makeDirectory path := Computer.operate path fun name => IO.FS.createDir name
  remove path := Computer.operate path fun name => IO.FS.removeFile name
  move source target := Computer.operate source fun name =>
    IO.FS.rename name (String.ofList target.toText)
  copyPermissions _ _ := return ()

instance : Reporting Computer where
  say line := do
    match line.read .plain with
    | .ok shown => (IO.println (String.ofList shown) : IO Unit)
    | .error _ => (throw (IO.userError "markup cannot be read") : IO Unit)
  note step := do
    if ← (← read).get then
      (IO.println ("DEBUG " ++ String.ofList step.message) : IO Unit)
  setVerbose verbose := do
    (← read).set verbose

end ModuleScaffold

open ModuleScaffold in
/-- Runs the command line and ends with its exit code. -/
def main (arguments : List String) : IO UInt32 := do
  let environment : Environment := {
    root := (← IO.getEnv "NESTGEN_ROOT").map String.toList
    sourceDirectory := (← IO.getEnv "NESTGEN_SRC_DIR").map String.toList }
  let verbose ← IO.mkRef false
  let run : Computer ExitCode :=
    runCommandLine (arguments.map String.toList) environment
  match ← (run.run verbose).run with
  | .ok code => return code.toUInt32
  | .error failure =>
    IO.eprintln (String.ofList failure.message)
    return 1
