import ModuleScaffold.Files.Session

/-!
# Hosts

In a session an operation fails only if the files are the reason, and a line is printed
as it stands.  A host is a session on a platform that has reasons of its own: it may
refuse any operation, for the rights of a user or the space on a medium, and its console
reads markup.  An operation that is refused does nothing, except that a write may have
got some bytes into the file before.

What is left out is that a console refuses to print, and that the current directory is
gone.
-/

namespace ModuleScaffold

/-- What a platform may refuse. -/
inductive Operation where
  /-- Finding out what a path leads to. -/
  | look
  | read
  | write
  | makeDirectory
  | remove
  | move
  | readPermissions
  | setPermissions
deriving DecidableEq, Repr

/-- A refusal by a platform. -/
structure Refusal where
  cause : Cause
  /-- The number of bytes that a write got into the file ahead of the refusal, if the file
  was opened. -/
  written : Option Nat := none

/-- Whether a look at a path that is refused for this cause counts as one that finds
nothing: no such entry, a bad descriptor, a file on the way, a loop of links. -/
def Cause.isAbsence (cause : Cause) : Bool :=
  cause.number ∈ [2, 9, 20, 40]

/-- What decides about operations besides the files. -/
structure Platform where
  /-- The refusal of an operation on a path, if it is refused, given the number of
  operations ahead of it. -/
  refusal? : Nat → Operation → Path → Option Refusal
  /-- The styles of the console. -/
  styles : Styles

/-- The platform that refuses nothing. -/
def Platform.plain : Platform where
  refusal? _ _ _ := none
  styles := .plain

/-- A session on a platform. -/
structure Host where
  session : Session
  /-- The number of operations so far. -/
  operations : Nat := 0

/-- Why an action on a host failed. -/
inductive HostFailure where
  | files (failure : Failure)
  /-- The markup of a line cannot be read. -/
  | markup (failure : MarkupFailure)
deriving DecidableEq, Repr

/-- Actions on a host of a platform.  A failure keeps the host as it is by then. -/
def HostM (_platform : Platform) (α : Type) : Type :=
  ExceptT HostFailure (StateM Host) α

variable {platform : Platform} {α : Type}

instance : Monad (HostM platform) :=
  inferInstanceAs (Monad (ExceptT HostFailure (StateM Host)))

/-- A failure to read markup is none that an action on files handles. -/
instance : MonadExceptOf Failure (HostM platform) where
  throw failure := fun host => (.error (.files failure), host)
  tryCatch action handler := fun host =>
    match action host with
    | (.error (.files failure), host') => handler failure host'
    | result => result

namespace Host

/-- Does to the session of a host what an action does to a session. -/
def lift (action : SessionM α) : HostM platform α := fun host =>
  match action host.session with
  | (.ok a, session) => (.ok a, { host with session })
  | (.error failure, session) => (.error (.files failure), { host with session })

/-- Asks the platform for its refusal of an operation.  A path with the null character does
not get as far as that. -/
def refusal (operation : Operation) (path : Path) : HostM platform (Option Refusal) :=
  fun host =>
    let refusal? :=
      if path.names.any fun name => '\x00' ∈ name then
        none
      else
        platform.refusal? host.operations operation path
    (.ok refusal?, { host with operations := host.operations + 1 })

/-- An operation of a session, if the platform does not refuse it. -/
def operate (operation : Operation) (path : Path) (action : SessionM α) :
    HostM platform α := do
  match ← refusal operation path with
  | none => lift action
  | some refused => throw (.refused refused.cause path)

/-- What a path leads to, links followed. -/
def find (path : Path) : HostM platform (Option Entry) := do
  match ← refusal .look path with
  | none => lift (Session.find path)
  | some refused =>
    if refused.cause.isAbsence then
      return none
    else
      throw (.refused refused.cause path)

/-- Gives the file that a path leads to these bytes, or the first ones of them if the
platform refuses to go on. -/
def write (path : Path) (bytes : ByteArray) : HostM platform Unit := do
  match ← refusal .write path with
  | none => lift (Session.write path bytes)
  | some ⟨cause, none⟩ => throw (.refused cause path)
  | some ⟨cause, some count⟩ => do
    lift (Session.write path (bytes.extract 0 count))
    throw (.refused cause path)

/-- Prints a line, if its markup can be read. -/
def say (line : Line) : HostM platform Unit := fun host =>
  match line.read platform.styles with
  | .ok shown => (lift (Reporting.say (.plain shown)) : HostM platform Unit) host
  | .error failure => (.error (.markup failure), host)

end Host

instance : FileAccess (HostM platform) where
  currentDirectory := Host.lift FileAccess.currentDirectory
  isThere path := Option.isSome <$> Host.find path
  isDirectory path := (· == some Entry.directory) <$> Host.find path
  read path := Host.operate .read path (Session.read path)
  write := Host.write
  makeDirectory path := Host.operate .makeDirectory path (Session.makeDirectory path)
  remove path := Host.operate .remove path (Session.remove path)
  move source target := Host.operate .move source (Session.move source target)
  copyPermissions source target := do
    let permissions ← Host.operate .readPermissions source (Session.permissions source)
    Host.operate .setPermissions target (Session.setPermissions target permissions)

instance : Reporting (HostM platform) where
  say := Host.say
  note step := Host.lift (Reporting.note step)
  setVerbose verbose := Host.lift (Reporting.setVerbose verbose)

end ModuleScaffold
