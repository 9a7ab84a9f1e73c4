import ModuleScaffold.Files.Access
import ModuleScaffold.Files.Resolution
import ModuleScaffold.Note

/-!
# Sessions on a file tree

A session is a file tree with a current directory, and what was printed and
noted so far.  Actions run on it in the monad `SessionM`: they may fail, and what
they did before they failed stays done.

An operation fails here only if the files are the reason, which is told before it
changes anything, and a line is printed with its markup unread.  What a system may
refuse besides, and what a console makes of markup, is added by `Host`.
-/

namespace ModuleScaffold

/-- A file tree that actions run on, and what they told. -/
structure Session where
  tree : FileTree
  /-- The current directory. -/
  here : Location
  /-- Whether notes are kept. -/
  verbose : Bool := false
  printed : List Text := []
  notes : List Note := []

/-- Actions on a session.  A failure keeps the session as it is by then. -/
abbrev SessionM := ExceptT Failure (StateM Session)

/-- The permission bits of a new file. -/
def newFilePermissions : Nat := 0o644

/-- The permission bits of a directory. -/
def directoryPermissions : Nat := 0o755

namespace Session

/-- Changes the file tree. -/
def setTree (tree : FileTree) : SessionM Unit :=
  modify fun session => { session with tree }

/-- Fails if a path holds the null character. -/
def checkNull (path : Path) : SessionM Unit :=
  if path.names.any fun name => '\x00' ∈ name then
    throw .nullCharacter
  else
    pure ()

/-- The location that a path leads to and what is found there. -/
def lookUp (goal : Goal) (path : Path) :
    SessionM (Location × Option Entry) := do
  checkNull path
  let session ← get
  match session.tree.locate session.here goal path with
  | .ok place => return (place, session.tree.get? place)
  | .error cause => throw (.refused cause path)

/-- What a path leads to, links followed.  A path that leads nowhere has no
entry, except that a name too long is a failure. -/
def find (path : Path) : SessionM (Option Entry) :=
  tryCatch (Prod.snd <$> lookUp .target path) fun failure =>
    match failure with
    | .refused .nameTooLong _ => throw failure
    | _ => return none

/-- The file that a path leads to, with its location, bytes and permission
bits. -/
def findFile (path : Path) : SessionM (Location × ByteArray × Nat) := do
  match ← lookUp .target path with
  | (place, some (.file bytes permissions)) =>
    return (place, bytes, permissions)
  | (_, some _) => throw (.refused .isDirectory path)
  | (_, none) => throw (.refused .notFound path)

/-- The bytes of the file that a path leads to. -/
def read (path : Path) : SessionM ByteArray := do
  let (_, bytes, _) ← findFile path
  return bytes

/-- Gives the file that a path leads to these bytes.  A file that is there
keeps its permission bits. -/
def write (path : Path) (bytes : ByteArray) : SessionM Unit := do
  let (place, found) ← lookUp .file path
  let tree := (← get).tree
  match found with
  | some (.file _ permissions) =>
    setTree (tree.put place (.file bytes permissions))
  | some _ => throw (.refused .isDirectory path)
  | none => setTree (tree.put place (.file bytes newFilePermissions))

/-- Creates one directory. -/
def makeDirectory (path : Path) : SessionM Unit := do
  let (place, found) ← lookUp .entry path
  if found.isSome then
    throw (.refused .alreadyThere path)
  setTree ((← get).tree.put place .directory)

/-- Removes a file or a link. -/
def remove (path : Path) : SessionM Unit := do
  match ← lookUp .entry path with
  | (_, none) => throw (.refused .notFound path)
  | (_, some .directory) => throw (.refused .isDirectory path)
  | (place, some _) => setTree ((← get).tree.erase place)

/-- Moves a file or a link to another path, in place of the file or link that is
there. -/
def move (source target : Path) : SessionM Unit := do
  let (sourcePlace, found) ← lookUp .entry source
  let (targetPlace, present) ← lookUp .entry target
  match found with
  | none => throw (.refused .notFound source)
  | some .directory => throw (.refused .isDirectory source)
  | some entry =>
    if present = some .directory then
      throw (.refused .isDirectory target)
    else
      setTree (((← get).tree.erase sourcePlace).put targetPlace entry)

/-- Gives the file that a path leads to other permission bits. -/
def setPermissions (path : Path) (permissions : Nat) : SessionM Unit := do
  let (place, bytes, _) ← findFile path
  setTree ((← get).tree.put place (.file bytes permissions))

/-- The permission bits of what a path leads to. -/
def permissions (path : Path) : SessionM Nat := do
  match ← lookUp .target path with
  | (_, none) => throw (.refused .notFound path)
  | (_, some (.file _ permissions)) => return permissions
  | (_, some _) => return directoryPermissions

/-- Creates a link. -/
def makeLink (path : Path) (target : Text) : SessionM Unit := do
  let (place, found) ← lookUp .entry path
  if found.isSome then
    throw (.refused .alreadyThere path)
  setTree ((← get).tree.put place (.link target))

/-- Removes what is found at a path, a directory with everything in it. -/
def prune (path : Path) : SessionM Unit := do
  match ← lookUp .entry path with
  | (_, none) => throw (.refused .notFound path)
  | (place, some _) => setTree ((← get).tree.prune place)

end Session

instance : FileAccess SessionM where
  currentDirectory := return ⟨.root, (← get).here⟩
  isThere path := Option.isSome <$> Session.find path
  isDirectory path := (· == some Entry.directory) <$> Session.find path
  read := Session.read
  write := Session.write
  makeDirectory := Session.makeDirectory
  remove := Session.remove
  move := Session.move
  copyPermissions source target := do
    Session.setPermissions target (← Session.permissions source)

instance : Reporting SessionM where
  say line := modify fun session =>
    { session with printed := session.printed ++ [line.text] }
  note step := modify fun session =>
    if session.verbose then
      { session with notes := session.notes ++ [step] }
    else
      session
  setVerbose verbose := modify fun session => { session with verbose }

end ModuleScaffold
