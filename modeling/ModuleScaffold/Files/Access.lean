import ModuleScaffold.Files.Failure

/-!
# Actions on files

`FileAccess` lists the operations on files that the actions of this library are
made of.  An operation that is refused fails with the cause and the path that it
was given.  Actions are written for any monad with these operations, so that the
same action runs on a file tree and on the files of the computer.

`makeLineage` recurses once for every directory above a path.  As with the bound of
a whole path, a limit to the depth of the recursion is left out.
-/

namespace ModuleScaffold

/-- The operations on files. -/
class FileAccess (m : Type → Type) where
  /-- The path of the current directory from the root. -/
  currentDirectory : m Path
  /-- Whether a path leads to something, links followed. -/
  isThere : Path → m Bool
  /-- Whether a path leads to a directory, links followed. -/
  isDirectory : Path → m Bool
  /-- The bytes of the file that a path leads to. -/
  read : Path → m ByteArray
  /-- Gives the file that a path leads to these bytes, and creates it if it is
  not there. -/
  write : Path → ByteArray → m Unit
  makeDirectory : Path → m Unit
  /-- Removes a file or a link. -/
  remove : Path → m Unit
  /-- Moves a file or a link to another path, in place of what is there. -/
  move : Path → Path → m Unit
  /-- Gives the file of the second path the permission bits of the first. -/
  copyPermissions : Path → Path → m Unit

/-- The bytes of a text in UTF-8. -/
def Text.encode (t : Text) : ByteArray :=
  (String.ofList t).toUTF8

/-- The text of bytes in UTF-8, a byte order mark included. -/
def Text.decode? (bytes : ByteArray) : Option Text :=
  bytes.utf8Decode?.map Array.toList

/-- Reading what was written gives the text back. -/
theorem Text.decode?_encode (t : Text) : decode? (encode t) = some t := by
  simp [decode?, encode]

variable {m : Type → Type} [Monad m] [MonadExceptOf Failure m] [FileAccess m]

/-- The text of the file that a path leads to. -/
def readText (path : Path) : m Text := do
  let bytes ← FileAccess.read path
  match Text.decode? bytes with
  | some t => return t
  | none => throw (.notUtf8 path)

/-- Gives the file that a path leads to a text. -/
def writeText (path : Path) (t : Text) : m Unit :=
  FileAccess.write path t.encode

/-- What follows when a directory could not be created: if `tolerant`, nothing,
provided that there is a directory.  A missing parent is not tolerated. -/
def settle (tolerant : Bool) (path : Path) (failure : Failure) : m Unit :=
  match failure with
  | .refused .notFound _ => throw failure
  | .refused _ _ =>
    if tolerant then do
      unless (← FileAccess.isDirectory path) do throw failure
    else
      throw failure
  | _ => throw failure

/-- Creates one directory, or tolerates one that is there. -/
def ensureDirectory (tolerant : Bool) (path : Path) : m Unit :=
  tryCatch (FileAccess.makeDirectory path) (settle tolerant path)

/-- Creates the first directory of a lineage, and those above it that are
missing, which are tolerated if they are there. -/
def makeLineage (tolerant : Bool) : List Path → m Unit
  | [] => pure ()
  | path :: above =>
    tryCatch (FileAccess.makeDirectory path) fun failure =>
      match failure, above with
      | .refused .notFound _, _ :: _ => do
        makeLineage true above
        ensureDirectory tolerant path
      | _, _ => settle tolerant path failure

/-- Creates a directory together with the missing ones on the way to it. -/
def makeDirectories (tolerant : Bool) (path : Path) : m Unit :=
  makeLineage tolerant path.lineage

end ModuleScaffold
