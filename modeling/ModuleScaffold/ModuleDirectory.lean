import ModuleScaffold.Artifact
import ModuleScaffold.Files.Access
import ModuleScaffold.Note

/-!
# The directory of a module

The artifacts of a module are written into a directory of their own, which must
not be there yet.  Nothing is written when it is; a write that fails leaves the
artifacts ahead of it in place.
-/

namespace ModuleScaffold

variable {m : Type → Type} [Monad m] [MonadExceptOf Failure m] [FileAccess m]
  [Reporting m]

/-- Writes one artifact into a directory.  The blanks around its text are not
written. -/
def writeArtifact (directory : Path) (artifact : Artifact) : m Text := do
  writeText (directory.joinText artifact.filename) artifact.content.trim
  Reporting.note (.wroteArtifact artifact.filename)
  return artifact.filename

/-- Creates a directory and writes the artifacts into it, one after the other.
The result is the names of the files written. -/
def materialize (directory : Path) (artifacts : List Artifact) :
    m (List Text) := do
  tryCatch (makeDirectories false directory) fun failure =>
    match failure with
    | .refused .alreadyThere _ => throw (.directoryExists directory)
    | _ => throw failure
  Reporting.note (.createdDirectory directory)
  artifacts.mapM (writeArtifact directory)

end ModuleScaffold
