import ModuleScaffold.Files.Access
import ModuleScaffold.Note

/-!
# Updating the root module

The file of the root module is read, registered in, and written only if its text
changed.  The new text goes to a temporary file beside it first, which takes over
the permission bits and then the place of the file; when any of that is refused
the temporary file is removed again.
-/

namespace ModuleScaffold

variable {m : Type → Type} [Monad m] [MonadExceptOf Failure m] [FileAccess m]
  [Reporting m]

/-- The path of the temporary file for a file. -/
def temporarySibling (path : Path) : Path :=
  path.withName ("." ++ path.name ++ ".tmp")

/-- Removes a file or a link unless it is missing. -/
def removeIfThere (path : Path) : m Unit :=
  tryCatch (FileAccess.remove path) fun failure =>
    match failure with
    | .refused .notFound _ => pure ()
    | _ => throw failure

/-- Gives a file a new text by way of its temporary sibling. -/
def replaceText (path : Path) (t : Text) : m Unit :=
  let temporary := temporarySibling path
  tryCatch
    (do
      writeText temporary t
      FileAccess.copyPermissions path temporary
      FileAccess.move temporary path)
    fun failure =>
      match failure with
      | .refused _ _ => do
        removeIfThere temporary
        throw failure
      | _ => throw failure

/-- Registers a module in the file of the root module.  A missing file is no
failure: nothing is done then. -/
def patch (path : Path) (n : ModuleName) : m Outcome := do
  if ← FileAccess.isThere path then
    let present ← readText path
    let registration := register n present
    registration.notes.forM fun found => Reporting.note (.registration found)
    if registration.content ≠ present then
      replaceText path registration.content
      Reporting.note (.wroteAggregator path)
    return registration.outcome
  else
    Reporting.note (.aggregatorMissing path)
    return .skipped

end ModuleScaffold
