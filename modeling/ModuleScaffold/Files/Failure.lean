import ModuleScaffold.Files.Path
import ModuleScaffold.Text.Quoted

/-!
# Failures of file operations

An operation on a file is refused for a cause, and the refusal names the path as
the operation was given it.  Besides refusals there are three failures of
another kind: a path with the null character, which no file can have, bytes that
are not a text, and a target directory that is there already.
-/

namespace ModuleScaffold

/-- Why an operation on a path was refused. -/
inductive Cause where
  /-- A name on the way, or the last one, leads to nothing. -/
  | notFound
  /-- Something is in the place of what was to be created. -/
  | alreadyThere
  /-- A name that is not the last leads to a file. -/
  | notDirectory
  /-- The path leads to a directory where a file is needed. -/
  | isDirectory
  | nameTooLong
  /-- More links follow each other than are followed. -/
  | tooManyLinks
  /-- Any other cause that the system knows, with its number. -/
  | other (number : Nat) (description : Text)
deriving DecidableEq, Repr

/-- The number of a cause in messages. -/
def Cause.number : Cause → Nat
  | .notFound => 2
  | .alreadyThere => 17
  | .notDirectory => 20
  | .isDirectory => 21
  | .nameTooLong => 36
  | .tooManyLinks => 40
  | .other number _ => number

/-- A cause in words. -/
def Cause.description : Cause → Text
  | .notFound => "No such file or directory"
  | .alreadyThere => "File exists"
  | .notDirectory => "Not a directory"
  | .isDirectory => "Is a directory"
  | .nameTooLong => "File name too long"
  | .tooManyLinks => "Too many levels of symbolic links"
  | .other _ description => description

/-- Why an action on files failed. -/
inductive Failure where
  /-- An operation on `path` was refused. -/
  | refused (cause : Cause) (path : Path)
  /-- A path holds the null character. -/
  | nullCharacter
  /-- The bytes of the file at `path` are not valid UTF-8. -/
  | notUtf8 (path : Path)
  /-- The directory that was to be created is there already. -/
  | directoryExists (path : Path)
deriving DecidableEq, Repr

/-- The message that names cause and path. -/
def Failure.message : Failure → Text
  | .refused cause path =>
    "[Errno " ++ Nat.toDigits 10 cause.number ++ "] " ++ cause.description ++
      ": " ++ path.toText.quoted
  | .nullCharacter => "embedded null byte"
  | .notUtf8 path => path.toText.quoted ++ " is not valid UTF-8"
  | .directoryExists path =>
    "Directory '" ++ path.toText ++ "' already exists."

end ModuleScaffold
