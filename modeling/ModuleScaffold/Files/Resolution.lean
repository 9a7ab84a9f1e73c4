import ModuleScaffold.Files.Failure
import ModuleScaffold.Files.Tree

/-!
# Following a path

A path is followed name by name from a location.  A link on the way is replaced
by its text, which is followed in turn; a link at the end is followed or not, as
the operation needs.  The last name may lead to nothing, which is where a new
entry would go, but every name before it must lead to a directory.

The text of a link is not brought into the form of a path first: an empty name
and the name `.` lead nowhere else, but they lead on from a directory only.  So a
slash at the end of the text tells that the target is a directory, and no file is
written through such a link.

At most `maxLinks` links are followed, so a loop of links comes to an end.  A name
has at most `maxNameBytes` bytes; the bound that a system sets to a path as a whole
is left out.
-/

namespace ModuleScaffold

/-- The number of links that are followed for one path. -/
def maxLinks : Nat := 40

/-- The number of bytes that a name may have. -/
def maxNameBytes : Nat := 255

/-- Whether a name is too long to be looked up. -/
def isTooLong (name : Text) : Bool :=
  maxNameBytes < (String.ofList name).utf8ByteSize

/-- What a path is followed for. -/
inductive Goal where
  /-- The entry at its end, even if that is a link. -/
  | entry
  /-- What the entry leads to, links followed. -/
  | target
  /-- The same, to write a file there. -/
  | file
deriving DecidableEq, Repr

/-- Whether what is left of a text behind a name, cut at its slashes, is slashes
only. -/
def endsInSlash (rest : List Text) : Bool :=
  rest ≠ [] ∧ rest.all List.isEmpty

namespace FileTree

/-- Follows names from a location up to the first link that has to be followed,
where `onLink` takes over with a location and the names that are then left. -/
def followNames (tree : FileTree) (goal : Goal)
    (onLink : Location → List Text → Except Cause Location) :
    Location → List Text → Except Cause Location
  | place, [] => .ok place
  | place, name :: rest =>
    if tree.get? place ≠ some .directory then
      .error .notDirectory
    else if name = [] ∨ name = "." then
      followNames tree goal onLink place rest
    else if name = ".." then
      followNames tree goal onLink place.dropLast rest
    else if goal = .file ∧ endsInSlash rest then
      .error .isDirectory
    else if isTooLong name then
      .error .nameTooLong
    else
      match tree.get? (place ++ [name]) with
      | none =>
        if rest = [] then .ok (place ++ [name]) else .error .notFound
      | some (.link target) =>
        if rest = [] ∧ goal = .entry then
          .ok (place ++ [name])
        else
          onLink (if target.head? = some '/' then [] else place)
            (target.splitOn '/' ++ rest)
      | some _ => followNames tree goal onLink (place ++ [name]) rest

/-- Follows names from a location through at most `links` links. -/
def follow (tree : FileTree) (goal : Goal) :
    Nat → Location → List Text → Except Cause Location
  | 0 => followNames tree goal fun _ _ => .error .tooManyLinks
  | links + 1 =>
    followNames tree goal fun place names => follow tree goal links place names

/-- The location that a path leads to from the current directory `here`. -/
def locate (tree : FileTree) (here : Location) (goal : Goal) (path : Path) :
    Except Cause Location :=
  follow tree goal maxLinks (if path.anchor = .here then here else [])
    path.names

end FileTree

end ModuleScaffold
