import ModuleScaffold.Text.Basic

/-!
# Paths

A path is a list of names behind an anchor.  Writing a path down and reading it
again loses nothing; reading forgets repeated slashes, a slash at the end and
the names `.` that lead nowhere.  The name `..` is kept, since what it leads to
depends on the files.
-/

namespace ModuleScaffold

/-- Where a path begins. -/
inductive Anchor where
  | here
  | root
  /-- At the root, written with two slashes. -/
  | doubleRoot
deriving DecidableEq, Repr

/-- How an anchor is written. -/
def Anchor.text : Anchor → Text
  | .here => ""
  | .root => "/"
  | .doubleRoot => "//"

/-- A path: names to follow one after the other from an anchor. -/
structure Path where
  /-- Where the path begins. -/
  anchor : Anchor
  /-- The names to follow. -/
  names : List Text
deriving DecidableEq, Repr

namespace Path

/-- The names between the slashes of a text, less the empty ones and `.`. -/
def namesOf (t : Text) : List Text :=
  (t.splitOn '/').filter fun name => name != [] && name != ['.']

/-- The anchor of a written path: exactly two slashes in front are kept apart
from one, more than two are one. -/
def anchorOf : Text → Anchor
  | '/' :: '/' :: '/' :: _ => .root
  | '/' :: '/' :: _ => .doubleRoot
  | '/' :: _ => .root
  | _ => .here

/-- The path that a text writes. -/
def ofText (t : Text) : Path :=
  ⟨anchorOf t, namesOf t⟩

/-- The text of a path.  The path without a name is a dot. -/
def toText (p : Path) : Text :=
  if p.anchor = .here ∧ p.names = [] then
    "."
  else
    p.anchor.text ++ List.intercalate ['/'] p.names

/-- The path `q` seen from `p`: a path from the root stands for itself. -/
def join (p q : Path) : Path :=
  match q.anchor with
  | .here => ⟨p.anchor, p.names ++ q.names⟩
  | _ => q

/-- The written path `t` seen from `p`. -/
def joinText (p : Path) (t : Text) : Path :=
  p.join (ofText t)

/-- The path without its last name. -/
def parent (p : Path) : Path :=
  { p with names := p.names.dropLast }

/-- The last name of a path, empty if it has none. -/
def name (p : Path) : Text :=
  p.names.getLast?.getD []

/-- The path with another last name. -/
def withName (p : Path) (name : Text) : Path :=
  { p with names := p.names.dropLast ++ [name] }

/-- The paths that lie on the way: the path itself, its parent, and so on to the
path without names. -/
def lineage (p : Path) : List Path :=
  (List.range (p.names.length + 1)).reverse.map fun k =>
    { p with names := p.names.take k }

end Path

end ModuleScaffold
