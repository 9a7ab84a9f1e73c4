import ModuleScaffold.Aggregator.ImportsList
import ModuleScaffold.Aggregator.Separator
import ModuleScaffold.ModuleName

/-!
# Registering a module

A module is registered in the text of the root module by two insertions: a line
at the top of the text that imports its class, and the class at the end of the
imports list.  Either is left out when it is there already.  New text follows the
layout that it finds: the newline style of the file and the indentation of the
list.
-/

namespace ModuleScaffold

/-- What became of a registration. -/
inductive Outcome where
  /-- There was no root module. -/
  | skipped
  /-- Import line and entry were there already. -/
  | alreadyPresent
  /-- A line or an entry was inserted, and there is a list. -/
  | inserted
  /-- The text has no complete imports list. -/
  | listNotFound
deriving DecidableEq, Repr

/-- The name of an outcome. -/
def Outcome.value : Outcome → Text
  | .skipped => "skipped"
  | .alreadyPresent => "already-present"
  | .inserted => "inserted"
  | .listNotFound => "list-not-found"

/-- All outcomes. -/
def Outcome.all : List Outcome :=
  [.skipped, .alreadyPresent, .inserted, .listNotFound]

/-- The body of a list with `entry` as its last element, for a list whose
opening is indented by `base`.  The entry gets a line of its own, indented as
the last line of the body or, if the body is on one line with its opening, by
two spaces more than the opening.  The closing bracket keeps its place if it had
a line of its own, and gets one otherwise. -/
def appendEntry (newline : Newline) (base body entry : Text) : Text :=
  let head := body.trimRight
  let tail := body.trailingBlanks
  let indent := if '\n' ∈ head then head.indentation else base ++ "  "
  let closing := if '\n' ∈ tail then tail else newline.text ++ base
  head.separated ++ newline.text ++ indent ++ entry ++ "," ++ closing

/-- The list with `entry` as its last element. -/
def ImportsList.append (l : ImportsList) (entry : Text) : ImportsList :=
  { l with
    body := appendEntry l.toText.newline l.before.indentation l.body entry }

/-- The text with the import line of a module on top, unless it is a line of
the text. -/
def withImport (n : ModuleName) (t : Text) : Text :=
  if t.hasLine n.importLine then
    t
  else
    n.importLine ++ t.newline.text ++ t

/-- The text with the class of a module in its imports list, unless the list
holds it or there is none. -/
def withEntry (n : ModuleName) (t : Text) : Text :=
  match ImportsList.find? t with
  | none => t
  | some l =>
    if l.body.hasWord n.moduleClass then t else (l.append n.moduleClass).toText

/-- What a registration found in the text. -/
inductive RegistrationNote where
  /-- The import line of the class is there. -/
  | importPresent (moduleClass : Text)
  /-- There is no complete imports list. -/
  | listMissing
  /-- The list holds the class. -/
  | entryPresent (moduleClass : Text)
deriving DecidableEq, Repr

/-- What was found, in words. -/
def RegistrationNote.message : RegistrationNote → Text
  | .importPresent moduleClass =>
    "Import for " ++ moduleClass ++ " already present"
  | .listMissing => "No imports list found"
  | .entryPresent moduleClass => moduleClass ++ " already listed in imports"

/-- A text after a registration, with what became of it and what it found. -/
structure Registration where
  content : Text
  /-- What became of the registration. -/
  outcome : Outcome
  /-- What was found, in the order of the search. -/
  notes : List RegistrationNote
deriving DecidableEq, Repr

/-- Registers a module in the text of the root module. -/
def register (n : ModuleName) (t : Text) : Registration :=
  let present := t.hasLine n.importLine
  let imported := withImport n t
  let found : List RegistrationNote :=
    if present then [.importPresent n.moduleClass] else []
  match ImportsList.find? imported with
  | none => ⟨imported, .listNotFound, found ++ [.listMissing]⟩
  | some l =>
    if l.body.hasWord n.moduleClass then
      ⟨imported, if present then .alreadyPresent else .inserted,
        found ++ [.entryPresent n.moduleClass]⟩
    else
      ⟨(l.append n.moduleClass).toText, .inserted, found⟩

end ModuleScaffold
