import ModuleScaffold.Text.Blank
import ModuleScaffold.Text.Casing
import ModuleScaffold.Text.Quoted

/-!
# Module names

A module is known by three spellings of one name: the class spelling, the
variable spelling and the route spelling.  `ModuleName.derive` finds them from
what was typed, and refuses what cannot be an identifier and a route at once.
The name is taken as typed, as one word or as words run together; only its first
letter is adapted.
-/

namespace ModuleScaffold

/-- The three spellings of the name of a module. -/
structure ModuleName where
  /-- The spelling in class and type names, such as `MediaUser`. -/
  pascal : Text
  /-- The spelling of variables and fields, such as `mediaUser`. -/
  camel : Text
  /-- The spelling of files, directories and routes, such as `media-user`. -/
  kebab : Text
deriving DecidableEq, Repr

/-- Why a name was refused. -/
inductive InvalidName.Reason where
  /-- Nothing but blanks was typed. -/
  | empty
  /-- It is not a letter followed by letters and digits. -/
  | notIdentifier
deriving DecidableEq, Repr

/-- A refused name, as typed, and the reason. -/
structure InvalidName where
  /-- What was typed, blanks included. -/
  raw : Text
  reason : InvalidName.Reason
deriving DecidableEq, Repr

/-- The reason in words. -/
def InvalidName.Reason.message : InvalidName.Reason → Text
  | .empty => "name is empty"
  | .notIdentifier => "use letters and digits only, starting with a letter"

/-- The message that shows the name and the reason. -/
def InvalidName.message (e : InvalidName) : Text :=
  "Invalid module name " ++ e.raw.quoted ++ ": " ++ e.reason.message

namespace Text

/-- A hyphen between a small letter and the capital that follows it, for the
letters `a` to `z` only. -/
def hyphenate : Text → Text
  | [] => []
  | [c] => [c]
  | c :: d :: rest =>
    if c.isLower && d.isUpper then
      c :: '-' :: hyphenate (d :: rest)
    else
      c :: hyphenate (d :: rest)

/-- The class spelling: a capital in front, the rest as it is. -/
def pascalCase (t : Text) : Text :=
  capitalise t

/-- The variable spelling: a small letter in front, the rest as it is. -/
def camelCase (t : Text) : Text :=
  uncapitalise t

/-- The route spelling: small letters, with a hyphen where a small letter met a
capital. -/
def kebabCase (t : Text) : Text :=
  lowerCase (hyphenate t)

/-- The text without a line feed at its end. -/
def dropLineFeed (t : Text) : Text :=
  if t.getLast? = some '\n' then t.dropLast else t

/-- Whether a text is a letter followed by letters and digits, all of them
ASCII.  The search for it ends ahead of a line feed at the end of the text as well
as at the end. -/
def isIdentifier : Text → Bool
  | [] => false
  | c :: rest => c.isAlpha && (dropLineFeed rest).all Char.isAlphanum

end Text

namespace ModuleName

/-- The spellings of a name that is given in its class spelling. -/
def ofPascal (pascal : Text) : ModuleName where
  pascal := pascal
  camel := pascal.camelCase
  kebab := pascal.kebabCase

/-- The name behind what was typed; blanks around it do not count. -/
def derive (raw : Text) : Except InvalidName ModuleName :=
  let name := raw.trim
  if name = [] then
    .error ⟨raw, .empty⟩
  else if name.isIdentifier then
    .ok (ofPascal name.pascalCase)
  else
    .error ⟨raw, .notIdentifier⟩

/-- The class that the files of the module declare for it. -/
def moduleClass (n : ModuleName) : Text :=
  n.pascal ++ "Module"

/-- The line that brings the class of the module into the root module. -/
def importLine (n : ModuleName) : Text :=
  "import \x7b " ++ n.moduleClass ++ " \x7d from './" ++ n.kebab ++ "/" ++
    n.kebab ++ ".module';"

end ModuleName

end ModuleScaffold
