import ModuleScaffold.ModuleName

/-!
# Templates

A template is a list of lines, and a line a list of pieces: text that is the
same for every module, and places for the spellings of the name.  Rendering
fills the places.  The rendered text begins with an empty line and every line is
ended by a line feed.
-/

namespace ModuleScaffold

/-- A piece of a line of a template. -/
inductive Piece where
  /-- Text that is the same for every module. -/
  | verbatim (text : String)
  | pascal
  /-- The class spelling of the name with `suffix` behind it. -/
  | className (suffix : String)
  | camel
  | kebab
deriving DecidableEq, Repr

instance : Coe String Piece where
  coe := .verbatim

/-- The text of a piece for a module. -/
def Piece.render (n : ModuleName) : Piece → Text
  | verbatim text => text
  | pascal => n.pascal
  | className suffix => n.pascal ++ suffix
  | camel => n.camel
  | kebab => n.kebab

/-- A line of a template. -/
abbrev TemplateLine := List Piece

/-- The text of a line for a module. -/
def TemplateLine.render (n : ModuleName) (line : TemplateLine) : Text :=
  line.flatMap (Piece.render n)

/-- The lines of a generated file. -/
abbrev Template := List TemplateLine

namespace Template

/-- The text of a file for a module. -/
def render (n : ModuleName) (template : Template) : Text :=
  '\n' :: template.flatMap fun line => line.render n ++ ['\n']

/-- The line that imports `symbols` from the file or package `source`. -/
def importing (symbols source : TemplateLine) : TemplateLine :=
  List.flatten [["import \x7b "], symbols, [" \x7d from '"], source, ["';"]]

/-- The lines of a test file behind its imports: one test, that `field` is
defined.  `setup` holds the properties of the testing module, and `subject` is
the class under test. -/
def definedTest (title : TemplateLine) (field : String) (subject : Piece)
    (setup : Template) : Template :=
  List.flatten
    [[List.flatten [["describe('"], title, ["', () => \x7b"]],
      ["  let ", field, ": ", subject, ";"],
      [],
      ["  beforeEach(async () => \x7b"],
      ["    const module: TestingModule = ",
        "await Test.createTestingModule(\x7b"]],
    setup,
    [["    \x7d).compile();"],
      [],
      ["    ", field, " = module.get<", subject, ">(", subject, ");"],
      ["  \x7d);"],
      [],
      ["  it('should be defined', () => \x7b"],
      ["    expect(", field, ").toBeDefined();"],
      ["  \x7d);"],
      ["\x7d);"]]]

end Template

end ModuleScaffold
