import ModuleScaffold.Text.CaseTables

/-!
# Upper and lower case

The full case mappings: an image may be several code points, and the lower case
of the Greek sigma depends on its place.  At the end of a word, that is behind a
cased letter and ahead of none when case-ignorable code points are looked
through, it is the final sigma.
-/

namespace ModuleScaffold

open CaseTables

/-- The image of a code point under a pair of tables. -/
def caseImage (several : List (Nat × List Nat)) (single : List CaseRun)
    (c : Char) : Text :=
  match several.lookup c.toNat with
  | some image => image.map Char.ofNat
  | none =>
    match single.findSome? (·.image? c.toNat) with
    | some image => [Char.ofNat image]
    | none => [c]

/-- The upper-case form of a code point. -/
def upperCase (c : Char) : Text :=
  if c.toNat < 0x80 then
    [c.toUpper]
  else
    caseImage upperSeveral upper c

/-- The lower-case form of a code point, wherever it stands. -/
def lowerCase (c : Char) : Text :=
  if c.toNat < 0x80 then
    [c.toLower]
  else
    caseImage lowerSeveral lower c

/-- Whether the first code point of a text that is not case-ignorable is a
cased letter. -/
def beginsCased (t : Text) : Bool :=
  (t.find? fun c => !caseIgnorable.contains c).any cased.contains

namespace Text

/-- The lower-case form of a text that follows the text whose reverse is
`behind`. -/
def lowerCaseAfter (behind : Text) : Text → Text
  | [] => []
  | c :: rest =>
    let image :=
      if c = 'Σ' then
        if beginsCased behind && !beginsCased rest then ['ς'] else ['σ']
      else
        ModuleScaffold.lowerCase c
    image ++ lowerCaseAfter (c :: behind) rest

/-- The lower-case form of a text. -/
def lowerCase (t : Text) : Text :=
  lowerCaseAfter [] t

/-- The text with its first code point in upper case. -/
def capitalise : Text → Text
  | [] => []
  | c :: rest => upperCase c ++ rest

/-- The text with its first code point in lower case. -/
def uncapitalise : Text → Text
  | [] => []
  | c :: rest => lowerCase [c] ++ rest

end Text

end ModuleScaffold
