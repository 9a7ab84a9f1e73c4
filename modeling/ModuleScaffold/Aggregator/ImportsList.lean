import ModuleScaffold.Aggregator.LexMode
import ModuleScaffold.Text.Blank
import ModuleScaffold.Text.Word

/-!
# The imports list

The root module declares what it is made of in a list that opens with the word
`imports`, a colon and a bracket.  The first such opening in the text counts,
wherever it stands.  From there on the text is read as source code, and the list
ends at the bracket that closes it: nested brackets are counted, and brackets in
strings and comments are not.

`ImportsList` is the text cut at the seams that matter, so that an edit of the
list replaces one part and leaves the others as they are.
-/

namespace ModuleScaffold

/-- A text around its imports list. -/
structure ImportsList where
  /-- The text ahead of the word `imports`. -/
  before : Text
  /-- The opening, from the word `imports` to the bracket. -/
  opening : Text
  /-- The text between the brackets. -/
  body : Text
  /-- The text from the closing bracket on. -/
  after : Text
deriving DecidableEq, Repr

namespace ImportsList

/-- The whole text. -/
def toText (l : ImportsList) : Text :=
  l.before ++ l.opening ++ l.body ++ l.after

/-- The position of the opening. -/
def openingStart (l : ImportsList) : Nat :=
  l.before.length

/-- The position behind the opening bracket. -/
def bodyStart (l : ImportsList) : Nat :=
  l.openingStart + l.opening.length

/-- The position of the closing bracket. -/
def bodyEnd (l : ImportsList) : Nat :=
  l.bodyStart + l.body.length

/-- The blanks at the beginning of a text together with the mark `c` behind
them, and the rest of the text. -/
def blanksAnd? (c : Char) (t : Text) : Option (Text × Text) :=
  match t.dropWhile isBlank with
  | [] => none
  | d :: rest =>
    if d = c then some (t.takeWhile isBlank ++ [c], rest) else none

/-- The opening of a list at the beginning of a text, and the rest of the
text. -/
def openingHere? (t : Text) : Option (Text × Text) := do
  let afterWord ← Text.afterPrefix? "imports" t
  let (colon, afterColon) ← blanksAnd? ':' afterWord
  let (bracket, rest) ← blanksAnd? '[' afterColon
  return ("imports" ++ colon ++ bracket, rest)

/-- The first opening in a text that follows the code point `left`, between the
text ahead of it and the rest.  The word `imports` begins at a word
boundary. -/
def splitOpening? (left : Option Char) : Text → Option (Text × Text × Text)
  | [] => none
  | c :: cs =>
    match (if left.any isWordChar then none else openingHere? (c :: cs)) with
    | some (opening, rest) => some ([], opening, rest)
    | none =>
      (splitOpening? (some c) cs).map fun (before, opening, rest) =>
        (c :: before, opening, rest)

/-- The text up to the bracket that closes a list, and the text from that
bracket on.  The text is read in `mode`, inside `depth` brackets that were
opened after the list. -/
def splitClosing? (mode : LexMode) (depth : Nat) : Text → Option (Text × Text)
  | [] => none
  | c :: cs =>
    if mode.isCode && c == ']' && depth == 0 then
      some ([], c :: cs)
    else
      let depth :=
        if mode.isCode && c == '[' then depth + 1
        else if mode.isCode && c == ']' then depth - 1
        else depth
      (splitClosing? (mode.step c) depth cs).map fun (body, after) =>
        (c :: body, after)

/-- The first imports list of a text, if the text has one and it is closed. -/
def find? (t : Text) : Option ImportsList := do
  let (before, opening, rest) ← splitOpening? none t
  let (body, after) ← splitClosing? .code 0 rest
  return { before, opening, body, after }

end ImportsList

end ModuleScaffold
