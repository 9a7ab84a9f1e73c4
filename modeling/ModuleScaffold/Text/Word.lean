import ModuleScaffold.Text.WordRanges

/-!
# Words

A word character is a letter, a number or the low line.  A word boundary lies
between two neighbours of which exactly one is a word character; the ends of a
text count as neighbours that are not.  An occurrence of a word is whole when it
has a boundary on either side.
-/

namespace ModuleScaffold

/-- Whether a code point is a letter, a number or the low line. -/
def isWordChar (c : Char) : Bool :=
  if c.toNat < 0x80 then
    c.isAlphanum || c == '_'
  else
    CodePoints.lettersAndNumbers.contains c

/-- Whether a word boundary lies between two neighbours, either of which may be
the end of the text. -/
def isWordBoundary (left right : Option Char) : Bool :=
  left.any isWordChar != right.any isWordChar

namespace Text

/-- Whether a text, which follows the code point `left`, begins with a whole
occurrence of `word`. -/
def beginsWithWord (word : Text) (left : Option Char) (t : Text) : Bool :=
  match afterPrefix? word t with
  | none => false
  | some rest =>
    isWordBoundary left t.head? && isWordBoundary word.getLast? rest.head?

/-- The number of whole occurrences of `word` in a text that follows the code
point `left`. -/
def countWordFrom (word : Text) (left : Option Char) : Text → Nat
  | [] => 0
  | c :: rest =>
    countWordFrom word (some c) rest +
      (if beginsWithWord word left (c :: rest) then 1 else 0)

/-- The number of whole occurrences of `word` in a text. -/
def countWord (t word : Text) : Nat :=
  countWordFrom word none t

/-- Whether a text that follows the code point `left` holds a whole occurrence
of `word`. -/
def hasWordFrom (word : Text) (left : Option Char) : Text → Bool
  | [] => false
  | c :: rest =>
    beginsWithWord word left (c :: rest) || hasWordFrom word (some c) rest

/-- Whether a text holds a whole occurrence of `word`. -/
def hasWord (t word : Text) : Bool :=
  hasWordFrom word none t

end Text

end ModuleScaffold
