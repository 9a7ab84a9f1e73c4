import ModuleScaffold.Text.Basic

/-!
# Code, strings and comments

A source text is read one code point at a time.  The mode of reading says
whether the next code point belongs to code, to a string in one of the three
quotes, or to a comment, and `LexMode.step` is the mode behind it.  A slash in
code and a star in a block comment have modes of their own, since the next code
point may complete a comment mark with them.

A second, shorter reading serves single lines: `Text.codePart` stops at the
first line comment and knows strings but no block comments.
-/

namespace ModuleScaffold

/-- Whether a code point opens and closes strings: the apostrophe (U+0027), the
double quote (U+0022) and the grave accent (U+0060). -/
def isQuote (c : Char) : Bool :=
  c == '\x27' || c == '\x22' || c == '\x60'

/-- What the next code point of a source text belongs to. -/
inductive LexMode where
  | code
  /-- Code behind a slash, which the next code point may turn into a comment. -/
  | slash
  /-- A string that `quote` will close. -/
  | quoted (quote : Char)
  /-- A string, behind the backslash that takes away the meaning of the next
  code point. -/
  | escaped (quote : Char)
  | lineComment
  /-- A comment between a slash with a star and a star with a slash. -/
  | blockComment
  /-- Such a comment, behind a star that may begin its end. -/
  | blockStar
deriving DecidableEq, Repr

namespace LexMode

/-- Whether a code point read in this mode is code. -/
def isCode : LexMode → Bool
  | code | slash => true
  | _ => false

/-- The mode behind a code point of code that completes no comment mark. -/
def afterCode (c : Char) : LexMode :=
  if isQuote c then quoted c else if c = '/' then slash else code

/-- The mode behind one code point. -/
def step (mode : LexMode) (c : Char) : LexMode :=
  match mode with
  | code => afterCode c
  | slash =>
    if c = '/' then lineComment
    else if c = '*' then blockComment
    else afterCode c
  | quoted quote =>
    if c = '\\' then escaped quote
    else if c = quote then code
    else quoted quote
  | escaped quote => quoted quote
  | lineComment => if c = '\n' then code else lineComment
  | blockComment => if c = '*' then blockStar else blockComment
  | blockStar =>
    if c = '/' then code
    else if c = '*' then blockStar
    else blockComment

/-- The mode behind a text. -/
def run (mode : LexMode) (t : Text) : LexMode :=
  t.foldl step mode

@[simp] theorem run_nil (mode : LexMode) : mode.run [] = mode := rfl

@[simp] theorem run_cons (mode : LexMode) (c : Char) (t : Text) :
    mode.run (c :: t) = (mode.step c).run t := rfl

/-- Reading a text in two parts is reading it whole. -/
@[simp] theorem run_append (mode : LexMode) (s t : Text) :
    mode.run (s ++ t) = (mode.run s).run t :=
  List.foldl_append

/-- The mode behind one code point of a line that is read without comments. -/
def stepInLine (mode : LexMode) (c : Char) : LexMode :=
  match mode with
  | quoted quote =>
    if c = '\\' then escaped quote
    else if c = quote then code
    else quoted quote
  | escaped quote => quoted quote
  | _ => if isQuote c then quoted c else code

end LexMode

namespace Text

/-- The part of a text ahead of the first two slashes that stand outside a
string, for a text that is read from `mode` on. -/
def codePartFrom (mode : LexMode) : Text → Text
  | [] => []
  | c :: rest =>
    if mode.isCode && c == '/' && rest.head? == some '/' then
      []
    else
      c :: codePartFrom (mode.stepInLine c) rest

/-- The part of a line ahead of its line comment, or all of it. -/
def codePart (line : Text) : Text :=
  codePartFrom .code line

theorem prefix_codePartFrom (mode : LexMode) (line : Text) :
    codePartFrom mode line <+: line := by
  induction line generalizing mode with
  | nil => exact List.prefix_refl []
  | cons c rest ih =>
    unfold codePartFrom
    split
    · exact List.nil_prefix
    · exact (List.prefix_cons_inj c).2 (ih _)

/-- The code of a line stands at its beginning. -/
theorem prefix_codePart (line : Text) : codePart line <+: line :=
  prefix_codePartFrom .code line

end Text

end ModuleScaffold
