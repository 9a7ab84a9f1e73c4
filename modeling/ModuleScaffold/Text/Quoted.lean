import ModuleScaffold.Text.UnprintableRanges

/-!
# Quoted texts

A text is shown in a message between quotes, in a form that is one line of
printable code points and from which the text can be read back.  The quote is
the apostrophe, or the double quote when that avoids an escape.  The quote in
use and the backslash follow a backslash; a tab, a line feed and a carriage
return have letters; any other unprintable code point is its hexadecimal number
in two, four or eight digits.
-/

namespace ModuleScaffold

/-- Whether a code point is printed as itself. -/
def isPrintable (c : Char) : Bool :=
  if c.toNat < 0x7F then
    0x20 ≤ c.toNat
  else
    !CodePoints.unprintable.contains c

namespace Text

/-- The hexadecimal digits of a number, at least `width` of them. -/
def hexDigits (width n : Nat) : Text :=
  let digits := Nat.toDigits 16 n
  List.replicate (width - digits.length) '0' ++ digits

/-- The number of a code point behind a backslash. -/
def numericEscape (c : Char) : Text :=
  let n := c.toNat
  if n < 0x100 then
    "\\x" ++ hexDigits 2 n
  else if n < 0x10000 then
    "\\u" ++ hexDigits 4 n
  else
    "\\U" ++ hexDigits 8 n

/-- The form of one code point between two of `quote`. -/
def escaped (quote c : Char) : Text :=
  if c = quote || c = '\\' then
    ['\\', c]
  else if c = '\t' then
    "\\t"
  else if c = '\n' then
    "\\n"
  else if c = '\r' then
    "\\r"
  else if isPrintable c then
    [c]
  else
    numericEscape c

/-- The quote that a text is shown in: the double quote (U+0022) for a text
that holds an apostrophe (U+0027) and no double quote. -/
def preferredQuote (t : Text) : Char :=
  if '\x27' ∈ t ∧ '\x22' ∉ t then '\x22' else '\x27'

/-- The text as a message shows it. -/
def quoted (t : Text) : Text :=
  let quote := preferredQuote t
  [quote] ++ t.flatMap (escaped quote) ++ [quote]

end Text

end ModuleScaffold
