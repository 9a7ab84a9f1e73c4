import ModuleScaffold.Aggregator.LexMode
import ModuleScaffold.Text.Line

/-!
# The comma behind the last entry

Before an entry is added to a list, the entry ahead of it needs a comma.  The
comma goes behind the code of the last line that has any, ahead of a line
comment on that line.  `separated` looks for that line from the end of the text:
as long as the last line holds no code, it goes on with the text above.  However
many such lines there are: a limit to the depth of the recursion, which an
interpreter would set, is left out.
-/

namespace ModuleScaffold

namespace Text

/-- The code of a line, without the blanks behind it. -/
def entryCode (line : Text) : Text :=
  trimRight (codePart line)

/-- The text with a comma behind its last entry, unless it has one. -/
def separated (t : Text) : Text :=
  if t = [] then
    []
  else
    let line := lastLine t
    let code := entryCode line
    if code = [] then
      -- the last entry stands further up
      let above := trimRight (earlierLines t)
      separated above ++ t.drop above.length
    else if code.getLast? = some ',' then
      t
    else
      earlierLines t ++ code ++ [','] ++ line.drop code.length
termination_by t.length
decreasing_by exact length_trimRight_earlierLines_lt ‹t ≠ []›

end Text

end ModuleScaffold
