import ModuleScaffold.Text.Blank

/-!
# Lines

Two notions of line are in use.  `lines` cuts a text at every line boundary of
the Unicode standard and at the information separators, as a reader of the text
would see its lines.  `lastLine` and `indentation` know the line feed only: they
serve the placing of new text, and a new line is begun by a line feed, alone or
after a carriage return.
-/

namespace ModuleScaffold

/-- Whether a code point alone ends a line. -/
def isLineBreak (c : Char) : Bool :=
  let n := c.toNat
  (0x0A ≤ n && n ≤ 0x0D) || (0x1C ≤ n && n ≤ 0x1E) || n == 0x85 ||
    n == 0x2028 || n == 0x2029

/-- How a file ends its lines. -/
inductive Newline where
  | lf
  | crlf
deriving DecidableEq, Repr

/-- The code points that end a line. -/
def Newline.text : Newline → Text
  | .lf => "\n"
  | .crlf => "\r\n"

namespace Text

/-- Whether a line of the text ends in a carriage return and a line feed. -/
def hasCrlf : Text → Bool
  | [] => false
  | '\r' :: '\n' :: _ => true
  | _ :: rest => hasCrlf rest

/-- The style of new lines in a text: the one that has a carriage return as
soon as any line of the text has it. -/
def newline (t : Text) : Newline :=
  if hasCrlf t then .crlf else .lf

/-- The lines of a text without what ends them.  A carriage return and a line
feed end one line together, and a break at the end of the text begins no
further line. -/
def lines : Text → List Text
  | [] => []
  | '\r' :: '\n' :: rest => [] :: lines rest
  | c :: rest =>
    if isLineBreak c then
      [] :: lines rest
    else
      match lines rest with
      | [] => [[c]]
      | line :: others => (c :: line) :: others

/-- Whether some line of the text, blanks at its ends aside, is `line`. -/
def hasLine (t line : Text) : Bool :=
  (lines t).any fun existing => trim existing == line

/-- The text after the last line feed. -/
def lastLine (t : Text) : Text :=
  (t.reverse.takeWhile (· != '\n')).reverse

/-- The text up to and including the last line feed. -/
def earlierLines (t : Text) : Text :=
  (t.reverse.dropWhile (· != '\n')).reverse

/-- The blanks that begin the last line of a text. -/
def indentation (t : Text) : Text :=
  (lastLine t).takeWhile isBlank

@[simp] theorem earlierLines_append_lastLine (t : Text) :
    earlierLines t ++ lastLine t = t := by
  rw [earlierLines, lastLine, ← List.reverse_append,
    List.takeWhile_append_dropWhile, List.reverse_reverse]

/-- The last line holds no line feed. -/
theorem not_mem_lastLine (t : Text) : '\n' ∉ lastLine t := by
  intro h
  rw [lastLine, List.mem_reverse] at h
  have hall : (t.reverse.takeWhile (· != '\n')).all (· != '\n') = true :=
    List.all_takeWhile
  simpa using List.all_eq_true.1 hall '\n' h

/-- The earlier lines of a text are shorter than the text, or end in the line
feed that trimming removes. -/
theorem length_trimRight_earlierLines_lt {t : Text} (h : t ≠ []) :
    (trimRight (earlierLines t)).length < t.length := by
  have happend := congrArg List.length (earlierLines_append_lastLine t)
  rw [List.length_append] at happend
  have htrim := length_trimRight_le (earlierLines t)
  by_cases hline : lastLine t = []
  · obtain ⟨init, c, rfl⟩ : ∃ init c, t = init ++ [c] :=
      ⟨t.dropLast, t.getLast h, (List.dropLast_concat_getLast h).symm⟩
    have hc : c = '\n' := by
      simp only [lastLine, List.reverse_append, List.reverse_singleton,
        List.singleton_append, List.takeWhile_cons] at hline
      by_cases hc : c = '\n'
      · exact hc
      · simp [hc] at hline
    subst hc
    have hall : earlierLines (init ++ ['\n']) = init ++ ['\n'] := by
      simp [earlierLines]
    rw [hall, trimRight_concat_of_isBlank init (by decide)]
    have := length_trimRight_le init
    simp only [List.length_append, List.length_singleton]
    omega
  · have := List.length_pos_iff.2 hline
    omega

end Text

end ModuleScaffold
