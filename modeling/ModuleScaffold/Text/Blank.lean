import ModuleScaffold.Text.Basic

/-!
# Blank code points

Twenty-nine code points are blank: the white space of the Unicode standard and
the four information separators U+001C to U+001F.  The zero-width characters
U+200B, U+2060 and U+FEFF are not blank.  Trimming removes blanks from the ends
of a text; `trimRight` leaves a prefix of the text, `trimLeft` a suffix.
-/

namespace ModuleScaffold

/-- Whether a code point is white space or an information separator. -/
def isBlank (c : Char) : Bool :=
  let n := c.toNat
  (0x09 ≤ n && n ≤ 0x0D) || (0x1C ≤ n && n ≤ 0x20) || n == 0x85 || n == 0xA0 ||
    n == 0x1680 || (0x2000 ≤ n && n ≤ 0x200A) || n == 0x2028 || n == 0x2029 ||
    n == 0x202F || n == 0x205F || n == 0x3000

namespace Text

/-- The text without the blanks at its beginning. -/
def trimLeft (t : Text) : Text :=
  t.dropWhile isBlank

/-- The text without the blanks at its end. -/
def trimRight (t : Text) : Text :=
  (t.reverse.dropWhile isBlank).reverse

/-- The blanks at the end of the text. -/
def trailingBlanks (t : Text) : Text :=
  (t.reverse.takeWhile isBlank).reverse

/-- The text without the blanks at either end. -/
def trim (t : Text) : Text :=
  trimRight (trimLeft t)

/-- Nothing is lost when the blanks at the end are set apart. -/
@[simp] theorem trimRight_append_trailingBlanks (t : Text) :
    trimRight t ++ trailingBlanks t = t := by
  rw [trimRight, trailingBlanks, ← List.reverse_append,
    List.takeWhile_append_dropWhile, List.reverse_reverse]

theorem prefix_trimRight (t : Text) : trimRight t <+: t :=
  ⟨trailingBlanks t, trimRight_append_trailingBlanks t⟩

theorem length_trimRight_le (t : Text) : (trimRight t).length ≤ t.length :=
  (prefix_trimRight t).length_le

@[simp] theorem trimRight_nil : trimRight [] = [] := rfl

/-- A blank at the end does not survive. -/
theorem trimRight_concat_of_isBlank {c : Char} (t : Text)
    (h : isBlank c = true) : trimRight (t ++ [c]) = trimRight t := by
  simp [trimRight, h]

/-- A code point at the end that is not blank keeps the whole text. -/
theorem trimRight_concat_of_not_isBlank {c : Char} (t : Text)
    (h : isBlank c = false) : trimRight (t ++ [c]) = t ++ [c] := by
  simp [trimRight, h]

end Text

end ModuleScaffold
