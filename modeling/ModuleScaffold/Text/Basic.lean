/-!
# Texts

A text is the list of its code points.  Every length, position and cut in this
library therefore counts code points, and a function on texts is a recursion
over a list.  String literals may be written where a text is expected.
-/

namespace ModuleScaffold

/-- A text, as the list of its code points. -/
abbrev Text := List Char

/-- A string literal stands for the text of its code points. -/
instance : Coe String Text where
  coe := String.toList

namespace Text

/-- What follows `opening` in a text that begins with it. -/
def afterPrefix? (opening t : Text) : Option Text :=
  if opening.isPrefixOf t then some (t.drop opening.length) else none

theorem afterPrefix?_eq_some_iff {opening t rest : Text} :
    afterPrefix? opening t = some rest ↔ t = opening ++ rest := by
  unfold afterPrefix?
  split
  · rename_i h
    obtain ⟨tail, rfl⟩ := List.isPrefixOf_iff_prefix.1 h
    simp
  · rename_i h
    simp only [reduceCtorEq, false_iff]
    rintro rfl
    exact h (List.isPrefixOf_iff_prefix.2 (List.prefix_append _ _))

end Text

end ModuleScaffold
