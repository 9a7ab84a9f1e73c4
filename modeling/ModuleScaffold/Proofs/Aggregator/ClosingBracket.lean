import ModuleScaffold.Proofs.Aggregator.Registered

/-!
# The closing bracket stays

A registration moves a list by the length of the import line and makes its body
longer, and that is all that a later search for the list notices: the opening is
the one it was, and so is the closing bracket, counted from the end of the text.
The one thing that could move the bracket is a comma put into the mark that ends
a block comment, so a list without that mark next to a slash is safe.
-/

namespace ModuleScaffold

open Text ImportsList

variable {raw : Text} {n : ModuleName}

/-- The length of what a registration puts on top of a text. -/
def importLength (n : ModuleName) (t : Text) : Nat :=
  if t.hasLine n.importLine then 0
  else (n.importLine ++ t.newline.text).length

namespace ImportsList

theorem length_before_imported (l : ImportsList) (n : ModuleName) :
    (l.imported n).before.length =
      l.before.length + importLength n l.toText := by
  unfold imported importLength
  split
  · rfl
  · simp only [List.length_append]
    omega

theorem openingStart_registered (l : ImportsList) (n : ModuleName) :
    (l.registered n).openingStart =
      l.openingStart + importLength n l.toText := by
  rw [openingStart, before_registered, length_before_imported, openingStart]

theorem bodyStart_registered (l : ImportsList) (n : ModuleName) :
    (l.registered n).bodyStart = l.bodyStart + importLength n l.toText := by
  rw [bodyStart, openingStart_registered, opening_registered, bodyStart]
  omega

/-- The closing bracket is as far from the end as the rest is long. -/
theorem bodyEnd_eq_sub (l : ImportsList) :
    l.bodyEnd = l.toText.length - l.after.length := by
  simp only [bodyEnd, bodyStart, openingStart, toText, List.length_append]
  omega

theorem length_after_eq_sub (l : ImportsList) :
    l.after.length = l.toText.length - l.bodyEnd := by
  simp only [bodyEnd, bodyStart, openingStart, toText, List.length_append]
  omega

end ImportsList

/-- The list is found again between the same brackets, and it holds the
class. -/
theorem find?_register (hn : ModuleName.derive raw = .ok n) {t : Text}
    {l : ImportsList} (h : find? t = some l)
    (hmark : ¬ "*//".toList <:+: l.body) :
    ∃ l', find? (register n t).content = some l' ∧
      l'.openingStart = l.openingStart + importLength n t ∧
      l'.bodyStart = l.bodyStart + importLength n t ∧
      l'.bodyEnd = (register n t).content.length - (t.length - l.bodyEnd) ∧
      l'.body.hasWord n.moduleClass = true := by
  have htext : l.toText = t := toText_of_find? h
  have hreadable : (l.registered n).Readable :=
    (Readable.of_find? h).registered hn fun _ _ _ htears => hmark htears.isInfix
  rw [(register_of_find?_some hn h).1]
  refine ⟨l.registered n, hreadable.find?, ?_, ?_, ?_, ?_⟩
  · rw [openingStart_registered, htext]
  · rw [bodyStart_registered, htext]
  · rw [bodyEnd_eq_sub, after_registered, length_after_eq_sub, htext]
  · have hword := ModuleName.isWord_moduleClass hn
    exact (hasWord_registered hn hword l).2 (Or.inr rfl)

theorem find?_register_users :
    ∃ l', find? (register (.ofPascal "Users")
        "imports: [A[0], ']' /* ] */ // ]\n]").content = some l' ∧
      l'.openingStart = 52 ∧ l'.bodyStart = 62 ∧
      l'.bodyEnd = (register (.ofPascal "Users")
        "imports: [A[0], ']' /* ] */ // ]\n]").content.length - 1 ∧
      l'.body.hasWord "UsersModule" = true := by
  have hn : ModuleName.derive "users" = .ok (.ofPascal "Users") := by rfl
  have hfind : find? "imports: [A[0], ']' /* ] */ // ]\n]" =
      some ⟨"", "imports: [", "A[0], ']' /* ] */ // ]\n", "]"⟩ := by rfl
  exact find?_register hn hfind (by decide +kernel)

end ModuleScaffold
