import ModuleScaffold.Proofs.Aggregator.Layout

/-!
# A list with several new entries

The first new entry settles the layout.  Behind it the last line of the list is
an entry and its comma, so no further comma is needed; the line has the
indentation that the entry was given, and the closing bracket has a line of its
own.  Every later entry is therefore laid out as the first one was, and a list
with several of them is the old body followed by one line for each.
-/

namespace ModuleScaffold

namespace ImportsList

open Text

/-- The body up to the comma behind the last of the new entries. -/
def entries (l : ImportsList) (classes : List Text) : Text :=
  l.body.trimRight.separated ++
    classes.flatMap fun c => l.blanksAhead ++ c ++ [',']

/-- The body with one line for each of the new entries. -/
def extendedBody (l : ImportsList) (classes : List Text) : Text :=
  if classes = [] then l.body else l.entries classes ++ l.blanksBehind

@[simp] theorem entries_nil (l : ImportsList) :
    l.entries [] = l.body.trimRight.separated := by
  simp [entries]

@[simp] theorem extendedBody_nil (l : ImportsList) :
    l.extendedBody [] = l.body := rfl

theorem entries_concat (l : ImportsList) (classes : List Text) (c : Text) :
    l.entries (classes ++ [c]) =
      l.entries classes ++ (l.blanksAhead ++ c ++ [',']) := by
  simp [entries]

theorem extendedBody_concat (l : ImportsList) (classes : List Text) (c : Text) :
    l.extendedBody (classes ++ [c]) = l.entries classes ++ l.addition c := by
  rw [extendedBody, if_neg (by simp), entries_concat, addition]
  simp

theorem mem_blanksBehind (l : ImportsList) : '\n' ∈ l.blanksBehind := by
  unfold blanksBehind
  split
  next h => exact h
  next => exact List.mem_append_left _ (mem_newline _)

section LastLine

variable {l : ImportsList} {classes : List Text} {c : Text}

theorem lastLine_entries_concat (hc : IsWord c) :
    lastLine (l.entries (classes ++ [c])) = l.entryIndent ++ c ++ [','] := by
  have hshape : l.entries (classes ++ [c]) =
      l.entries classes ++ l.toText.newline.text ++ (l.entryIndent ++ c ++ [',']) := by
    rw [entries_concat, blanksAhead]
    simp
  rw [hshape, lastLine_newline_append, lastLine_eq_self]
  simp only [List.mem_append, List.mem_singleton, not_or]
  exact ⟨⟨l.not_mem_entryIndent, hc.not_mem (by decide)⟩, by decide⟩

theorem indentation_entries_concat (hc : IsWord c) :
    indentation (l.entries (classes ++ [c])) = l.entryIndent := by
  obtain ⟨d, rest, rfl⟩ := List.exists_cons_of_ne_nil hc.ne_nil
  have hd : isBlank d = false :=
    isBlank_of_isWordChar (hc.isWordChar d List.mem_cons_self)
  rw [indentation, lastLine_entries_concat hc, List.append_assoc,
    List.takeWhile_append_of_pos l.blank_entryIndent, List.cons_append,
    List.takeWhile_cons_of_neg (by simp [hd]), List.append_nil]

theorem lastEntryCut?_entries_concat (hc : IsWord c) :
    lastEntryCut? (l.entries (classes ++ [c])) =
      some (l.entries (classes ++ [c]), []) := by
  have hline : lastLine (l.entries (classes ++ [c])) = l.entryIndent ++ c ++ [','] :=
    lastLine_entries_concat hc
  apply lastEntryCut?_eq_self hline (by decide)
  intro d hmem
  have hplain : Reading.isPlain d = true := by
    simp only [hline, List.mem_append, List.mem_singleton] at hmem
    rcases hmem with (hmem | hmem) | rfl
    · exact Reading.isPlain_of_isBlank (l.blank_entryIndent d hmem)
    · exact Reading.isPlain_of_isWordChar (hc.isWordChar d hmem)
    · decide
  simp only [Reading.isPlain, Bool.and_eq_true, Bool.not_eq_true',
    bne_iff_ne] at hplain
  exact hplain.1.1

end LastLine

/-! ## A further entry -/

variable {l l' : ImportsList} {classes : List Text}

theorem trimRight_extendedBody_concat (l : ImportsList) (classes : List Text)
    (c : Text) :
    (l.extendedBody (classes ++ [c])).trimRight = l.entries (classes ++ [c]) := by
  rw [extendedBody, if_neg (by simp), trimRight_append_of_blank _ l.blank_blanksBehind,
    entries_concat, ← List.append_assoc, ← List.append_assoc]
  exact trimRight_concat_of_not_isBlank _ (by decide)

theorem trailingBlanks_extendedBody_concat (l : ImportsList)
    (classes : List Text) (c : Text) :
    (l.extendedBody (classes ++ [c])).trailingBlanks = l.blanksBehind := by
  have hshape : l.extendedBody (classes ++ [c]) =
      l.entries classes ++ (l.blanksAhead ++ c) ++ [','] ++ l.blanksBehind := by
    rw [extendedBody_concat, addition]
    simp
  rw [hshape]
  exact trailingBlanks_concat_append _ (by decide) l.blank_blanksBehind

theorem separated_trimRight_extendedBody (hclasses : ∀ c ∈ classes, IsWord c) :
    (l.extendedBody classes).trimRight.separated = l.entries classes := by
  rcases List.eq_nil_or_concat' classes with rfl | ⟨classes, c, rfl⟩
  · rw [extendedBody_nil, entries_nil]
  · have hc := hclasses c (by simp)
    rw [trimRight_extendedBody_concat, separated_eq, lastEntryCut?_entries_concat hc]
    have hlast : (l.entries (classes ++ [c])).getLast? = some ',' := by
      rw [entries_concat, ← List.append_assoc, List.getLast?_concat]
    simp only [hlast, if_true]

/-- A further entry is laid out as the first. -/
theorem addition_of_extendedBody (hclasses : ∀ c ∈ classes, IsWord c)
    (hnewline : l'.toText.newline = l.toText.newline)
    (hindent : l'.before.indentation = l.before.indentation)
    (hbody : l'.body = l.extendedBody classes) (entry : Text) :
    l'.addition entry = l.addition entry := by
  have hsame : l'.entryIndent = l.entryIndent ∧
      l'.blanksBehind = l.blanksBehind := by
    rcases List.eq_nil_or_concat' classes with rfl | ⟨classes, c, rfl⟩
    · rw [extendedBody_nil] at hbody
      simp only [entryIndent, blanksBehind, hbody, hindent, hnewline, and_self]
    · have hc := hclasses c (by simp)
      have hfeed : '\n' ∈ l.entries (classes ++ [c]) := by
        rw [entries_concat, blanksAhead]
        simp [mem_newline]
      constructor
      · rw [entryIndent, hbody, trimRight_extendedBody_concat, if_pos hfeed,
          indentation_entries_concat hc]
      · rw [blanksBehind, hbody, trailingBlanks_extendedBody_concat,
          if_pos l.mem_blanksBehind]
  rw [addition, addition, blanksAhead, blanksAhead, hnewline, hsame.1, hsame.2]

theorem append_body_of_extendedBody (hclasses : ∀ c ∈ classes, IsWord c)
    (hnewline : l'.toText.newline = l.toText.newline)
    (hindent : l'.before.indentation = l.before.indentation)
    (hbody : l'.body = l.extendedBody classes) (entry : Text) :
    (l'.append entry).body = l.extendedBody (classes ++ [entry]) := by
  rw [append_body, addition_of_extendedBody hclasses hnewline hindent hbody,
    hbody, separated_trimRight_extendedBody hclasses, extendedBody_concat]

/-- The comma of a further entry tears no comment. -/
theorem not_tearsComment_of_extendedBody (hmark : ¬ "*//".toList <:+: l.body)
    (hclasses : ∀ c ∈ classes, IsWord c)
    (hbody : l'.body = l.extendedBody classes) (depth : Nat) (rest : Text) :
    ¬ l'.TearsComment depth rest := by
  intro htears
  rcases List.eq_nil_or_concat' classes with rfl | ⟨classes, c, rfl⟩
  · have hinfix := htears.isInfix
    rw [hbody, extendedBody_nil] at hinfix
    exact hmark hinfix
  · obtain ⟨entry, hentry, -, hhead⟩ := htears
    rw [hbody, trimRight_extendedBody_concat,
      lastEntryCut?_entries_concat (hclasses c (by simp))] at hentry
    simp only [Option.some.injEq, Prod.mk.injEq] at hentry
    rw [← hentry.2] at hhead
    contradiction

end ImportsList

end ModuleScaffold
