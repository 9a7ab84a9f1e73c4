import ModuleScaffold.Aggregator.Registration
import ModuleScaffold.Proofs.Aggregator.LastEntry
import ModuleScaffold.Proofs.Aggregator.Opening

/-!
# The list with one more entry

What is added to a list is read as code and leaves its brackets alone, so the
list with the entry is found again at the same closing bracket, if the comma
ahead of it does no harm.  The comma stands where a reader of single lines sees
the end of the last entry, and a reader of the whole text may be inside a string
or a comment there.  Neither minds a comma, in any mode but one: a star that
ends a block comment, with two slashes behind it.  There the comma tears the mark
apart, the comment goes on, and what follows is read as its text.
-/

namespace ModuleScaffold

namespace LexMode

theorem eq_slash_of_step {mode : LexMode} {c : Char}
    (h : mode.step c = .slash) : c = '/' := by
  cases mode <;> grind [step, afterCode]

theorem eq_star_of_step {mode : LexMode} {c : Char}
    (h : mode.step c = .blockStar) : c = '*' := by
  cases mode <;> grind [step, afterCode]

theorem getLast?_of_run_eq_slash {t : Text} (h : code.run t = .slash) :
    t.getLast? = some '/' := by
  rcases List.eq_nil_or_concat' t with rfl | ⟨s, c, rfl⟩
  · contradiction
  · rw [run_append] at h
    rw [List.getLast?_concat, eq_slash_of_step h]

theorem getLast?_of_run_eq_blockStar {t : Text}
    (h : code.run t = .blockStar) : t.getLast? = some '*' := by
  rcases List.eq_nil_or_concat' t with rfl | ⟨s, c, rfl⟩
  · contradiction
  · rw [run_append] at h
    rw [List.getLast?_concat, eq_star_of_step h]

end LexMode

namespace ImportsList

open Text

/-- The indentation of a new entry. -/
def entryIndent (l : ImportsList) : Text :=
  if '\n' ∈ l.body.trimRight then l.body.trimRight.indentation
  else l.before.indentation ++ "  "

/-- The blanks ahead of a new entry: a new line, and its indentation. -/
def blanksAhead (l : ImportsList) : Text :=
  l.toText.newline.text ++ l.entryIndent

/-- The blanks ahead of the closing bracket, once there is a new entry. -/
def blanksBehind (l : ImportsList) : Text :=
  if '\n' ∈ l.body.trailingBlanks then l.body.trailingBlanks
  else l.toText.newline.text ++ l.before.indentation

/-- The text that brings a new entry into a list, the comma ahead of it
aside. -/
def addition (l : ImportsList) (entry : Text) : Text :=
  l.blanksAhead ++ (entry ++ ',' :: l.blanksBehind)

theorem append_body (l : ImportsList) (entry : Text) :
    (l.append entry).body = l.body.trimRight.separated ++ l.addition entry := by
  simp [append, appendEntry, addition, blanksAhead, entryIndent, blanksBehind]

theorem blank_entryIndent (l : ImportsList) : Blank l.entryIndent := by
  unfold entryIndent
  split
  · exact blank_indentation _
  · refine (blank_indentation _).append fun c hmem => ?_
    obtain rfl : c = ' ' := by simpa using hmem
    decide

theorem blank_blanksAhead (l : ImportsList) : Blank l.blanksAhead :=
  (blank_newline _).append l.blank_entryIndent

theorem blanksAhead_ne_nil (l : ImportsList) : l.blanksAhead ≠ [] :=
  List.ne_nil_of_mem (List.mem_append_left _ (mem_newline l.toText.newline))

theorem blank_blanksBehind (l : ImportsList) : Blank l.blanksBehind := by
  unfold blanksBehind
  split
  · exact blank_trailingBlanks l.body
  · exact (blank_newline _).append (blank_indentation _)

/-- The comma ahead of a new entry tears a mark apart that ends a block comment:
`rest` follows the comma, in a place that is `depth` brackets deep. -/
def TearsComment (l : ImportsList) (depth : Nat) (rest : Text) : Prop :=
  ∃ entry, l.body.trimRight.lastEntryCut? = some (entry, rest) ∧
    Reading.start.run? entry = some ⟨.blockStar, depth⟩ ∧
    rest.head? = some '/'

theorem TearsComment.isInfix {l : ImportsList} {depth : Nat} {rest : Text}
    (h : l.TearsComment depth rest) : "*//".toList <:+: l.body := by
  obtain ⟨entry, hentry, hrun, hhead⟩ := h
  have hcut := lastEntryCut?_eq_some hentry
  have hlast : entry.getLast? = some '*' :=
    LexMode.getLast?_of_run_eq_blockStar (Reading.mode_of_run? hrun).symm
  obtain ⟨init, rfl⟩ := List.getLast?_eq_some_iff.1 hlast
  obtain ⟨tail, rfl⟩ := hcut.follows.exists_eq_slashes hhead
  refine List.IsInfix.trans ?_ (prefix_trimRight l.body).isInfix
  exact ⟨init, tail, by simp [hcut.append]⟩

/-! ## The edited body -/

theorem run?_trimRight_newline {l : ImportsList} (h : l.Readable)
    (newline : Newline) :
    Reading.start.run? (l.body.trimRight ++ newline.text) =
      some ⟨.code, 0⟩ := by
  obtain ⟨last, hrun, hcode, hdepth⟩ := h.closes
  rw [← trimRight_append_trailingBlanks l.body, Reading.run?_append,
    Option.bind_eq_some_iff] at hrun
  obtain ⟨head, hhead, htail⟩ := hrun
  rw [Reading.run?_of_blank head (blank_trailingBlanks l.body),
    Option.some.injEq] at htail
  have hmode : head.mode = LexMode.code.run l.body.trimRight :=
    Reading.mode_of_run? hhead
  have hopens : Reading.QuoteOpens head.mode := by
    rw [hmode]
    exact Reading.quoteOpens_run _
  rw [← htail] at hcode hdepth
  rw [Reading.run?_append_of_some _ hhead,
    Reading.run?_of_blank head (blank_newline newline),
    Reading.run_newline_eq_code newline hopens (blank_trailingBlanks l.body)
      hcode]
  simpa using hdepth

/-- The comma is not seen from the next line on, unless it tears a comment. -/
theorem run?_separated_newline {l : ImportsList} (h : l.Readable)
    (hwhole : ∀ depth rest, ¬ l.TearsComment depth rest) (newline : Newline) :
    Reading.start.run? (l.body.trimRight.separated ++ newline.text) =
      some ⟨.code, 0⟩ := by
  have hplain := run?_trimRight_newline h newline
  rw [separated_eq]
  cases hentry : l.body.trimRight.lastEntryCut? with
  | none => exact hplain
  | some cut =>
      obtain ⟨entry, rest⟩ := cut
      have hcut := lastEntryCut?_eq_some hentry
      simp only
      split
      · exact hplain
      · rw [hcut.append, List.append_assoc, Reading.run?_append,
          Option.bind_eq_some_iff] at hplain
        obtain ⟨behind, hbehind, hrest⟩ := hplain
        have hmode : behind.mode = LexMode.code.run entry :=
          Reading.mode_of_run? hbehind
        have hopens : Reading.QuoteOpens behind.mode := by
          rw [hmode]
          exact Reading.quoteOpens_run entry
        rw [List.append_assoc, List.cons_append,
          Reading.run?_append_of_some _ hbehind, ← hrest]
        obtain ⟨feed, tail, hnewline, hfeed⟩ :
            ∃ c tail, newline.text = c :: tail ∧ isBlank c = true := by
          cases newline <;> exact ⟨_, _, rfl, by decide⟩
        rw [hnewline]
        rcases hcut.follows with
          rfl | ⟨c, rest, rfl, hc⟩ | ⟨⟨rest, rfl⟩, hlast⟩
        · exact Reading.run?_comma_cons tail hopens (Or.inl hfeed) fun hslash =>
            (Reading.ne_of_isBlank hfeed (by decide) hslash).elim
        · exact Reading.run?_comma_cons _ hopens (Or.inl hc) fun hslash =>
            (Reading.ne_of_isBlank hc (by decide) hslash).elim
        · refine Reading.run?_comma_cons _ hopens (Or.inr rfl) fun _ => ⟨?_, ?_⟩
          · intro hslash
            exact hlast (LexMode.getLast?_of_run_eq_slash (hmode ▸ hslash))
          · intro hstar
            refine hwhole behind.depth _ ⟨entry, hentry, ?_, rfl⟩
            rw [hbehind, ← hstar]

/-- Ahead of the new entry the text is code, and no bracket is open. -/
theorem run?_blanksAhead {l : ImportsList} (h : l.Readable)
    (hwhole : ∀ depth rest, ¬ l.TearsComment depth rest) :
    Reading.start.run? (l.body.trimRight.separated ++ l.blanksAhead) =
      some ⟨.code, 0⟩ := by
  rw [blanksAhead, ← List.append_assoc, Reading.run?_append_of_some _
    (run?_separated_newline h hwhole l.toText.newline)]
  exact Reading.run?_code_of_isPlain 0 fun c hmem =>
    Reading.isPlain_of_isBlank (l.blank_entryIndent c hmem)

theorem run?_append_body {l : ImportsList} {entry : Text} (h : l.Readable)
    (hwhole : ∀ depth rest, ¬ l.TearsComment depth rest)
    (hentry : IsWord entry) :
    Reading.start.run? (l.append entry).body = some ⟨.code, 0⟩ := by
  rw [append_body, addition, ← List.append_assoc,
    Reading.run?_append_of_some _ (run?_blanksAhead h hwhole)]
  apply Reading.run?_code_of_isPlain
  intro c hmem
  rcases List.mem_append.1 hmem with hmem | hmem
  · exact Reading.isPlain_of_isWordChar (hentry.isWordChar c hmem)
  · rcases List.mem_cons.1 hmem with rfl | hmem
    · decide
    · exact Reading.isPlain_of_isBlank (l.blank_blanksBehind c hmem)

/-- The list with the entry is found where the list was. -/
theorem Readable.append {l : ImportsList} {entry : Text} (h : l.Readable)
    (hwhole : ∀ depth rest, ¬ l.TearsComment depth rest)
    (hentry : IsWord entry) :
    (l.append entry).Readable := by
  have hbody := run?_append_body h hwhole hentry
  exact h.withBody ⟨⟨.code, 0⟩, hbody, rfl, rfl⟩

end ImportsList

end ModuleScaffold
