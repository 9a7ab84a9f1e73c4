import ModuleScaffold.Proofs.Aggregator.LastEntry
import ModuleScaffold.Proofs.Aggregator.Reading

/-!
# The comma, line by line

The search for the last entry goes from line to line and drops the blanks at the end of
what is left each time, so the lines it looks at are not those of the text.  That makes
no difference: blanks behind a line are no code and begin no comment.  So the comma goes
behind the code of the last line that has any, where lines are what stands between line
feeds.

The comma itself is code of its line and begins no comment, nor does it keep the one
behind it from being a comment.  The line therefore keeps its place as the last one with
code, and now ends in a comma, so a second comma is never put in.
-/

namespace ModuleScaffold

namespace LexMode

/-- The mode behind a part of a line that is read without comments. -/
def runInLine (mode : LexMode) (t : Text) : LexMode :=
  t.foldl stepInLine mode

theorem InLine.runInLine {mode : LexMode} (h : mode.InLine) (t : Text) :
    (mode.runInLine t).InLine := by
  induction t generalizing mode with
  | nil => exact h
  | cons c t ih => exact ih (h.stepInLine c)

end LexMode

namespace Text

/-! ## The code of a line with a comma -/

theorem codePartFrom_append_of_isPrefix {mode : LexMode} {s t : Text}
    (h : s <+: codePartFrom mode (s ++ t)) :
    codePartFrom mode (s ++ t) = s ++ codePartFrom (mode.runInLine s) t := by
  induction s generalizing mode with
  | nil => rfl
  | cons c s ih =>
      rw [List.cons_append, codePartFrom] at h ⊢
      split at h
      next => exact absurd (List.prefix_nil.1 h) (List.cons_ne_nil c s)
      next hcode =>
        rw [if_neg hcode, ih ((List.prefix_cons_inj c).1 h)]
        rfl

/-- What follows code may change, as long as it does not make a slash of it a comment. -/
theorem isPrefix_codePartFrom_append {mode : LexMode} {s t t' : Text}
    (h : s <+: codePartFrom mode (s ++ t)) (ht' : t'.head? ≠ some '/') :
    s <+: codePartFrom mode (s ++ t') := by
  induction s generalizing mode with
  | nil => exact List.nil_prefix
  | cons c s ih =>
      rw [List.cons_append, codePartFrom] at h ⊢
      split at h
      next => exact absurd (List.prefix_nil.1 h) (List.cons_ne_nil c s)
      next hcode =>
        rw [if_neg, List.prefix_cons_inj]
        · exact ih ((List.prefix_cons_inj c).1 h)
        · intro hcomment
          simp only [Bool.and_eq_true, beq_iff_eq] at hcode hcomment
          cases s with
          | nil => exact ht' hcomment.2
          | cons d s => exact hcode hcomment

theorem codePart_eq_entryCode_append (line : Text) :
    codePart line = entryCode line ++ trailingBlanks (codePart line) :=
  (trimRight_append_trailingBlanks _).symm

/-- A string stays open over blanks. -/
theorem eq_code_of_codePartFrom_eq {mode : LexMode} {b tail : Text} (hmode : mode.InLine)
    (hb : Blank b) (h : codePartFrom mode (b ++ '/' :: '/' :: tail) = b) :
    mode = .code := by
  induction b generalizing mode with
  | nil =>
      cases mode with
      | code => rfl
      | quoted | escaped => simp [codePartFrom, LexMode.isCode] at h
      | slash | lineComment | blockComment | blockStar => exact False.elim hmode
  | cons c b ih =>
      have hslash : c ≠ '/' := Reading.ne_of_isBlank hb.head (by decide)
      rw [List.cons_append, codePartFrom, if_neg (by simp [hslash])] at h
      have hnext := ih (hmode.stepInLine c) hb.tail (List.cons.inj h).2
      cases mode with
      | code => rfl
      | quoted quote =>
          have hquote : c ≠ quote :=
            Reading.ne_of_isQuote hmode (Reading.isQuote_of_isBlank hb.head)
          have hbackslash : c ≠ '\\' := Reading.ne_of_isBlank hb.head (by decide)
          simp [LexMode.stepInLine, hquote, hbackslash] at hnext
      | escaped quote => exact absurd hnext (by simp [LexMode.stepInLine])
      | slash | lineComment | blockComment | blockStar => exact False.elim hmode

/-- A line with a comma behind its code. -/
def withComma (line : Text) : Text :=
  entryCode line ++ ',' :: line.drop (entryCode line).length

theorem blank_codePartFrom_step_comma {line : Text} {mode : LexMode} (hmode : mode.InLine)
    (h : codePartFrom mode (line.drop (entryCode line).length) =
      trailingBlanks (codePart line)) :
    Blank (codePartFrom (mode.stepInLine ',') (line.drop (entryCode line).length)) := by
  obtain ⟨rest, hdrop, hrest⟩ := exists_drop_entryCode line
  have hblanks := blank_trailingBlanks (codePart line)
  rcases hrest with rfl | ⟨⟨tail, rfl⟩, -⟩
  · intro c hmem
    rw [hdrop, List.append_nil] at hmem
    exact hblanks c ((prefix_codePartFrom _ _).subset hmem)
  · -- a comment behind the blanks is one only if no string is open
    rw [hdrop] at h ⊢
    obtain rfl := eq_code_of_codePartFrom_eq hmode hblanks h
    have hstep : LexMode.code.stepInLine ',' = .code := rfl
    rw [hstep, h]
    exact hblanks

/-- The comma is the end of the code. -/
theorem entryCode_withComma (line : Text) :
    entryCode (withComma line) = entryCode line ++ [','] := by
  have hline := prefix_drop_length (prefix_entryCode line)
  have hcode : entryCode line <+: codePartFrom .code
      (entryCode line ++ line.drop (entryCode line).length) := by
    rw [hline]
    exact prefix_trimRight _
  have hpart := codePartFrom_append_of_isPrefix hcode
  rw [hline] at hpart
  have hblanks : codePartFrom (LexMode.code.runInLine (entryCode line))
      (line.drop (entryCode line).length) = trailingBlanks (codePart line) :=
    List.append_cancel_left (hpart.symm.trans (codePart_eq_entryCode_append line))
  have hinline : LexMode.InLine .code := trivial
  have hblank := blank_codePartFrom_step_comma (hinline.runInLine _) hblanks
  have hcomma : codePart (withComma line) = entryCode line ++ ',' :: codePartFrom
      ((LexMode.code.runInLine (entryCode line)).stepInLine ',')
      (line.drop (entryCode line).length) := by
    have hhead : (',' :: line.drop (entryCode line).length).head? ≠ some '/' := by simp
    rw [codePart, withComma,
      codePartFrom_append_of_isPrefix (isPrefix_codePartFrom_append hcode hhead),
      codePartFrom, if_neg (by simp)]
  have htrim : trimRight (codePartFrom
      ((LexMode.code.runInLine (entryCode line)).stepInLine ',')
      (line.drop (entryCode line).length)) = [] :=
    trimRight_append_of_blank [] hblank
  rw [entryCode, hcomma, trimRight_append_cons _ _ (by decide), htrim]

/-! ## The last entry, line by line -/

theorem entryCode_append_blank {line b : Text} (hb : Blank b) :
    entryCode (line ++ b) = entryCode line := by
  have hhead : b.head? ≠ some '/' := by
    intro hslash
    exact absurd (hb '/' (List.mem_of_head? hslash)) (by decide)
  rcases codePartFrom_append_cases .code line hhead with hsame | ⟨mode, hall⟩
  · exact congrArg trimRight hsame
  · have hself : codePart line = line := by
      have hcode : line <+: codePartFrom .code (line ++ b) := by
        rw [hall]
        exact List.prefix_append _ _
      have hagain : line <+: codePartFrom .code (line ++ []) :=
        isPrefix_codePartFrom_append hcode (by simp)
      rw [List.append_nil] at hagain
      exact ((prefix_codePart line).eq_of_length_le hagain.length_le)
    have hblank : Blank (codePartFrom mode b) := fun c hmem =>
      hb c ((prefix_codePartFrom _ _).subset hmem)
    rw [entryCode, codePart, hall, trimRight_append_of_blank _ hblank, entryCode, hself]

theorem lastEntryCut?_concat_of_ne (t : Text) {c : Char} (hc : isBlank c = true)
    (hfeed : c ≠ '\n') :
    lastEntryCut? (t ++ [c]) =
      (lastEntryCut? t).map fun (entry, rest) => (entry, rest ++ [c]) := by
  have hline : '\n' ∉ [c] := by simpa using Ne.symm hfeed
  have hblank : Blank [c] := by simpa [Blank] using hc
  obtain ⟨hearlier, hlast⟩ := lines_append_of_not_mem t hline
  have habove := (trimRight_earlierLines_isPrefix t).length_le
  have hahead := (prefix_entryCode (lastLine t)).length_le
  rw [lastEntryCut?_eq, lastEntryCut?_eq t, hearlier, hlast, entryCode_append_blank hblank,
    List.drop_append_of_le_length habove, List.drop_append_of_le_length hahead]
  split
  · simp [Function.comp_def]
  · rfl

theorem lastEntryCut?_append_newline (s : Text) {line : Text} (hline : '\n' ∉ line) :
    lastEntryCut? (s ++ '\n' :: line) =
      if entryCode line = [] then
        (lastEntryCut? (trimRight s)).map fun (entry, rest) =>
          (entry, rest ++ (trailingBlanks s ++ '\n' :: line))
      else
        some (s ++ '\n' :: entryCode line, line.drop (entryCode line).length) := by
  have hfeed : isBlank '\n' = true := by decide
  have hsplit : s ++ '\n' :: line = s ++ ['\n'] ++ line := List.append_cons s '\n' line
  obtain ⟨hearlier, hlast⟩ := lines_append (Or.inr ⟨s, rfl⟩) hline
  rw [hsplit, lastEntryCut?_eq, drop_trimRight_earlierLines, hearlier, hlast,
    trimRight_concat_of_isBlank s hfeed, trailingBlanks_concat_of_isBlank s hfeed]
  simp only [List.append_assoc, List.singleton_append]

/-- Blanks behind a text belong to no entry. -/
theorem lastEntryCut?_trimRight (t : Text) :
    lastEntryCut? t = (lastEntryCut? (trimRight t)).map
      fun (entry, rest) => (entry, rest ++ trailingBlanks t) := by
  induction t using List.reverseRecOn with
  | nil => simp [trailingBlanks]
  | append_singleton t c ih =>
      by_cases hc : isBlank c = true
      · rw [trimRight_concat_of_isBlank t hc, trailingBlanks_concat_of_isBlank t hc]
        by_cases hfeed : c = '\n'
        · have hcode : entryCode [] = [] := rfl
          rw [hfeed, lastEntryCut?_append_newline t List.not_mem_nil, if_pos hcode]
        · rw [lastEntryCut?_concat_of_ne t hc hfeed, ih]
          simp [Function.comp_def]
      · have hnot : isBlank c = false := by simpa using hc
        have hblanks : trailingBlanks (t ++ [c]) = [] := by simp [trailingBlanks, hnot]
        rw [trimRight_concat_of_not_isBlank t hnot, hblanks]
        simp

theorem lastEntryCut?_of_not_mem {line : Text} (hline : '\n' ∉ line) :
    lastEntryCut? line =
      if entryCode line = [] then none
      else some (entryCode line, line.drop (entryCode line).length) := by
  have hnone : lastEntryCut? (trimRight []) = none := by rw [lastEntryCut?]; rfl
  have hparts : earlierLines ([] ++ line) = [] ∧ lastLine ([] ++ line) = line :=
    lines_append (Or.inl rfl) hline
  rw [List.nil_append] at hparts
  rw [lastEntryCut?_eq, hparts.1, hparts.2, hnone]
  rfl

/-- On one line the comma goes behind its code, if it has any. -/
theorem separated_of_not_mem {line : Text} (hline : '\n' ∉ line) :
    separated line =
      if entryCode line = [] ∨ (entryCode line).getLast? = some ',' then line
      else withComma line := by
  rw [separated_eq, lastEntryCut?_of_not_mem hline]
  by_cases hcode : entryCode line = []
  · simp [hcode]
  · simp [hcode, withComma]

/-- One more line takes the comma if it has code, and else leaves it to those ahead. -/
theorem separated_append_newline (s : Text) {line : Text} (hline : '\n' ∉ line) :
    separated (s ++ '\n' :: line) =
      if entryCode line = [] then separated s ++ '\n' :: line
      else if (entryCode line).getLast? = some ',' then s ++ '\n' :: line
      else s ++ '\n' :: withComma line := by
  have hfeed : s ++ '\n' :: entryCode line = s ++ ['\n'] ++ entryCode line :=
    List.append_cons s '\n' _
  rw [separated_eq, lastEntryCut?_append_newline s hline, separated_eq s,
    lastEntryCut?_trimRight s]
  by_cases hcode : entryCode line = []
  · rw [if_pos hcode, if_pos hcode]
    cases lastEntryCut? (trimRight s) with
    | none => rfl
    | some cut =>
        obtain ⟨entry, rest⟩ := cut
        simp only [Option.map_some]
        split
        · rfl
        · simp
  · rw [if_neg hcode, if_neg hcode]
    simp only [hfeed, List.getLast?_append_of_ne_nil _ hcode]
    simp [withComma]

/-! ## The lines of a text -/

/-- What holds of single lines and of a text with one more line holds of every text. -/
@[elab_as_elim]
theorem lineInduction {motive : Text → Prop}
    (single : ∀ line, '\n' ∉ line → motive line)
    (more : ∀ s line, '\n' ∉ line → motive s → motive (s ++ '\n' :: line))
    (t : Text) : motive t := by
  induction hlength : t.length using Nat.strong_induction_on generalizing t with
  | _ count ih =>
      subst hlength
      have hsplit := earlierLines_append_lastLine t
      rcases earlierLines_eq_nil_or_concat t with hnil | ⟨s, hs⟩
      · rw [hnil, List.nil_append] at hsplit
        rw [← hsplit]
        exact single _ (not_mem_lastLine t)
      · rw [hs, ← List.append_cons] at hsplit
        have hshorter : s.length < t.length := by
          rw [← hsplit]
          simp
        rw [← hsplit]
        exact more s _ (not_mem_lastLine t) (ih _ hshorter s rfl)

theorem splitOn_append_newline (s : Text) {line : Text} (hline : '\n' ∉ line) :
    (s ++ '\n' :: line).splitOn '\n' = s.splitOn '\n' ++ [line] := by
  rw [List.splitOn_append_cons_self, List.splitOn_eq_singleton hline]

theorem not_mem_of_mem_splitOn {t line : Text} (h : line ∈ t.splitOn '\n') :
    '\n' ∉ line := by
  induction t using lineInduction with
  | single line' hline =>
      rw [List.splitOn_eq_singleton hline, List.mem_singleton] at h
      rwa [h]
  | more s line' hline ih =>
      rw [splitOn_append_newline s hline, List.mem_append, List.mem_singleton] at h
      rcases h with hs | rfl
      · exact ih hs
      · exact hline

/-- The lines ahead of the last one that holds code, that line, and those behind it. -/
def lastCodeLine? : List Text → Option (List Text × Text × List Text)
  | [] => none
  | line :: below =>
    match lastCodeLine? below with
    | some (above, last, below) => some (line :: above, last, below)
    | none => if entryCode line = [] then none else some ([], line, below)

theorem lastCodeLine?_eq_none_iff {lines : List Text} :
    lastCodeLine? lines = none ↔ ∀ line ∈ lines, entryCode line = [] := by
  induction lines with
  | nil => simp [lastCodeLine?]
  | cons line below ih =>
      rw [List.forall_mem_cons, ← ih, lastCodeLine?]
      cases lastCodeLine? below with
      | none => simp
      | some cut => simp

theorem lastCodeLine?_append {line : Text} {below : List Text} (above : List Text)
    (hcode : entryCode line ≠ []) (hbelow : ∀ other ∈ below, entryCode other = []) :
    lastCodeLine? (above ++ line :: below) = some (above, line, below) := by
  induction above with
  | nil =>
      rw [List.nil_append, lastCodeLine?, lastCodeLine?_eq_none_iff.2 hbelow]
      exact if_neg hcode
  | cons first above ih => rw [List.cons_append, lastCodeLine?, ih]

theorem lastCodeLine?_eq_some {lines above below : List Text} {line : Text}
    (h : lastCodeLine? lines = some (above, line, below)) :
    lines = above ++ line :: below ∧ entryCode line ≠ [] ∧
      ∀ other ∈ below, entryCode other = [] := by
  induction lines generalizing above with
  | nil => contradiction
  | cons first lines ih =>
      rw [lastCodeLine?] at h
      cases hrest : lastCodeLine? lines with
      | some cut =>
          obtain ⟨above', line', below'⟩ := cut
          rw [hrest] at h
          simp only [Option.some.injEq, Prod.mk.injEq] at h
          obtain ⟨rfl, rfl, rfl⟩ := h
          obtain ⟨hlines, hcode⟩ := ih hrest
          exact ⟨by rw [hlines, List.cons_append], hcode⟩
      | none =>
          rw [hrest] at h
          by_cases hcode : entryCode first = []
          · simp [hcode] at h
          · simp only [if_neg hcode, Option.some.injEq, Prod.mk.injEq] at h
            obtain ⟨rfl, rfl, rfl⟩ := h
            exact ⟨rfl, hcode, lastCodeLine?_eq_none_iff.1 hrest⟩

/-- The text with a comma behind the code of its last line that holds any, unless that
code ends in one. -/
def separatedByLines (t : Text) : Text :=
  match lastCodeLine? (t.splitOn '\n') with
  | none => t
  | some (above, line, below) =>
    if (entryCode line).getLast? = some ',' then t
    else ['\n'].intercalate (above ++ withComma line :: below)

theorem intercalate_concat {lines : List Text} (line : Text) (hne : lines ≠ []) :
    ['\n'].intercalate (lines ++ [line]) = ['\n'].intercalate lines ++ '\n' :: line := by
  induction lines with
  | nil => contradiction
  | cons first lines ih =>
      cases lines with
      | nil => simp
      | cons second lines => simp_all

theorem separated_eq_separatedByLines (t : Text) : separated t = separatedByLines t := by
  induction t using lineInduction with
  | single line hline =>
      rw [separated_of_not_mem hline, separatedByLines, List.splitOn_eq_singleton hline]
      by_cases hcode : entryCode line = []
      · have hnone : lastCodeLine? [line] = none := by
          rw [lastCodeLine?_eq_none_iff, List.forall_mem_singleton]
          exact hcode
        rw [if_pos (Or.inl hcode), hnone]
      · have hlast : lastCodeLine? ([] ++ [line]) = some ([], line, []) :=
          lastCodeLine?_append [] hcode nofun
        rw [List.nil_append] at hlast
        rw [hlast]
        simp [hcode]
  | more s line hline ih =>
      have hjoined : ['\n'].intercalate (s.splitOn '\n') = s := List.intercalate_splitOn '\n'
      have hne := List.splitOn_ne_nil '\n' s
      rw [separated_append_newline s hline, separatedByLines, splitOn_append_newline s hline]
      by_cases hcode : entryCode line = []
      · rw [if_pos hcode, ih, separatedByLines]
        cases hlast : lastCodeLine? (s.splitOn '\n') with
        | none =>
            have hnone : lastCodeLine? (s.splitOn '\n' ++ [line]) = none := by
              rw [lastCodeLine?_eq_none_iff, List.forall_mem_append,
                List.forall_mem_singleton]
              exact ⟨lastCodeLine?_eq_none_iff.1 hlast, hcode⟩
            rw [hnone]
        | some cut =>
            obtain ⟨above, last, below⟩ := cut
            obtain ⟨hlines, hlastCode, hbelow⟩ := lastCodeLine?_eq_some hlast
            have hsome : lastCodeLine? (s.splitOn '\n' ++ [line]) =
                some (above, last, below ++ [line]) := by
              rw [hlines, List.append_assoc, List.cons_append]
              refine lastCodeLine?_append above hlastCode ?_
              rw [List.forall_mem_append, List.forall_mem_singleton]
              exact ⟨hbelow, hcode⟩
            rw [hsome]
            simp only
            split
            · rfl
            · rw [← List.cons_append, ← List.append_assoc,
                intercalate_concat line (by simp)]
      · have hsome : lastCodeLine? (s.splitOn '\n' ++ [line]) =
            some (s.splitOn '\n', line, []) :=
          lastCodeLine?_append _ hcode nofun
        rw [if_neg hcode, hsome]
        simp only [intercalate_concat _ hne, hjoined]

theorem mem_withComma {c : Char} {line : Text} (h : c ∈ withComma line) :
    c = ',' ∨ c ∈ line := by
  rcases List.mem_append.1 h with hcode | hrest
  · exact .inr ((prefix_entryCode line).subset hcode)
  · exact (List.mem_cons.1 hrest).imp_right List.mem_of_mem_drop

/-- A text whose last line with code took a comma gets no other one. -/
theorem separated_intercalate_withComma {t line : Text} {above below : List Text}
    (hlines : t.splitOn '\n' = above ++ line :: below)
    (hbelow : ∀ other ∈ below, entryCode other = []) :
    separated (['\n'].intercalate (above ++ withComma line :: below)) =
      ['\n'].intercalate (above ++ withComma line :: below) := by
  have hpiece : ∀ other ∈ above ++ line :: below, '\n' ∉ other := fun other hmem =>
    not_mem_of_mem_splitOn (hlines ▸ hmem)
  rw [List.forall_mem_append, List.forall_mem_cons] at hpiece
  obtain ⟨habove, hline, hothers⟩ := hpiece
  have hfeed : ∀ other ∈ above ++ withComma line :: below, '\n' ∉ other := by
    rw [List.forall_mem_append, List.forall_mem_cons]
    refine ⟨habove, fun hmem => ?_, hothers⟩
    rcases mem_withComma hmem with hcomma | hmem
    · exact absurd hcomma (by decide)
    · exact hline hmem
  have hcode : entryCode (withComma line) ≠ [] := by
    rw [entryCode_withComma]
    simp
  rw [separated_eq_separatedByLines, separatedByLines,
    List.splitOn_intercalate '\n' hfeed (by simp), lastCodeLine?_append above hcode hbelow]
  exact if_pos (by rw [entryCode_withComma, List.getLast?_concat])

theorem separated_separated (t : Text) : separated (separated t) = separated t := by
  by_cases hsame : separated t = t
  · rw [hsame, hsame]
  · rw [separated_eq_separatedByLines t, separatedByLines] at hsame ⊢
    cases hlast : lastCodeLine? (t.splitOn '\n') with
    | none =>
        rw [hlast] at hsame
        exact absurd rfl hsame
    | some cut =>
        obtain ⟨above, line, below⟩ := cut
        obtain ⟨hlines, -, hbelow⟩ := lastCodeLine?_eq_some hlast
        rw [hlast] at hsame
        by_cases hcomma : (entryCode line).getLast? = some ','
        · exact absurd (if_pos hcomma) hsame
        · simp only [if_neg hcomma]
          exact separated_intercalate_withComma hlines hbelow

/-- The comma goes behind the code of the last line that has any, unless that code ends
in one, and once it is there it is not put in again. -/
theorem separated_line_by_line (t : Text) :
    separated t = separatedByLines t ∧ separated (separated t) = separated t :=
  ⟨separated_eq_separatedByLines t, separated_separated t⟩

/-- A backslash takes away the meaning of the comma, and the line has code all the same. -/
example : separated "A\n'b\\\n\n // c" = "A\n'b\\,\n\n // c" := by
  rw [separated_eq_separatedByLines]
  decide +kernel

end Text

end ModuleScaffold
