import ModuleScaffold.Aggregator.Separator
import ModuleScaffold.Proofs.Text.Words

/-!
# Where the comma goes

`lastEntryCut?` cuts a text at the end of its last entry, as a reader of single
lines sees it: behind the code of the last line that holds any.  The comma that
`separated` puts in stands at this cut or nowhere.

What follows the cut begins with a blank or with the two slashes of a line
comment, and in the second case no slash stands ahead of them.
-/

namespace ModuleScaffold

/-- The modes in which a single line is read. -/
def LexMode.InLine : LexMode → Prop
  | .code => True
  | .quoted quote | .escaped quote => isQuote quote = true
  | _ => False

theorem LexMode.InLine.stepInLine {mode : LexMode} (h : mode.InLine)
    (c : Char) : (mode.stepInLine c).InLine := by
  cases mode with
  | code =>
      simp only [LexMode.stepInLine]
      split
      next hquote => exact hquote
      next => trivial
  | quoted quote =>
      simp only [LexMode.stepInLine]
      split
      · exact h
      · split
        · trivial
        · exact h
  | escaped quote => exact h
  | slash | lineComment | blockComment | blockStar => contradiction

namespace Text

/-- What a line holds behind its code: nothing, or a comment that no slash
touches. -/
theorem codePartFrom_append {mode : LexMode} (line : Text) (h : mode.InLine) :
    ∃ rest, line = codePartFrom mode line ++ rest ∧
      (rest = [] ∨ (∃ tail, rest = '/' :: '/' :: tail) ∧
        (codePartFrom mode line).getLast? ≠ some '/') := by
  induction line generalizing mode with
  | nil => exact ⟨[], rfl, Or.inl rfl⟩
  | cons c line ih =>
      rw [codePartFrom]
      split
      next hcomment =>
        simp only [Bool.and_eq_true, beq_iff_eq] at hcomment
        obtain ⟨⟨-, rfl⟩, hhead⟩ := hcomment
        obtain ⟨tail, rfl⟩ := List.head?_eq_some_iff.1 hhead
        exact ⟨'/' :: '/' :: tail, rfl, Or.inr ⟨⟨tail, rfl⟩, by simp⟩⟩
      next hcode =>
        obtain ⟨rest, hline, hrest⟩ := ih (h.stepInLine c)
        refine ⟨rest, by rw [List.cons_append, ← hline], ?_⟩
        rcases hrest with rfl | ⟨⟨tail, rfl⟩, hlast⟩
        · exact Or.inl rfl
        · refine Or.inr ⟨⟨tail, rfl⟩, ?_⟩
          rw [List.getLast?_cons]
          cases hpart : (codePartFrom (mode.stepInLine c) line).getLast? with
          | some d =>
              rw [hpart] at hlast
              exact hlast
          | none =>
              -- a slash ahead of the comment would have begun it
              rintro hslash
              obtain rfl : c = '/' := by simpa using hslash
              rw [List.getLast?_eq_none_iff] at hpart
              rw [hpart, List.nil_append] at hline
              subst hline
              cases mode with
              | code => exact hcode rfl
              | quoted quote =>
                  have hquote : '/' ≠ quote := by
                    rintro rfl
                    contradiction
                  simp [LexMode.stepInLine, hquote, codePartFrom,
                    LexMode.isCode] at hpart
              | escaped quote =>
                  simp [LexMode.stepInLine, codePartFrom, LexMode.isCode] at hpart
              | slash | lineComment | blockComment | blockStar => contradiction

theorem codePartFrom_append_cases (mode : LexMode) (s : Text) {t : Text}
    (ht : t.head? ≠ some '/') :
    codePartFrom mode (s ++ t) = codePartFrom mode s ∨
      ∃ mode', codePartFrom mode (s ++ t) = s ++ codePartFrom mode' t := by
  induction s generalizing mode with
  | nil => exact Or.inr ⟨mode, rfl⟩
  | cons c s ih =>
      have hhead : (s ++ t).head? = some '/' ↔ s.head? = some '/' := by
        cases s with
        | nil => simpa using ht
        | cons d s => simp
      rw [List.cons_append, codePartFrom, codePartFrom]
      simp only [Bool.and_eq_true, beq_iff_eq, hhead]
      split
      · exact Or.inl rfl
      · rcases ih (mode.stepInLine c) with hsame | ⟨mode', hall⟩
        · exact Or.inl (by rw [hsame])
        · exact Or.inr ⟨mode', by rw [hall, List.cons_append]⟩

/-- The text up to the end of its last entry, and the rest. -/
def lastEntryCut? (t : Text) : Option (Text × Text) :=
  if t = [] then
    none
  else
    let line := lastLine t
    let code := entryCode line
    if code = [] then
      -- the last entry stands further up
      let above := trimRight (earlierLines t)
      (lastEntryCut? above).map fun (entry, rest) =>
        (entry, rest ++ t.drop above.length)
    else
      some (earlierLines t ++ code, line.drop code.length)
termination_by t.length
decreasing_by exact length_trimRight_earlierLines_lt ‹t ≠ []›

theorem lastEntryCut?_eq (t : Text) :
    lastEntryCut? t =
      if entryCode (lastLine t) = [] then
        (lastEntryCut? (trimRight (earlierLines t))).map fun (entry, rest) =>
          (entry, rest ++ t.drop (trimRight (earlierLines t)).length)
      else
        some (earlierLines t ++ entryCode (lastLine t),
          (lastLine t).drop (entryCode (lastLine t)).length) := by
  by_cases ht : t = []
  · subst ht
    have hcode : entryCode (lastLine []) = [] := rfl
    have habove : trimRight (earlierLines []) = [] := rfl
    have hnone : lastEntryCut? [] = none := by rw [lastEntryCut?, if_pos rfl]
    rw [if_pos hcode, habove, hnone]
    rfl
  · rw [lastEntryCut?, if_neg ht]

/-- What can stand behind an entry that ends in `last`. -/
def FollowsEntry (last : Option Char) (rest : Text) : Prop :=
  rest = [] ∨ (∃ c tail, rest = c :: tail ∧ isBlank c = true) ∨
    (∃ tail, rest = '/' :: '/' :: tail) ∧ last ≠ some '/'

theorem FollowsEntry.append {last : Option Char} {rest : Text}
    (h : FollowsEntry last rest) {b : Text}
    (hb : ∀ c, b.head? = some c → isBlank c = true) :
    FollowsEntry last (rest ++ b) := by
  rcases h with rfl | ⟨c, tail, rfl, hc⟩ | ⟨⟨tail, rfl⟩, hlast⟩
  · cases b with
    | nil => exact Or.inl rfl
    | cons d b => exact Or.inr (Or.inl ⟨d, b, rfl, hb d rfl⟩)
  · exact Or.inr (Or.inl ⟨c, tail ++ b, rfl, hc⟩)
  · exact Or.inr (Or.inr ⟨⟨tail ++ b, rfl⟩, hlast⟩)

theorem FollowsEntry.append_blank {last : Option Char} {rest b : Text}
    (h : FollowsEntry last rest) (hb : Blank b) : FollowsEntry last (rest ++ b) :=
  h.append fun c hc => hb c (List.mem_of_head? hc)

theorem FollowsEntry.exists_eq_slashes {last : Option Char} {rest : Text}
    (h : FollowsEntry last rest) (hhead : rest.head? = some '/') :
    ∃ tail, rest = '/' :: '/' :: tail := by
  rcases h with rfl | ⟨c, tail, rfl, hc⟩ | ⟨htail, -⟩
  · contradiction
  · rw [List.head?_cons, Option.some.injEq] at hhead
    rw [hhead] at hc
    contradiction
  · exact htail

/-- A cut behind the code of an entry. -/
structure EntryCut (t entry rest : Text) : Prop where
  append : t = entry ++ rest
  last : ∃ s c, entry = s ++ [c] ∧ isBlank c = false
  follows : FollowsEntry entry.getLast? rest

theorem prefix_drop_length {s t : Text} (h : s <+: t) :
    s ++ t.drop s.length = t := by
  obtain ⟨rest, rfl⟩ := h
  simp

theorem trimRight_earlierLines_isPrefix (t : Text) :
    trimRight (earlierLines t) <+: t :=
  (prefix_trimRight _).trans ⟨lastLine t, earlierLines_append_lastLine t⟩

theorem prefix_entryCode (line : Text) : entryCode line <+: line :=
  (prefix_trimRight _).trans (prefix_codePart line)

/-- Behind the code of a line stand blanks, and a comment that no slash
touches. -/
theorem exists_drop_entryCode (line : Text) :
    ∃ rest, line.drop (entryCode line).length =
        trailingBlanks (codePart line) ++ rest ∧
      (rest = [] ∨ (∃ tail, rest = '/' :: '/' :: tail) ∧
        (codePart line).getLast? ≠ some '/') := by
  have hinline : LexMode.InLine .code := trivial
  obtain ⟨rest, hline, hrest⟩ := codePartFrom_append line hinline
  refine ⟨rest, ?_, hrest⟩
  apply List.append_cancel_left
  rw [prefix_drop_length (prefix_entryCode line), ← List.append_assoc, entryCode,
    trimRight_append_trailingBlanks]
  exact hline

theorem entryCode_cut {line : Text} (h : entryCode line ≠ []) :
    EntryCut line (entryCode line) (line.drop (entryCode line).length) := by
  refine ⟨(prefix_drop_length (prefix_entryCode line)).symm,
    (trimRight_eq_nil_or_concat _).resolve_left h, ?_⟩
  obtain ⟨rest, hdrop, hrest⟩ := exists_drop_entryCode line
  rw [hdrop]
  cases hblanks : trailingBlanks (codePart line) with
  | cons d blanks =>
      exact Or.inr (Or.inl ⟨d, blanks ++ rest, rfl,
        blank_trailingBlanks (codePart line) d (by simp [hblanks])⟩)
  | nil =>
      have hcode := trimRight_append_trailingBlanks (codePart line)
      rw [hblanks, List.append_nil] at hcode
      rw [List.nil_append, entryCode, hcode]
      exact hrest.imp_right Or.inr

theorem drop_trimRight_earlierLines (t : Text) :
    t.drop (trimRight (earlierLines t)).length =
      trailingBlanks (earlierLines t) ++ lastLine t := by
  refine List.append_cancel_left
    ((prefix_drop_length (trimRight_earlierLines_isPrefix t)).trans ?_)
  rw [← List.append_assoc, trimRight_append_trailingBlanks,
    earlierLines_append_lastLine]

/-- Between the entry above and the last line stands a line break. -/
theorem exists_drop_eq_newline {t : Text}
    (hne : trimRight (earlierLines t) ≠ []) :
    ∃ b, Blank b ∧ t.drop (trimRight (earlierLines t)).length =
      b ++ '\n' :: lastLine t := by
  obtain ⟨s, hs⟩ : ∃ s, earlierLines t = s ++ ['\n'] := by
    refine (earlierLines_eq_nil_or_concat t).resolve_left fun hnil => hne ?_
    rw [hnil]
    rfl
  refine ⟨trailingBlanks s, blank_trailingBlanks s, ?_⟩
  rw [drop_trimRight_earlierLines, hs, trailingBlanks_concat_of_isBlank s (by decide),
    List.append_assoc, List.singleton_append]

theorem isBlank_of_head?_drop {t : Text} {c : Char}
    (hne : trimRight (earlierLines t) ≠ [])
    (hc : (t.drop (trimRight (earlierLines t)).length).head? = some c) :
    isBlank c = true := by
  obtain ⟨b, hb, hdrop⟩ := exists_drop_eq_newline hne
  rw [hdrop] at hc
  cases b with
  | nil =>
      rw [List.nil_append, List.head?_cons, Option.some.injEq] at hc
      rw [← hc]
      decide
  | cons d b =>
      rw [List.cons_append, List.head?_cons, Option.some.injEq] at hc
      rw [← hc]
      exact hb.head

theorem lastEntryCut?_eq_some {t entry rest : Text}
    (h : lastEntryCut? t = some (entry, rest)) : EntryCut t entry rest := by
  fun_induction lastEntryCut? t generalizing entry rest with
  | case1 => contradiction
  | case2 t hne line code hcode =>
      rename_i above ih
      rw [Option.map_eq_some_iff] at h
      obtain ⟨⟨entry', rest'⟩, habove, heq⟩ := h
      simp only [Prod.mk.injEq] at heq
      obtain ⟨rfl, rfl⟩ := heq
      have hcut := ih habove
      refine ⟨?_, hcut.last, hcut.follows.append fun c hc => ?_⟩
      · rw [← List.append_assoc, ← hcut.append]
        exact (prefix_drop_length (trimRight_earlierLines_isPrefix t)).symm
      · refine isBlank_of_head?_drop (fun hnil => ?_) hc
        obtain ⟨s, d, rfl, -⟩ := hcut.last
        have happend := hcut.append
        simp [above, hnil] at happend
  | case3 t hne line =>
      rename_i code hcode
      simp only [Option.some.injEq, Prod.mk.injEq] at h
      obtain ⟨rfl, rfl⟩ := h
      have hcut := entryCode_cut hcode
      obtain ⟨s, c, hlast, hc⟩ := hcut.last
      refine ⟨?_, ⟨earlierLines t ++ s, c, ?_, hc⟩, ?_⟩
      · rw [List.append_assoc, ← hcut.append]
        exact (earlierLines_append_lastLine t).symm
      · rw [List.append_assoc, ← hlast]
      · rw [List.getLast?_append_of_ne_nil _ hcode]
        exact hcut.follows

theorem codePartFrom_code_eq_self {line : Text}
    (h : ∀ c ∈ line, isQuote c = false ∧ c ≠ '/') :
    codePartFrom .code line = line := by
  induction line with
  | nil => rfl
  | cons c line ih =>
      obtain ⟨hquote, hslash⟩ := h c List.mem_cons_self
      have hstep : LexMode.stepInLine .code c = .code := by
        simp [LexMode.stepInLine, hquote]
      rw [codePartFrom, hstep, ih fun d hmem => h d (List.mem_cons_of_mem c hmem)]
      simp [hslash]

theorem lastEntryCut?_eq_self {t s : Text} {c : Char} (hline : lastLine t = s ++ [c])
    (hc : isBlank c = false)
    (hcode : ∀ d ∈ lastLine t, isQuote d = false ∧ d ≠ '/') :
    lastEntryCut? t = some (t, []) := by
  have hentry : entryCode (lastLine t) = lastLine t := by
    rw [entryCode, codePart, codePartFrom_code_eq_self hcode, hline,
      trimRight_concat_of_not_isBlank s hc]
  have hne : t ≠ [] := by
    rintro rfl
    have hlength := congrArg List.length hline
    simp [lastLine] at hlength
  have hline_ne : lastLine t ≠ [] := by simp [hline]
  rw [lastEntryCut?, if_neg hne]
  simp only [hentry, if_neg hline_ne, earlierLines_append_lastLine,
    List.drop_length]

/-- The comma stands behind the last entry, unless it has one. -/
theorem separated_eq (t : Text) :
    separated t =
      match lastEntryCut? t with
      | none => t
      | some (entry, rest) =>
        if entry.getLast? = some ',' then t else entry ++ ',' :: rest := by
  fun_induction lastEntryCut? t with
  | case1 => simp [separated]
  | case2 t hne line code hcode above ih =>
      have hdrop : above ++ t.drop above.length = t :=
        prefix_drop_length (trimRight_earlierLines_isPrefix t)
      rw [separated, if_neg hne]
      change (if code = [] then separated above ++ t.drop above.length else _) = _
      rw [if_pos hcode, ih]
      cases lastEntryCut? above with
      | none => exact hdrop
      | some cut =>
          obtain ⟨entry, rest⟩ := cut
          simp only [Option.map_some]
          split
          · exact hdrop
          · simp
  | case3 t hne line code hcode =>
      rw [separated, if_neg hne]
      simp only [code, line] at hcode ⊢
      rw [if_neg hcode, List.getLast?_append_of_ne_nil _ hcode]
      simp

/-! ## The place of the comma -/

/-- A comma is put in, and it stands behind the part `a`. -/
def CommaBehind (t a : Text) : Prop :=
  ∃ b, t = a ++ b ∧ separated t = a ++ ',' :: b

/-- What stands behind an entry does not begin with a comma. -/
theorem FollowsEntry.head?_ne {last : Option Char} {rest : Text}
    (h : FollowsEntry last rest) : rest.head? ≠ some ',' := by
  rcases h with rfl | ⟨c, tail, rfl, hc⟩ | ⟨⟨tail, rfl⟩, -⟩
  · simp
  · intro hcomma
    rw [List.head?_cons, Option.some.injEq] at hcomma
    rw [hcomma] at hc
    contradiction
  · simp

/-- A mark behind `a` and the same mark behind a longer part make one text only
if the longer part ends in the mark. -/
theorem getLast?_of_insert_eq {c : Char} {a x b rest : Text} (hx : x ≠ [])
    (h : a ++ c :: b = a ++ x ++ c :: rest) (h' : b = x ++ rest) :
    x.head? = some c ∧ x.getLast? = some c := by
  rw [List.append_assoc, h'] at h
  have hshift : [c] ++ x = x ++ [c] := by
    have hcancel := List.append_cancel_left h
    rw [List.append_cons x c rest, ← List.cons_append] at hcancel
    exact List.append_cancel_right hcancel
  constructor
  · have hhead := congrArg List.head? hshift
    rw [List.head?_append_of_ne_nil _ hx] at hhead
    simpa using hhead.symm
  · have hlast := congrArg List.getLast? hshift
    rw [List.getLast?_append_of_ne_nil _ hx, List.getLast?_concat] at hlast
    exact hlast

/-- The comma stands behind the code of the last entry, and only where that does
not end in one. -/
theorem commaBehind_iff {t a : Text} :
    CommaBehind t a ↔
      ∃ rest, lastEntryCut? t = some (a, rest) ∧ a.getLast? ≠ some ',' := by
  constructor
  · rintro ⟨b, hsplit, hcomma⟩
    have hchanged : separated t ≠ t := by
      intro hsame
      have hlength := congrArg List.length (hsame.symm.trans hcomma)
      rw [hsplit] at hlength
      simp at hlength
    rw [separated_eq] at hcomma hchanged
    cases hentry : lastEntryCut? t with
    | none => exact (hchanged (by rw [hentry])).elim
    | some cut =>
        obtain ⟨entry, rest⟩ := cut
        simp only [hentry] at hcomma hchanged
        by_cases hlast : entry.getLast? = some ','
        · exact (hchanged (by rw [if_pos hlast])).elim
        · rw [if_neg hlast] at hcomma
          have hcut := lastEntryCut?_eq_some hentry
          have hparts : a ++ b = entry ++ rest := hsplit.symm.trans hcut.append
          have hsame : a = entry := by
            rcases List.append_eq_append_iff.1 hparts with
              ⟨x, rfl, hb⟩ | ⟨x, rfl, hrest⟩
            · by_contra hne
              have hx : x ≠ [] := fun hnil => hne (by rw [hnil, List.append_nil])
              have hmark := (getLast?_of_insert_eq hx hcomma.symm hb).2
              exact hlast (by rw [List.getLast?_append_of_ne_nil _ hx, hmark])
            · by_contra hne
              have hx : x ≠ [] := fun hnil => hne (by rw [hnil, List.append_nil])
              have hmark := (getLast?_of_insert_eq hx hcomma hrest).1
              have hhead := hcut.follows.head?_ne
              rw [hrest, List.head?_append_of_ne_nil _ hx] at hhead
              exact hhead hmark
          exact ⟨rest, by rw [hsame], by rw [hsame]; exact hlast⟩
  · rintro ⟨rest, hentry, hlast⟩
    refine ⟨rest, (lastEntryCut?_eq_some hentry).append, ?_⟩
    rw [separated_eq, hentry]
    simp only [if_neg hlast]

/-- What stands on the two sides of the comma. -/
theorem CommaBehind.exists_cut {t a : Text} (h : CommaBehind t a) :
    ∃ rest, lastEntryCut? t = some (a, rest) ∧ t = a ++ rest ∧
      separated t = a ++ ',' :: rest ∧ FollowsEntry a.getLast? rest := by
  obtain ⟨rest, hcut, -⟩ := commaBehind_iff.1 h
  obtain ⟨happend, -, hfollows⟩ := lastEntryCut?_eq_some hcut
  obtain ⟨b, hsplit, hcomma⟩ := h
  obtain rfl := List.append_cancel_left (hsplit.symm.trans happend)
  exact ⟨b, hcut, happend, hcomma, hfollows⟩

/-- Without a comma put in, the text stays as it is. -/
theorem separated_eq_self {t : Text} (h : ∀ a, ¬ CommaBehind t a) :
    separated t = t := by
  rw [separated_eq]
  cases hentry : lastEntryCut? t with
  | none => rfl
  | some cut =>
      obtain ⟨entry, rest⟩ := cut
      have hlast : entry.getLast? = some ',' := by
        by_contra hne
        exact h entry (commaBehind_iff.2 ⟨rest, hentry, hne⟩)
      simp only [if_pos hlast]

end Text

end ModuleScaffold
