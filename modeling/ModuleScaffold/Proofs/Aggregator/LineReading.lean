import ModuleScaffold.Proofs.Aggregator.Append
import ModuleScaffold.Proofs.Aggregator.Lexemes

/-!
# Single lines and the whole text

The comma is placed by a reader that begins every line in code and knows no block
comments.  Behind the place that it finds there are blanks and line comments
only, as it sees them: `Filler` is what such a text is made of.

On a line that begins in code and holds no mark of a block comment this reader
and the one of the whole text agree.  So the place of the comma is code wherever
no block comment opens and every string ends on its line.
-/

namespace ModuleScaffold

/-- A blank, or a comment. -/
def Lexeme.IsFiller : Lexeme → Prop
  | .code c => isBlank c = true
  | .string _ => False
  | .comment _ => True

namespace Text

/-- Blanks and line comments. -/
inductive Filler : Text → Prop where
  | nil : Filler []
  | blank {c : Char} {t : Text} (hc : isBlank c = true) : Filler t → Filler (c :: t)
  | line {s t : Text} (hs : '\n' ∉ s) :
      Filler t → Filler ('/' :: '/' :: (s ++ '\n' :: t))
  | lastLine {s : Text} (hs : '\n' ∉ s) : Filler ('/' :: '/' :: s)

theorem Filler.blank_append {b t : Text} (hb : Blank b) (ht : Filler t) :
    Filler (b ++ t) := by
  induction b with
  | nil => exact ht
  | cons c b ih => exact .blank hb.head (ih hb.tail)

theorem Blank.filler {t : Text} (h : Blank t) : Filler t := by
  have hfiller := Filler.nil.blank_append h
  rwa [List.append_nil] at hfiller

theorem Filler.append_newline {r t : Text} (hr : Filler r) (ht : Filler t) :
    Filler (r ++ '\n' :: t) := by
  induction hr with
  | nil => exact .blank (by decide) ht
  | blank hc hr ih => exact .blank hc ih
  | @line s r hs hr ih =>
      rw [List.cons_append, List.cons_append, List.append_assoc, List.cons_append]
      exact .line hs ih
  | lastLine hs => exact .line hs ht

/-- Blanks on the last line may belong to its comment. -/
theorem Filler.append_blank_line {r b : Text} (hr : Filler r) (hb : Blank b)
    (hfeed : '\n' ∉ b) : Filler (r ++ b) := by
  induction hr with
  | nil => exact hb.filler
  | blank hc hr ih => exact .blank hc ih
  | @line s r hs hr ih =>
      rw [List.cons_append, List.cons_append, List.append_assoc, List.cons_append]
      exact .line hs ih
  | @lastLine s hs => exact .lastLine (by simp [hs, hfeed])

theorem Filler.append_blank {r b : Text} (hr : Filler r) (hb : Blank b) :
    Filler (r ++ b) := by
  by_cases hfeed : '\n' ∈ b
  · obtain ⟨ahead, behind, rfl, hahead⟩ := List.eq_append_cons_of_mem hfeed
    have hleft : Blank ahead := fun c hmem => hb c (List.mem_append_left _ hmem)
    have hright : Blank behind := fun c hmem =>
      hb c (List.mem_append_right _ (List.mem_cons_of_mem _ hmem))
    rw [← List.append_assoc]
    exact (hr.append_blank_line hleft hahead).append_newline hright.filler
  · exact hr.append_blank_line hb hfeed

theorem run_blank_cons {c : Char} {t : Text} (hc : isBlank c = true) :
    LexMode.code.run (c :: t) = LexMode.code.run t := by
  have hplain := Reading.isPlain_of_isBlank hc
  simp only [Reading.isPlain, Bool.and_eq_true, Bool.not_eq_true',
    bne_iff_ne] at hplain
  have hstep : LexMode.code.step c = .code := by
    simp [LexMode.step, LexMode.afterCode, hplain.1.1.1, hplain.1.1.2]
  rw [LexMode.run_cons, hstep]

theorem run_blank {t : Text} (ht : Blank t) : LexMode.code.run t = .code := by
  induction t with
  | nil => rfl
  | cons c t ih => rw [run_blank_cons ht.head, ih ht.tail]

theorem run_line {s : Text} (hs : '\n' ∉ s) :
    LexMode.code.run ('/' :: '/' :: s) = .lineComment := by
  have hopen : LexMode.code.run ('/' :: '/' :: s) = LexMode.lineComment.run s := rfl
  rw [hopen, LexMode.run_lineComment_of_not_mem hs]

theorem run_line_newline {s t : Text} (hs : '\n' ∉ s) :
    LexMode.code.run ('/' :: '/' :: (s ++ '\n' :: t)) = LexMode.code.run t := by
  have hparts : '/' :: '/' :: (s ++ '\n' :: t) = '/' :: '/' :: s ++ '\n' :: t := rfl
  rw [hparts, LexMode.run_append, run_line hs]
  rfl

theorem Filler.run_eq {t : Text} (h : Filler t) :
    LexMode.code.run t = .code ∨ LexMode.code.run t = .lineComment := by
  induction h with
  | nil => exact Or.inl rfl
  | blank hc h ih => rwa [run_blank_cons hc]
  | line hs h ih => rwa [run_line_newline hs]
  | lastLine hs => exact Or.inr (run_line hs)

theorem lexemes_line_append {s : Text} (t : Text) (hs : '\n' ∉ s) :
    Text.lexemes ('/' :: '/' :: (s ++ t)) =
      (⟨.lineComment, '/' :: '/' :: s⟩ : LexemeReader).lexemes t := by
  have hopen : Text.lexemes ('/' :: '/' :: (s ++ t)) =
      (⟨.lineComment, ['/', '/']⟩ : LexemeReader).lexemes (s ++ t) := rfl
  rw [hopen, LexemeReader.lexemes_lineComment_append _ _ hs]
  rfl

theorem Filler.isFiller_of_mem {t : Text} (h : Filler t) :
    ∀ lexeme ∈ t.lexemes, lexeme.IsFiller := by
  induction h with
  | nil => exact fun lexeme hmem => absurd hmem List.not_mem_nil
  | @blank c t hc h ih =>
      have hlexemes : Text.lexemes ([c] ++ t) = .code c :: t.lexemes :=
        lexemes_append_of_isPlain t (by simpa using Reading.isPlain_of_isBlank hc)
      rw [List.singleton_append] at hlexemes
      rw [hlexemes]
      exact List.forall_mem_cons.2 ⟨hc, ih⟩
  | @line s t hs h ih =>
      have hfeed : isBlank '\n' = true := by decide
      rw [lexemes_line_append ('\n' :: t) hs, LexemeReader.lexemes_lineComment_newline]
      exact List.forall_mem_cons.2 ⟨trivial, List.forall_mem_cons.2 ⟨hfeed, ih⟩⟩
  | @lastLine s hs =>
      have hlexemes := lexemes_line_append [] hs
      rw [List.append_nil] at hlexemes
      rw [hlexemes]
      exact List.forall_mem_singleton.2 trivial

theorem Filler.blank_uncommented {t : Text} (h : Filler t) :
    Blank t.uncommented := by
  intro c hmem
  obtain ⟨lexeme, hlexeme, hc⟩ := List.mem_flatMap.1 hmem
  have hfiller := h.isFiller_of_mem lexeme hlexeme
  cases lexeme with
  | code d =>
      obtain rfl : c = d := by simpa [Lexeme.uncommented, Lexeme.text] using hc
      exact hfiller
  | string s => exact False.elim hfiller
  | comment s => exact absurd hc List.not_mem_nil

theorem Filler.codeText_eq_nil {t : Text} (h : Filler t) : t.codeText = [] := by
  rw [codeText, List.flatMap_eq_nil_iff]
  intro lexeme hmem
  have hfiller := h.isFiller_of_mem lexeme hmem
  cases lexeme with
  | code c => exact if_pos hfiller
  | string s => exact False.elim hfiller
  | comment s => rfl

/-! ## Behind the last entry -/

theorem FollowsEntry.ne_of_slash {a rest : Text}
    (h : FollowsEntry a.getLast? rest) (hslash : LexMode.code.run a = .slash) :
    rest.head? ≠ some '/' ∧ rest.head? ≠ some '*' := by
  rcases h with rfl | ⟨c, tail, rfl, hc⟩ | ⟨-, hlast⟩
  · exact ⟨by simp, by simp⟩
  · rw [List.head?_cons]
    constructor
    · intro hmark
      rw [Option.some.inj hmark] at hc
      contradiction
    · intro hmark
      rw [Option.some.inj hmark] at hc
      contradiction
  · exact (hlast (LexMode.getLast?_of_run_eq_slash hslash)).elim

theorem filler_drop_entryCode {line : Text} (hline : '\n' ∉ line) :
    Filler (line.drop (entryCode line).length) := by
  obtain ⟨rest, hdrop, hrest⟩ := exists_drop_entryCode line
  rw [hdrop]
  apply Filler.blank_append (blank_trailingBlanks _)
  rcases hrest with rfl | ⟨⟨tail, rfl⟩, -⟩
  · exact .nil
  · apply Filler.lastLine
    intro hmem
    have hdropped : '\n' ∈ line.drop (entryCode line).length := by
      rw [hdrop]
      simp [hmem]
    exact hline (List.mem_of_mem_drop hdropped)

theorem filler_append_drop {t r : Text} (hr : Filler r)
    (hne : trimRight (earlierLines t) ≠ [])
    (hcode : entryCode (lastLine t) = []) :
    Filler (r ++ t.drop (trimRight (earlierLines t)).length) := by
  have hline := filler_drop_entryCode (not_mem_lastLine t)
  rw [hcode, List.length_nil, List.drop_zero] at hline
  obtain ⟨b, hb, hdrop⟩ := exists_drop_eq_newline hne
  rw [hdrop, ← List.append_assoc]
  exact (hr.append_blank hb).append_newline hline

theorem filler_of_lastEntryCut?_eq_none {t : Text} (h : lastEntryCut? t = none) :
    Filler t := by
  fun_induction lastEntryCut? t with
  | case1 => exact .nil
  | case2 t hne line code hcode above ih =>
      rw [Option.map_eq_none_iff] at h
      have hsplit : above ++ t.drop above.length = t :=
        prefix_drop_length (trimRight_earlierLines_isPrefix t)
      by_cases habove : above = []
      · have hline := filler_drop_entryCode (not_mem_lastLine t)
        have hdrop := drop_trimRight_earlierLines t
        simp only [code, line] at hcode
        rw [hcode, List.length_nil, List.drop_zero] at hline
        simp only [above] at habove
        rw [habove, List.length_nil, List.drop_zero] at hdrop
        rw [hdrop]
        exact hline.blank_append (blank_trailingBlanks _)
      · rw [← hsplit]
        exact filler_append_drop (ih h) habove hcode
  | case3 => contradiction

theorem filler_of_lastEntryCut?_eq_some {t a rest : Text}
    (h : lastEntryCut? t = some (a, rest)) : Filler rest := by
  fun_induction lastEntryCut? t generalizing a rest with
  | case1 => contradiction
  | case2 t hne line code hcode =>
      rename_i above ih
      rw [Option.map_eq_some_iff] at h
      obtain ⟨⟨entry, rest'⟩, habove, heq⟩ := h
      obtain ⟨rfl, rfl⟩ := Prod.mk.inj heq
      refine filler_append_drop (ih habove) (fun hnil => ?_) hcode
      obtain ⟨s, c, hentry, -⟩ := (lastEntryCut?_eq_some habove).last
      have happend := (lastEntryCut?_eq_some habove).append
      simp [above, hnil, hentry] at happend
  | case3 t hne line =>
      obtain ⟨rfl, rfl⟩ := Prod.mk.inj (Option.some.inj h)
      exact filler_drop_entryCode (not_mem_lastLine t)

end Text

/-! ## The two readers -/

namespace LexMode

open Text

/-- Whether a mode belongs to a string. -/
def InString : LexMode → Prop
  | quoted _ | escaped _ => True
  | _ => False

/-- The mode of a line in which the reader of single lines is, where the other
one is in this mode. -/
def inLine : LexMode → LexMode
  | slash => code
  | mode => mode

theorem isCode_of_isCode_inLine {mode : LexMode}
    (h : mode.inLine.isCode = true) : mode.isCode = true := by
  cases mode <;> first
    | rfl
    | contradiction

/-- Where a code point completes no comment mark, both readers go on alike. -/
theorem step_inLine {mode : LexMode} {c : Char}
    (hmode : mode.isCode = true ∨ mode.InString)
    (hmark : mode = slash → c ≠ '/' ∧ c ≠ '*') :
    (mode.step c).inLine = mode.inLine.stepInLine c ∧
      ((mode.step c).isCode = true ∨ (mode.step c).InString) := by
  cases mode with
  | code => grind [step, afterCode, inLine, stepInLine, isCode, InString]
  | slash => grind [step, afterCode, inLine, stepInLine, isCode, InString]
  | quoted | escaped => grind [step, inLine, stepInLine, isCode, InString]
  | lineComment | blockComment | blockStar =>
      simp [isCode, InString] at hmode

theorem isCode_of_step_eq_slash {mode : LexMode} {c : Char}
    (h : mode.step c = slash) : mode.isCode = true := by
  cases mode <;> grind [step, isCode]

/-- Ahead of the comment of a line the text is code, if the line begins in code
or in a string, and no string is open at its end. -/
theorem run_codePartFrom {mode : LexMode} {line : Text}
    (hmode : mode.isCode = true ∨ mode.InString) (hblock : ¬ "/*".toList <:+: line)
    (hhead : mode = slash → line.head? ≠ some '/' ∧ line.head? ≠ some '*') :
    (mode.run (codePartFrom mode.inLine line)).isCode = true ∨
      codePartFrom mode.inLine line = line ∧ (mode.run line).InString := by
  induction line generalizing mode with
  | nil => exact hmode.imp_right fun hstring => ⟨rfl, hstring⟩
  | cons c line ih =>
      rw [codePartFrom]
      split
      next hcomment =>
        simp only [Bool.and_eq_true] at hcomment
        exact Or.inl (isCode_of_isCode_inLine hcomment.1.1)
      next hcode =>
        have hmark : mode = slash → c ≠ '/' ∧ c ≠ '*' := by
          simpa using hhead
        obtain ⟨hstep, hnext⟩ := step_inLine hmode hmark
        have htail : ¬ "/*".toList <:+: line := fun h => hblock (List.infix_cons h)
        have hslash : mode.step c = slash →
            line.head? ≠ some '/' ∧ line.head? ≠ some '*' := by
          intro h
          have hc := eq_slash_of_step h
          have hmodeCode := isCode_of_step_eq_slash h
          subst hc
          constructor
          · intro hline
            apply hcode
            cases mode <;> simp_all [inLine, isCode]
          · intro hstar
            obtain ⟨rest, rfl⟩ := List.head?_eq_some_iff.1 hstar
            exact hblock ⟨[], rest, rfl⟩
        rw [← hstep, run_cons, run_cons]
        rcases ih hnext htail hslash with hends | ⟨hall, hends⟩
        · exact Or.inl hends
        · exact Or.inr ⟨by rw [hall], hends⟩

theorem not_inBlock_run {t : Text} (h : ¬ "/*".toList <:+: t) :
    ¬ (code.run t).InBlock := by
  induction t using List.reverseRecOn with
  | nil => simp [InBlock]
  | append_singleton t c ih =>
      have hinit := ih fun hmark => h (hmark.trans (List.prefix_append t _).isInfix)
      rw [run_append, run_cons, run_nil]
      intro hnext
      have hopens : code.run t = slash ∧ c = '*' := by
        cases hmode : code.run t <;> rw [hmode] at hinit hnext <;>
          grind [step, afterCode, InBlock]
      obtain ⟨s, rfl⟩ := List.getLast?_eq_some_iff.1 (getLast?_of_run_eq_slash hopens.1)
      apply h
      rw [hopens.2]
      exact ⟨s, [], by simp⟩

theorem isCode_eq_false_of_inString {mode : LexMode} (h : mode.InString) :
    mode.isCode = false := by
  cases mode with
  | code | slash => exact False.elim h
  | quoted | escaped | lineComment | blockComment | blockStar => rfl

theorem not_inString_of_ends {mode : LexMode}
    (h : mode.isCode = true ∨ mode = lineComment) : ¬ mode.InString := by
  intro hstring
  cases mode <;> simp_all [isCode, InString]

end LexMode

theorem LexemeReader.closing_of_inString {r : LexemeReader}
    (h : r.mode.InString) (s : Text) : r.closing s = .string (r.opened ++ s) := by
  obtain ⟨mode, opened⟩ := r
  cases mode with
  | quoted | escaped => rfl
  | code | slash | lineComment | blockComment | blockStar => exact False.elim h

namespace Text

open LexMode

/-- No block comment opens in the text, and every string ends on its line. -/
structure LineWise (t : Text) : Prop where
  block : ¬ "/*".toList <:+: t
  string : ∀ p, p ++ ['\n'] <+: t → ¬ (code.run p).InString

theorem lineWise_of_strings {t : Text} (hblock : ¬ "/*".toList <:+: t)
    (hstrings : ∀ s ∈ t.strings, '\n' ∉ s) : LineWise t := by
  refine ⟨hblock, fun p hp hstring => ?_⟩
  obtain ⟨rest, rfl⟩ := hp
  have hmode := LexemeReader.mode_run_start p
  rw [← hmode] at hstring
  have hopen := isCode_eq_false_of_inString hstring
  obtain ⟨s, behind, hlexemes, -, hhead⟩ :=
    LexemeReader.exists_lexemes_eq_closing ('\n' :: rest) hopen
  have hfeed : s.head? = some '\n' := by
    apply hhead
    intro hcomment
    rw [hcomment] at hstring
    contradiction
  obtain ⟨tail, rfl⟩ := List.head?_eq_some_iff.1 hfeed
  apply hstrings ((LexemeReader.start.run p).opened ++ '\n' :: tail)
  · rw [strings, List.append_assoc, List.singleton_append, lexemes_append_eq,
      hlexemes _, LexemeReader.closing_of_inString hstring, List.flatMap_append, List.flatMap_cons]
    simp [Lexeme.strings]
  · simp

theorem LineWise.of_isPrefix {s t : Text} (h : LineWise t) (hs : s <+: t) :
    LineWise s :=
  ⟨fun hmark => h.block (hmark.trans hs.isInfix),
    fun p hp => h.string p (hp.trans hs)⟩

theorem LineWise.run_earlierLines {t : Text} (h : LineWise t) :
    code.run (earlierLines t) = .code := by
  rcases earlierLines_eq_nil_or_concat t with hnil | ⟨p, hp⟩
  · rw [hnil]
    rfl
  · have hahead : p ++ ['\n'] <+: t := ⟨lastLine t, by
      rw [← hp, earlierLines_append_lastLine]⟩
    have hstring := h.string p hahead
    have hblock := not_inBlock_run
      (h.of_isPrefix ((List.prefix_append p _).trans hahead)).block
    -- that leaves code and a line comment, and a line feed leads from both to code
    rw [hp, run_append, run_cons, run_nil]
    cases hmode : code.run p with
    | code | slash | lineComment => rfl
    | quoted | escaped =>
        rw [hmode] at hstring
        exact (hstring trivial).elim
    | blockComment | blockStar =>
        rw [hmode] at hblock
        exact (hblock (by simp [InBlock])).elim

theorem LineWise.isCode_run_entryCode {t : Text} (h : LineWise t)
    (hend : ¬ (code.run t).InString) :
    (code.run (earlierLines t ++ entryCode (lastLine t))).isCode = true := by
  have hsplit := earlierLines_append_lastLine t
  have hbegin := h.run_earlierLines
  have hline : ¬ "/*".toList <:+: lastLine t := fun hmark =>
    h.block (hmark.trans ⟨earlierLines t, [], by simp⟩)
  have hread : (code.run (codePart (lastLine t))).isCode = true ∨
      codePart (lastLine t) = lastLine t ∧ (code.run (lastLine t)).InString :=
    run_codePartFrom (Or.inl rfl) hline (by simp)
  rw [run_append, hbegin]
  rcases hread with hrun | ⟨-, hstring⟩
  · have hpart : codePart (lastLine t) = entryCode (lastLine t) ++
        trailingBlanks (codePart (lastLine t)) :=
      (trimRight_append_trailingBlanks _).symm
    rw [hpart] at hrun
    rcases isCode_or_lineComment_of_blank (blank_trailingBlanks _) hrun with
      hends | ⟨-, hfeed⟩
    · exact hends
    · have hmem : '\n' ∈ codePart (lastLine t) := by
        rw [hpart]
        exact List.mem_append_right _ hfeed
      exact (not_mem_lastLine t ((prefix_codePart _).subset hmem)).elim
  · rw [← hsplit, run_append, hbegin] at hend
    exact (hend hstring).elim

/-- The place of the comma is code. -/
theorem LineWise.isCode_of_lastEntryCut? {t a rest : Text} (h : LineWise t)
    (hend : ¬ (code.run t).InString) (hcut : lastEntryCut? t = some (a, rest)) :
    (code.run a).isCode = true := by
  fun_induction lastEntryCut? t generalizing a rest with
  | case1 => contradiction
  | case2 t hne line code' hcode =>
      rename_i above ih
      rw [Option.map_eq_some_iff] at hcut
      obtain ⟨⟨entry, rest'⟩, habove, heq⟩ := hcut
      obtain ⟨rfl, -⟩ := Prod.mk.inj heq
      -- the lines above end in code too, so no string is open behind them
      refine ih (h.of_isPrefix (trimRight_earlierLines_isPrefix t)) ?_ habove
      have hbegin := h.run_earlierLines
      rw [← trimRight_append_trailingBlanks (earlierLines t)] at hbegin
      apply not_inString_of_ends
      have hcode : (code.run (trimRight (earlierLines t) ++
          trailingBlanks (earlierLines t))).isCode = true := by
        rw [hbegin]
        rfl
      exact (isCode_or_lineComment_of_blank (blank_trailingBlanks _) hcode).imp_right
        And.left
  | case3 t hne line =>
      obtain ⟨rfl, -⟩ := Prod.mk.inj (Option.some.inj hcut)
      exact h.isCode_run_entryCode hend

end Text

end ModuleScaffold
