import ModuleScaffold.Proofs.Aggregator.LineReading
import ModuleScaffold.Proofs.Aggregator.RegisteredBody

/-!
# The comma in the code text

The code text of a list is what a compiler sees of it.  A comma that is put in
code stands at the end of it, one that is put in a string stands in the string,
and one that is put in a comment is not seen, unless it tears the comment's end
mark apart.
-/

namespace ModuleScaffold

open LexMode

namespace Text

/-- The comma ahead of a new entry is put in code. -/
def CommaInCode (t : Text) : Prop :=
  ∃ a, CommaBehind t a ∧ (code.run a).isCode = true

/-- The comma ahead of a new entry is put in a string. -/
def CommaInString (t : Text) : Prop :=
  ∃ a, CommaBehind t a ∧ (code.run a).InString

/-- The place of the comma is not inside of the end mark of a block comment. -/
def CommaTearsNothing (t : Text) : Prop :=
  ∀ a rest, lastEntryCut? t = some (a, rest) → code.run a = .blockStar →
    rest.head? ≠ some '/'

theorem FollowsEntry.head_cases {last : Option Char} {c : Char} {tail : Text}
    (h : FollowsEntry last (c :: tail)) : isBlank c = true ∨ c = '/' := by
  rcases h with hnil | ⟨d, rest, heq, hd⟩ | ⟨⟨rest, heq⟩, -⟩
  · contradiction
  · rw [(List.cons.inj heq).1]
    exact Or.inl hd
  · exact Or.inr (List.cons.inj heq).1

theorem not_commaInString_of_commaInCode {t : Text} (h : CommaInCode t) :
    ¬ CommaInString t := by
  rintro ⟨a', ha', hstring⟩
  obtain ⟨a, ha, hcode⟩ := h
  obtain ⟨rest, hcut, -⟩ := ha.exists_cut
  obtain ⟨rest', hcut', -⟩ := ha'.exists_cut
  obtain ⟨rfl, -⟩ := Prod.mk.inj (Option.some.inj (hcut.symm.trans hcut'))
  rw [isCode_eq_false_of_inString hstring] at hcode
  contradiction

end Text

open Text

/-! ## A string or a comment with a comma in it -/

theorem LexMode.isCode_step_eq_false {mode : LexMode} {c : Char}
    (hopen : mode.isCode = false) (hopens : Reading.QuoteOpens mode)
    (hc : isBlank c = true ∨ c = '/') (hline : mode ≠ .lineComment)
    (hstar : mode = .blockStar → c ≠ '/') : (mode.step c).isCode = false := by
  have hquote : isQuote c = false := by
    rcases hc with hblank | rfl
    · exact Reading.isQuote_of_isBlank hblank
    · decide
  cases mode with
  | code | slash => contradiction
  | quoted quote =>
      have hne := Reading.ne_of_isQuote hopens hquote
      by_cases hbackslash : c = '\\'
      · rw [step, if_pos hbackslash]
        rfl
      · rw [step, if_neg hbackslash, if_neg hne]
        rfl
  | escaped quote => rfl
  | lineComment => contradiction
  | blockComment =>
      rw [step]
      split
      · rfl
      · rfl
  | blockStar =>
      rw [step, if_neg (hstar rfl)]
      split
      · rfl
      · rfl

theorem LexMode.isCode_step_comma {mode : LexMode} (hopen : mode.isCode = false)
    (hopens : Reading.QuoteOpens mode) : (mode.step ',').isCode = false := by
  cases mode with
  | code | slash => contradiction
  | quoted quote =>
      have hne : ',' ≠ quote := Reading.ne_of_isQuote hopens (by decide)
      simp [step, isCode, hne]
  | escaped | lineComment | blockComment | blockStar => rfl

namespace LexemeReader

theorem lexemes_nil_of_open {mode : LexMode} (opened : Text)
    (hopen : mode.isCode = false) :
    (⟨mode, opened⟩ : LexemeReader).lexemes [] =
      [(⟨mode, opened⟩ : LexemeReader).closing []] := by
  cases mode with
  | code | slash => contradiction
  | quoted | escaped | lineComment | blockComment | blockStar =>
      simp [lexemes, completed, unfinished, closing]

theorem codeText_closing {r : LexemeReader} {s : Text}
    (hopen : r.mode.isCode = false) (hcomment : ¬ r.mode.InString) :
    (r.closing s).codeText = [] := by
  obtain ⟨mode, opened⟩ := r
  cases mode with
  | code | slash => contradiction
  | quoted | escaped => exact (hcomment trivial).elim
  | lineComment | blockComment | blockStar => rfl

/-- A comma read in a string or a comment is forgotten behind it. -/
theorem exists_lexemes_step_comma {mode : LexMode} {last : Option Char}
    {rest : Text} (hopen : mode.isCode = false) (hopens : Reading.QuoteOpens mode)
    (hfollows : FollowsEntry last rest)
    (hwhole : mode = .blockStar → rest.head? ≠ some '/') :
    ∃ s after, (∀ opened, (⟨mode, opened⟩ : LexemeReader).lexemes rest =
        (⟨mode, opened⟩ : LexemeReader).closing s :: after) ∧
      (∀ opened, (⟨mode.step ',', opened⟩ : LexemeReader).lexemes rest =
        (⟨mode.step ',', opened⟩ : LexemeReader).closing s :: after) ∧
      (mode.InString → s.head? = rest.head?) := by
  have hcomma := isCode_step_comma hopen hopens
  -- a line feed behind the comma ends a line comment; nothing else ends there
  by_cases hline : mode = .lineComment
  · obtain ⟨s, after, hlexemes, -, -⟩ := exists_lexemes_eq_closing rest hopen
    have hstep : mode.step ',' = mode := by
      rw [hline]
      rfl
    refine ⟨s, after, hlexemes, by rwa [hstep], fun hstring => ?_⟩
    rw [hline] at hstring
    exact False.elim hstring
  · cases rest with
    | nil =>
        exact ⟨[], [], fun opened => lexemes_nil_of_open opened hopen,
          fun opened => lexemes_nil_of_open opened hcomma, fun _ => rfl⟩
    | cons c rest =>
        have hc := hfollows.head_cases
        have hstar : mode = .blockStar → c ≠ '/' := fun h heq =>
          hwhole h (by rw [heq]; rfl)
        have hstays := isCode_step_eq_false hopen hopens hc hline hstar
        have hsame : (mode.step ',').step c = mode.step c := by
          apply Reading.step_comma_step hopens hc
          intro heq
          refine ⟨fun hslash => ?_, fun h => hstar h heq⟩
          rw [hslash] at hopen
          contradiction
        obtain ⟨s, after, hlexemes, -, -⟩ := exists_lexemes_eq_closing rest hstays
        refine ⟨c :: s, after, fun opened => ?_, fun opened => ?_, fun _ => rfl⟩
        · rw [lexemes_cons_of_open opened rest hopen hstays, hlexemes,
            closing_cons_of_open opened s hopen hstays]
        · have hnext : ((mode.step ',').step c).isCode = false := by rwa [hsame]
          rw [lexemes_cons_of_open opened rest hcomma hnext,
            ← closing_cons_of_open opened s hcomma hnext, hsame, hlexemes]

end LexemeReader

namespace Text

/-- Where the comma goes into a string or a comment and tears nothing, it is one
more code point of it. -/
theorem exists_lexemes_comma {a rest : Text}
    (hopen : (code.run a).isCode = false)
    (hfollows : FollowsEntry a.getLast? rest)
    (hwhole : code.run a = .blockStar → rest.head? ≠ some '/') :
    ∃ u s after,
      (a ++ rest).lexemes = u ++ (LexemeReader.start.run a).closing s :: after ∧
      (a ++ ',' :: rest).lexemes =
        u ++ (LexemeReader.start.run a).closing (',' :: s) :: after ∧
      ((code.run a).InString → s.head? = rest.head?) := by
  have hmode := LexemeReader.mode_run_start a
  have hopens := Reading.quoteOpens_run a
  have hcomma := isCode_step_comma hopen hopens
  obtain ⟨s, after, hplain, hbehind, hhead⟩ :=
    LexemeReader.exists_lexemes_step_comma hopen hopens hfollows hwhole
  have hreader : LexemeReader.start.run a =
      ⟨code.run a, (LexemeReader.start.run a).opened⟩ := by
    rw [← hmode]
  refine ⟨LexemeReader.start.completed a, s, after, ?_, ?_, hhead⟩
  · rw [lexemes_append_eq, hreader, hplain]
  · rw [lexemes_append_eq, hreader,
      LexemeReader.lexemes_cons_of_open _ rest hopen hcomma, hbehind,
      LexemeReader.closing_cons_of_open _ s hopen hcomma]

/-! ## The code text of a list with its separator -/

theorem codeText_separated_of_commaInCode {t : Text} (h : CommaInCode t) :
    t.separated.codeText = t.codeText ++ [','] := by
  obtain ⟨a, ha, hcode⟩ := h
  obtain ⟨rest, hcut, happend, hcomma, hfollows⟩ := ha.exists_cut
  have hrest : rest.lexemes.flatMap Lexeme.codeText = [] :=
    (filler_of_lastEntryCut?_eq_some hcut).codeText_eq_nil
  have hbefore : t.codeText = a.codeText := by
    rw [codeText, happend, lexemes_append_of_isCode rest hcode hfollows.ne_of_slash,
      List.flatMap_append, hrest, List.append_nil, codeText]
  rw [hbefore, hcomma, codeText, lexemes_append_comma rest hcode, List.flatMap_append,
    List.flatMap_cons, hrest, List.append_nil]
  rfl

/-- A comma in a string stands in the code text, ahead of something else than a
comma. -/
theorem exists_codeText_separated_of_commaInString {t : Text}
    (h : CommaInString t) (hcode : (code.run t).isCode = true) :
    ∃ u v, t.codeText = u ++ v ∧ t.separated.codeText = u ++ ',' :: v ∧
      v ≠ [] ∧ v.head? ≠ some ',' := by
  obtain ⟨a, ha, hstring⟩ := h
  obtain ⟨rest, -, happend, hseparated, hfollows⟩ := ha.exists_cut
  have hopen := isCode_eq_false_of_inString hstring
  have hne : rest ≠ [] := by
    intro hnil
    rw [happend, hnil, List.append_nil, hopen] at hcode
    contradiction
  have hmode := LexemeReader.mode_run_start a
  obtain ⟨u, s, after, hplain, hcomma, hhead⟩ :=
    exists_lexemes_comma hopen hfollows fun h => by
      rw [h] at hstring
      exact False.elim hstring
  have hs : s ≠ [] := by
    intro hnil
    have hrest := hhead hstring
    rw [hnil, List.head?_nil] at hrest
    exact hne (List.head?_eq_none_iff.1 hrest.symm)
  rw [← hmode] at hstring
  rw [LexemeReader.closing_of_inString hstring] at hplain hcomma
  refine ⟨u.flatMap Lexeme.codeText ++ (LexemeReader.start.run a).opened,
    s ++ after.flatMap Lexeme.codeText, ?_, ?_, by simp [hs], ?_⟩
  · rw [codeText, happend, hplain, List.flatMap_append, List.flatMap_cons]
    simp [Lexeme.codeText]
  · rw [hseparated, codeText, hcomma, List.flatMap_append, List.flatMap_cons]
    simp [Lexeme.codeText]
  · rw [List.head?_append_of_ne_nil _ hs, hhead (hmode ▸ hstring)]
    exact hfollows.head?_ne

theorem codeText_separated_eq {t : Text} (hwhole : CommaTearsNothing t)
    (hcode : ¬ CommaInCode t) (hstring : ¬ CommaInString t) :
    t.separated.codeText = t.codeText := by
  by_cases hinserts : ∃ a, CommaBehind t a
  · obtain ⟨a, ha⟩ := hinserts
    obtain ⟨rest, hcut, happend, hseparated, hfollows⟩ := ha.exists_cut
    have hopen : (code.run a).isCode = false := by
      rw [← Bool.not_eq_true]
      exact fun h => hcode ⟨a, ha, h⟩
    have hcomment : ¬ (code.run a).InString := fun h => hstring ⟨a, ha, h⟩
    obtain ⟨u, s, after, hplain, hcomma, -⟩ :=
      exists_lexemes_comma hopen hfollows (hwhole a rest hcut)
    rw [← LexemeReader.mode_run_start a] at hopen hcomment
    rw [hseparated, codeText, hcomma, codeText, happend, hplain, List.flatMap_append,
      List.flatMap_append, List.flatMap_cons, List.flatMap_cons,
      LexemeReader.codeText_closing hopen hcomment,
      LexemeReader.codeText_closing hopen hcomment]
  · rw [not_exists] at hinserts
    rw [separated_eq_self hinserts]

theorem isCode_run_separated {t : Text} (hwhole : CommaTearsNothing t)
    (hcode : (code.run t).isCode = true) :
    (code.run t.separated).isCode = true := by
  by_cases hinserts : ∃ a, CommaBehind t a
  · obtain ⟨a, ha⟩ := hinserts
    obtain ⟨rest, hcut, happend, hseparated, hfollows⟩ := ha.exists_cut
    rw [happend, run_append] at hcode
    rw [hseparated, run_append, run_cons]
    cases rest with
    | nil =>
        cases hmode : code.run a with
        | code | slash => rfl
        | quoted | escaped | lineComment | blockComment | blockStar =>
            rw [hmode] at hcode
            contradiction
    | cons c rest =>
        rw [run_cons] at hcode ⊢
        rwa [Reading.step_comma_step (Reading.quoteOpens_run a) hfollows.head_cases]
        intro heq
        subst heq
        exact ⟨fun hslash => (hfollows.ne_of_slash hslash).1 rfl,
          fun hstar => hwhole a _ hcut hstar rfl⟩
  · rw [not_exists] at hinserts
    rwa [separated_eq_self hinserts]

end Text

namespace ImportsList

variable {l : ImportsList} {entry : Text}

/-- The code text of a list with a new entry, but for what the comma does. -/
theorem codeText_append_body (hentry : IsWord entry)
    (hwhole : CommaTearsNothing l.body.trimRight)
    (hcode : (code.run l.body.trimRight).isCode = true) :
    (l.append entry).body.codeText =
      l.body.trimRight.separated.codeText ++ entry ++ [','] := by
  have hvisible : ∀ c ∈ entry ++ [','], Lexeme.codeText (.code c) = [c] := by
    intro c hmem
    have hc : isBlank c = false := by
      rcases List.mem_append.1 hmem with hmem | hmem
      · exact isBlank_of_isWordChar (hentry.isWordChar c hmem)
      · rw [List.mem_singleton.1 hmem]
        decide
    simp [Lexeme.codeText, hc]
  have hplain : (entryLexemes entry).flatMap Lexeme.codeText = entry ++ [','] := by
    rw [entryLexemes, List.flatMap_map, List.flatMap_congr hvisible]
    exact List.flatMap_singleton' _
  have hmode := isCode_run_separated hwhole hcode
  rw [append_body, codeText,
    flatMap_lexemes_append_addition skipsBlanks_codeText l hentry (Or.inl hmode), hplain,
    List.append_assoc]
  rfl

end ImportsList

end ModuleScaffold
