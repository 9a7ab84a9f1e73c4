import ModuleScaffold.Proofs.Aggregator.CodeText

/-!
# A comment behind the last entry

A block comment at the end of a list adds nothing to its code text.  It can move
the comma, though: the reader of single lines takes it for an entry, unless it
stands behind two slashes as that reader sees them.  So the comment is seen by a
registration exactly if it takes the comma out of the code or out of a string, or
brings it into the code.
-/

namespace ModuleScaffold

open LexMode Text

namespace Text

/-! ## The place of the comma -/

/-- A blank and the mark that opens a block comment. -/
def commentMark : Text := [' ', '/', '*']

/-- The mark of a block comment is code to a reader of single lines. -/
theorem exists_codePartFrom_mark (mode : LexMode) (t : Text) :
    ∃ z, z <+: t ∧ codePartFrom mode (commentMark ++ t) = commentMark ++ z := by
  refine ⟨codePartFrom (((mode.stepInLine ' ').stepInLine '/').stepInLine '*') t,
    prefix_codePartFrom _ t, ?_⟩
  simp [codePartFrom, commentMark]

theorem trimRight_append_mark (s t : Text) :
    trimRight (s ++ commentMark ++ t) = s ++ commentMark ++ trimRight t := by
  have hparts : ∀ u, s ++ commentMark ++ u = (s ++ [' ', '/']) ++ '*' :: u := by
    simp [commentMark]
  rw [hparts, hparts, trimRight_append_cons _ _ (by decide)]

/-- Where the last entry of `s` ends once a comment mark and `y` follow: where it
did, or behind the mark. -/
inductive MarkedCut (s y : Text) : Option (Text × Text) → Prop where
  | stays : MarkedCut s y ((lastEntryCut? s).map fun (entry, rest) =>
      (entry, rest ++ (commentMark ++ y)))
  | behind {x rest : Text} (hsplit : y = x ++ rest) :
      MarkedCut s y (some (s ++ commentMark ++ x, rest))

theorem MarkedCut.append {s y : Text} {cut : Option (Text × Text)}
    (h : MarkedCut s y cut) (d : Text) :
    MarkedCut s (y ++ d) (cut.map fun (entry, rest) => (entry, rest ++ d)) := by
  cases h with
  | stays =>
      have hstays := MarkedCut.stays (s := s) (y := y ++ d)
      simpa [Function.comp_def] using hstays
  | behind hsplit => exact .behind (by rw [hsplit, List.append_assoc])

theorem markedCut_of_not_mem (s : Text) {y : Text} (hy : '\n' ∉ y) :
    MarkedCut s y (lastEntryCut? (s ++ commentMark ++ y)) := by
  have hline : '\n' ∉ commentMark ++ y := by simp [commentMark, hy]
  obtain ⟨hearlier, hlast⟩ := lines_append_of_not_mem s hline
  rw [List.append_assoc, lastEntryCut?_eq, hearlier, hlast]
  have hhead : (commentMark ++ y).head? ≠ some '/' := by simp [commentMark]
  rcases codePartFrom_append_cases .code (lastLine s) hhead with hsame | ⟨mode, hall⟩
  · -- the line has a comment, and the mark belongs to it
    have hcode : entryCode (lastLine s ++ (commentMark ++ y)) = entryCode (lastLine s) :=
      congrArg trimRight hsame
    have habove := (trimRight_earlierLines_isPrefix s).length_le
    have hahead := (prefix_entryCode (lastLine s)).length_le
    have hstays := MarkedCut.stays (s := s) (y := y)
    rw [lastEntryCut?_eq s] at hstays
    rw [hcode, List.drop_append_of_le_length habove,
      List.drop_append_of_le_length hahead]
    by_cases hnil : entryCode (lastLine s) = []
    · rw [if_pos hnil] at hstays ⊢
      simpa [Function.comp_def] using hstays
    · rw [if_neg hnil] at hstays ⊢
      exact hstays
  · obtain ⟨z, hz, hmark⟩ := exists_codePartFrom_mark mode y
    have hcode : entryCode (lastLine s ++ (commentMark ++ y)) =
        lastLine s ++ commentMark ++ trimRight z := by
      rw [entryCode, codePart, hall, hmark, ← List.append_assoc, trimRight_append_mark]
    have hne : lastLine s ++ commentMark ++ trimRight z ≠ [] := by
      simp [commentMark]
    have hentry : earlierLines s ++ (lastLine s ++ commentMark ++ trimRight z) =
        s ++ commentMark ++ trimRight z := by
      rw [← List.append_assoc, ← List.append_assoc, earlierLines_append_lastLine]
    rw [hcode, if_neg hne, hentry, ← List.append_assoc, List.length_append,
      List.drop_length_add_append]
    exact .behind (prefix_drop_length ((prefix_trimRight z).trans hz)).symm

theorem markedCut (s y : Text) :
    MarkedCut s y (lastEntryCut? (s ++ commentMark ++ y)) := by
  -- line by line from the end, until an entry or the line of the mark is met
  induction hlength : y.length using Nat.strong_induction_on generalizing y with
  | _ n ih =>
      subst hlength
      by_cases hfeed : '\n' ∈ y
      · obtain ⟨hearlier, hline⟩ := lines_append_of_mem (s ++ commentMark) hfeed
        rw [lastEntryCut?_eq, hearlier, hline]
        by_cases hcode : entryCode (lastLine y) = []
        · have hshorter := length_trimRight_earlierLines_lt (List.ne_nil_of_mem hfeed)
          have hcut := (ih _ hshorter _ rfl).append
            (y.drop (trimRight (earlierLines y)).length)
          rw [prefix_drop_length (trimRight_earlierLines_isPrefix y)] at hcut
          rw [if_pos hcode, trimRight_append_mark, List.length_append,
            List.drop_length_add_append]
          exact hcut
        · rw [if_neg hcode, List.append_assoc]
          apply MarkedCut.behind
          rw [List.append_assoc, prefix_drop_length (prefix_entryCode _),
            earlierLines_append_lastLine]
      · exact markedCut_of_not_mem s hfeed

/-! ## What is read behind the mark -/

/-- A block comment, behind a blank. -/
def trailingComment (c : Text) : Text :=
  " /* " ++ c ++ " */"

/-- What stands behind the mark of a comment, up to the slash that ends it. -/
def commentInner (c : Text) : Text := ' ' :: (c ++ [' ', '*'])

theorem trailingComment_eq (c : Text) :
    trailingComment c = commentMark ++ (commentInner c ++ ['/']) := by
  simp [trailingComment, commentMark, commentInner]

theorem not_isInfix_commentInner {c : Text} (hc : ¬ "*/".toList <:+: c) :
    ¬ "*/".toList <:+: commentInner c := by
  have hinner : commentInner c = [] ++ ' ' :: (c ++ ' ' :: ['*']) := rfl
  rw [hinner, infix_append_cons_iff (by decide), infix_append_cons_iff (by decide)]
  rintro (h | h | h)
  · exact absurd h (by decide)
  · exact hc h
  · exact absurd h (by decide)

theorem run_append_mark {s : Text} (hcode : (code.run s).isCode = true) :
    code.run (s ++ commentMark) = .blockComment := by
  rw [run_append]
  cases hmode : code.run s with
  | code | slash => rfl
  | quoted | escaped | lineComment | blockComment | blockStar =>
      rw [hmode] at hcode
      contradiction

/-- The comment ends where it ends, and not before. -/
theorem inBlock_run_of_prefix {c x rest : Text} (hc : ¬ "*/".toList <:+: c)
    (hsplit : commentInner c ++ ['/'] = x ++ rest) (hne : rest ≠ []) :
    (LexMode.blockComment.run x).InBlock := by
  obtain ⟨init, d, rfl⟩ := (List.eq_nil_or_concat' rest).resolve_left hne
  rw [← List.append_assoc] at hsplit
  have hinner := (List.append_inj' hsplit rfl).1
  apply inBlock_run (Or.inl rfl) _ (by simp)
  intro hmark
  apply not_isInfix_commentInner hc
  rw [hinner]
  exact hmark.trans (List.prefix_append x init).isInfix

theorem run_commentInner {c : Text} (hc : ¬ "*/".toList <:+: c) :
    LexMode.blockComment.run (commentInner c) = .blockStar := by
  have hinner : commentInner c = (' ' :: (c ++ [' '])) ++ ['*'] := by
    simp [commentInner]
  have hsplit : commentInner c ++ ['/'] = (' ' :: (c ++ [' '])) ++ ['*', '/'] := by
    simp [commentInner]
  have hblock := inBlock_run_of_prefix hc hsplit (List.cons_ne_nil _ _)
  rw [hinner, run_append]
  rcases hblock with hmode | hmode
  · rw [hmode]
    rfl
  · rw [hmode]
    rfl

theorem run_append_trailingComment {s c : Text} (hc : ¬ "*/".toList <:+: c)
    (hcode : (code.run s).isCode = true) :
    code.run (s ++ trailingComment c) = .code := by
  rw [trailingComment_eq, ← List.append_assoc, run_append, run_append_mark hcode,
    run_append, run_commentInner hc]
  rfl

theorem lexemes_append_of_inBlock {mode : LexMode} {t : Text} (opened u : Text)
    (hmode : mode.InBlock) (hend : ¬ "*/".toList <:+: t)
    (hhead : mode = .blockStar → t.head? ≠ some '/') :
    (⟨mode, opened⟩ : LexemeReader).lexemes (t ++ u) =
      (⟨mode.run t, opened ++ t⟩ : LexemeReader).lexemes u := by
  have hopen : ∀ {m : LexMode}, m.InBlock → m.isCode = false := by
    rintro m (rfl | rfl) <;> rfl
  induction t generalizing mode opened with
  | nil => rw [List.nil_append, List.append_nil, run_nil]
  | cons c t ih =>
      obtain ⟨hnext, htail⟩ := inBlock_step hmode hend (by simpa using hhead)
      rw [List.cons_append, LexemeReader.lexemes_cons_of_open opened _ (hopen hmode)
        (hopen hnext), ih _ hnext (fun h => hend (List.infix_cons h)) htail,
        List.append_assoc, List.singleton_append, run_cons]

theorem codeText_append_trailingComment {s c : Text} (hc : ¬ "*/".toList <:+: c)
    (hcode : (code.run s).isCode = true) :
    (s ++ trailingComment c).codeText = s.codeText := by
  have hcomment : (trailingComment c).lexemes =
      [.code ' ', .comment ('/' :: '*' :: (commentInner c ++ ['/']))] := by
    have hopen : (trailingComment c).lexemes = .code ' ' ::
        (⟨.blockComment, ['/', '*']⟩ : LexemeReader).lexemes
          (commentInner c ++ ['/']) := by
      rw [trailingComment_eq]
      rfl
    rw [hopen, lexemes_append_of_inBlock _ _ (Or.inl rfl) (not_isInfix_commentInner hc)
      (by simp), run_commentInner hc]
    rfl
  rw [codeText, lexemes_append_of_head?_blank hcode, hcomment, List.flatMap_append]
  · exact List.append_nil _
  · intro d hd
    obtain rfl : ' ' = d := by simpa [trailingComment_eq, commentMark] using hd
    exact Or.inl (by decide)

/-! ## The comma of the longer text -/

theorem separated_append_of_stays {s u : Text}
    (h : lastEntryCut? (s ++ u) =
      (lastEntryCut? s).map fun (entry, rest) => (entry, rest ++ u)) :
    separated (s ++ u) = separated s ++ u := by
  rw [separated_eq, separated_eq, h]
  cases lastEntryCut? s with
  | none => rfl
  | some cut =>
      obtain ⟨entry, rest⟩ := cut
      simp only [Option.map_some]
      split
      · rfl
      · simp

theorem commaBehind_append_of_stays {s u a : Text}
    (h : lastEntryCut? (s ++ u) =
      (lastEntryCut? s).map fun (entry, rest) => (entry, rest ++ u)) :
    CommaBehind (s ++ u) a ↔ CommaBehind s a := by
  rw [commaBehind_iff, commaBehind_iff, h]
  cases lastEntryCut? s with
  | none => simp
  | some cut =>
      obtain ⟨entry, rest⟩ := cut
      simp

/-- The comma stays where it is, or goes into the comment or behind it. -/
theorem stays_or_behind (s c : Text) :
    lastEntryCut? (s ++ trailingComment c) = (lastEntryCut? s).map
        (fun (entry, rest) => (entry, rest ++ trailingComment c)) ∨
      ∃ x rest, commentInner c ++ ['/'] = x ++ rest ∧
        lastEntryCut? (s ++ trailingComment c) = some (s ++ commentMark ++ x, rest) := by
  have hcut := markedCut s (commentInner c ++ ['/'])
  rw [List.append_assoc] at hcut
  rw [trailingComment_eq]
  generalize lastEntryCut? (s ++ (commentMark ++ (commentInner c ++ ['/']))) = cut at hcut
  cases hcut with
  | stays => exact Or.inl rfl
  | behind hsplit => exact Or.inr ⟨_, _, hsplit, rfl⟩

section Comment

variable {s c : Text}

/-- Behind the mark, the place of the comma is in the comment or at its end. -/
theorem not_inString_run_behind {x rest : Text} (hc : ¬ "*/".toList <:+: c)
    (hcode : (code.run s).isCode = true)
    (hsplit : commentInner c ++ ['/'] = x ++ rest) :
    ¬ (code.run (s ++ commentMark ++ x)).InString := by
  rw [run_append, run_append_mark hcode]
  by_cases hnil : rest = []
  · rw [hnil, List.append_nil] at hsplit
    rw [← hsplit, run_append, run_commentInner hc]
    exact id
  · rcases inBlock_run_of_prefix hc hsplit hnil with hmode | hmode
    · rw [hmode]
      exact id
    · rw [hmode]
      exact id

theorem commaTearsNothing_append (hc : ¬ "*/".toList <:+: c)
    (hcode : (code.run s).isCode = true) (hwhole : CommaTearsNothing s) :
    CommaTearsNothing (s ++ trailingComment c) := by
  intro a rest hcut hstar hslash
  have hfollows := (lastEntryCut?_eq_some hcut).follows
  rcases stays_or_behind s c with hstays | ⟨x, rest', hsplit, hbehind⟩
  · rw [hstays, Option.map_eq_some_iff] at hcut
    obtain ⟨⟨a', rest'⟩, hcut', heq⟩ := hcut
    obtain ⟨rfl, rfl⟩ := Prod.mk.inj heq
    cases rest' with
    | nil => simp [trailingComment_eq, commentMark] at hslash
    | cons d rest' => exact hwhole a' _ hcut' hstar hslash
  · rw [hbehind, Option.some.injEq, Prod.mk.injEq] at hcut
    obtain ⟨rfl, rfl⟩ := hcut
    obtain ⟨tail, rfl⟩ := hfollows.exists_eq_slashes hslash
    -- one slash further the text would still be in the comment
    have hfurther : commentInner c ++ ['/'] = (x ++ ['/']) ++ '/' :: tail := by
      rw [hsplit, List.append_cons]
    have hblock := inBlock_run_of_prefix hc hfurther (List.cons_ne_nil _ _)
    rw [run_append, run_append_mark hcode] at hstar
    rw [run_append, hstar] at hblock
    simp [InBlock, step] at hblock

theorem CommaInString.stays (hc : ¬ "*/".toList <:+: c)
    (hcode : (code.run s).isCode = true)
    (h : CommaInString (s ++ trailingComment c)) :
    CommaInString s ∧
      separated (s ++ trailingComment c) = separated s ++ trailingComment c := by
  obtain ⟨a, ha, hstring⟩ := h
  rcases stays_or_behind s c with hstays | ⟨x, rest, hsplit, hbehind⟩
  · exact ⟨⟨a, (commaBehind_append_of_stays hstays).1 ha, hstring⟩,
      separated_append_of_stays hstays⟩
  · obtain ⟨rest', hcut, -⟩ := commaBehind_iff.1 ha
    rw [hbehind, Option.some.injEq, Prod.mk.injEq] at hcut
    obtain ⟨rfl, -⟩ := hcut
    exact (not_inString_run_behind hc hcode hsplit hstring).elim

/-- A comma in a string and a comma at the end are different. -/
theorem codeText_ne_of_commaInString (hc : ¬ "*/".toList <:+: c)
    (hcode : (code.run s).isCode = true) (hwhole : CommaTearsNothing s)
    (h : CommaInString s) (hnot : ¬ CommaInString (s ++ trailingComment c)) :
    (s ++ trailingComment c).separated.codeText ≠ s.separated.codeText := by
  intro heq
  have hsame := codeText_append_trailingComment hc hcode
  obtain ⟨u, v, hplain, hcomma, hne, hhead⟩ :=
    exists_codeText_separated_of_commaInString h hcode
  by_cases hin : CommaInCode (s ++ trailingComment c)
  · rw [codeText_separated_of_commaInCode hin, hsame, hplain, hcomma,
      List.append_assoc] at heq
    obtain ⟨d, v, rfl⟩ := List.exists_cons_of_ne_nil hne
    have hfirst := (List.cons.inj (List.append_cancel_left heq)).1
    exact hhead (by rw [List.head?_cons, hfirst])
  · rw [codeText_separated_eq (commaTearsNothing_append hc hcode hwhole) hin hnot, hsame,
      hplain, hcomma] at heq
    have hlength := congrArg List.length heq
    simp at hlength

/-- A comment behind the last entry is transparent exactly if the comma goes into
code with it and without, or neither, and likewise into a string. -/
theorem codeText_separated_comment_iff (hc : ¬ "*/".toList <:+: c)
    (hcode : (code.run s).isCode = true) (hwhole : CommaTearsNothing s) :
    (s ++ trailingComment c).separated.codeText = s.separated.codeText ↔
      (CommaInCode (s ++ trailingComment c) ↔ CommaInCode s) ∧
        (CommaInString (s ++ trailingComment c) ↔ CommaInString s) := by
  have hsame := codeText_append_trailingComment hc hcode
  have hwhole' := commaTearsNothing_append hc hcode hwhole
  have hlonger : ∀ t : Text, t ++ [','] ≠ t := fun t heq => by
    simpa using congrArg List.length heq
  constructor
  · intro heq
    have hstring : CommaInString (s ++ trailingComment c) ↔ CommaInString s := by
      refine ⟨fun h => (h.stays hc hcode).1, fun h => ?_⟩
      by_contra hnot
      exact codeText_ne_of_commaInString hc hcode hwhole h hnot heq
    refine ⟨⟨fun h => ?_, fun h => ?_⟩, hstring⟩
    · by_contra hnot
      have hplain := mt hstring.2 (not_commaInString_of_commaInCode h)
      rw [codeText_separated_of_commaInCode h, hsame,
        codeText_separated_eq hwhole hnot hplain] at heq
      exact hlonger _ heq
    · by_contra hnot
      have hplain := mt hstring.1 (not_commaInString_of_commaInCode h)
      rw [codeText_separated_of_commaInCode h,
        codeText_separated_eq hwhole' hnot hplain, hsame] at heq
      exact hlonger _ heq.symm
  · rintro ⟨hin, hstring⟩
    by_cases h : CommaInCode s
    · rw [codeText_separated_of_commaInCode h,
        codeText_separated_of_commaInCode (hin.2 h), hsame]
    · by_cases h' : CommaInString s
      · rw [((hstring.2 h').stays hc hcode).2,
          codeText_append_trailingComment hc (isCode_run_separated hwhole hcode)]
      · rw [codeText_separated_eq hwhole h h',
          codeText_separated_eq hwhole' (mt hin.1 h) (mt hstring.1 h'), hsame]

end Comment

end Text

end ModuleScaffold
