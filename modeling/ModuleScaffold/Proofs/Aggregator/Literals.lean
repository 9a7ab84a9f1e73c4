import ModuleScaffold.Proofs.Aggregator.RegisteredBody

/-!
# Strings and comments of a list

A registration keeps the string literals of a list as they are, and its comments
up to blanks at their ends, unless the comma goes into one of them.  The comma is
placed by a reader of single lines, which begins each line in code.  It goes
astray on a line that begins inside of a string or of a block comment, and on a
line whose block comment holds two slashes.
-/

namespace ModuleScaffold

open Text

/-- A comma that goes into a string or a comment is seen there. -/
theorem flatMap_lexemes_comma_ne {f : Lexeme → List Text} {g : Text → Text}
    {a b rest : Text} (hopen : (LexMode.code.run a).isCode = false)
    (hseen : ∀ s, f ((LexemeReader.start.run a).closing s) =
      [g ((LexemeReader.start.run a).opened ++ s)])
    (hshort : ∀ t, g t <+: t) (hkeeps : ∀ s t, s ++ [','] <+: g (s ++ ',' :: t))
    (hhead : b.head? ≠ some ',') :
    (a ++ ',' :: rest).lexemes.flatMap f ≠ (a ++ b).lexemes.flatMap f := by
  intro heq
  have hmode := LexemeReader.mode_run_start a
  rw [← hmode] at hopen
  obtain ⟨s, after, hlexemes, hs, -⟩ :=
    LexemeReader.exists_lexemes_eq_closing b hopen
  obtain ⟨s', after', hlexemes', -, hcomma⟩ :=
    LexemeReader.exists_lexemes_eq_closing (',' :: rest) hopen
  obtain ⟨tail, rfl⟩ := List.head?_eq_some_iff.1 (hcomma fun _ => by simp)
  rw [lexemes_append_eq, lexemes_append_eq, hlexemes _, hlexemes' _,
    List.flatMap_append, List.flatMap_append, List.flatMap_cons,
    List.flatMap_cons, hseen, hseen] at heq
  have hsame := (List.cons.inj (List.append_cancel_left heq)).1
  have hmark : [','] <+: s := by
    apply (List.prefix_append_right_inj (LexemeReader.start.run a).opened).1
    exact (hkeeps _ tail).trans (hsame ▸ hshort _)
  obtain ⟨behind, rfl⟩ := hmark.trans hs
  exact hhead rfl

theorem comments_map_trimRight (t : Text) :
    t.comments.map trimRight =
      t.lexemes.flatMap fun lexeme => lexeme.comments.map trimRight :=
  List.map_flatMap

namespace ImportsList

variable {raw : Text} {n : ModuleName} {l : ImportsList} {entry : Text}

theorem strings_append_body (h : l.Readable) (hentry : IsWord entry)
    (hcomma : ∀ a, CommaBehind l.body.trimRight a →
      (LexMode.code.run a).isCode = true) :
    (l.append entry).body.strings = l.body.strings :=
  flatMap_lexemes_append_body_eq skipsBlanks_strings (fun _ => rfl) h hentry hcomma

theorem comments_append_body (h : l.Readable) (hentry : IsWord entry)
    (hcomma : ∀ a, CommaBehind l.body.trimRight a →
      (LexMode.code.run a).isCode = true) :
    (l.append entry).body.comments.map trimRight =
      l.body.comments.map trimRight := by
  rw [comments_map_trimRight, comments_map_trimRight]
  exact flatMap_lexemes_append_body_eq skipsBlanks_comments (fun _ => rfl) h hentry
    hcomma

/-- A comma that is not put in code changes a string or a comment. -/
theorem isCode_of_literals_eq {a : Text} (ha : CommaBehind l.body.trimRight a)
    (hstrings : (l.append entry).body.strings = l.body.strings)
    (hcomments : (l.append entry).body.comments.map trimRight =
      l.body.comments.map trimRight) : (LexMode.code.run a).isCode = true := by
  by_contra hopen
  rw [Bool.not_eq_true] at hopen
  obtain ⟨rest, -, happend, hcomma, hfollows⟩ := ha.exists_cut
  have hbefore : l.body = a ++ (rest ++ l.body.trailingBlanks) := by
    rw [← List.append_assoc, ← happend, trimRight_append_trailingBlanks]
  have hafter : (l.append entry).body = a ++ ',' :: (rest ++ l.addition entry) := by
    rw [append_body, hcomma, List.append_assoc, List.cons_append]
  have hhead := (hfollows.append_blank (blank_trailingBlanks l.body)).head?_ne
  have hmode := LexemeReader.mode_run_start a
  cases hrun : LexMode.code.run a with
  | code | slash =>
      rw [hrun] at hopen
      contradiction
  | quoted | escaped =>
      rw [hafter] at hstrings
      refine flatMap_lexemes_comma_ne hopen (fun s => ?_) List.prefix_refl
        (fun s t => ⟨t, by simp⟩) hhead
        (hstrings.trans (congrArg strings hbefore))
      rw [hrun] at hmode
      simp [LexemeReader.closing, hmode, Lexeme.strings]
  | lineComment | blockComment | blockStar =>
      have htrimmed := congrArg (fun t : Text => t.comments.map trimRight) hbefore
      rw [hafter, comments_map_trimRight] at hcomments
      refine flatMap_lexemes_comma_ne hopen (fun s => ?_) prefix_trimRight
        (fun s t => ⟨trimRight t, by rw [trimRight_append_cons s t (by decide)]; simp⟩)
        hhead
        (hcomments.trans (htrimmed.trans (comments_map_trimRight _)))
      rw [hrun] at hmode
      simp [LexemeReader.closing, hmode, Lexeme.comments]

end ImportsList

open ImportsList

variable {raw : Text} {n : ModuleName}

/-- A registration leaves the string literals of the list as they are, and its
comments up to blanks at their ends. -/
def KeepsLiterals (n : ModuleName) (t : Text) : Prop :=
  ∀ l, find? t = some l →
    (l.bodyAfter n).strings = l.body.strings ∧
      (l.bodyAfter n).comments.map trimRight = l.body.comments.map trimRight

instance (n : ModuleName) (t : Text) : Decidable (KeepsLiterals n t) :=
  decidable_of_iff
    ((find? t).all (fun l => (l.bodyAfter n).strings = l.body.strings ∧
      (l.bodyAfter n).comments.map trimRight = l.body.comments.map trimRight) = true)
    (by simp only [KeepsLiterals, Option.all_eq_true, decide_eq_true_eq])

/-- Strings and comments stay exactly if the comma, where one is put in, is put
in code. -/
theorem keepsLiterals_iff (hn : ModuleName.derive raw = .ok n) (t : Text) :
    KeepsLiterals n t ↔
      ∀ l, find? t = some l → l.body.hasWord n.moduleClass = false →
        ∀ a, CommaBehind l.body.trimRight a →
          (LexMode.code.run a).isCode = true := by
  constructor
  · intro hkeeps l hfind hnew a ha
    have hreadable := Readable.of_find? hfind
    obtain ⟨hstrings, hcomments⟩ := hkeeps l hfind
    rw [bodyAfter_of_new hn hreadable hnew] at hstrings hcomments
    exact isCode_of_literals_eq ha hstrings hcomments
  · intro hcomma l hfind
    have hreadable := Readable.of_find? hfind
    cases hword : l.body.hasWord n.moduleClass with
    | true =>
        rw [bodyAfter_of_hasWord hn hreadable hword]
        exact ⟨rfl, rfl⟩
    | false =>
        rw [bodyAfter_of_new hn hreadable hword]
        have hclass := ModuleName.isWord_moduleClass hn
        exact ⟨strings_append_body hreadable hclass (hcomma l hfind hword),
          comments_append_body hreadable hclass (hcomma l hfind hword)⟩

/-- Of a string that spans lines, the last entry's line sees nothing. -/
theorem keepsLiterals_of_comma_in_code :
    KeepsLiterals (.ofPascal "X") "imports: [`a\n// b`,\n  A // it's\n]" := by
  have hn : ModuleName.derive "x" = .ok (.ofPascal "X") := by rfl
  apply (keepsLiterals_iff hn _).2
  intro l hfind _ a ha
  have hlist : find? "imports: [`a\n// b`,\n  A // it's\n]" =
      some ⟨"", "imports: [", "`a\n// b`,\n  A // it's\n", "]"⟩ := by rfl
  obtain rfl := Option.some.inj (hlist.symm.trans hfind)
  obtain ⟨rest, hcut, -⟩ := commaBehind_iff.1 ha
  have hplace : lastEntryCut? (trimRight "`a\n// b`,\n  A // it's\n") =
      some ("`a\n// b`,\n  A".toList, " // it's".toList) := by decide +kernel
  obtain ⟨rfl, -⟩ := Prod.mk.inj (Option.some.inj (hplace.symm.trans hcut))
  decide +kernel

/-- The comma goes into a string that spans lines, and into a block comment that
holds two slashes. -/
theorem not_keepsLiterals :
    ModuleName.derive "x" = .ok (.ofPascal "X") ∧
      ¬ KeepsLiterals (.ofPascal "X") "imports: [`a\n// b`]" ∧
      ¬ KeepsLiterals (.ofPascal "X") "imports: [A, /* // */]" :=
  ⟨by rfl, by decide +kernel, by decide +kernel⟩

end ModuleScaffold
