import ModuleScaffold.Proofs.Aggregator.Reading

/-!
# Texts that end in code

A source text is made of code points of code, string literals and comments, one
behind the other.  `EndsInCode` says so without a machine: a text ends in code if
it is a sequence of such pieces, each of them complete.  A string runs to the
next quote of its kind that no backslash precedes, a line comment to the next
line feed, and a block comment to the first end mark that begins behind its
opening mark.

The modes in which a text is read reach code behind these texts and no others.
-/

namespace ModuleScaffold

namespace Text

/-- What can stand between two quotes. -/
inductive InQuotes (quote : Char) : Text → Prop where
  | nil : InQuotes quote []
  | plain {c : Char} {t : Text} (hquote : c ≠ quote) (hbackslash : c ≠ '\\') :
      InQuotes quote t → InQuotes quote (c :: t)
  | escaped {c : Char} {t : Text} :
      InQuotes quote t → InQuotes quote ('\\' :: c :: t)

/-- Whether a text begins with one of the marks that open a comment. -/
def BeginsComment (t : Text) : Prop :=
  "//".toList <+: t ∨ "/*".toList <+: t

/-- A text of complete pieces. -/
inductive EndsInCode : Text → Prop where
  | nil : EndsInCode []
  | code {c : Char} {t : Text} (hquote : isQuote c = false)
      (hcomment : ¬ BeginsComment (c :: t)) : EndsInCode t → EndsInCode (c :: t)
  | string {quote : Char} {inner t : Text} (hquote : isQuote quote = true)
      (hinner : InQuotes quote inner) :
      EndsInCode t → EndsInCode (quote :: (inner ++ quote :: t))
  | lineComment {inner t : Text} (hinner : '\n' ∉ inner) :
      EndsInCode t → EndsInCode ('/' :: '/' :: (inner ++ '\n' :: t))
  | blockComment {inner t : Text} (hinner : ¬ "*/".toList <:+: inner ++ ['*']) :
      EndsInCode t → EndsInCode ('/' :: '*' :: (inner ++ '*' :: '/' :: t))

end Text

namespace LexMode

open Text

/-! ## One piece at a time -/

/-- Whether a mode belongs to a block comment. -/
def InBlock (mode : LexMode) : Prop :=
  mode = blockComment ∨ mode = blockStar

theorem beginsComment_cons_iff {c : Char} {t : Text} :
    BeginsComment (c :: t) ↔
      c = '/' ∧ (t.head? = some '/' ∨ t.head? = some '*') := by
  have hline : "//".toList = ['/', '/'] := rfl
  have hblock : "/*".toList = ['/', '*'] := rfl
  rw [BeginsComment, hline, hblock, List.cons_prefix_cons, List.cons_prefix_cons]
  cases t with
  | nil => simp
  | cons d t =>
      simp only [List.cons_prefix_cons, List.nil_prefix, and_true, List.head?_cons,
        Option.some.injEq]
      grind

/-- A slash that begins no comment is code like any other. -/
theorem isCode_run_slash {t : Text} (hline : t.head? ≠ some '/')
    (hblock : t.head? ≠ some '*') :
    (slash.run t).isCode = (code.run t).isCode := by
  cases t with
  | nil => rfl
  | cons c t =>
      have hstep : slash.step c = code.step c := by
        have hslash : c ≠ '/' := fun h => hline (by rw [h]; rfl)
        have hstar : c ≠ '*' := fun h => hblock (by rw [h]; rfl)
        simp [step, hslash, hstar]
      rw [run_cons, run_cons, hstep]

theorem isCode_run_cons {c : Char} {t : Text} (hquote : isQuote c = false)
    (hcomment : ¬ BeginsComment (c :: t)) :
    (code.run (c :: t)).isCode = (code.run t).isCode := by
  rw [run_cons]
  by_cases hslash : c = '/'
  · have hstep : code.step c = slash := by
      rw [hslash]
      rfl
    rw [beginsComment_cons_iff, not_and, not_or] at hcomment
    rw [hstep, isCode_run_slash (hcomment hslash).1 (hcomment hslash).2]
  · have hstep : code.step c = code := by
      simp [step, afterCode, hquote, hslash]
    rw [hstep]

theorem run_quoted_of_inQuotes {quote : Char} {t : Text}
    (h : InQuotes quote t) : (quoted quote).run t = quoted quote := by
  induction h with
  | nil => rfl
  | plain hquote hbackslash h ih =>
      simpa [run_cons, step, hquote, hbackslash] using ih
  | escaped h ih => simpa [run_cons, step] using ih

theorem run_lineComment_of_not_mem {t : Text} (h : '\n' ∉ t) :
    lineComment.run t = lineComment := by
  induction t with
  | nil => rfl
  | cons c t ih =>
      rw [List.mem_cons, not_or] at h
      have hc : c ≠ '\n' := fun heq => h.1 heq.symm
      rw [run_cons, step, if_neg hc, ih h.2]

/-- A code point that does not end a block comment leaves it to the rest to do
so. -/
theorem inBlock_step {mode : LexMode} {c : Char} {t : Text} (hmode : mode.InBlock)
    (hend : ¬ "*/".toList <:+: c :: t) (hc : mode = blockStar → c ≠ '/') :
    (mode.step c).InBlock ∧ (mode.step c = blockStar → t.head? ≠ some '/') := by
  by_cases hstar : c = '*'
  · have hstep : mode.step c = blockStar := by
      rcases hmode with rfl | rfl <;> simp [step, hstar]
    refine ⟨Or.inr hstep, fun _ hslash => hend ?_⟩
    obtain ⟨rest, rfl⟩ := List.head?_eq_some_iff.1 hslash
    rw [hstar]
    exact ⟨[], rest, rfl⟩
  · have hstep : mode.step c = blockComment := by
      rcases hmode with rfl | rfl
      · simp [step, hstar]
      · simp [step, hstar, hc rfl]
    rw [hstep]
    exact ⟨Or.inl rfl, by simp⟩

theorem inBlock_run {mode : LexMode} {t : Text} (hmode : mode.InBlock)
    (hend : ¬ "*/".toList <:+: t)
    (hhead : mode = blockStar → t.head? ≠ some '/') : (mode.run t).InBlock := by
  induction t generalizing mode with
  | nil => exact hmode
  | cons c t ih =>
      obtain ⟨hnext, htail⟩ := inBlock_step hmode hend (by simpa using hhead)
      exact ih hnext (fun h => hend (List.infix_cons h)) htail

theorem run_blockComment_of_not_isInfix {t : Text}
    (h : ¬ "*/".toList <:+: t ++ ['*']) :
    blockComment.run (t ++ ['*', '/']) = code := by
  have hinside : ¬ "*/".toList <:+: t := fun hmark =>
    h (hmark.trans (List.prefix_append t _).isInfix)
  have hstar : (blockComment.run t).step '*' = blockStar := by
    rcases inBlock_run (Or.inl rfl) hinside (by simp) with hmode | hmode <;>
      simp [hmode, step]
  rw [run_append, run_cons, hstar]
  rfl

theorem isCode_run_of_endsInCode {t : Text} (h : EndsInCode t) :
    (code.run t).isCode = true := by
  induction h with
  | nil => rfl
  | code hquote hcomment h ih => rw [isCode_run_cons hquote hcomment, ih]
  | @string quote inner t hquote hinner h ih =>
      have hbackslash : quote ≠ '\\' := by
        intro heq
        rw [heq] at hquote
        contradiction
      have hopen : code.step quote = quoted quote := by
        simp [step, afterCode, hquote]
      have hclose : (quoted quote).step quote = code := by
        simp [step, hbackslash]
      rw [run_cons, hopen, run_append, run_quoted_of_inQuotes hinner, run_cons,
        hclose, ih]
  | @lineComment inner t hinner h ih =>
      have hopen : code.run ['/', '/'] = lineComment := rfl
      have hparts : '/' :: '/' :: (inner ++ '\n' :: t) =
          ['/', '/'] ++ (inner ++ '\n' :: t) := rfl
      rw [hparts, run_append, hopen, run_append, run_lineComment_of_not_mem hinner,
        run_cons]
      exact ih
  | @blockComment inner t hinner h ih =>
      have hopen : code.run ['/', '*'] = blockComment := rfl
      have hparts : '/' :: '*' :: (inner ++ '*' :: '/' :: t) =
          ['/', '*'] ++ ((inner ++ ['*', '/']) ++ t) := by simp
      rw [hparts, run_append, hopen, run_append,
        run_blockComment_of_not_isInfix hinner, ih]

/-! ## The first piece of a text -/

theorem exists_inQuotes_of_run {quote : Char} {t : Text} :
    (((quoted quote).run t).isCode = true → ∃ inner rest,
      t = inner ++ quote :: rest ∧ InQuotes quote inner ∧
        (code.run rest).isCode = true) ∧
    (((escaped quote).run t).isCode = true → ∃ c inner rest,
      t = c :: (inner ++ quote :: rest) ∧ InQuotes quote inner ∧
        (code.run rest).isCode = true) := by
  induction t with
  | nil => exact ⟨fun h => by contradiction, fun h => by contradiction⟩
  | cons c t ih =>
      constructor
      · intro h
        rw [run_cons] at h
        by_cases hbackslash : c = '\\'
        · have hstep : (quoted quote).step c = escaped quote := by
            simp [step, hbackslash]
          rw [hstep] at h
          obtain ⟨d, inner, rest, rfl, hinner, hrest⟩ := ih.2 h
          subst hbackslash
          exact ⟨'\\' :: d :: inner, rest, rfl, .escaped hinner, hrest⟩
        · by_cases hquote : c = quote
          · have hstep : (quoted quote).step c = code := by
              rw [step, if_neg hbackslash, if_pos hquote]
            rw [hstep] at h
            subst hquote
            exact ⟨[], t, rfl, .nil, h⟩
          · have hstep : (quoted quote).step c = quoted quote := by
              simp [step, hbackslash, hquote]
            rw [hstep] at h
            obtain ⟨inner, rest, rfl, hinner, hrest⟩ := ih.1 h
            exact ⟨c :: inner, rest, rfl, .plain hquote hbackslash hinner, hrest⟩
      · intro h
        obtain ⟨inner, rest, rfl, hinner, hrest⟩ := ih.1 h
        exact ⟨c, inner, rest, rfl, hinner, hrest⟩

theorem exists_lineComment_of_run {t : Text}
    (h : (lineComment.run t).isCode = true) : ∃ inner rest,
      t = inner ++ '\n' :: rest ∧ '\n' ∉ inner ∧
        (code.run rest).isCode = true := by
  induction t with
  | nil => contradiction
  | cons c t ih =>
      rw [run_cons, step] at h
      by_cases hfeed : c = '\n'
      · rw [if_pos hfeed] at h
        subst hfeed
        exact ⟨[], t, rfl, by simp, h⟩
      · rw [if_neg hfeed] at h
        obtain ⟨inner, rest, rfl, hinner, hrest⟩ := ih h
        refine ⟨c :: inner, rest, rfl, ?_, hrest⟩
        rw [List.mem_cons, not_or]
        exact ⟨fun heq => hfeed heq.symm, hinner⟩

theorem not_isInfix_cons {c : Char} {t : Text}
    (h : ¬ "*/".toList <:+: t) (hstar : c = '*' → t.head? ≠ some '/') :
    ¬ "*/".toList <:+: c :: t := by
  intro hmark
  rcases List.infix_cons_iff.1 hmark with hhead | htail
  · have hparts : "*/".toList = ['*', '/'] := rfl
    rw [hparts, List.cons_prefix_cons] at hhead
    obtain ⟨tail, htail⟩ := hhead.2
    exact hstar hhead.1.symm (by rw [← htail]; rfl)
  · exact h htail

theorem exists_blockComment_of_run {t : Text} :
    ((blockComment.run t).isCode = true → ∃ inner rest,
      t = inner ++ '*' :: '/' :: rest ∧ ¬ "*/".toList <:+: inner ++ ['*'] ∧
        (code.run rest).isCode = true) ∧
    ((blockStar.run t).isCode = true →
      (∃ rest, t = '/' :: rest ∧ (code.run rest).isCode = true) ∨
      t.head? ≠ some '/' ∧ ∃ inner rest,
        t = inner ++ '*' :: '/' :: rest ∧ ¬ "*/".toList <:+: inner ++ ['*'] ∧
          (code.run rest).isCode = true) := by
  -- both modes at once: a star leads from the first to the second and back
  induction t with
  | nil => exact ⟨fun h => by contradiction, fun h => by contradiction⟩
  | cons c t ih =>
      -- a further code point in front makes no end mark, unless it is a star
      have hplain : c ≠ '*' → (blockComment.run t).isCode = true →
          ∃ inner rest, c :: t = inner ++ '*' :: '/' :: rest ∧
            ¬ "*/".toList <:+: inner ++ ['*'] ∧ (code.run rest).isCode = true := by
        intro hstar h
        obtain ⟨inner, rest, rfl, hinner, hrest⟩ := ih.1 h
        exact ⟨c :: inner, rest, rfl, not_isInfix_cons hinner fun hc => (hstar hc).elim,
          hrest⟩
      have hstarred : c = '*' → (blockStar.run t).isCode = true →
          ∃ inner rest, c :: t = inner ++ '*' :: '/' :: rest ∧
            ¬ "*/".toList <:+: inner ++ ['*'] ∧ (code.run rest).isCode = true := by
        intro hc h
        subst hc
        rcases ih.2 h with ⟨rest, rfl, hrest⟩ | ⟨hhead, inner, rest, rfl, hinner, hrest⟩
        · exact ⟨[], rest, rfl, by decide, hrest⟩
        · refine ⟨'*' :: inner, rest, rfl, not_isInfix_cons hinner fun _ => ?_, hrest⟩
          cases inner with
          | nil => simp
          | cons d inner => simpa using hhead
      have hcases : (blockComment.run (c :: t)).isCode = true →
          ∃ inner rest, c :: t = inner ++ '*' :: '/' :: rest ∧
            ¬ "*/".toList <:+: inner ++ ['*'] ∧ (code.run rest).isCode = true := by
        intro h
        rw [run_cons, step] at h
        by_cases hstar : c = '*'
        · rw [if_pos hstar] at h
          exact hstarred hstar h
        · rw [if_neg hstar] at h
          exact hplain hstar h
      refine ⟨hcases, fun h => ?_⟩
      by_cases hslash : c = '/'
      · subst hslash
        exact Or.inl ⟨t, rfl, h⟩
      · refine Or.inr ⟨by simpa using hslash, hcases ?_⟩
        have hstep : blockStar.step c = blockComment.step c := by
          simp [step, hslash]
        rw [run_cons, ← hstep]
        exact h

/-- The code state is where complete pieces end. -/
theorem endsInCode_iff {t : Text} :
    EndsInCode t ↔ (code.run t).isCode = true := by
  refine ⟨isCode_run_of_endsInCode, fun h => ?_⟩
  -- the first piece may be of any length, so the induction is on that of the text
  induction hlength : t.length using Nat.strong_induction_on generalizing t with
  | _ n ih =>
      subst hlength
      have hrest : ∀ {rest : Text}, rest.length < t.length →
          (code.run rest).isCode = true → EndsInCode rest :=
        fun hlt hrun => ih _ hlt hrun rfl
      cases t with
      | nil => exact .nil
      | cons c t =>
          by_cases hquote : isQuote c = true
          · have hstep : code.step c = quoted c := by
              simp [step, afterCode, hquote]
            rw [run_cons, hstep] at h
            obtain ⟨inner, rest, rfl, hinner, hrun⟩ := exists_inQuotes_of_run.1 h
            exact .string hquote hinner (hrest (by simp; omega) hrun)
          · rw [Bool.not_eq_true] at hquote
            by_cases hcomment : BeginsComment (c :: t)
            · obtain ⟨rfl, hhead⟩ := beginsComment_cons_iff.1 hcomment
              rcases hhead with hhead | hhead
              · obtain ⟨t, rfl⟩ := List.head?_eq_some_iff.1 hhead
                obtain ⟨inner, rest, rfl, hinner, hrun⟩ :=
                  exists_lineComment_of_run h
                exact .lineComment hinner (hrest (by simp; omega) hrun)
              · obtain ⟨t, rfl⟩ := List.head?_eq_some_iff.1 hhead
                obtain ⟨inner, rest, rfl, hinner, hrun⟩ :=
                  exists_blockComment_of_run.1 h
                exact .blockComment hinner (hrest (by simp; omega) hrun)
            · rw [isCode_run_cons hquote hcomment] at h
              exact .code hquote hcomment (hrest (by simp) h)

end LexMode

instance (t : Text) : Decidable t.EndsInCode :=
  decidable_of_iff _ LexMode.endsInCode_iff.symm

end ModuleScaffold
