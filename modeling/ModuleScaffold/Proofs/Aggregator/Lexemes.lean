import ModuleScaffold.Proofs.Aggregator.CodeState

/-!
# The lexemes of a source text

A source text is cut into code points of code, string literals and comments.
The reader that cuts it goes through the modes of `LexMode` and keeps what it has
read of a string or a comment that is still open.

Where a text ends in code it may be cut in two and each part cut into lexemes on
its own.  A text that ends in a line comment may be cut there as well, once a
line feed follows, if blanks at the end of the comment do not count.
-/

namespace ModuleScaffold

/-- A lexeme of a source text. -/
inductive Lexeme where
  | code (c : Char)
  /-- A string literal with its quotes. -/
  | string (text : Text)
  /-- A comment with its marks.  The line feed behind a line comment is code. -/
  | comment (text : Text)
deriving DecidableEq, Repr

namespace Lexeme

def text : Lexeme → Text
  | code c => [c]
  | string text => text
  | comment text => text

def strings : Lexeme → List Text
  | string text => [text]
  | _ => []

def comments : Lexeme → List Text
  | comment text => [text]
  | _ => []

/-- What is left of a lexeme without comments. -/
def uncommented : Lexeme → Text
  | comment _ => []
  | lexeme => lexeme.text

/-- What is left of a lexeme without comments and without blanks outside of
strings. -/
def codeText : Lexeme → Text
  | code c => if isBlank c then [] else [c]
  | string text => text
  | comment _ => []

end Lexeme

/-- A reader in the middle of a text. -/
structure LexemeReader where
  mode : LexMode
  /-- What has been read of the string or the comment that is open. -/
  opened : Text
deriving DecidableEq, Repr

namespace LexemeReader

def start : LexemeReader := ⟨.code, []⟩

/-- The lexeme that a code point of code is, if it is one alone, and what it
opens. -/
def readCode (c : Char) : List Lexeme × Text :=
  if isQuote c then ([], [c])
  else if c = '/' then ([], [])
  else ([.code c], [])

/-- The lexemes that one code point completes, and what is open behind it.  A
slash is a lexeme as soon as it begins no comment. -/
def read (r : LexemeReader) (c : Char) : List Lexeme × Text :=
  match r.mode with
  | .code => readCode c
  | .slash =>
    if c = '/' ∨ c = '*' then ([], ['/', c])
    else (.code '/' :: (readCode c).1, (readCode c).2)
  | .quoted quote =>
    if c ≠ '\\' ∧ c = quote then ([.string (r.opened ++ [c])], [])
    else ([], r.opened ++ [c])
  | .lineComment =>
    if c = '\n' then ([.comment r.opened, .code c], [])
    else ([], r.opened ++ [c])
  | .blockStar =>
    if c = '/' then ([.comment (r.opened ++ [c])], [])
    else ([], r.opened ++ [c])
  | .escaped _ | .blockComment => ([], r.opened ++ [c])

def step (r : LexemeReader) (c : Char) : LexemeReader :=
  ⟨r.mode.step c, (r.read c).2⟩

def run (r : LexemeReader) (t : Text) : LexemeReader :=
  t.foldl step r

/-- The lexemes that a text completes. -/
def completed (r : LexemeReader) : Text → List Lexeme
  | [] => []
  | c :: t => (r.read c).1 ++ (r.step c).completed t

/-- The lexeme that is cut off by the end of the text. -/
def unfinished (r : LexemeReader) : List Lexeme :=
  match r.mode with
  | .code => []
  | .slash => [.code '/']
  | .quoted _ | .escaped _ => [.string r.opened]
  | .lineComment | .blockComment | .blockStar => [.comment r.opened]

def lexemes (r : LexemeReader) (t : Text) : List Lexeme :=
  r.completed t ++ (r.run t).unfinished

@[simp] theorem run_nil (r : LexemeReader) : r.run [] = r := rfl

@[simp] theorem run_cons (r : LexemeReader) (c : Char) (t : Text) :
    r.run (c :: t) = (r.step c).run t := rfl

theorem run_append (r : LexemeReader) (s t : Text) :
    r.run (s ++ t) = (r.run s).run t :=
  List.foldl_append

theorem mode_run (r : LexemeReader) (t : Text) :
    (r.run t).mode = r.mode.run t := by
  induction t generalizing r with
  | nil => rfl
  | cons c t ih => exact ih (r.step c)

theorem mode_run_start (t : Text) :
    (start.run t).mode = LexMode.code.run t :=
  mode_run start t

theorem lexemes_cons (r : LexemeReader) (c : Char) (t : Text) :
    r.lexemes (c :: t) = (r.read c).1 ++ (r.step c).lexemes t := by
  rw [lexemes, completed, List.append_assoc]
  rfl

theorem lexemes_append (r : LexemeReader) (s t : Text) :
    r.lexemes (s ++ t) = r.completed s ++ (r.run s).lexemes t := by
  induction s generalizing r with
  | nil => rfl
  | cons c s ih =>
      rw [List.cons_append, lexemes_cons, ih, completed, List.append_assoc]
      rfl

/-! ## Where nothing is open -/

theorem opened_step_of_isCode {r : LexemeReader} {c : Char}
    (h : (r.step c).mode.isCode = true) : (r.step c).opened = [] := by
  obtain ⟨mode, opened⟩ := r
  cases mode <;>
    grind [step, read, readCode, LexMode.step, LexMode.afterCode, LexMode.isCode]

theorem run_start_of_isCode {t : Text}
    (h : (LexMode.code.run t).isCode = true) :
    start.run t = ⟨LexMode.code.run t, []⟩ := by
  have hmode := mode_run_start t
  have hopened : (start.run t).opened = [] := by
    induction t using List.reverseRecOn with
    | nil => rfl
    | append_singleton t c ih =>
        rw [run_append] at hmode ⊢
        apply opened_step_of_isCode
        rw [← hmode] at h
        exact h
  rw [← hmode, ← hopened]

/-- Behind code a text is read as from the beginning, but for a slash that it
makes the mark of a comment. -/
theorem lexemes_of_isCode {mode : LexMode} {t : Text}
    (hcode : mode.isCode = true)
    (hslash : mode = .slash → t.head? ≠ some '/' ∧ t.head? ≠ some '*') :
    (⟨mode, []⟩ : LexemeReader).lexemes t =
      (⟨mode, []⟩ : LexemeReader).unfinished ++ start.lexemes t := by
  cases mode with
  | code => rfl
  | slash =>
      cases t with
      | nil => rfl
      | cons c t =>
          obtain ⟨hline, hblock⟩ := hslash rfl
          have hc : ¬ (c = '/' ∨ c = '*') := by
            rintro (rfl | rfl)
            · exact hline rfl
            · exact hblock rfl
          have hread : (⟨.slash, []⟩ : LexemeReader).read c =
              (.code '/' :: (readCode c).1, (readCode c).2) := by
            rw [read, if_neg hc]
          have hstep : (⟨.slash, []⟩ : LexemeReader).step c = start.step c := by
            rw [not_or] at hc
            simp [step, LexMode.step, hc.1, hc.2, start, read]
          rw [lexemes_cons, lexemes_cons, hread, hstep]
          rfl
  | quoted | escaped | lineComment | blockComment | blockStar => contradiction

/-! ## What is open -/

/-- The lexeme that an open string or comment becomes. -/
def closing (r : LexemeReader) (s : Text) : Lexeme :=
  match r.mode with
  | .quoted _ | .escaped _ => .string (r.opened ++ s)
  | _ => .comment (r.opened ++ s)

theorem lexemes_cons_of_open {mode : LexMode} {c : Char} (opened t : Text)
    (hopen : mode.isCode = false) (hstays : (mode.step c).isCode = false) :
    (⟨mode, opened⟩ : LexemeReader).lexemes (c :: t) =
      (⟨mode.step c, opened ++ [c]⟩ : LexemeReader).lexemes t := by
  have hread : (⟨mode, opened⟩ : LexemeReader).read c = ([], opened ++ [c]) := by
    cases mode <;> grind [read, LexMode.step, LexMode.isCode]
  rw [lexemes_cons, step, hread, List.nil_append]

theorem closing_cons_of_open {mode : LexMode} {c : Char} (opened s : Text)
    (hopen : mode.isCode = false) (hstays : (mode.step c).isCode = false) :
    (⟨mode.step c, opened ++ [c]⟩ : LexemeReader).closing s =
      (⟨mode, opened⟩ : LexemeReader).closing (c :: s) := by
  cases mode <;> grind [closing, LexMode.step, LexMode.isCode]

/-- What is open takes in the text up to its end, whatever has been read of it,
and the head at least, unless that is the line feed behind a line comment. -/
theorem exists_lexemes_eq_closing {mode : LexMode} (t : Text)
    (hopen : mode.isCode = false) :
    ∃ s rest, (∀ opened, (⟨mode, opened⟩ : LexemeReader).lexemes t =
        (⟨mode, opened⟩ : LexemeReader).closing s :: rest) ∧ s <+: t ∧
      ((mode = .lineComment → t.head? ≠ some '\n') → s.head? = t.head?) := by
  induction t generalizing mode with
  | nil =>
      refine ⟨[], [], fun opened => ?_, List.nil_prefix, fun _ => rfl⟩
      cases mode <;>
        simp_all [lexemes, completed, unfinished, closing, LexMode.isCode]
  | cons c t ih =>
      by_cases hends : (mode.step c).isCode = true
      -- a quote or an end mark belongs to what it ends, a line feed does not
      · by_cases hfeed : mode = .lineComment
        · have hc : c = '\n' := by
            by_contra hc
            simp [hfeed, LexMode.step, LexMode.isCode, hc] at hends
          subst hfeed hc
          exact ⟨[], .code '\n' :: start.lexemes t, fun opened => by simp [lexemes_cons,
            read, step, start, closing, LexMode.step], List.nil_prefix,
            fun hne => (hne rfl rfl).elim⟩
        · refine ⟨[c], (⟨mode.step c, []⟩ : LexemeReader).lexemes t, fun opened => ?_,
            List.cons_prefix_cons.2 ⟨rfl, List.nil_prefix⟩, fun _ => rfl⟩
          rw [lexemes_cons]
          cases mode <;>
            grind [read, closing, step, LexMode.step, LexMode.isCode]
      · rw [Bool.not_eq_true] at hends
        obtain ⟨s, rest, hlexemes, hs, -⟩ := ih hends
        refine ⟨c :: s, rest, fun opened => ?_, List.cons_prefix_cons.2 ⟨rfl, hs⟩,
          fun _ => rfl⟩
        rw [lexemes_cons_of_open opened t hopen hends, hlexemes,
          closing_cons_of_open opened s hopen hends]

/-- A line comment takes in its line. -/
theorem lexemes_lineComment_append (opened : Text) {s : Text} (t : Text)
    (hs : '\n' ∉ s) :
    (⟨.lineComment, opened⟩ : LexemeReader).lexemes (s ++ t) =
      (⟨.lineComment, opened ++ s⟩ : LexemeReader).lexemes t := by
  induction s generalizing opened with
  | nil => rw [List.nil_append, List.append_nil]
  | cons c s ih =>
      rw [List.mem_cons, not_or] at hs
      have hc : c ≠ '\n' := fun heq => hs.1 heq.symm
      have hstep : LexMode.step .lineComment c = .lineComment := by
        rw [LexMode.step, if_neg hc]
      rw [List.cons_append, lexemes_cons_of_open _ _ rfl (by rw [hstep]; rfl), hstep,
        ih _ hs.2, List.append_assoc, List.singleton_append]

theorem lexemes_lineComment_newline (opened t : Text) :
    (⟨.lineComment, opened⟩ : LexemeReader).lexemes ('\n' :: t) =
      .comment opened :: .code '\n' :: start.lexemes t := by
  rw [lexemes_cons]
  rfl

end LexemeReader

namespace Text

open LexemeReader

def lexemes (t : Text) : List Lexeme :=
  start.lexemes t

/-- The string literals of a text, in order. -/
def strings (t : Text) : List Text :=
  t.lexemes.flatMap Lexeme.strings

/-- The comments of a text, in order. -/
def comments (t : Text) : List Text :=
  t.lexemes.flatMap Lexeme.comments

/-- The text without its comments. -/
def uncommented (t : Text) : Text :=
  t.lexemes.flatMap Lexeme.uncommented

/-- The text without its comments and without blanks outside of strings. -/
def codeText (t : Text) : Text :=
  t.lexemes.flatMap Lexeme.codeText

theorem flatMap_text_lexemes_reader (r : LexemeReader)
    (h : r.mode.isCode = true → r.opened = []) (t : Text) :
    (r.lexemes t).flatMap Lexeme.text =
      (r.unfinished.flatMap Lexeme.text) ++ t := by
  induction t generalizing r with
  | nil => simp [LexemeReader.lexemes, completed]
  | cons c t ih =>
      have hread : ((r.read c).1 ++ (r.step c).unfinished).flatMap Lexeme.text =
          r.unfinished.flatMap Lexeme.text ++ [c] := by
        obtain ⟨mode, opened⟩ := r
        cases mode <;>
          grind [LexemeReader.read, LexemeReader.step, LexemeReader.unfinished,
            readCode, LexMode.step, LexMode.afterCode, LexMode.isCode, Lexeme.text]
      rw [lexemes_cons, List.flatMap_append, ih _ opened_step_of_isCode,
        ← List.append_assoc, ← List.flatMap_append, hread, List.append_assoc,
        List.singleton_append]

/-- Nothing is lost when a text is cut into its lexemes. -/
theorem flatMap_text_lexemes (t : Text) :
    t.lexemes.flatMap Lexeme.text = t :=
  flatMap_text_lexemes_reader start (fun _ => rfl) t

/-! ## Texts that are put together -/

theorem lexemes_eq (t : Text) :
    t.lexemes = start.completed t ++ (start.run t).unfinished :=
  rfl

theorem lexemes_append_eq (s t : Text) :
    (s ++ t).lexemes = start.completed s ++ (start.run s).lexemes t :=
  LexemeReader.lexemes_append start s t

/-- A text may be cut where it ends in code, but not between the two slashes of
a comment. -/
theorem lexemes_append_of_isCode {s : Text} (t : Text)
    (hcode : (LexMode.code.run s).isCode = true)
    (hslash : LexMode.code.run s = .slash →
      t.head? ≠ some '/' ∧ t.head? ≠ some '*') :
    (s ++ t).lexemes = s.lexemes ++ t.lexemes := by
  rw [lexemes_append_eq, lexemes_eq s, run_start_of_isCode hcode,
    lexemes_of_isCode hcode hslash, List.append_assoc]
  rfl

theorem lexemes_append_of_head?_blank {s t : Text}
    (hcode : (LexMode.code.run s).isCode = true)
    (hhead : ∀ c, t.head? = some c → isBlank c = true ∨ c = ',') :
    (s ++ t).lexemes = s.lexemes ++ t.lexemes := by
  have hne : ∀ mark, isBlank mark = false → mark ≠ ',' → t.head? ≠ some mark := by
    intro mark hblank hcomma hmark
    rcases hhead mark hmark with h | h
    · rw [h] at hblank
      contradiction
    · exact hcomma h
  exact lexemes_append_of_isCode t hcode fun _ =>
    ⟨hne '/' (by decide) (by decide), hne '*' (by decide) (by decide)⟩

theorem lexemes_append_of_isPlain {p : Text} (t : Text)
    (h : ∀ c ∈ p, Reading.isPlain c = true) :
    (p ++ t).lexemes = p.map .code ++ t.lexemes := by
  induction p with
  | nil => rfl
  | cons c p ih =>
      have hc := h c List.mem_cons_self
      simp only [Reading.isPlain, Bool.and_eq_true, Bool.not_eq_true',
        bne_iff_ne] at hc
      have hread : start.read c = ([.code c], []) := by
        simp [LexemeReader.read, start, readCode, hc.1.1.1, hc.1.1.2]
      have hstep : start.step c = start := by
        rw [LexemeReader.step, hread]
        simp [start, LexMode.step, LexMode.afterCode, hc.1.1.1, hc.1.1.2]
      have htail : start.lexemes (p ++ t) = p.map .code ++ start.lexemes t :=
        ih fun d hmem => h d (List.mem_cons_of_mem c hmem)
      rw [List.cons_append, lexemes, lexemes_cons, hread, hstep, htail]
      rfl

theorem lexemes_append_comma {a : Text} (t : Text)
    (hcode : (LexMode.code.run a).isCode = true) :
    (a ++ ',' :: t).lexemes = a.lexemes ++ .code ',' :: t.lexemes := by
  have hcomma : Text.lexemes ([','] ++ t) = [','].map Lexeme.code ++ t.lexemes :=
    lexemes_append_of_isPlain t (List.forall_mem_singleton.2 (by decide))
  rw [lexemes_append_of_head?_blank hcode (by simp)]
  exact congrArg (a.lexemes ++ ·) hcomma

/-! ## What does not see blanks -/

/-- Blanks of code are not seen, nor are blanks at the end of a comment. -/
structure SkipsBlanks {α : Type} (f : Lexeme → List α) : Prop where
  code : ∀ c, isBlank c = true → f (.code c) = []
  comment : ∀ t b, Blank b → f (.comment (t ++ b)) = f (.comment t)

theorem skipsBlanks_strings : SkipsBlanks Lexeme.strings where
  code := fun _ _ => rfl
  comment := fun _ _ _ => rfl

theorem skipsBlanks_comments :
    SkipsBlanks fun lexeme => lexeme.comments.map trimRight where
  code := fun _ _ => rfl
  comment := fun t b hb => by
    simp [Lexeme.comments, trimRight_append_of_blank t hb]

theorem skipsBlanks_codeText : SkipsBlanks Lexeme.codeText where
  code := fun c hc => by simp [Lexeme.codeText, hc]
  comment := fun _ _ _ => rfl

section Views

variable {α : Type} {f : Lexeme → List α}

theorem SkipsBlanks.flatMap_code (hf : SkipsBlanks f) {b : Text}
    (hb : Blank b) : (b.map Lexeme.code).flatMap f = [] := by
  rw [List.flatMap_eq_nil_iff]
  intro lexeme hmem
  obtain ⟨c, hc, rfl⟩ := List.mem_map.1 hmem
  exact hf.code c (hb c hc)

theorem isPlain_of_blank {b : Text} (hb : Blank b) :
    ∀ c ∈ b, Reading.isPlain c = true :=
  fun c hmem => Reading.isPlain_of_isBlank (hb c hmem)

theorem flatMap_lexemes_blank_append (hf : SkipsBlanks f) {b : Text} (t : Text)
    (hb : Blank b) : (b ++ t).lexemes.flatMap f = t.lexemes.flatMap f := by
  rw [lexemes_append_of_isPlain t (isPlain_of_blank hb), List.flatMap_append,
    hf.flatMap_code hb, List.nil_append]

theorem flatMap_lexemes_of_lineComment (hf : SkipsBlanks f) {b : Text}
    (opened t : Text) (hb : Blank b) (hfeed : '\n' ∈ b) :
    ((⟨.lineComment, opened⟩ : LexemeReader).lexemes (b ++ t)).flatMap f =
      f (.comment opened) ++ t.lexemes.flatMap f := by
  obtain ⟨ahead, behind, rfl, hahead⟩ := List.eq_append_cons_of_mem hfeed
  have hblank : Blank ahead := fun c hmem => hb c (List.mem_append_left _ hmem)
  have hrest : Blank behind := fun c hmem =>
    hb c (List.mem_append_right _ (List.mem_cons_of_mem _ hmem))
  have htail : (start.lexemes (behind ++ t)).flatMap f = t.lexemes.flatMap f :=
    flatMap_lexemes_blank_append hf t hrest
  rw [List.append_assoc, List.cons_append, lexemes_lineComment_append opened _ hahead,
    lexemes_lineComment_newline, List.flatMap_cons, List.flatMap_cons,
    hf.comment opened ahead hblank, hf.code '\n' (by decide), htail, List.nil_append]

/-- A new line parts a text in two, for what does not see blanks. -/
theorem flatMap_lexemes_append_blank_append (hf : SkipsBlanks f) {s b : Text}
    (t : Text) (hmode : (LexMode.code.run s).isCode = true ∨
      LexMode.code.run s = .lineComment) (hb : Blank b) (hfeed : '\n' ∈ b) :
    (s ++ b ++ t).lexemes.flatMap f =
      s.lexemes.flatMap f ++ t.lexemes.flatMap f := by
  rw [List.append_assoc]
  rcases hmode with hcode | hcomment
  · rw [lexemes_append_of_head?_blank hcode, List.flatMap_append,
      flatMap_lexemes_blank_append hf t hb]
    intro c hc
    cases b with
    | nil => contradiction
    | cons d b =>
        rw [List.cons_append, List.head?_cons, Option.some.injEq] at hc
        subst hc
        exact Or.inl hb.head
  · have hrun : start.run s = ⟨.lineComment, (start.run s).opened⟩ := by
      rw [← hcomment]
      exact congrArg (LexemeReader.mk · _) (mode_run_start s)
    have hunfinished : (start.run s).unfinished =
        [.comment (start.run s).opened] := by
      rw [hrun]
      rfl
    rw [lexemes_append_eq, hrun, List.flatMap_append,
      flatMap_lexemes_of_lineComment hf _ t hb hfeed, lexemes_eq s, hunfinished,
      List.flatMap_append, List.append_assoc]
    simp

/-- Blanks that end in code follow code or a line comment. -/
theorem isCode_or_lineComment_of_blank {s b : Text} (hb : Blank b)
    (h : (LexMode.code.run (s ++ b)).isCode = true) :
    (LexMode.code.run s).isCode = true ∨
      LexMode.code.run s = .lineComment ∧ '\n' ∈ b := by
  rw [LexMode.run_append] at h
  have hopens := Reading.quoteOpens_run s
  have hline := Reading.run_newline_eq_code .lf hopens hb h
  cases hmode : LexMode.code.run s with
  | code | slash => exact Or.inl rfl
  | lineComment =>
      refine Or.inr ⟨rfl, ?_⟩
      by_contra hfeed
      rw [hmode, LexMode.run_lineComment_of_not_mem hfeed] at h
      contradiction
  | quoted quote | escaped quote =>
      rw [hmode] at hopens hline
      have hne : '\n' ≠ quote := Reading.ne_of_isQuote hopens (by decide)
      simp [Newline.text, LexMode.step, hne] at hline
  | blockComment | blockStar =>
      rw [hmode] at hline
      contradiction

theorem flatMap_lexemes_append_blank (hf : SkipsBlanks f) {s b : Text}
    (hb : Blank b) (h : (LexMode.code.run (s ++ b)).isCode = true) :
    (s ++ b).lexemes.flatMap f = s.lexemes.flatMap f := by
  rcases isCode_or_lineComment_of_blank hb h with hcode | ⟨hcomment, hfeed⟩
  · rw [lexemes_append_of_head?_blank hcode, List.flatMap_append]
    · have hblank := flatMap_lexemes_blank_append hf [] hb
      rw [List.append_nil] at hblank
      rw [hblank]
      exact List.append_nil _
    · intro c hc
      exact Or.inl (hb c (List.mem_of_head? hc))
  · have hcut := flatMap_lexemes_append_blank_append hf [] (Or.inr hcomment) hb hfeed
    rw [List.append_nil] at hcut
    rw [hcut]
    exact List.append_nil _

end Views

end Text

end ModuleScaffold
