import ModuleScaffold.Aggregator.ImportsList
import ModuleScaffold.Proofs.ModuleName

/-!
# Reading a list step by step

The search for the closing bracket is a machine whose state is the lexical mode
and the number of brackets opened since the list began.  A step fails when it
reads the bracket that closes the list, so a text that is read to its end holds
no such bracket, and two texts that leave the machine in one state may stand for
each other in front of any rest.

`ImportsList.splitClosing?` is this machine run up to its failure.
-/

namespace ModuleScaffold

/-- The state in which a list is read. -/
structure Reading where
  mode : LexMode
  /-- The number of open brackets, that of the list aside. -/
  depth : Nat
deriving DecidableEq, Repr

namespace Reading

/-- The state at the beginning of a list. -/
def start : Reading := ⟨.code, 0⟩

/-- Whether a closing bracket would close the list. -/
def Closes (r : Reading) : Prop :=
  r.mode.isCode = true ∧ r.depth = 0

/-- The state behind one code point, unless that closes the list. -/
def step? (r : Reading) (c : Char) : Option Reading :=
  if r.mode.isCode && c == ']' && r.depth == 0 then
    none
  else
    some {
      mode := r.mode.step c
      depth :=
        if r.mode.isCode && c == '[' then r.depth + 1
        else if r.mode.isCode && c == ']' then r.depth - 1
        else r.depth }

/-- The state behind a text, unless the text closes the list. -/
def run? (r : Reading) : Text → Option Reading
  | [] => some r
  | c :: t => (r.step? c).bind fun next => next.run? t

@[simp] theorem run?_nil (r : Reading) : r.run? [] = some r := rfl

theorem run?_cons (r : Reading) (c : Char) (t : Text) :
    r.run? (c :: t) = (r.step? c).bind fun next => next.run? t := rfl

theorem run?_append (r : Reading) (s t : Text) :
    r.run? (s ++ t) = (r.run? s).bind fun next => next.run? t := by
  induction s generalizing r with
  | nil => rfl
  | cons c s ih =>
      rw [List.cons_append, run?_cons, run?_cons, Option.bind_assoc]
      congr 1
      funext next
      exact ih next

theorem run?_append_of_some {r next : Reading} {s : Text} (t : Text)
    (h : r.run? s = some next) : r.run? (s ++ t) = next.run? t := by
  rw [run?_append, h, Option.bind_some]

theorem step?_eq_none_iff {r : Reading} {c : Char} :
    r.step? c = none ↔ r.Closes ∧ c = ']' := by
  unfold step? Closes
  split
  next h =>
    simp only [Bool.and_eq_true, beq_iff_eq] at h
    exact iff_of_true rfl ⟨⟨h.1.1, h.2⟩, h.1.2⟩
  next h =>
    simp only [Bool.and_eq_true, beq_iff_eq] at h
    refine iff_of_false (by simp) ?_
    rintro ⟨⟨hcode, hdepth⟩, hc⟩
    exact h ⟨⟨hcode, hc⟩, hdepth⟩

theorem mode_of_step? {r next : Reading} {c : Char}
    (h : r.step? c = some next) : next.mode = r.mode.step c := by
  unfold step? at h
  split at h
  · contradiction
  · rw [← Option.some.inj h]

theorem mode_of_run? {r next : Reading} {t : Text}
    (h : r.run? t = some next) : next.mode = r.mode.run t := by
  induction t generalizing r with
  | nil =>
      rw [run?_nil, Option.some.injEq] at h
      rw [h, LexMode.run_nil]
  | cons c t ih =>
      rw [run?_cons, Option.bind_eq_some_iff] at h
      obtain ⟨middle, hstep, hrun⟩ := h
      rw [ih hrun, LexMode.run_cons, mode_of_step? hstep]

/-! ## The search for the closing bracket -/

open ImportsList

theorem splitClosing?_cons (r : Reading) (c : Char) (t : Text) :
    splitClosing? r.mode r.depth (c :: t) =
      match r.step? c with
      | none => some ([], c :: t)
      | some next =>
        (splitClosing? next.mode next.depth t).map fun (body, after) =>
          (c :: body, after) := by
  rw [splitClosing?, step?]
  split
  · rfl
  · rfl

/-- What is read without closing the list belongs to its body. -/
theorem splitClosing?_append {r next : Reading} {s : Text} (t : Text)
    (h : r.run? s = some next) :
    splitClosing? r.mode r.depth (s ++ t) =
      (splitClosing? next.mode next.depth t).map fun (body, after) =>
        (s ++ body, after) := by
  induction s generalizing r with
  | nil =>
      rw [run?_nil, Option.some.injEq] at h
      subst h
      simp
  | cons c s ih =>
      rw [run?_cons, Option.bind_eq_some_iff] at h
      obtain ⟨middle, hstep, hrun⟩ := h
      rw [List.cons_append, splitClosing?_cons, hstep]
      simp only [ih hrun, Option.map_map]
      rfl

/-- The body of a list is read to its end, and the bracket behind it closes the
list. -/
theorem splitClosing?_eq_some_iff {r : Reading} {t body after : Text} :
    splitClosing? r.mode r.depth t = some (body, after) ↔
      t = body ++ after ∧ after.head? = some ']' ∧
        ∃ last, r.run? body = some last ∧ last.Closes := by
  constructor
  · intro h
    induction t generalizing r body with
    | nil => simp [splitClosing?] at h
    | cons c t ih =>
        rw [splitClosing?_cons] at h
        cases hstep : r.step? c with
        | none =>
            simp only [hstep, Option.some.injEq, Prod.mk.injEq] at h
            obtain ⟨rfl, rfl⟩ := h
            obtain ⟨hcloses, rfl⟩ := step?_eq_none_iff.1 hstep
            exact ⟨rfl, rfl, r, rfl, hcloses⟩
        | some next =>
            simp only [hstep, Option.map_eq_some_iff, Prod.mk.injEq] at h
            obtain ⟨⟨rest, after'⟩, hrest, rfl, rfl⟩ := h
            obtain ⟨rfl, hhead, last, hrun, hcloses⟩ := ih hrest
            refine ⟨rfl, hhead, last, ?_, hcloses⟩
            rw [run?_cons, hstep, Option.bind_some, hrun]
  · rintro ⟨rfl, hhead, last, hrun, hcloses⟩
    obtain ⟨rest, rfl⟩ : ∃ rest, after = ']' :: rest := by
      cases after with
      | nil => contradiction
      | cons c rest => exact ⟨rest, by simpa using hhead⟩
    rw [splitClosing?_append _ hrun, splitClosing?_cons,
      step?_eq_none_iff.2 ⟨hcloses, rfl⟩]
    simp

/-! ## Plain text -/

/-- Whether a code point of code begins nothing and counts for no bracket. -/
def isPlain (c : Char) : Bool :=
  !isQuote c && c != '/' && c != '[' && c != ']'

/-- A class of code points without marks is plain. -/
theorem isPlain_of_marks {p : Char → Bool}
    (hmarks : ['\x27', '\x22', '\x60', '/', '[', ']'].any p = false)
    {c : Char} (h : p c = true) : isPlain c = true := by
  by_contra hplain
  have hmem : c ∈ ['\x27', '\x22', '\x60', '/', '[', ']'] := by
    simp only [isPlain, isQuote, Bool.and_eq_true, Bool.not_eq_true',
      Bool.or_eq_false_iff, beq_eq_false_iff_ne, bne_iff_ne] at hplain
    simp only [List.mem_cons, List.not_mem_nil, or_false]
    tauto
  exact List.any_eq_false.1 hmarks c hmem h

theorem isPlain_of_isBlank {c : Char} (h : isBlank c = true) :
    isPlain c = true :=
  isPlain_of_marks (by decide) h

theorem isPlain_of_isWordChar {c : Char} (h : isWordChar c = true) :
    isPlain c = true :=
  isPlain_of_marks (by decide) h

theorem step?_of_not_bracket {c : Char} (r : Reading) (hopen : c ≠ '[')
    (hclose : c ≠ ']') :
    r.step? c = some ⟨r.mode.step c, r.depth⟩ := by
  simp [step?, hopen, hclose]

theorem step?_code_of_isPlain {c : Char} (depth : Nat) (h : isPlain c = true) :
    (⟨.code, depth⟩ : Reading).step? c = some ⟨.code, depth⟩ := by
  simp only [isPlain, Bool.and_eq_true, Bool.not_eq_true', bne_iff_ne] at h
  obtain ⟨⟨⟨hquote, hslash⟩, hopen⟩, hclose⟩ := h
  rw [step?_of_not_bracket _ hopen hclose]
  simp [LexMode.step, LexMode.afterCode, hquote, hslash]

theorem run?_code_of_isPlain {t : Text} (depth : Nat)
    (h : ∀ c ∈ t, isPlain c = true) :
    (⟨.code, depth⟩ : Reading).run? t = some ⟨.code, depth⟩ := by
  induction t with
  | nil => rfl
  | cons c t ih =>
      rw [run?_cons, step?_code_of_isPlain depth (h c List.mem_cons_self),
        Option.bind_some, ih fun d hmem => h d (List.mem_cons_of_mem c hmem)]

theorem run?_of_blank {t : Text} (r : Reading) (h : Text.Blank t) :
    r.run? t = some ⟨r.mode.run t, r.depth⟩ := by
  induction t generalizing r with
  | nil => rfl
  | cons c t ih =>
      have hplain := isPlain_of_isBlank h.head
      simp only [isPlain, Bool.and_eq_true, Bool.not_eq_true', bne_iff_ne] at hplain
      rw [run?_cons, step?_of_not_bracket r hplain.1.2 hplain.2,
        Option.bind_some, ih _ h.tail, LexMode.run_cons]

/-! ## Modes that a reading reaches -/

/-- The strings of a mode are opened by a quote. -/
def QuoteOpens : LexMode → Prop
  | .quoted quote | .escaped quote => isQuote quote = true
  | _ => True

theorem QuoteOpens.step {mode : LexMode} (h : QuoteOpens mode) (c : Char) :
    QuoteOpens (mode.step c) := by
  have hafter : QuoteOpens (LexMode.afterCode c) := by
    unfold LexMode.afterCode
    split
    next hquote => exact hquote
    next => split <;> trivial
  cases mode with
  | code => exact hafter
  | slash =>
      simp only [LexMode.step]
      split
      · trivial
      · split
        · trivial
        · exact hafter
  | quoted quote =>
      simp only [LexMode.step]
      split
      · exact h
      · split
        · trivial
        · exact h
  | escaped quote => exact h
  | lineComment | blockComment =>
      simp only [LexMode.step]
      split <;> trivial
  | blockStar =>
      simp only [LexMode.step]
      split
      · trivial
      · split <;> trivial

theorem QuoteOpens.run {mode : LexMode} (h : QuoteOpens mode) (t : Text) :
    QuoteOpens (mode.run t) := by
  induction t generalizing mode with
  | nil => exact h
  | cons c t ih => exact ih (h.step c)

theorem quoteOpens_run (t : Text) : QuoteOpens (LexMode.code.run t) := by
  have hcode : QuoteOpens .code := trivial
  exact hcode.run t

theorem ne_of_isQuote {quote c : Char} (hquote : isQuote quote = true)
    (hc : isQuote c = false) : c ≠ quote := by
  rintro rfl
  rw [hquote] at hc
  contradiction

theorem isQuote_of_isBlank {c : Char} (h : isBlank c = true) :
    isQuote c = false := by
  have hplain := isPlain_of_isBlank h
  simp only [isPlain, Bool.and_eq_true, Bool.not_eq_true'] at hplain
  exact hplain.1.1.1

theorem ne_of_isBlank {c mark : Char} (h : isBlank c = true)
    (hmark : isBlank mark = false) : c ≠ mark := by
  rintro rfl
  rw [h] at hmark
  contradiction

/-- A new line brings a mode back to code if blanks can. -/
theorem run_newline_eq_code {mode : LexMode} {b : Text} (newline : Newline)
    (hopens : QuoteOpens mode) (hb : Text.Blank b)
    (hcode : (mode.run b).isCode = true) : mode.run newline.text = .code := by
  -- only a string or a block comment stays open, and blanks do not close one
  have hstays : ∀ {m : LexMode}, QuoteOpens m → ∀ c, isBlank c = true →
      m.run newline.text ≠ .code → (m.step c).run newline.text ≠ .code := by
    intro m hm c hc
    have hbackslash : c ≠ '\\' := ne_of_isBlank hc (by decide)
    have hstar : c ≠ '*' := ne_of_isBlank hc (by decide)
    have hslash : c ≠ '/' := ne_of_isBlank hc (by decide)
    have hquote := isQuote_of_isBlank hc
    cases m with
    | code | slash =>
        intro h
        cases newline <;> exact (h (by decide)).elim
    | lineComment =>
        intro h
        cases newline <;> exact (h (by decide)).elim
    | quoted quote | escaped quote =>
        intro _
        have hreturn : '\r' ≠ quote := ne_of_isQuote hm (by decide)
        have hfeed : '\n' ≠ quote := ne_of_isQuote hm (by decide)
        have hne : c ≠ quote := ne_of_isQuote hm hquote
        cases newline <;>
          simp [LexMode.step, LexMode.run, Newline.text, hbackslash, hne,
            hreturn, hfeed]
    | blockComment | blockStar =>
        intro _
        cases newline <;>
          simp [LexMode.step, LexMode.run, Newline.text, hstar, hslash]
  by_contra hopen
  induction b generalizing mode with
  | nil =>
      cases mode <;> first
        | contradiction
        | (cases newline <;> exact hopen (by decide))
  | cons c b ih =>
      exact ih (hopens.step c) hb.tail hcode (hstays hopens c hb.head hopen)

/-! ## A comma put in -/

/-- What a comma changes in the mode is forgotten behind a blank or a slash, but
for the slash that a slash or a star waits for. -/
theorem step_comma_step {mode : LexMode} {c : Char} (hopens : QuoteOpens mode)
    (hc : isBlank c = true ∨ c = '/')
    (hmark : c = '/' → mode ≠ .slash ∧ mode ≠ .blockStar) :
    (mode.step ',').step c = mode.step c := by
  have hother : ∀ mark, isBlank mark = false → mark ≠ '/' → c ≠ mark := by
    intro mark hmark hslash
    rcases hc with hblank | rfl
    · exact ne_of_isBlank hblank hmark
    · exact hslash.symm
  have hstar : c ≠ '*' := hother '*' (by decide) (by decide)
  have hbackslash : c ≠ '\\' := hother '\\' (by decide) (by decide)
  have hquote : isQuote c = false := by
    rcases hc with hblank | rfl
    · exact isQuote_of_isBlank hblank
    · decide
  cases mode with
  | code | lineComment | blockComment => rfl
  | slash =>
      have hslash : c ≠ '/' := fun h => (hmark h).1 rfl
      change LexMode.afterCode c = LexMode.step .slash c
      simp [LexMode.step, hslash, hstar]
  | quoted quote =>
      have hcomma : ',' ≠ quote := ne_of_isQuote hopens (by decide)
      simp [LexMode.step, hcomma]
  | escaped quote =>
      have hne : c ≠ quote := ne_of_isQuote hopens hquote
      simp [LexMode.step, hne, hbackslash]
  | blockStar =>
      have hslash : c ≠ '/' := fun h => (hmark h).2 rfl
      simp [LexMode.step, hslash, hstar]

/-- A text that begins so is read alike with the comma and without. -/
theorem run?_comma_cons {r : Reading} {c : Char} (t : Text)
    (hopens : QuoteOpens r.mode) (hc : isBlank c = true ∨ c = '/')
    (hmark : c = '/' → r.mode ≠ .slash ∧ r.mode ≠ .blockStar) :
    r.run? (',' :: c :: t) = r.run? (c :: t) := by
  have hopen : c ≠ '[' := by
    rcases hc with hblank | rfl
    · exact ne_of_isBlank hblank (by decide)
    · decide
  have hclose : c ≠ ']' := by
    rcases hc with hblank | rfl
    · exact ne_of_isBlank hblank (by decide)
    · decide
  rw [run?_cons, step?_of_not_bracket r (by decide) (by decide),
    Option.bind_some, run?_cons, run?_cons, step?_of_not_bracket _ hopen hclose,
    step?_of_not_bracket r hopen hclose, step_comma_step hopens hc hmark]

end Reading

end ModuleScaffold
