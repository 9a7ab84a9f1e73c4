import ModuleScaffold.Proofs.Text.Blanks

/-!
# Lines of a text that is put together

An edit of a text acts on its lines through two facts.  A code point that ends
no line joins what stands around it: the line that runs across it is the only
one that sees both sides.  A new line cuts: the lines on either side of it are
the lines of the two parts.

With them `countLine` and `hasLine` are followed through an edit.  A line that does
not hold some mark cannot run across that mark, so it stands on one side of it.
-/

namespace ModuleScaffold

namespace Text

@[simp] theorem lines_nil : lines [] = [] := rfl

theorem lines_cons_of_not_isLineBreak {c : Char} (t : Text)
    (hc : isLineBreak c = false) :
    lines (c :: t) = (c :: (lines t).headD []) :: (lines t).tail := by
  have hreturn : c ≠ '\r' := by
    rintro rfl
    contradiction
  rw [lines]
  · cases lines t <;> simp [hc]
  · intro rest hcons _
    exact hreturn hcons

theorem lines_newline_append (newline : Newline) (t : Text) :
    lines (newline.text ++ t) = [] :: lines t := by
  cases newline <;> rfl

/-- Of the lines around a code point that ends no line, those that are complete
ahead of it do not depend on what follows. -/
theorem lines_append_cons {c : Char} (s : Text) (hc : isLineBreak c = false) :
    ∃ closed start, closed <+: lines s ∧ ∀ t,
      lines (s ++ c :: t) =
        closed ++ (start ++ c :: (lines t).headD []) :: (lines t).tail := by
  fun_induction lines s with
  | case1 =>
      exact ⟨[], [], List.nil_prefix, fun t => lines_cons_of_not_isLineBreak t hc⟩
  | case2 rest ih =>
      obtain ⟨closed, start, hclosed, hlines⟩ := ih
      refine ⟨[] :: closed, start, (List.prefix_cons_inj _).2 hclosed, fun t => ?_⟩
      rw [List.cons_append, List.cons_append, lines, hlines t]
      rfl
  | case3 d rest hreturn hd ih =>
      obtain ⟨closed, start, hclosed, hlines⟩ := ih
      refine ⟨[] :: closed, start, (List.prefix_cons_inj _).2 hclosed, fun t => ?_⟩
      rw [List.cons_append, lines, if_pos hd, hlines t]
      · rfl
      · rintro following rfl hrest
        cases rest with
        | nil =>
            obtain ⟨rfl, -⟩ := List.cons.inj hrest
            contradiction
        | cons e rest =>
            obtain ⟨rfl, -⟩ := List.cons.inj hrest
            exact hreturn rest rfl rfl
  | case4 d rest hreturn hd hnil ih =>
      obtain ⟨closed, start, hclosed, hlines⟩ := ih
      rw [hnil, List.prefix_nil] at hclosed
      subst hclosed
      refine ⟨[], d :: start, List.nil_prefix, fun t => ?_⟩
      rw [List.cons_append,
        lines_cons_of_not_isLineBreak _ (by simpa using hd), hlines t]
      rfl
  | case5 d rest hreturn hd line others hcons ih =>
      obtain ⟨closed, start, hclosed, hlines⟩ := ih
      have hstep : ∀ t, lines (d :: rest ++ c :: t) =
          (d :: (lines (rest ++ c :: t)).headD []) ::
            (lines (rest ++ c :: t)).tail :=
        fun t => lines_cons_of_not_isLineBreak _ (by simpa using hd)
      cases closed with
      | nil =>
          refine ⟨[], d :: start, List.nil_prefix, fun t => ?_⟩
          rw [hstep, hlines t]
          rfl
      | cons first closed =>
          rw [hcons, List.cons_prefix_cons] at hclosed
          obtain ⟨rfl, hclosed⟩ := hclosed
          refine ⟨(d :: first) :: closed, start,
            (List.prefix_cons_inj _).2 hclosed, fun t => ?_⟩
          rw [hstep, hlines t]
          rfl

theorem lines_concat_newline_append {c : Char} (newline : Newline) (s t : Text)
    (hc : isLineBreak c = false) :
    lines (s ++ c :: (newline.text ++ t)) = lines (s ++ [c]) ++ lines t := by
  obtain ⟨closed, start, -, hlines⟩ := lines_append_cons s hc
  rw [hlines, hlines, lines_newline_append]
  simp

theorem headD_lines_isPrefix (t : Text) : (lines t).headD [] <+: t := by
  fun_induction lines t with
  | case1 | case2 | case3 => exact List.nil_prefix
  | case4 c rest => exact ⟨rest, rfl⟩
  | case5 c rest hreturn hc line others hcons ih =>
      rw [hcons] at ih
      exact (List.prefix_cons_inj c).2 ih

theorem infix_of_mem_lines {line t : Text} (h : line ∈ lines t) :
    line <:+: t := by
  fun_induction lines t with
  | case1 => contradiction
  | case2 rest ih =>
      rcases List.mem_cons.1 h with rfl | hrest
      · exact List.nil_infix
      · exact (ih hrest).trans ⟨['\r', '\n'], [], by simp⟩
  | case3 c rest hreturn hc ih =>
      rcases List.mem_cons.1 h with rfl | hrest
      · exact List.nil_infix
      · exact List.infix_cons (ih hrest)
  | case4 c rest hreturn hc hnil ih =>
      rw [List.mem_singleton] at h
      subst h
      exact ⟨[], rest, rfl⟩
  | case5 c rest hreturn hc first others hcons ih =>
      rcases List.mem_cons.1 h with rfl | hothers
      · have hfirst := headD_lines_isPrefix rest
        rw [hcons] at hfirst
        exact ((List.prefix_cons_inj c).2 hfirst).isInfix
      · apply List.infix_cons
        apply ih
        rw [hcons]
        exact List.mem_cons_of_mem first hothers

theorem lines_eq_singleton {t : Text} (hne : t ≠ [])
    (hbreak : ∀ c ∈ t, isLineBreak c = false) : lines t = [t] := by
  induction t with
  | nil => contradiction
  | cons c t ih =>
      rw [lines_cons_of_not_isLineBreak t (hbreak c List.mem_cons_self)]
      by_cases ht : t = []
      · subst ht
        rfl
      · rw [ih ht fun d hmem => hbreak d (List.mem_cons_of_mem c hmem)]
        rfl

theorem lines_append_newline {line : Text} (t : Text)
    (hline : ∀ c ∈ line, isLineBreak c = false) :
    lines (line ++ '\n' :: t) = line :: lines t := by
  rcases List.eq_nil_or_concat' line with rfl | ⟨init, c, rfl⟩
  · exact lines_newline_append .lf t
  · have hcut := lines_concat_newline_append .lf init t (hline c (by simp))
    have hfirst : lines (init ++ [c]) = [init ++ [c]] := lines_eq_singleton (by simp) hline
    rw [hfirst] at hcut
    rw [List.append_assoc]
    exact hcut

/-! ## Whether a line is there, and how often -/

/-- How many lines of the text, blanks at their ends aside, are `line`. -/
def countLine (t line : Text) : Nat :=
  (lines t).countP fun existing => trim existing == line

theorem hasLine_eq_decide (t line : Text) :
    t.hasLine line = decide (0 < t.countLine line) := by
  rw [Bool.eq_iff_iff, decide_eq_true_iff, countLine, List.countP_pos_iff, hasLine,
    List.any_eq_true]

theorem hasLine_eq_false_iff {t line : Text} :
    t.hasLine line = false ↔ t.countLine line = 0 := by
  rw [hasLine_eq_decide, decide_eq_false_iff_not, Nat.pos_iff_ne_zero, not_not]

theorem hasLine_iff {t line : Text} :
    t.hasLine line = true ↔ ∃ existing ∈ lines t, trim existing = line := by
  simp [hasLine]

theorem infix_of_hasLine {t line : Text} (h : t.hasLine line = true) :
    line <:+: t := by
  obtain ⟨existing, hmem, rfl⟩ := hasLine_iff.1 h
  exact (trim_isInfix existing).trans (infix_of_mem_lines hmem)

theorem hasLine_eq_false_of_not_mem {c : Char} {t line : Text} (hline : c ∈ line)
    (ht : c ∉ t) : t.hasLine line = false := by
  by_contra h
  exact ht ((infix_of_hasLine (by simpa using h)).subset hline)

variable {line : Text} {c : Char}

/-- A mark that the line does not hold parts the places where the line can
stand. -/
theorem countLine_append_cons (s t : Text) (hblank : isBlank c = false)
    (hc : c ∉ line) :
    (s ++ c :: t).countLine line =
      (s ++ [c]).countLine line + countLine (c :: t) line := by
  have hbreak := isLineBreak_of_not_isBlank hblank
  obtain ⟨closed, start, -, hlines⟩ := lines_append_cons s hbreak
  have hacross : ∀ a b : Text, (trim (a ++ c :: b) == line) = false := by
    intro a b
    rw [beq_eq_false_iff_ne]
    rintro rfl
    exact hc (mem_trim (by simp) hblank)
  have hfirst : ∀ b : Text, (trim (c :: b) == line) = false := hacross []
  simp only [countLine, hlines, lines_cons_of_not_isLineBreak _ hbreak,
    List.countP_append, List.countP_cons, hacross, hfirst]
  simp

theorem hasLine_append_cons (s t : Text) (hblank : isBlank c = false)
    (hc : c ∉ line) :
    (s ++ c :: t).hasLine line =
      ((s ++ [c]).hasLine line || hasLine (c :: t) line) := by
  simp only [hasLine_eq_decide, countLine_append_cons s t hblank hc,
    Nat.add_pos_iff_pos_or_pos, Bool.decide_or]

theorem hasLine_of_hasLine_cons {t : Text} (hblank : isBlank c = false)
    (hc : c ∉ line) (h : hasLine (c :: t) line = true) :
    t.hasLine line = true := by
  obtain ⟨existing, hmem, htrim⟩ := hasLine_iff.1 h
  rw [lines_cons_of_not_isLineBreak t (isLineBreak_of_not_isBlank hblank)] at hmem
  rcases List.mem_cons.1 hmem with rfl | htail
  · rw [← htrim] at hc
    exact (hc (mem_trim List.mem_cons_self hblank)).elim
  · exact hasLine_iff.2 ⟨existing, List.mem_of_mem_tail htail, htrim⟩

theorem hasLine_of_hasLine_concat {t : Text} (hblank : isBlank c = false)
    (hc : c ∉ line) (h : (t ++ [c]).hasLine line = true) :
    t.hasLine line = true := by
  obtain ⟨closed, start, hclosed, hlines⟩ :=
    lines_append_cons t (isLineBreak_of_not_isBlank hblank)
  obtain ⟨existing, hmem, htrim⟩ := hasLine_iff.1 h
  rw [hlines, List.mem_append] at hmem
  rcases hmem with hmem | hmem
  · exact hasLine_iff.2 ⟨existing, hclosed.subset hmem, htrim⟩
  · simp only [lines_nil, List.headD_nil, List.tail_nil, List.mem_singleton] at hmem
    subst hmem
    rw [← htrim] at hc
    exact (hc (mem_trim (by simp) hblank)).elim

/-- A mark put behind a code point that is not blank makes no line. -/
theorem hasLine_of_hasLine_insert {d : Char} {s t : Text}
    (hd : isBlank d = false) (hblank : isBlank c = false) (hc : c ∉ line)
    (h : (s ++ d :: c :: t).hasLine line = true) :
    (s ++ d :: t).hasLine line = true := by
  obtain ⟨closed, start, -, hlines⟩ :=
    lines_append_cons s (isLineBreak_of_not_isBlank hd)
  obtain ⟨existing, hmem, htrim⟩ := hasLine_iff.1 h
  refine hasLine_iff.2 ⟨existing, ?_, htrim⟩
  rw [hlines,
    lines_cons_of_not_isLineBreak t (isLineBreak_of_not_isBlank hblank)] at hmem
  rw [hlines]
  rcases List.mem_append.1 hmem with hmem | hmem
  · exact List.mem_append_left _ hmem
  · apply List.mem_append_right
    rcases List.mem_cons.1 hmem with rfl | htail
    · rw [← htrim] at hc
      exact (hc (mem_trim (by simp) hblank)).elim
    · exact List.mem_cons_of_mem _ htail

theorem hasLine_of_hasLine_trimRight {t : Text}
    (h : (trimRight t).hasLine line = true) : t.hasLine line = true := by
  rcases trimRight_eq_nil_or_concat t with hnil | ⟨s, d, hconcat, hd⟩
  · rw [hnil] at h
    contradiction
  · obtain ⟨closed, start, -, hlines⟩ :=
      lines_append_cons s (isLineBreak_of_not_isBlank hd)
    rw [← trimRight_append_trailingBlanks t, hconcat, List.append_assoc]
    rw [hconcat] at h
    obtain ⟨existing, hmem, htrim⟩ := hasLine_iff.1 h
    rw [hlines, List.mem_append] at hmem
    rcases hmem with hmem | hmem
    · refine hasLine_iff.2 ⟨existing, ?_, htrim⟩
      rw [List.singleton_append, hlines]
      exact List.mem_append_left _ hmem
    · simp only [lines_nil, List.headD_nil, List.tail_nil, List.mem_singleton] at hmem
      subst hmem
      refine hasLine_iff.2
        ⟨start ++ d :: (lines (trailingBlanks t)).headD [], ?_, ?_⟩
      · rw [List.singleton_append, hlines]
        exact List.mem_append_right _ List.mem_cons_self
      · have hblank : Blank ((lines (trailingBlanks t)).headD []) := fun e hmem =>
          blank_trailingBlanks t e ((headD_lines_isPrefix _).subset hmem)
        rw [← htrim, ← trim_append_of_blank (start ++ [d]) hblank]
        simp

theorem hasLine_newline_append (newline : Newline) (t : Text) (hne : line ≠ []) :
    (newline.text ++ t).hasLine line = t.hasLine line := by
  rw [hasLine, lines_newline_append, List.any_cons]
  have hempty : (trim [] == line) = false := by
    rw [beq_eq_false_iff_ne]
    exact fun h => hne h.symm
  rw [hempty, Bool.false_or, hasLine]

theorem countLine_concat_newline_append {d : Char} (newline : Newline)
    (s t : Text) (hd : isLineBreak d = false) :
    (s ++ d :: (newline.text ++ t)).countLine line =
      (s ++ [d]).countLine line + t.countLine line := by
  simp only [countLine, lines_concat_newline_append newline s t hd,
    List.countP_append]

theorem hasLine_concat_newline_append {d : Char} (newline : Newline)
    (s t : Text) (hd : isLineBreak d = false) :
    (s ++ d :: (newline.text ++ t)).hasLine line =
      ((s ++ [d]).hasLine line || t.hasLine line) := by
  simp only [hasLine_eq_decide, countLine_concat_newline_append newline s t hd,
    Nat.add_pos_iff_pos_or_pos, Bool.decide_or]

/-! ## The last line -/

theorem blank_newline (newline : Newline) : Blank newline.text := by
  intro c hmem
  have hmarks : c = '\r' ∨ c = '\n' := by
    cases newline <;> simp_all [Newline.text]
  rcases hmarks with rfl | rfl <;> decide

theorem mem_newline (newline : Newline) : '\n' ∈ newline.text := by
  cases newline <;> decide

theorem earlierLines_eq_nil_or_concat (t : Text) :
    earlierLines t = [] ∨ ∃ s, earlierLines t = s ++ ['\n'] := by
  unfold earlierLines
  cases hdrop : t.reverse.dropWhile (· != '\n') with
  | nil => exact Or.inl rfl
  | cons c rest =>
      have hhead := List.head?_dropWhile_not (· != '\n') t.reverse
      rw [hdrop] at hhead
      exact Or.inr ⟨rest.reverse, by simpa using hhead⟩

/-- What stands behind a line feed, or behind nothing, and holds no further one is
the last line. -/
theorem lines_append {ahead line : Text}
    (hahead : ahead = [] ∨ ∃ s, ahead = s ++ ['\n']) (hline : '\n' ∉ line) :
    earlierLines (ahead ++ line) = ahead ∧ lastLine (ahead ++ line) = line := by
  have hall : ∀ c ∈ line.reverse, (c != '\n') = true := by
    intro c hmem
    rw [bne_iff_ne]
    intro heq
    rw [List.mem_reverse, heq] at hmem
    exact hline hmem
  rcases hahead with rfl | ⟨s, rfl⟩
  · simp [earlierLines, lastLine, List.dropWhile_eq_nil_iff.2 hall,
      List.takeWhile_eq_self_iff.2 hall]
  · rw [earlierLines, lastLine, List.reverse_append,
      List.dropWhile_append_of_pos hall, List.takeWhile_append_of_pos hall]
    simp

theorem lines_append_of_not_mem (s : Text) {t : Text} (ht : '\n' ∉ t) :
    earlierLines (s ++ t) = earlierLines s ∧ lastLine (s ++ t) = lastLine s ++ t := by
  have hsplit : s ++ t = earlierLines s ++ (lastLine s ++ t) := by
    rw [← List.append_assoc, earlierLines_append_lastLine]
  have hline : '\n' ∉ lastLine s ++ t := by
    simp [not_mem_lastLine, ht]
  rw [hsplit]
  exact lines_append (earlierLines_eq_nil_or_concat s) hline

theorem lines_append_of_mem (s : Text) {t : Text} (ht : '\n' ∈ t) :
    earlierLines (s ++ t) = s ++ earlierLines t ∧ lastLine (s ++ t) = lastLine t := by
  have hsplit : s ++ t = s ++ earlierLines t ++ lastLine t := by
    rw [List.append_assoc, earlierLines_append_lastLine]
  rw [hsplit]
  refine lines_append (Or.inr ?_) (not_mem_lastLine t)
  rcases earlierLines_eq_nil_or_concat t with hnil | ⟨u, hu⟩
  · have hline := earlierLines_append_lastLine t
    rw [hnil, List.nil_append] at hline
    rw [← hline] at ht
    exact (not_mem_lastLine t ht).elim
  · exact ⟨s ++ u, by rw [hu, List.append_assoc]⟩

theorem lastLine_append_cons (s t : Text) :
    lastLine (s ++ '\n' :: t) = lastLine t := by
  have hreverse : (s ++ '\n' :: t).reverse = t.reverse ++ '\n' :: s.reverse := by
    simp
  rw [lastLine, hreverse, List.takeWhile_append]
  split
  next hall =>
    have hself := (List.takeWhile_prefix (· != '\n')).eq_of_length hall
    rw [lastLine, hself]
    simp
  next => rfl

theorem lastLine_newline_append (newline : Newline) (s t : Text) :
    lastLine (s ++ newline.text ++ t) = lastLine t := by
  cases newline with
  | lf => simpa [Newline.text] using lastLine_append_cons s t
  | crlf => simpa [Newline.text] using lastLine_append_cons (s ++ ['\r']) t

theorem lastLine_eq_self {t : Text} (h : '\n' ∉ t) : lastLine t = t := by
  rw [lastLine, List.takeWhile_eq_self_iff.2, List.reverse_reverse]
  intro c hmem
  rw [List.mem_reverse] at hmem
  rw [bne_iff_ne]
  rintro rfl
  exact h hmem

theorem blank_indentation (t : Text) : Blank (indentation t) :=
  blank_takeWhile (lastLine t)

theorem not_mem_indentation (t : Text) : '\n' ∉ indentation t := fun h =>
  not_mem_lastLine t ((List.takeWhile_prefix isBlank).subset h)

theorem indentation_newline_append (newline : Newline) (s t : Text) :
    indentation (s ++ newline.text ++ t) = indentation t := by
  rw [indentation, lastLine_newline_append, indentation]

/-! ## The newline style -/

/-- A part of a text that does not hold some mark lies on one side of it. -/
theorem infix_append_cons_iff {part s t : Text} {c : Char} (hc : c ∉ part) :
    part <:+: s ++ c :: t ↔ part <:+: s ∨ part <:+: t := by
  constructor
  · rintro ⟨a, b, hsplit⟩
    rcases List.append_eq_append_iff.1 hsplit with
      ⟨rest, hs, -⟩ | ⟨rest, hleft, hright⟩
    · exact Or.inl ⟨a, rest, hs.symm⟩
    · cases rest with
      | nil => exact Or.inl ⟨a, [], by simpa using hleft⟩
      | cons d rest =>
          obtain ⟨rfl, rfl⟩ := List.cons.inj hright
          rcases List.append_eq_append_iff.1 hleft with
            ⟨inner, -, hpart⟩ | ⟨inner, ha, hrest⟩
          · exact (hc (by simp [hpart])).elim
          · cases inner with
            | nil =>
                obtain rfl : c :: rest = part := hrest
                exact (hc List.mem_cons_self).elim
            | cons e inner =>
                obtain ⟨-, rfl⟩ := List.cons.inj hrest
                exact Or.inr ⟨inner, b, rfl⟩
  · rintro (hs | ht)
    · exact hs.trans (List.prefix_append s _).isInfix
    · exact (List.infix_cons ht).trans (List.suffix_append s _).isInfix

theorem hasCrlf_iff {t : Text} : hasCrlf t = true ↔ ['\r', '\n'] <:+: t := by
  fun_induction hasCrlf t with
  | case1 => simp
  | case2 rest => exact iff_of_true rfl ⟨[], rest, rfl⟩
  | case3 c rest hreturn ih =>
      rw [ih, List.infix_cons_iff]
      refine ⟨Or.inr, fun h => h.resolve_left ?_⟩
      rintro ⟨following, hcons⟩
      obtain ⟨rfl, hrest⟩ := List.cons.inj hcons
      exact hreturn following rfl hrest.symm

theorem hasCrlf_append_cons {c : Char} (s t : Text) (hreturn : c ≠ '\r')
    (hfeed : c ≠ '\n') :
    hasCrlf (s ++ c :: t) = (hasCrlf s || hasCrlf t) := by
  rw [Bool.eq_iff_iff, Bool.or_eq_true, hasCrlf_iff, hasCrlf_iff, hasCrlf_iff,
    infix_append_cons_iff]
  simp [hreturn, hfeed]

theorem hasCrlf_eq_false_of_not_mem {t : Text} (h : '\n' ∉ t) :
    hasCrlf t = false := by
  by_contra hcrlf
  exact h ((hasCrlf_iff.1 (by simpa using hcrlf)).subset (by decide))

theorem newline_eq_of_hasCrlf_eq {s t : Text} (h : hasCrlf s = hasCrlf t) :
    s.newline = t.newline := by
  rw [newline, newline, h]

end Text

end ModuleScaffold
