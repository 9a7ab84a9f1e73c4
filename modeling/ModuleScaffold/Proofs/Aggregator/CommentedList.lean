import ModuleScaffold.Proofs.Aggregator.ClosingBracket
import ModuleScaffold.Proofs.Aggregator.TrailingComment

/-!
# A list with a comment behind its last entry

Behind a list that ends in code a block comment may stand without changing what a
search for the list finds.  What a registration makes of the longer list has the
code text that it has without the comment exactly if the comma goes to the same
kind of place.  It does not behind a comma, nor in an empty list: there the
comment is taken for an entry that lacks one.
-/

namespace ModuleScaffold

open LexMode Text

theorem Reading.run?_of_inBlock {mode : LexMode} {t : Text} (depth : Nat)
    (hmode : mode.InBlock) (hend : ¬ "*/".toList <:+: t)
    (hhead : mode = .blockStar → t.head? ≠ some '/') :
    (⟨mode, depth⟩ : Reading).run? t = some ⟨mode.run t, depth⟩ := by
  induction t generalizing mode with
  | nil => rfl
  | cons c t ih =>
      obtain ⟨hnext, htail⟩ := inBlock_step hmode hend (by simpa using hhead)
      have hstep : (⟨mode, depth⟩ : Reading).step? c = some ⟨mode.step c, depth⟩ := by
        rcases hmode with rfl | rfl
        · simp [step?, isCode]
        · simp [step?, isCode]
      rw [run?_cons, hstep, Option.bind_some,
        ih hnext (fun h => hend (List.infix_cons h)) htail, run_cons]

namespace ImportsList

variable {raw : Text} {n : ModuleName} {l : ImportsList} {c : Text}

/-- The list with a block comment behind its last entry. -/
def withComment (l : ImportsList) (c : Text) : ImportsList :=
  { l with body := l.body.trimRight ++ trailingComment c ++ l.body.trailingBlanks }

theorem trimRight_withComment (l : ImportsList) (c : Text) :
    (l.withComment c).body.trimRight = l.body.trimRight ++ trailingComment c := by
  have hparts : ∀ u, l.body.trimRight ++ trailingComment c ++ u =
      (l.body.trimRight ++ (commentMark ++ commentInner c)) ++ '/' :: u := by
    simp [trailingComment_eq]
  have hblank : trimRight l.body.trailingBlanks = [] :=
    trimRight_append_of_blank [] (blank_trailingBlanks l.body)
  rw [withComment, hparts, trimRight_append_cons _ _ (by decide), hblank, ← hparts,
    List.append_nil]

theorem Readable.run?_trimRight (h : l.Readable) :
    Reading.start.run? l.body.trimRight =
      some ⟨code.run l.body.trimRight, 0⟩ := by
  obtain ⟨last, hrun, -, hdepth⟩ := h.closes
  rw [← trimRight_append_trailingBlanks l.body, Reading.run?_append,
    Option.bind_eq_some_iff] at hrun
  obtain ⟨head, hhead, htail⟩ := hrun
  rw [Reading.run?_of_blank head (blank_trailingBlanks l.body),
    Option.some.injEq] at htail
  rw [← htail] at hdepth
  have hmode : head.mode = code.run l.body.trimRight := Reading.mode_of_run? hhead
  obtain ⟨mode, depth⟩ := head
  rw [hhead, ← hmode]
  exact congrArg some (congrArg (Reading.mk mode) hdepth)

theorem Readable.withComment (h : l.Readable) (hc : ¬ "*/".toList <:+: c)
    (hcode : (code.run l.body.trimRight).isCode = true) :
    (l.withComment c).Readable := by
  have hmark : (⟨code.run l.body.trimRight, 0⟩ : Reading).run? commentMark =
      some ⟨.blockComment, 0⟩ := by
    cases hmode : code.run l.body.trimRight with
    | code | slash => rfl
    | quoted | escaped | lineComment | blockComment | blockStar =>
        rw [hmode] at hcode
        contradiction
  have hinner := Reading.run?_of_inBlock 0 (Or.inl rfl) (not_isInfix_commentInner hc)
    (by simp)
  rw [run_commentInner hc] at hinner
  have hends : (⟨.blockStar, 0⟩ : Reading).run? ['/'] = some ⟨.code, 0⟩ := rfl
  have hblanks := Reading.run?_of_blank ⟨.code, 0⟩ (blank_trailingBlanks l.body)
  rw [run_blank (blank_trailingBlanks l.body)] at hblanks
  apply h.withBody
  refine ⟨⟨.code, 0⟩, ?_, rfl, rfl⟩
  rw [trailingComment_eq, List.append_assoc,
    Reading.run?_append_of_some _ h.run?_trimRight, List.append_assoc,
    Reading.run?_append_of_some _ hmark, List.append_assoc,
    Reading.run?_append_of_some _ hinner, Reading.run?_append_of_some _ hends, hblanks]

theorem hasWord_withComment {word : Text} (hword : IsWord word)
    (hc : c.hasWord word = false) :
    (l.withComment c).body.hasWord word = l.body.hasWord word := by
  have hblanks := blank_trailingBlanks l.body
  have hbody : (l.withComment c).body = l.body.trimRight ++
      ' ' :: '/' :: '*' :: ' ' :: (c ++ ' ' :: '*' :: '/' :: l.body.trailingBlanks) := by
    simp [withComment, trailingComment]
  have hsplit := hasWord_append_blank l.body.trimRight hword hblanks
  rw [trimRight_append_trailingBlanks] at hsplit
  rw [hbody, hasWord_append_cons _ _ hword (by decide),
    hasWord_cons _ hword (by decide), hasWord_cons _ hword (by decide),
    hasWord_cons _ hword (by decide), hasWord_append_cons _ _ hword (by decide),
    hasWord_cons _ hword (by decide), hasWord_cons _ hword (by decide), hc,
    hasWord_eq_false_of_blank hword hblanks, hsplit]
  simp

theorem commaTearsNothing_of_not_tearsComment (h : l.Readable)
    (hwhole : ∀ depth rest, ¬ l.TearsComment depth rest) :
    CommaTearsNothing l.body.trimRight := by
  intro a rest hcut hstar hslash
  have hrun := h.run?_trimRight
  rw [(lastEntryCut?_eq_some hcut).append, Reading.run?_append,
    Option.bind_eq_some_iff] at hrun
  obtain ⟨⟨mode, depth⟩, hreading, -⟩ := hrun
  have hmode : mode = code.run a := Reading.mode_of_run? hreading
  rw [hmode, hstar] at hreading
  exact hwhole depth rest ⟨a, hcut, hreading, hslash⟩

end ImportsList

open ImportsList

variable {raw : Text} {n : ModuleName} {c : Text}

/-- A comment behind the last entry does not change the code text of the list in
which a module is registered. -/
def CommentTransparent (n : ModuleName) (c t : Text) : Prop :=
  ∀ l, find? t = some l → (code.run l.body.trimRight).isCode = true →
    l.body.hasWord n.moduleClass = false →
      find? (l.withComment c).toText = some (l.withComment c) ∧
        ((l.withComment c).bodyAfter n).codeText = (l.bodyAfter n).codeText

instance (n : ModuleName) (c t : Text) : Decidable (CommentTransparent n c t) :=
  decidable_of_iff
    ((find? t).all (fun l => (code.run l.body.trimRight).isCode = true →
      l.body.hasWord n.moduleClass = false →
        find? (l.withComment c).toText = some (l.withComment c) ∧
          ((l.withComment c).bodyAfter n).codeText = (l.bodyAfter n).codeText) = true)
    (by simp only [CommentTransparent, Option.all_eq_true, decide_eq_true_eq])

/-- Where the comma tears no comment, a comment behind the last entry is
transparent exactly if the comma goes into code with it and without, or neither,
and likewise into a string. -/
theorem commentTransparent_iff (hn : ModuleName.derive raw = .ok n)
    (hc : ¬ "*/".toList <:+: c) (hclass : c.hasWord n.moduleClass = false) {t : Text}
    (hwhole : ∀ l depth rest, find? t = some l → ¬ l.TearsComment depth rest) :
    CommentTransparent n c t ↔
      ∀ l, find? t = some l → (code.run l.body.trimRight).isCode = true →
        l.body.hasWord n.moduleClass = false →
          (CommaInCode (l.withComment c).body.trimRight ↔
              CommaInCode l.body.trimRight) ∧
            (CommaInString (l.withComment c).body.trimRight ↔
              CommaInString l.body.trimRight) := by
  have hword := ModuleName.isWord_moduleClass hn
  refine forall_congr' fun l => forall_congr' fun hfind => forall_congr' fun hcode =>
    forall_congr' fun hnew => ?_
  have hreadable := Readable.of_find? hfind
  have hcommented := hreadable.withComment hc hcode
  have htears := commaTearsNothing_of_not_tearsComment hreadable fun depth rest =>
    hwhole l depth rest hfind
  have hnew' := (hasWord_withComment (l := l) hword hclass).trans hnew
  have htears' := commaTearsNothing_append hc hcode htears
  have hcode' : (code.run (l.withComment c).body.trimRight).isCode = true := by
    rw [trimRight_withComment, run_append_trailingComment hc hcode]
    rfl
  rw [← trimRight_withComment] at htears'
  rw [bodyAfter_of_new hn hreadable hnew, bodyAfter_of_new hn hcommented hnew',
    codeText_append_body hword htears hcode, codeText_append_body hword htears' hcode',
    List.append_left_inj, List.append_left_inj, trimRight_withComment,
    codeText_separated_comment_iff hc hcode htears]
  exact and_iff_right hcommented.find?

/-- The comma that an entry needs moves behind the comment. -/
theorem commentTransparent_of_entry :
    CommentTransparent (.ofPascal "X") "it's" "imports: ['a', A]" := by
  have hn : ModuleName.derive "x" = .ok (.ofPascal "X") := by rfl
  have hlist : find? "imports: ['a', A]" =
      some ⟨"", "imports: [", "'a', A", "]"⟩ := by rfl
  have hcode : CommaInCode (trimRight "'a', A") := by
    refine ⟨"'a', A", commaBehind_iff.2 ⟨"", ?_, ?_⟩, ?_⟩ <;> decide +kernel
  have hcode' : CommaInCode (trimRight "'a', A /* it's */") := by
    refine ⟨"'a', A /* it's */", commaBehind_iff.2 ⟨"", ?_, ?_⟩, ?_⟩ <;> decide +kernel
  apply (commentTransparent_iff hn (by decide +kernel) (by decide +kernel) _).2
  · intro l hfind _ _
    obtain rfl := Option.some.inj (hlist.symm.trans hfind)
    exact ⟨iff_of_true hcode' hcode, iff_of_false
      (not_commaInString_of_commaInCode hcode') (not_commaInString_of_commaInCode hcode)⟩
  · intro l depth rest hfind htears
    obtain rfl := Option.some.inj (hlist.symm.trans hfind)
    exact absurd htears.isInfix (by decide +kernel)

/-- Behind a comma, and in an empty list, the comment gets a comma of its own; one
that holds two slashes gets the comma that the entry needs. -/
theorem not_commentTransparent :
    ModuleName.derive "x" = .ok (.ofPascal "X") ∧
      ¬ CommentTransparent (.ofPascal "X") "c" "imports: [A,]" ∧
      ¬ CommentTransparent (.ofPascal "X") "c" "imports: []" ∧
      ¬ CommentTransparent (.ofPascal "X") "//" "imports: [A]" :=
  ⟨by rfl, by decide +kernel, by decide +kernel, by decide +kernel⟩

end ModuleScaffold
