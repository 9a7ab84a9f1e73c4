import ModuleScaffold.Proofs.Aggregator.TornComment

/-!
# Registering twice

The second registration of a module reads what the first one wrote.  The import
line is there, so everything depends on the list: it has to be found again, with
the class in it.  It is, unless the comma ahead of the class tore a comment open;
then the comment has to end again, and the list to close, behind the class.
-/

namespace ModuleScaffold

open Text ImportsList

variable {raw : Text} {n : ModuleName}

/-- A second registration of the module leaves the text as it is and reports
what it finds. -/
def RegistersOnce (n : ModuleName) (t : Text) : Prop :=
  (register n (register n t).content).content = (register n t).content ∧
    (register n (register n t).content).outcome =
      if (register n t).outcome = .listNotFound then .listNotFound
      else .alreadyPresent

instance (n : ModuleName) (t : Text) : Decidable (RegistersOnce n t) :=
  inferInstanceAs (Decidable (_ ∧ _))

/-- The torn comment ends, and the list closes, behind the new entry. -/
def ImportsList.ClosesBehind (l : ImportsList) (entry : Text) (depth : Nat)
    (rest : Text) : Prop :=
  ∃ body after, splitClosing? .blockComment depth (l.behindComma entry rest) =
    some (rest ++ l.addition entry ++ body, after)

theorem registersOnce_of_find?_none (hn : ModuleName.derive raw = .ok n)
    {t : Text} (h : find? t = none) : RegistersOnce n t := by
  obtain ⟨hcontent, houtcome⟩ := register_of_find?_none hn h
  have hagain : find? (register n t).content = none := by
    rw [hcontent, find?_withImport hn, h, Option.map_none]
  obtain ⟨hcontent', houtcome'⟩ := register_of_find?_none hn hagain
  refine ⟨?_, by rw [houtcome', houtcome, if_pos rfl]⟩
  rw [hcontent', withImport_of_hasLine (hasLine_register hn t)]

/-- Where there is a list, the second registration has to find one that holds
the class. -/
theorem registersOnce_iff_of_find?_some (hn : ModuleName.derive raw = .ok n)
    {t : Text} {l : ImportsList} (h : find? t = some l) :
    RegistersOnce n t ↔ ∃ l', find? (register n t).content = some l' ∧
      l'.body.hasWord n.moduleClass = true := by
  have hfound : (register n t).outcome ≠ .listNotFound := by
    rw [(register_of_find?_some hn h).2]
    split <;> simp
  have hline := hasLine_register hn t
  rw [RegistersOnce, if_neg hfound]
  cases hagain : find? (register n t).content with
  | none =>
      have houtcome := (register_of_find?_none hn hagain).2
      simp [houtcome]
  | some l' =>
      obtain ⟨hcontent, houtcome⟩ := register_of_find?_some hn hagain
      rw [hcontent, houtcome]
      cases hword : l'.body.hasWord n.moduleClass with
      | false => simp [hword]
      | true =>
          have hsame : (l'.registered n).toText = (register n t).content := by
            rw [registered, if_pos hword, toText_imported, toText_of_find? hagain,
              withImport_of_hasLine hline]
          simp [hline, hword, hsame]

namespace ImportsList

theorem bracket_not_mem_addition {l : ImportsList} {entry : Text}
    (hentry : IsWord entry) : ']' ∉ l.addition entry := by
  simp only [addition, List.mem_append, List.mem_cons, not_or]
  exact ⟨l.blank_blanksAhead.not_mem (by decide), hentry.not_mem (by decide),
    by decide, l.blank_blanksBehind.not_mem (by decide)⟩

/-- What is found behind the comma ends ahead of the new entry or behind it. -/
theorem behindComma_cases {l : ImportsList} {entry rest body after : Text}
    (hentry : IsWord entry)
    (h : splitClosing? .blockComment depth (l.behindComma entry rest) =
      some (body, after)) :
    (∃ s, rest = body ++ ']' :: s) ∨
      ∃ s, body = rest ++ l.addition entry ++ s := by
  have hbracket := bracket_not_mem_addition (l := l) hentry
  have hclosing : splitClosing? (⟨.blockComment, depth⟩ : Reading).mode
      (⟨.blockComment, depth⟩ : Reading).depth (l.behindComma entry rest) =
        some (body, after) := h
  obtain ⟨hsplit, hhead, -⟩ := Reading.splitClosing?_eq_some_iff.1 hclosing
  obtain ⟨tail, rfl⟩ := List.head?_eq_some_iff.1 hhead
  rw [behindComma, List.append_assoc] at hsplit
  rcases List.append_eq_append_iff.1 hsplit with
    ⟨s, rfl, hadded⟩ | ⟨s, rfl, hafter⟩
  · rcases List.append_eq_append_iff.1 hadded with
      ⟨s, rfl, -⟩ | ⟨_ | ⟨c, s'⟩, hcut, hafter⟩
    · exact Or.inr ⟨s, by simp⟩
    · rw [List.append_nil] at hcut
      exact Or.inr ⟨[], by simp [hcut]⟩
    · obtain ⟨rfl, -⟩ := List.cons.inj hafter
      exact (hbracket (by simp [hcut])).elim
  · cases s with
    | cons c s =>
        obtain ⟨rfl, -⟩ := List.cons.inj hafter
        exact Or.inl ⟨s, rfl⟩
    | nil =>
        -- what is added begins with a blank
        obtain ⟨c, blanks, hblanks⟩ := List.exists_cons_of_ne_nil l.blanksAhead_ne_nil
        have hadded : l.addition entry =
            c :: (blanks ++ (entry ++ ',' :: l.blanksBehind)) := by
          rw [addition, hblanks, List.cons_append]
        rw [hadded] at hafter hbracket
        obtain ⟨rfl, -⟩ := List.cons.inj hafter
        exact (hbracket List.mem_cons_self).elim

/-- A torn list is found with its new entry exactly when it closes behind
it. -/
theorem exists_find?_append_torn_iff {l : ImportsList} {depth : Nat}
    {entry rest : Text} (h : l.Readable) (htears : l.TearsComment depth rest)
    (hentry : IsWord entry) (hnew : l.body.hasWord entry = false) :
    (∃ l', find? (l.append entry).toText = some l' ∧
      l'.body.hasWord entry = true) ↔ l.ClosesBehind entry depth rest := by
  obtain ⟨s, hbody, -, hfind⟩ := h.find?_append_torn htears entry
  have hword : ∀ body : Text, (s ++ '*' :: ',' :: body).hasWord entry =
      (s.hasWord entry || body.hasWord entry) := by
    intro body
    rw [hasWord_append_cons s _ hentry (by decide), hasWord_cons _ hentry (by decide)]
  rw [hbody, hasWord_append_cons _ _ hentry (by decide), Bool.or_eq_false_iff,
    hasWord_append_blank _ hentry (blank_trailingBlanks l.body)] at hnew
  rw [hfind, ClosesBehind]
  constructor
  · rintro ⟨l', hmap, hholds⟩
    obtain ⟨⟨body, after⟩, hclosing, rfl⟩ := Option.map_eq_some_iff.1 hmap
    rw [hword, hnew.1, Bool.false_or] at hholds
    rcases behindComma_cases hentry hclosing with ⟨tail, rfl⟩ | ⟨tail, rfl⟩
    · rw [hasWord_append_cons _ _ hentry (by decide), hholds] at hnew
      simp at hnew
    · exact ⟨tail, after, hclosing⟩
  · rintro ⟨body, after, hclosing⟩
    refine ⟨_, by rw [hclosing, Option.map_some], ?_⟩
    have hadded : (rest ++ l.addition entry ++ body) =
        (rest ++ l.blanksAhead ++ entry) ++ ',' :: (l.blanksBehind ++ body) := by
      simp [addition]
    rw [hword, hadded, hasWord_append_cons _ _ hentry (by decide),
      hasWord_append_blank_append _ _ hentry l.blank_blanksAhead
        l.blanksAhead_ne_nil, (hasWord_isWord_iff hentry hentry).2 rfl]
    simp

theorem exists_find?_registered_hasWord_iff (hn : ModuleName.derive raw = .ok n)
    {l : ImportsList} (h : l.Readable) :
    (∃ l', find? (l.registered n).toText = some l' ∧
      l'.body.hasWord n.moduleClass = true) ↔
      (l.body.hasWord n.moduleClass = false →
        ∀ depth rest, l.TearsComment depth rest →
          l.ClosesBehind n.moduleClass depth rest) := by
  have hclass := ModuleName.isWord_moduleClass hn
  have hplain : ((l.imported n).append n.moduleClass).body.hasWord
      n.moduleClass = true :=
    (hasWord_append_body _ hclass hclass).2 (Or.inr rfl)
  have htorn : l.body.hasWord n.moduleClass = false → ∀ depth rest,
      l.TearsComment depth rest →
      ((∃ l', find? ((l.imported n).append n.moduleClass).toText = some l' ∧
        l'.body.hasWord n.moduleClass = true) ↔
        l.ClosesBehind n.moduleClass depth rest) := by
    intro hnew depth rest htears
    rw [exists_find?_append_torn_iff (h.imported hn)
      (tearsComment_imported_iff.2 htears) hclass (by rwa [body_imported]),
      ClosesBehind, behindComma_imported hn, addition_imported hn, ← ClosesBehind]
  rw [h.exists_find?_registered_iff hn fun body =>
    body.hasWord n.moduleClass = true]
  constructor
  · rintro ⟨-, -, hcases⟩ hnew depth rest htears
    exact (htorn hnew depth rest htears).1 (hcases hnew depth rest htears)
  · intro hcases
    refine ⟨fun hword => hword, fun _ _ => hplain, fun hnew depth rest htears => ?_⟩
    exact (htorn hnew depth rest htears).2 (hcases hnew depth rest htears)

end ImportsList

/-- A second registration changes the text exactly if the first one tears a
comment open that does not end, with the list, behind the class. -/
theorem registersOnce_iff (hn : ModuleName.derive raw = .ok n) (t : Text) :
    RegistersOnce n t ↔
      ∀ l depth rest, find? t = some l → l.body.hasWord n.moduleClass = false →
        l.TearsComment depth rest → l.ClosesBehind n.moduleClass depth rest := by
  cases hfind : find? t with
  | none =>
      refine iff_of_true (registersOnce_of_find?_none hn hfind) ?_
      intro l _ _ h
      contradiction
  | some l =>
      rw [registersOnce_iff_of_find?_some hn hfind,
        (register_of_find?_some hn hfind).1,
        exists_find?_registered_hasWord_iff hn (.of_find? hfind)]
      constructor
      · intro h l' depth rest hl' hnew htears
        obtain rfl := Option.some.inj hl'
        exact h hnew depth rest htears
      · intro h hnew depth rest htears
        exact h l depth rest rfl hnew htears

/-- A later comment ends the one that was torn open. -/
theorem registersOnce_of_later_comment :
    RegistersOnce (.ofPascal "X") "imports: [A /* x *// 2\n], b: [/* y */]" := by
  have hn : ModuleName.derive "x" = .ok (.ofPascal "X") := by rfl
  apply (registersOnce_iff hn _).2
  intro l depth rest hfind _ htears
  have hlist : find? "imports: [A /* x *// 2\n], b: [/* y */]" =
      some ⟨"", "imports: [", "A /* x *// 2\n", "], b: [/* y */]"⟩ := by rfl
  obtain rfl := Option.some.inj (hlist.symm.trans hfind)
  have hcut : TearsComment
      ⟨"", "imports: [", "A /* x *// 2\n", "], b: [/* y */]"⟩ 0 "// 2" :=
    ⟨"A /* x *", by decide +kernel, by decide +kernel, by decide +kernel⟩
  obtain ⟨rfl, rfl⟩ := hcut.unique htears
  exact ⟨"], b: [/* y */", "]", by decide +kernel⟩

/-- With nothing to end the torn comment, the second registration finds no
list. -/
theorem not_registersOnce_torn :
    ModuleName.derive "x" = .ok (.ofPascal "X") ∧
      ¬ RegistersOnce (.ofPascal "X") "imports: [A /* x *// 2\n]" :=
  ⟨by rfl, by decide +kernel⟩

end ModuleScaffold
