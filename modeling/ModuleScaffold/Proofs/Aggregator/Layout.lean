import ModuleScaffold.Proofs.Aggregator.Append

/-!
# What an entry leaves as it was

A new entry adds one word to the list and no line to the text that an import
line could be taken for, and it keeps the newline style.  The brackets of the
list part the text for this: what is looked for is looked for ahead of the list,
in its body and behind it, and only the body has changed.
-/

namespace ModuleScaffold

namespace Text

variable {word : Text}

/-- The comma makes no word and destroys none. -/
theorem countWord_separated (t : Text) (hword : IsWord word) :
    (separated t).countWord word = t.countWord word := by
  rw [separated_eq]
  cases hentry : lastEntryCut? t with
  | none => rfl
  | some cut =>
      obtain ⟨entry, rest⟩ := cut
      have hcut := lastEntryCut?_eq_some hentry
      simp only
      split
      · rfl
      · rw [hcut.append]
        apply countWord_insert entry rest hword (by decide)
        rcases hcut.follows with rfl | ⟨c, tail, rfl, hc⟩ | ⟨⟨tail, rfl⟩, -⟩
        · rfl
        · simpa using isWordChar_of_isBlank hc
        · exact (by decide : isWordChar '/' = false)

theorem countWord_trimRight (t : Text) (hword : IsWord word) :
    t.trimRight.countWord word = t.countWord word := by
  have hsplit := trimRight_append_trailingBlanks t
  have happend := countWord_append_blank (trimRight t) hword (blank_trailingBlanks t)
  rw [hsplit] at happend
  exact happend.symm

theorem exists_separated (t : Text) :
    separated t = t ∨ ∃ s c rest, isBlank c = false ∧
      t = s ++ c :: rest ∧ separated t = s ++ c :: ',' :: rest := by
  rw [separated_eq]
  cases hentry : lastEntryCut? t with
  | none => exact Or.inl rfl
  | some cut =>
      obtain ⟨entry, rest⟩ := cut
      have hcut := lastEntryCut?_eq_some hentry
      obtain ⟨s, c, rfl, hc⟩ := hcut.last
      simp only
      split
      · exact Or.inl rfl
      · exact Or.inr ⟨s, c, rest, hc, by simp [hcut.append], by simp⟩

theorem separated_trimRight_eq_nil_or_concat (t : Text) :
    separated t.trimRight = [] ∨
      ∃ s c, separated t.trimRight = s ++ [c] ∧ isBlank c = false := by
  rcases exists_separated t.trimRight with hself | ⟨s, c, rest, hc, htrim, hcomma⟩
  · rw [hself]
    exact trimRight_eq_nil_or_concat t
  · refine Or.inr ?_
    rcases List.eq_nil_or_concat' rest with rfl | ⟨rest, d, rfl⟩
    · exact ⟨s ++ [c], ',', by simp [hcomma], by decide⟩
    · refine ⟨s ++ c :: ',' :: rest, d, by simp [hcomma], ?_⟩
      rcases trimRight_eq_nil_or_concat t with hnil | ⟨init, e, hconcat, he⟩
      · simp [hnil] at htrim
      · have hends : (s ++ c :: rest) ++ [d] = init ++ [e] := by
          rw [← hconcat, htrim]
          simp
        obtain ⟨-, hde⟩ := List.append_inj' hends rfl
        rw [List.singleton_inj.1 hde]
        exact he

theorem hasCrlf_of_isInfix {s t : Text} (h : s <:+: t)
    (hs : hasCrlf s = true) : hasCrlf t = true :=
  hasCrlf_iff.2 ((hasCrlf_iff.1 hs).trans h)

theorem hasCrlf_separated (t : Text) : hasCrlf (separated t) = hasCrlf t := by
  rcases exists_separated t with hself | ⟨s, c, rest, hc, rfl, hcomma⟩
  · rw [hself]
  · have hreturn : c ≠ '\r' := by
      rintro rfl
      contradiction
    have hfeed : c ≠ '\n' := by
      rintro rfl
      contradiction
    have hrest : hasCrlf (',' :: rest) = hasCrlf rest :=
      hasCrlf_append_cons [] rest (by decide) (by decide)
    rw [hcomma, hasCrlf_append_cons s _ hreturn hfeed, hrest,
      hasCrlf_append_cons s _ hreturn hfeed]

theorem hasLine_of_hasLine_separated {t line : Text} (hcomma : ',' ∉ line)
    (h : (separated t).hasLine line = true) : t.hasLine line = true := by
  rcases exists_separated t with hself | ⟨s, c, rest, hc, rfl, hinsert⟩
  · rwa [hself] at h
  · rw [hinsert] at h
    exact hasLine_of_hasLine_insert hc (by decide) hcomma h

end Text

namespace ImportsList

open Text

/-- The new body has the words of the old one, and the entry once more. -/
theorem countWord_append_body {entry word : Text} (l : ImportsList)
    (hword : IsWord word) (hentry : IsWord entry) :
    (l.append entry).body.countWord word =
      l.body.countWord word + if entry = word then 1 else 0 := by
  rw [append_body, addition, ← List.append_assoc,
    countWord_append_blank_append _ _ hword l.blank_blanksAhead l.blanksAhead_ne_nil,
    countWord_separated _ hword, countWord_trimRight _ hword,
    countWord_append_cons _ _ hword (by decide),
    countWord_eq_zero_of_blank hword l.blank_blanksBehind,
    Nat.add_zero, countWord_isWord hword hentry]

theorem hasWord_append_body {entry word : Text} (l : ImportsList)
    (hword : IsWord word) (hentry : IsWord entry) :
    (l.append entry).body.hasWord word = true ↔
      l.body.hasWord word = true ∨ entry = word := by
  rw [hasWord_eq_decide, hasWord_eq_decide, countWord_append_body l hword hentry,
    decide_eq_true_iff, decide_eq_true_iff, Nat.add_pos_iff_pos_or_pos]
  by_cases heq : entry = word <;> simp [heq]

theorem exists_toText_eq {l : ImportsList} (h : l.Readable) :
    ∃ s rest, ∀ body, ({ l with body } : ImportsList).toText =
      s ++ '[' :: (body ++ ']' :: rest) := by
  obtain ⟨s, rest, hopening, hafter⟩ := h.exists_seams
  exact ⟨l.before ++ s, rest, fun body => by simp [toText, hopening, hafter]⟩

theorem body_infix_toText (l : ImportsList) : l.body <:+: l.toText :=
  ⟨l.before ++ l.opening, l.after, rfl⟩

/-! ## The newline style -/

theorem not_mem_entryIndent (l : ImportsList) : '\n' ∉ l.entryIndent := by
  unfold entryIndent
  split
  · exact not_mem_indentation _
  · intro hmem
    rcases List.mem_append.1 hmem with hmem | hmem
    · exact not_mem_indentation _ hmem
    · exact (by decide : '\n' ∉ "  ".toList) hmem

/-- With line feeds alone, the entry brings no carriage return. -/
theorem hasCrlf_append_body {l : ImportsList} {entry : Text}
    (hentry : IsWord entry) (hnewline : l.toText.newline = .lf)
    (hbody : hasCrlf l.body = false) :
    hasCrlf (l.append entry).body = false := by
  have hpart : ∀ {s : Text}, s <:+: l.body → hasCrlf s = false := by
    intro s hs
    by_contra hcrlf
    rw [hasCrlf_of_isInfix hs (by simpa using hcrlf)] at hbody
    contradiction
  have hfeed : ∀ {s : Text}, '\n' ∉ s → hasCrlf ('\n' :: s) = false := by
    intro s hs
    simpa [hasCrlf] using hasCrlf_eq_false_of_not_mem hs
  have hbehind : hasCrlf l.blanksBehind = false := by
    unfold blanksBehind
    split
    · exact hpart ⟨l.body.trimRight, [], by simp⟩
    · rw [hnewline]
      exact hfeed (not_mem_indentation _)
  have hnew : '\n' ∉ l.entryIndent ++ entry := by
    intro hmem
    rcases List.mem_append.1 hmem with hmem | hmem
    · exact l.not_mem_entryIndent hmem
    · exact hentry.not_mem (by decide) hmem
  have hlead : hasCrlf (l.body.trimRight.separated ++
      '\n' :: (l.entryIndent ++ entry)) = false := by
    rcases separated_trimRight_eq_nil_or_concat l.body with
      hnil | ⟨s, c, hconcat, hc⟩
    · rw [hnil]
      exact hfeed hnew
    · have hs : hasCrlf s = false := by
        by_contra hcrlf
        have hwhole : hasCrlf (s ++ [c]) = true :=
          hasCrlf_of_isInfix (List.prefix_append s [c]).isInfix (by simpa using hcrlf)
        rw [← hconcat, hasCrlf_separated,
          hpart (prefix_trimRight l.body).isInfix] at hwhole
        contradiction
      rw [hconcat, List.append_assoc, List.singleton_append,
        hasCrlf_append_cons s _ (by rintro rfl; contradiction)
          (by rintro rfl; contradiction), hs, hfeed hnew]
      rfl
  have hshape : (l.append entry).body =
      (l.body.trimRight.separated ++ '\n' :: (l.entryIndent ++ entry)) ++
        ',' :: l.blanksBehind := by
    rw [append_body, addition, blanksAhead, hnewline]
    simp [Newline.text]
  rw [hshape, hasCrlf_append_cons _ _ (by decide) (by decide), hlead, hbehind]
  rfl

theorem newline_append {l : ImportsList} {entry : Text} (h : l.Readable)
    (hentry : IsWord entry) :
    (l.append entry).toText.newline = l.toText.newline := by
  apply newline_eq_of_hasCrlf_eq
  obtain ⟨s, rest, htext⟩ := exists_toText_eq h
  cases hcrlf : hasCrlf l.toText with
  | true =>
      have hstyle : l.toText.newline = .crlf := by rw [newline, hcrlf]; rfl
      have hbreak : hasCrlf (l.append entry).body = true := by
        apply hasCrlf_of_isInfix (s := l.toText.newline.text)
        · rw [append_body, addition, blanksAhead]
          exact ⟨l.body.trimRight.separated,
            l.entryIndent ++ (entry ++ ',' :: l.blanksBehind), by simp⟩
        · rw [hstyle]
          rfl
      exact hasCrlf_of_isInfix (body_infix_toText _) hbreak
  | false =>
      have hstyle : l.toText.newline = .lf := by rw [newline, hcrlf]; rfl
      have hold : hasCrlf (s ++ '[' :: (l.body ++ ']' :: rest)) = false := by
        rw [← htext l.body]
        exact hcrlf
      have hnew : (l.append entry).toText =
          s ++ '[' :: ((l.append entry).body ++ ']' :: rest) :=
        htext (l.append entry).body
      rw [hasCrlf_append_cons _ _ (by decide) (by decide),
        hasCrlf_append_cons _ _ (by decide) (by decide), Bool.or_eq_false_iff,
        Bool.or_eq_false_iff] at hold
      rw [hnew, hasCrlf_append_cons _ _ (by decide) (by decide),
        hasCrlf_append_cons _ _ (by decide) (by decide), hold.1, hold.2.2,
        hasCrlf_append_body hentry hstyle hold.2.1]
      rfl

/-! ## The lines -/

variable {raw : Text} {n : ModuleName}

/-- No import line begins, ends or stands in a new entry. -/
theorem hasLine_of_hasLine_append_body {l : ImportsList} {entry : Text}
    (hn : ModuleName.derive raw = .ok n) (hentry : IsWord entry)
    (h : (l.append entry).body.hasLine n.importLine = true) :
    l.body.hasLine n.importLine = true := by
  have hcomma : ',' ∉ n.importLine := ModuleName.not_mem_importLine hn (by decide)
  have hother : ∀ {t : Text}, '\x7b' ∉ t → t.hasLine n.importLine = false :=
    fun ht => hasLine_eq_false_of_not_mem n.brace_mem_importLine ht
  have hbehind : hasLine (',' :: l.blanksBehind) n.importLine = false := by
    apply hother
    rintro (_ | ⟨_, hmem⟩)
    exact l.blank_blanksBehind.not_mem (by decide) hmem
  have hnew : (l.entryIndent ++ entry).hasLine n.importLine = false := by
    apply hother
    intro hmem
    rcases List.mem_append.1 hmem with hmem | hmem
    · exact l.blank_entryIndent.not_mem (by decide) hmem
    · exact hentry.not_mem (by decide) hmem
  have hshape : (l.append entry).body =
      (l.body.trimRight.separated ++
        (l.toText.newline.text ++ (l.entryIndent ++ entry))) ++
        ',' :: l.blanksBehind := by
    rw [append_body, addition, blanksAhead]
    simp
  rw [hshape, hasLine_append_cons _ _ (by decide) hcomma, hbehind,
    Bool.or_false] at h
  have hlead := hasLine_of_hasLine_concat (by decide) hcomma h
  apply hasLine_of_hasLine_trimRight
  apply hasLine_of_hasLine_separated hcomma
  rcases separated_trimRight_eq_nil_or_concat l.body with
    hnil | ⟨s, c, hconcat, hc⟩
  · rw [hnil, List.nil_append,
      hasLine_newline_append _ _ n.importLine_ne_nil, hnew] at hlead
    contradiction
  · rw [hconcat, List.append_assoc, List.singleton_append,
      hasLine_concat_newline_append _ s _ (isLineBreak_of_not_isBlank hc), hnew,
      Bool.or_false] at hlead
    rwa [hconcat]

/-- An import line stands ahead of the list, in its body or behind it. -/
theorem exists_countLine_eq {l : ImportsList} (h : l.Readable)
    (hn : ModuleName.derive raw = .ok n) :
    ∃ outside : Nat, ∀ body : Text, body.hasLine n.importLine = false →
      ({ l with body } : ImportsList).toText.countLine n.importLine = outside := by
  have hopen : '[' ∉ n.importLine := ModuleName.not_mem_importLine hn (by decide)
  have hclose : ']' ∉ n.importLine := ModuleName.not_mem_importLine hn (by decide)
  obtain ⟨s, rest, htext⟩ := exists_toText_eq h
  refine ⟨(s ++ ['[']).countLine n.importLine +
    countLine (']' :: rest) n.importLine, fun body hbody => ?_⟩
  have hinside : countLine ('[' :: (body ++ [']'])) n.importLine = 0 := by
    rw [← hasLine_eq_false_iff]
    by_contra hline
    have hcut := hasLine_of_hasLine_concat (by decide) hclose
      (hasLine_of_hasLine_cons (by decide) hopen (by simpa using hline))
    rw [hcut] at hbody
    contradiction
  rw [htext, countLine_append_cons s _ (by decide) hopen, ← List.cons_append,
    countLine_append_cons _ rest (by decide) hclose, List.cons_append, hinside,
    Nat.zero_add]

/-- An entry adds no import line and takes none away. -/
theorem countLine_append {l : ImportsList} {entry : Text} (h : l.Readable)
    (hn : ModuleName.derive raw = .ok n) (hentry : IsWord entry)
    (hbody : l.body.hasLine n.importLine = false) :
    (l.append entry).toText.countLine n.importLine =
      l.toText.countLine n.importLine := by
  obtain ⟨outside, houtside⟩ := exists_countLine_eq h hn
  have hnew : (l.append entry).body.hasLine n.importLine = false := by
    by_contra hline
    rw [hasLine_of_hasLine_append_body hn hentry (by simpa using hline)] at hbody
    contradiction
  exact (houtside _ hnew).trans (houtside _ hbody).symm

theorem hasLine_append {l : ImportsList} {entry : Text} (h : l.Readable)
    (hn : ModuleName.derive raw = .ok n) (hentry : IsWord entry)
    (hbody : l.body.hasLine n.importLine = false) :
    (l.append entry).toText.hasLine n.importLine =
      l.toText.hasLine n.importLine := by
  rw [hasLine_eq_decide, hasLine_eq_decide, countLine_append h hn hentry hbody]

end ImportsList

end ModuleScaffold
