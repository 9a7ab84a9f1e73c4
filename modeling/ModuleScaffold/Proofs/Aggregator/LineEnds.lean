import ModuleScaffold.Proofs.Aggregator.TextOnTop

/-!
# The line ends of a text

A text that ends its lines in one way ends them so behind a registration, and behind a
run of them.  New lines follow the style of the text.  Blanks are cut off behind a code
point that is none, and the comma goes behind such a code point, so no carriage return
is parted from its line feed.  Nor do the two meet where they were apart: what is put
together meets at code points that are neither, or at the beginning of a new line.
-/

namespace ModuleScaffold

namespace Text

variable {s t : Text}

/-- Every line feed follows a carriage return. -/
def FeedsFollowReturns (t : Text) : Prop :=
  ∀ s rest, t = s ++ '\n' :: rest → s.getLast? = some '\r'

theorem feedsFollowReturns_iff_take :
    (∀ i < t.length, t[i]? = some '\n' → (t.take i).getLast? = some '\r') ↔
      t.FeedsFollowReturns := by
  constructor
  · rintro h s rest rfl
    simpa using h s.length (by simp)
  · intro h i hi hfeed
    obtain ⟨_, hget⟩ := List.getElem?_eq_some_iff.1 hfeed
    apply h (t.take i) (t.drop (i + 1))
    rw [← hget, ← List.drop_eq_getElem_cons hi, List.take_append_drop]

instance (t : Text) : Decidable t.FeedsFollowReturns :=
  decidable_of_iff _ feedsFollowReturns_iff_take

theorem feedsFollowReturns_of_not_mem (h : '\n' ∉ t) : t.FeedsFollowReturns := by
  rintro s rest rfl
  simp at h

theorem feedsFollowReturns_crlf : Newline.crlf.text.FeedsFollowReturns := by
  decide

/-- Behind any text, line feeds follow the carriage returns that they followed. -/
theorem FeedsFollowReturns.append (hs : s.FeedsFollowReturns)
    (ht : t.FeedsFollowReturns) : (s ++ t).FeedsFollowReturns := by
  intro a rest hsplit
  rcases List.append_eq_append_iff.1 hsplit with
    ⟨inner, rfl, hright⟩ | ⟨inner, hleft, hright⟩
  · rw [List.getLast?_append, ht inner rest hright]
    rfl
  · cases inner with
    | nil => exact absurd (ht [] rest hright.symm) (by simp)
    | cons c inner =>
        obtain ⟨rfl, -⟩ := List.cons.inj hright
        exact hs a inner hleft

theorem FeedsFollowReturns.of_isPrefix (h : t.FeedsFollowReturns) (hs : s <+: t) :
    s.FeedsFollowReturns := by
  obtain ⟨tail, rfl⟩ := hs
  rintro a rest rfl
  exact h a (rest ++ tail) (by simp)

/-- A code point that is neither parts a text. -/
theorem feedsFollowReturns_append_cons_iff {c : Char} (s t : Text) (hreturn : c ≠ '\r')
    (hfeed : c ≠ '\n') :
    (s ++ c :: t).FeedsFollowReturns ↔ s.FeedsFollowReturns ∧ t.FeedsFollowReturns := by
  constructor
  · intro h
    refine ⟨h.of_isPrefix (List.prefix_append s _), fun a rest ht => ?_⟩
    have hlast := h (s ++ c :: a) rest (by simp [ht])
    rw [List.getLast?_append, List.getLast?_cons] at hlast
    cases ha : a.getLast? with
    | none => simp [ha, hreturn] at hlast
    | some d => simpa [ha] using hlast
  · rintro ⟨hs, ht⟩ a rest hsplit
    have hmark : s ++ c :: t = a ++ ['\n'] ++ rest := by simpa using hsplit
    rcases occurrence_cases (by simpa using hfeed) hmark with
      ⟨ahead, rfl, -⟩ | ⟨inner, rfl, hbehind⟩
    · exact hs a ahead (by simp)
    · rw [List.getLast?_append, List.getLast?_cons, ht inner rest (by simp [hbehind])]
      rfl

theorem FeedsFollowReturns.cons {c : Char} (h : t.FeedsFollowReturns) (hfeed : c ≠ '\n') :
    FeedsFollowReturns (c :: t) :=
  (feedsFollowReturns_of_not_mem (t := [c]) (by simpa using hfeed.symm)).append h

theorem feedsFollowReturns_append_cons_iff_of_not_isBlank {c : Char} (s t : Text)
    (hc : isBlank c = false) :
    (s ++ c :: t).FeedsFollowReturns ↔ s.FeedsFollowReturns ∧ t.FeedsFollowReturns :=
  feedsFollowReturns_append_cons_iff s t (by rintro rfl; contradiction)
    (by rintro rfl; contradiction)

theorem FeedsFollowReturns.separated (h : t.FeedsFollowReturns) :
    (separated t).FeedsFollowReturns := by
  rcases exists_separated t with hself | ⟨s, c, rest, hc, rfl, hcomma⟩
  · rwa [hself]
  · rw [feedsFollowReturns_append_cons_iff_of_not_isBlank s _ hc] at h
    have hrest : FeedsFollowReturns (',' :: rest) := h.2.cons (by decide)
    rw [hcomma, feedsFollowReturns_append_cons_iff_of_not_isBlank s _ hc]
    exact ⟨h.1, hrest⟩

theorem FeedsFollowReturns.trailingBlanks (h : t.FeedsFollowReturns) :
    t.trailingBlanks.FeedsFollowReturns := by
  rcases trimRight_eq_nil_or_concat t with hnil | ⟨s, c, hconcat, hc⟩
  · have hall := trimRight_append_trailingBlanks t
    rw [hnil, List.nil_append] at hall
    rwa [hall]
  · rw [← trimRight_append_trailingBlanks t, hconcat, List.append_assoc,
      List.singleton_append, feedsFollowReturns_append_cons_iff_of_not_isBlank s _ hc] at h
    exact h.2

/-- A text that has lines with a carriage return, and no others, or none of them. -/
def EndsLinesBy (t : Text) : Newline → Prop
  | .lf => hasCrlf t = false
  | .crlf => hasCrlf t = true ∧ t.FeedsFollowReturns

theorem EndsLinesBy.newline_eq {newline : Newline} (h : t.EndsLinesBy newline) :
    t.newline = newline := by
  cases newline with
  | lf => rw [Text.newline, show hasCrlf t = false from h]; rfl
  | crlf => rw [Text.newline, h.1]; rfl

theorem hasCrlf_eq_of_newline_eq (h : s.newline = t.newline) : hasCrlf s = hasCrlf t := by
  cases hs : hasCrlf s <;> cases ht : hasCrlf t <;> simp_all [newline]

/-- An edit keeps the line ends, if it keeps the newline style and takes no carriage
return away from a line feed. -/
theorem EndsLinesBy.of_newline_eq {newline : Newline} (h : t.EndsLinesBy newline)
    (hstyle : s.newline = t.newline)
    (hfeeds : newline = .crlf → t.FeedsFollowReturns → s.FeedsFollowReturns) :
    s.EndsLinesBy newline := by
  have hcrlf := hasCrlf_eq_of_newline_eq hstyle
  cases newline with
  | lf => exact hcrlf.trans h
  | crlf => exact ⟨hcrlf.trans h.1, hfeeds rfl h.2⟩

end Text

open Text

variable {raw : Text} {n : ModuleName} {t : Text} {newline : Newline}

namespace ImportsList

theorem feedsFollowReturns_append_body {l : ImportsList} {entry : Text}
    (hentry : IsWord entry) (hnewline : l.toText.newline = .crlf)
    (hbody : l.body.FeedsFollowReturns) : (l.append entry).body.FeedsFollowReturns := by
  have hstyle : l.toText.newline.text.FeedsFollowReturns :=
    hnewline ▸ feedsFollowReturns_crlf
  have hhead := (hbody.of_isPrefix (prefix_trimRight l.body)).separated
  have hindent := feedsFollowReturns_of_not_mem l.not_mem_entryIndent
  have hword := feedsFollowReturns_of_not_mem (hentry.not_mem (c := '\n') (by decide))
  have hbehind : l.blanksBehind.FeedsFollowReturns := by
    unfold blanksBehind
    split
    · exact hbody.trailingBlanks
    · exact hstyle.append (feedsFollowReturns_of_not_mem (not_mem_indentation _))
  have hshape : (l.append entry).body =
      (l.body.trimRight.separated ++ (l.toText.newline.text ++ l.entryIndent ++ entry)) ++
        ',' :: l.blanksBehind := by
    rw [append_body, addition, blanksAhead]
    simp
  rw [hshape, feedsFollowReturns_append_cons_iff _ _ (by decide) (by decide)]
  exact ⟨hhead.append ((hstyle.append hindent).append hword), hbehind⟩

theorem feedsFollowReturns_append {l : ImportsList} {entry : Text} (h : l.Readable)
    (hentry : IsWord entry) (hnewline : l.toText.newline = .crlf)
    (htext : l.toText.FeedsFollowReturns) :
    (l.append entry).toText.FeedsFollowReturns := by
  obtain ⟨s, rest, hparts⟩ := exists_toText_eq h
  have hcut (body : Text) : (s ++ '[' :: (body ++ ']' :: rest)).FeedsFollowReturns ↔
      s.FeedsFollowReturns ∧ body.FeedsFollowReturns ∧ FeedsFollowReturns rest := by
    rw [feedsFollowReturns_append_cons_iff _ _ (by decide) (by decide),
      feedsFollowReturns_append_cons_iff _ _ (by decide) (by decide)]
  have hold : l.toText = s ++ '[' :: (l.body ++ ']' :: rest) := hparts l.body
  have hnew : (l.append entry).toText = s ++ '[' :: ((l.append entry).body ++ ']' :: rest) :=
    hparts (l.append entry).body
  obtain ⟨hs, hbody, hrest⟩ := (hcut l.body).1 (hold ▸ htext)
  rw [hnew, hcut]
  exact ⟨hs, feedsFollowReturns_append_body hentry hnewline hbody, hrest⟩

end ImportsList

open ImportsList

/-! ## The two insertions -/

theorem endsLinesBy_withImport (hn : ModuleName.derive raw = .ok n)
    (h : t.EndsLinesBy newline) : (withImport n t).EndsLinesBy newline := by
  refine h.of_newline_eq (newline_withImport hn t) fun hcrlf hfeeds => ?_
  have hline : '\n' ∉ n.importLine := by
    intro hmem
    have hbreak := ModuleName.isLineBreak_of_mem_importLine hn '\n' hmem
    contradiction
  have hstyle : t.newline.text.FeedsFollowReturns := by
    rw [h.newline_eq, hcrlf]
    exact feedsFollowReturns_crlf
  unfold withImport
  split
  · exact hfeeds
  · exact ((feedsFollowReturns_of_not_mem hline).append hstyle).append hfeeds

theorem endsLinesBy_withEntry (hn : ModuleName.derive raw = .ok n)
    (h : t.EndsLinesBy newline) : (withEntry n t).EndsLinesBy newline := by
  unfold withEntry
  split
  next => exact h
  next l hfind =>
    split
    next => exact h
    next =>
      have hreadable := Readable.of_find? hfind
      have hentry := ModuleName.isWord_moduleClass hn
      obtain rfl := toText_of_find? hfind
      refine h.of_newline_eq (newline_append hreadable hentry) fun hcrlf hfeeds => ?_
      exact feedsFollowReturns_append hreadable hentry (hcrlf ▸ h.newline_eq) hfeeds

/-! ## Registrations -/

theorem endsLinesBy_register (hn : ModuleName.derive raw = .ok n)
    (h : t.EndsLinesBy newline) : (register n t).content.EndsLinesBy newline := by
  rw [content_register]
  exact endsLinesBy_withEntry hn (endsLinesBy_withImport hn h)

theorem endsLinesBy_registerAll (raws : List Text) (h : t.EndsLinesBy newline) :
    (registerAll raws t).EndsLinesBy newline := by
  induction raws using List.reverseRecOn with
  | nil => exact h
  | append_singleton raws raw ih =>
      rw [registerAll_concat]
      cases hn : ModuleName.derive raw with
      | error e => exact ih
      | ok n => exact endsLinesBy_register hn ih

/-- A registration keeps the way in which a text ends its lines. -/
theorem lineEnds_register (hn : ModuleName.derive raw = .ok n) (t : Text) :
    (['\r', '\n'] <:+: t → t.FeedsFollowReturns →
        (register n t).content.FeedsFollowReturns) ∧
      (¬ ['\r', '\n'] <:+: t → ¬ ['\r', '\n'] <:+: (register n t).content) := by
  simp only [← hasCrlf_iff, Bool.not_eq_true]
  constructor
  · intro hcrlf hfeeds
    have hends : t.EndsLinesBy .crlf := ⟨hcrlf, hfeeds⟩
    exact (endsLinesBy_register hn hends).2
  · intro hcrlf
    have hends : t.EndsLinesBy .lf := hcrlf
    exact endsLinesBy_register hn hends

/-- Carriage returns of their own in the indentation, and blanks that give way to a new
line. -/
theorem lineEnds_register_users :
    let t : Text := "\t\rimports: [\r\n \rA // a\r\n \r]\r\n"
    let t' : Text := "\r imports: [\r A \r ]\n"
    (register (.ofPascal "Users") t).content.FeedsFollowReturns ∧
      ¬ ['\r', '\n'] <:+: (register (.ofPascal "Users") t').content := by
  intro t t'
  have hn : ModuleName.derive "users" = .ok (.ofPascal "Users") := by rfl
  exact ⟨(lineEnds_register hn t).1 (hasCrlf_iff.1 (by decide +kernel)) (by decide +kernel),
    (lineEnds_register hn t').2 fun h => absurd (hasCrlf_iff.2 h) (by decide +kernel)⟩

end ModuleScaffold
