import ModuleScaffold.Proofs.Aggregator.Batch
import ModuleScaffold.Proofs.Aggregator.RegisteredBody

/-!
# What a registration adds

A registration adds text in three places at most: the import line on top, the
entry at the end of the list, and a comma ahead of the entry.  The blanks ahead
of a closing bracket give way to a new line if they hold no line feed.  Nothing
else changes, so no code point is lost that is not blank, in one registration or
in a run of them.

The added text neither completes a line or a word of the old text nor takes one
apart.  The import line and the class are therefore there once where they were
missing, and whatever was there is there as often as before.
-/

namespace ModuleScaffold

namespace Text

/-- One comma more at most, right behind a code point that is no blank. -/
inductive CommaInserted : Text → Text → Prop where
  | same (t : Text) : CommaInserted t t
  | behind (s : Text) (c : Char) (rest : Text) (hc : isBlank c = false) :
      CommaInserted (s ++ c :: rest) (s ++ c :: ',' :: rest)

theorem commaInserted_separated (t : Text) : CommaInserted t (separated t) := by
  rcases exists_separated t with hself | ⟨s, c, rest, hc, hsplit, hcomma⟩
  · rw [hself]
    exact .same t
  · rw [hcomma, hsplit]
    exact .behind s c rest hc

theorem CommaInserted.sublist {s t : Text} (h : CommaInserted s t) :
    s.Sublist t := by
  cases h with
  | same => exact List.Sublist.refl s
  | behind s c rest hc =>
      exact ((List.sublist_cons_self ',' rest).cons_cons c).append_left s

/-- The text without its blanks. -/
def unblanked (t : Text) : Text :=
  t.filter fun c => !isBlank c

theorem unblanked_append (s t : Text) :
    (s ++ t).unblanked = s.unblanked ++ t.unblanked :=
  List.filter_append ..

theorem unblanked_of_blank {t : Text} (h : Blank t) : t.unblanked = [] := by
  rw [unblanked, List.filter_eq_nil_iff]
  intro c hmem
  simp [h c hmem]

theorem unblanked_trimRight (t : Text) : t.trimRight.unblanked = t.unblanked := by
  have hsplit := congrArg unblanked (trimRight_append_trailingBlanks t)
  rw [unblanked_append, unblanked_of_blank (blank_trailingBlanks t),
    List.append_nil] at hsplit
  exact hsplit

theorem unblanked_sublist_unblanked {s t : Text}
    (h : s.unblanked.Sublist t) : s.unblanked.Sublist t.unblanked := by
  have hkept := h.filter fun c => !isBlank c
  simpa only [unblanked, List.filter_filter, Bool.and_self] using hkept

end Text

open Text

variable {raw : Text} {n : ModuleName}

namespace ImportsList

/-- The body of a list with an entry behind its last code point that is no
blank.  A comma may part the two.  The entry stands on a new line, and the
blanks behind it are those of the body if they hold a line feed, and a new line
indented as the opening otherwise. -/
def EntryInserted (l : ImportsList) (entry body : Text) : Prop :=
  ∃ head, CommaInserted l.body.trimRight head ∧
    body = head ++ (l.toText.newline.text ++ l.entryIndent ++ entry ++ [',']) ++
      if '\n' ∈ l.body.trailingBlanks then l.body.trailingBlanks
      else l.toText.newline.text ++ l.before.indentation

theorem entryInserted_append (l : ImportsList) (entry : Text) :
    l.EntryInserted entry (l.append entry).body := by
  refine ⟨l.body.trimRight.separated, commaInserted_separated _, ?_⟩
  rw [append_body, addition, blanksAhead, blanksBehind]
  simp

theorem EntryInserted.sublist {l : ImportsList} {entry body : Text}
    (h : l.EntryInserted entry body) : l.body.unblanked.Sublist body := by
  obtain ⟨head, hcomma, rfl⟩ := h
  rw [← unblanked_trimRight, List.append_assoc]
  exact (List.filter_sublist.trans hcomma.sublist).trans
    (List.sublist_append_left _ _)

/-- The body is the old one, or has an entry more. -/
theorem body_registered_cases (hn : ModuleName.derive raw = .ok n)
    (l : ImportsList) :
    (l.registered n).body = l.body ∨
      l.EntryInserted n.moduleClass (l.registered n).body := by
  unfold registered
  split
  next => exact Or.inl (body_imported l n)
  next =>
    rw [body_append_imported hn]
    exact Or.inr (entryInserted_append l n.moduleClass)

theorem unblanked_body_sublist_registered (hn : ModuleName.derive raw = .ok n)
    (l : ImportsList) : l.body.unblanked.Sublist (l.registered n).body := by
  rcases body_registered_cases hn l with hsame | hentry
  · rw [hsame]
    exact List.filter_sublist
  · exact hentry.sublist

end ImportsList

open ImportsList

/-! ## The text on top -/

theorem newImports_singleton (t : Text) (n : ModuleName) :
    newImports t [n] =
      if t.hasLine n.importLine then [] else n.importLine ++ t.newline.text := by
  simpa using newImports_concat t [] n

theorem withImport_eq_append (n : ModuleName) (t : Text) :
    withImport n t = newImports t [n] ++ t := by
  rw [newImports_singleton, withImport]
  split <;> rfl

theorem before_registered_eq_append (n : ModuleName) (l : ImportsList) :
    (l.registered n).before = newImports l.toText [n] ++ l.before := by
  rw [before_registered, newImports_singleton, ImportsList.imported]
  split <;> rfl

theorem toText_registered_eq_append (n : ModuleName) (l : ImportsList) :
    (l.registered n).toText =
      newImports l.toText [n] ++ (l.before ++ l.opening) ++
        (l.registered n).body ++ l.after := by
  rw [toText, before_registered_eq_append, opening_registered, after_registered,
    List.append_assoc (newImports _ _)]

/-! ## What a registration leaves -/

theorem unblanked_sublist_registered (hn : ModuleName.derive raw = .ok n)
    (l : ImportsList) : l.toText.unblanked.Sublist (l.registered n).toText := by
  have hbody := unblanked_body_sublist_registered hn l
  have hbefore : (l.before ++ l.opening).unblanked.Sublist
      (newImports l.toText [n] ++ (l.before ++ l.opening)) :=
    List.filter_sublist.trans (List.sublist_append_right _ _)
  have hafter : l.after.unblanked.Sublist l.after := List.filter_sublist
  rw [toText_registered_eq_append, toText, unblanked_append, unblanked_append]
  exact (hbefore.append hbody).append hafter

/-- No code point is lost that is not blank. -/
theorem unblanked_sublist_register (hn : ModuleName.derive raw = .ok n)
    (t : Text) : t.unblanked.Sublist (register n t).content := by
  cases hfind : find? t with
  | none =>
      rw [(register_of_find?_none hn hfind).1, withImport_eq_append]
      exact List.filter_sublist.trans (List.sublist_append_right _ _)
  | some l =>
      rw [(register_of_find?_some hn hfind).1, ← toText_of_find? hfind]
      exact unblanked_sublist_registered hn l

theorem unblanked_sublist_registerAll (raws : List Text) (t : Text) :
    t.unblanked.Sublist (registerAll raws t) := by
  induction raws using List.reverseRecOn with
  | nil => exact List.filter_sublist
  | append_singleton raws raw ih =>
      rw [registerAll_concat]
      cases hn : ModuleName.derive raw with
      | error e => exact ih
      | ok n =>
          exact (unblanked_sublist_unblanked ih).trans
            (unblanked_sublist_register hn (registerAll raws t))

/-- A registration is made of insertions: a text on top, and an entry in the
list. -/
theorem content_register_eq_insertions (hn : ModuleName.derive raw = .ok n)
    (t : Text) :
    ∃ top, (top = [] ∨ top = n.importLine ++ t.newline.text) ∧
      (find? t = none → (register n t).content = top ++ t) ∧
      (∀ l, find? t = some l →
        ∃ body, (body = l.body ∨ l.EntryInserted n.moduleClass body) ∧
          (register n t).content =
            top ++ t.take l.bodyStart ++ body ++ t.drop l.bodyEnd) ∧
      t.unblanked.Sublist (register n t).content := by
  refine ⟨newImports t [n], ?_, ?_, ?_, unblanked_sublist_register hn t⟩
  · rw [newImports_singleton]
    split
    · exact Or.inl rfl
    · exact Or.inr rfl
  · intro hfind
    rw [(register_of_find?_none hn hfind).1, withImport_eq_append]
  · intro l hfind
    refine ⟨(l.registered n).body, body_registered_cases hn l, ?_⟩
    obtain rfl := toText_of_find? hfind
    rw [(register_of_find?_some hn hfind).1, take_bodyStart, drop_bodyEnd,
      toText_registered_eq_append]

theorem content_register_eq_insertions_users :
    ∃ top body, (top = [] ∨
        top = "import \x7b UsersModule \x7d from './users/users.module';\r\n".toList) ∧
      (body = "\r\n\t\tA // a\r\n\t".toList ∨
        EntryInserted ⟨"\t", "imports: [", "\r\n\t\tA // a\r\n\t", "]"⟩
          "UsersModule" body) ∧
      (register (.ofPascal "Users") "\timports: [\r\n\t\tA // a\r\n\t]").content =
        top ++ "\timports: [".toList ++ body ++ "]".toList := by
  have hn : ModuleName.derive "users" = .ok (.ofPascal "Users") := by rfl
  have hfind : find? "\timports: [\r\n\t\tA // a\r\n\t]" =
      some ⟨"\t", "imports: [", "\r\n\t\tA // a\r\n\t", "]"⟩ := by rfl
  obtain ⟨top, htop, -, hlist, -⟩ := content_register_eq_insertions hn
    "\timports: [\r\n\t\tA // a\r\n\t]"
  obtain ⟨body, hbody, hcontent⟩ := hlist _ hfind
  exact ⟨top, body, htop, hbody, hcontent⟩

/-! ## How often -/

/-- A module is registered once, and no other one more or less often. -/
theorem count_register (hn : ModuleName.derive raw = .ok n) (t : Text) :
    (register n t).content.countLine n.importLine =
        max 1 (t.countLine n.importLine) ∧
      ∀ l, find? t = some l →
        (l.bodyAfter n).countWord n.moduleClass =
            max 1 (l.body.countWord n.moduleClass) ∧
          ∀ raw' n', ModuleName.derive raw' = .ok n' → n' ≠ n →
            (l.bodyAfter n).countWord n'.moduleClass =
              l.body.countWord n'.moduleClass := by
  refine ⟨countLine_register hn t, fun l hfind => ?_⟩
  rw [bodyAfter_eq hn (.of_find? hfind)]
  constructor
  · rw [countWord_registered hn (ModuleName.isWord_moduleClass hn), if_pos rfl]
  · intro raw' n' hn' hne
    have hclass : n.moduleClass ≠ n'.moduleClass := fun heq =>
      hne (ModuleName.eq_of_moduleClass_eq hn hn' heq).symm
    rw [countWord_registered hn (ModuleName.isWord_moduleClass hn'), if_neg hclass]

theorem count_register_users :
    (register (.ofPascal "Users")
        "imports: [UserModule, A /* UserModule */]").content.countLine
          "import \x7b UsersModule \x7d from './users/users.module';" = 1 ∧
      (bodyAfter ⟨"", "imports: [", "UserModule, A /* UserModule */", "]"⟩
        (.ofPascal "Users")).countWord "UsersModule" = 1 ∧
      (bodyAfter ⟨"", "imports: [", "UserModule, A /* UserModule */", "]"⟩
        (.ofPascal "Users")).countWord "UserModule" = 2 := by
  have hn : ModuleName.derive "users" = .ok (.ofPascal "Users") := by rfl
  have hn' : ModuleName.derive "user" = .ok (.ofPascal "User") := by rfl
  have hfind : find? "imports: [UserModule, A /* UserModule */]" =
      some ⟨"", "imports: [", "UserModule, A /* UserModule */", "]"⟩ := by rfl
  obtain ⟨hline, hlist⟩ := count_register hn "imports: [UserModule, A /* UserModule */]"
  obtain ⟨hclass, hother⟩ := hlist _ hfind
  exact ⟨hline.trans (by decide +kernel), hclass.trans (by decide +kernel),
    (hother _ _ hn' (by decide +kernel)).trans (by decide +kernel)⟩

end ModuleScaffold
