import ModuleScaffold.Proofs.Aggregator.Layout

/-!
# A registration, part by part

On a text whose list is found, a registration is an edit of the parts of the
list: the import line joins what stands ahead of it, and the entry joins its
body.  Neither edit changes what the other one reads, so `registered` states
them on the list that was found in the text as it was.

Behind a registration the import line is a line of the text.  This decides what
a second registration does: it reports what it finds, and adds an entry if it
finds none.
-/

namespace ModuleScaffold

open Text

variable {raw : Text} {n : ModuleName}

theorem newline_withImport (hn : ModuleName.derive raw = .ok n) (t : Text) :
    (withImport n t).newline = t.newline := by
  unfold withImport
  split
  · rfl
  · apply newline_eq_of_hasCrlf_eq
    cases hcrlf : hasCrlf t with
    | true => exact hasCrlf_of_isInfix (List.suffix_append _ t).isInfix hcrlf
    | false =>
        obtain ⟨s, hs⟩ := ModuleName.importLine_eq_concat n
        have hline : hasCrlf s = false := by
          apply hasCrlf_eq_false_of_not_mem
          intro hmem
          have hbreak := ModuleName.isLineBreak_of_mem_importLine hn '\n'
            (by rw [hs]; exact List.mem_append_left _ hmem)
          contradiction
        have hstyle : t.newline = .lf := by rw [newline, hcrlf]; rfl
        have hshape : n.importLine ++ t.newline.text ++ t = s ++ ';' :: '\n' :: t := by
          rw [hs, hstyle]
          simp [Newline.text]
        rw [hshape, hasCrlf_append_cons _ _ (by decide) (by decide), hline]
        simpa [hasCrlf] using hcrlf

/-- The import line is there once, or as often as it was. -/
theorem countLine_withImport (hn : ModuleName.derive raw = .ok n) (t : Text) :
    (withImport n t).countLine n.importLine = max 1 (t.countLine n.importLine) := by
  unfold withImport
  split
  next hline =>
    rw [hasLine_eq_decide, decide_eq_true_iff] at hline
    omega
  next hline =>
    have hnone : t.countLine n.importLine = 0 :=
      hasLine_eq_false_iff.1 (by simpa using hline)
    rw [ModuleName.countLine_importLine_append,
      ModuleName.countLine_importLine_self hn, hnone]
    rfl

theorem withImport_of_hasLine {t : Text}
    (h : t.hasLine n.importLine = true) : withImport n t = t := by
  rw [withImport, if_pos h]

namespace ImportsList

/-- The list with the import line of a module ahead of it, unless it is a line
of the text. -/
def imported (l : ImportsList) (n : ModuleName) : ImportsList :=
  if l.toText.hasLine n.importLine then
    l
  else
    { l with before := n.importLine ++ l.toText.newline.text ++ l.before }

/-- The list in which a module is registered. -/
def registered (l : ImportsList) (n : ModuleName) : ImportsList :=
  if l.body.hasWord n.moduleClass then
    l.imported n
  else
    (l.imported n).append n.moduleClass

theorem toText_imported (l : ImportsList) (n : ModuleName) :
    (l.imported n).toText = withImport n l.toText := by
  unfold imported withImport
  split
  · rfl
  · simp [toText]

@[simp] theorem body_imported (l : ImportsList) (n : ModuleName) :
    (l.imported n).body = l.body := by
  unfold imported
  split <;> rfl

@[simp] theorem opening_imported (l : ImportsList) (n : ModuleName) :
    (l.imported n).opening = l.opening := by
  unfold imported
  split <;> rfl

@[simp] theorem after_imported (l : ImportsList) (n : ModuleName) :
    (l.imported n).after = l.after := by
  unfold imported
  split <;> rfl

theorem indentation_imported (l : ImportsList) (n : ModuleName) :
    (l.imported n).before.indentation = l.before.indentation := by
  unfold imported
  split
  · rfl
  · exact indentation_newline_append _ _ _

theorem newline_imported (hn : ModuleName.derive raw = .ok n) (l : ImportsList) :
    (l.imported n).toText.newline = l.toText.newline := by
  rw [toText_imported, newline_withImport hn]

/-- The import line has no part in what is added to the list. -/
theorem addition_imported (hn : ModuleName.derive raw = .ok n) (l : ImportsList)
    (entry : Text) : (l.imported n).addition entry = l.addition entry := by
  simp only [addition, blanksAhead, blanksBehind, entryIndent, body_imported,
    newline_imported hn, indentation_imported]

theorem body_append_imported (hn : ModuleName.derive raw = .ok n) (l : ImportsList)
    (entry : Text) : ((l.imported n).append entry).body = (l.append entry).body := by
  rw [append_body, append_body, addition_imported hn, body_imported]

theorem find?_withImport (hn : ModuleName.derive raw = .ok n) (t : Text) :
    find? (withImport n t) = (find? t).map fun l => l.imported n := by
  have hmap : ∀ f : ImportsList → ImportsList,
      (∀ l, l.toText = t → f l = l.imported n) →
      (find? t).map f = (find? t).map fun l => l.imported n := by
    intro f hf
    cases hfind : find? t with
    | none => rfl
    | some l => rw [Option.map_some, Option.map_some, hf l (toText_of_find? hfind)]
  unfold withImport
  split
  next h =>
    rw [← hmap id, Option.map_id_fun, id]
    intro l hl
    rw [imported, hl, if_pos h, id]
  next h =>
    rw [find?_importLine_append hn]
    apply hmap
    intro l hl
    rw [imported, hl, if_neg h]

theorem Readable.imported (hn : ModuleName.derive raw = .ok n) {l : ImportsList}
    (h : l.Readable) : (l.imported n).Readable := by
  have hfind := find?_withImport hn l.toText
  rw [h.find?, Option.map_some] at hfind
  exact .of_find? hfind

theorem tearsComment_imported_iff {l : ImportsList} {depth : Nat} {rest : Text} :
    (l.imported n).TearsComment depth rest ↔ l.TearsComment depth rest := by
  rw [TearsComment, TearsComment, body_imported]

theorem before_registered (l : ImportsList) (n : ModuleName) :
    (l.registered n).before = (l.imported n).before := by
  unfold registered
  split <;> rfl

@[simp] theorem opening_registered (l : ImportsList) (n : ModuleName) :
    (l.registered n).opening = l.opening := by
  unfold registered
  split
  · exact opening_imported l n
  · exact opening_imported l n

@[simp] theorem after_registered (l : ImportsList) (n : ModuleName) :
    (l.registered n).after = l.after := by
  unfold registered
  split
  · exact after_imported l n
  · exact after_imported l n

/-- A registered list is found where the list was. -/
theorem Readable.registered (hn : ModuleName.derive raw = .ok n)
    {l : ImportsList} (h : l.Readable)
    (hwhole : l.body.hasWord n.moduleClass = false →
      ∀ depth rest, ¬ l.TearsComment depth rest) :
    (l.registered n).Readable := by
  unfold ImportsList.registered
  split
  next => exact h.imported hn
  next hword =>
    apply (h.imported hn).append _ (ModuleName.isWord_moduleClass hn)
    intro depth rest htears
    exact hwhole (by simpa using hword) depth rest
      (tearsComment_imported_iff.1 htears)

/-- The class is there once, or as often as it was, and no other word is there more
or less often. -/
theorem countWord_registered {word : Text} (hn : ModuleName.derive raw = .ok n)
    (hword : IsWord word) (l : ImportsList) :
    (l.registered n).body.countWord word =
      if n.moduleClass = word then max 1 (l.body.countWord word)
      else l.body.countWord word := by
  unfold registered
  split
  next hclass =>
    rw [hasWord_eq_decide, decide_eq_true_iff] at hclass
    rw [body_imported]
    split
    next heq =>
      rw [heq] at hclass
      omega
    next => rfl
  next hclass =>
    have hnone : l.body.countWord n.moduleClass = 0 :=
      hasWord_eq_false_iff.1 (by simpa using hclass)
    rw [countWord_append_body _ hword (ModuleName.isWord_moduleClass hn),
      body_imported]
    split
    next heq => rw [← heq, hnone, Nat.zero_add, Nat.max_eq_left (Nat.zero_le 1)]
    next => rw [Nat.add_zero]

theorem hasWord_registered {word : Text} (hn : ModuleName.derive raw = .ok n)
    (hword : IsWord word) (l : ImportsList) :
    (l.registered n).body.hasWord word = true ↔
      l.body.hasWord word = true ∨ n.moduleClass = word := by
  rw [hasWord_eq_decide, hasWord_eq_decide, countWord_registered hn hword,
    decide_eq_true_iff, decide_eq_true_iff]
  split
  next heq => simp [heq]
  next hne => simp [hne]

theorem newline_registered (hn : ModuleName.derive raw = .ok n)
    {l : ImportsList} (h : l.Readable) :
    (l.registered n).toText.newline = l.toText.newline := by
  unfold registered
  split
  next => exact newline_imported hn l
  next =>
    rw [newline_append (h.imported hn) (ModuleName.isWord_moduleClass hn),
      newline_imported hn]

section OtherModules

variable {raw' : Text} {m : ModuleName}

theorem hasLine_body_registered (hn : ModuleName.derive raw = .ok n)
    (hm : ModuleName.derive raw' = .ok m) {l : ImportsList}
    (hbody : l.body.hasLine m.importLine = false) :
    (l.registered n).body.hasLine m.importLine = false := by
  unfold registered
  split
  next => rw [body_imported, hbody]
  next =>
    by_contra h
    have hline := hasLine_of_hasLine_append_body hm
      (ModuleName.isWord_moduleClass hn) (by simpa using h)
    rw [body_imported, hbody] at hline
    contradiction

/-- The import lines are those that were there, and that of the module. -/
theorem hasLine_registered_iff (hn : ModuleName.derive raw = .ok n)
    (hm : ModuleName.derive raw' = .ok m) {l : ImportsList} (h : l.Readable)
    (hbody : l.body.hasLine m.importLine = false) :
    (l.registered n).toText.hasLine m.importLine = true ↔
      l.toText.hasLine m.importLine = true ∨ n = m := by
  have himported : (l.imported n).toText.hasLine m.importLine = true ↔
      l.toText.hasLine m.importLine = true ∨ n = m := by
    have hsame : n.importLine = m.importLine ↔ n = m :=
      ⟨ModuleName.eq_of_importLine_eq hn hm, fun heq => by rw [heq]⟩
    rw [toText_imported, withImport]
    split
    next hpresent =>
      refine ⟨Or.inl, ?_⟩
      rintro (hline | rfl)
      · exact hline
      · exact hpresent
    next =>
      rw [ModuleName.hasLine_importLine_append, Bool.or_eq_true,
        ModuleName.hasLine_importLine hn, hsame, or_comm]
  unfold registered
  split
  next => exact himported
  next =>
    rw [hasLine_append (h.imported hn) hm (ModuleName.isWord_moduleClass hn)
      (by rwa [body_imported]), himported]

end OtherModules

end ImportsList

open ImportsList

/-! ## What a registration returns -/

theorem register_of_find?_none (hn : ModuleName.derive raw = .ok n) {t : Text}
    (h : find? t = none) :
    (register n t).content = withImport n t ∧
      (register n t).outcome = .listNotFound := by
  have himported := find?_withImport hn t
  rw [h, Option.map_none] at himported
  simp only [register, himported, and_self]

theorem register_of_find?_some (hn : ModuleName.derive raw = .ok n) {t : Text}
    {l : ImportsList} (h : find? t = some l) :
    (register n t).content = (l.registered n).toText ∧
      (register n t).outcome =
        if t.hasLine n.importLine ∧ l.body.hasWord n.moduleClass then
          .alreadyPresent
        else .inserted := by
  have himported := find?_withImport hn t
  rw [h, Option.map_some] at himported
  simp only [register, himported, body_imported, registered]
  split
  next hword => simp [hword, toText_imported, toText_of_find? h]
  next hword => simp [hword]

theorem ImportsList.countLine_registered (hn : ModuleName.derive raw = .ok n)
    {l : ImportsList} (h : l.Readable) :
    (l.registered n).toText.countLine n.importLine =
      max 1 (l.toText.countLine n.importLine) := by
  rw [← countLine_withImport hn, ← toText_imported, registered]
  split
  next => rfl
  next hword =>
    -- without the class, no line of the body is the import line
    have hbody : (l.imported n).body.hasLine n.importLine = false := by
      rw [body_imported]
      by_contra hline
      exact hword (ModuleName.hasWord_of_hasLine_importLine hn (by simpa using hline))
    exact countLine_append (h.imported hn) hn (ModuleName.isWord_moduleClass hn) hbody

theorem countLine_register (hn : ModuleName.derive raw = .ok n) (t : Text) :
    (register n t).content.countLine n.importLine =
      max 1 (t.countLine n.importLine) := by
  cases hfind : find? t with
  | none =>
      rw [(register_of_find?_none hn hfind).1]
      exact countLine_withImport hn t
  | some l =>
      rw [(register_of_find?_some hn hfind).1, ← toText_of_find? hfind]
      exact countLine_registered hn (.of_find? hfind)

theorem hasLine_register (hn : ModuleName.derive raw = .ok n) (t : Text) :
    (register n t).content.hasLine n.importLine = true := by
  rw [hasLine_eq_decide, countLine_register hn]
  simp

end ModuleScaffold
