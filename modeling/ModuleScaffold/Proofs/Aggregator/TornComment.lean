import ModuleScaffold.Proofs.Aggregator.Registered

/-!
# A comment torn open

When the comma ahead of a new entry tears the end of a block comment apart, the
rest of the list is read in the comment: the entry with it, and what follows the
list as well, up to the next mark that ends a comment.  A search for the list
then ends at a bracket further down, or at none.
-/

namespace ModuleScaffold

namespace ImportsList

open Text

variable {l : ImportsList} {depth : Nat} {rest : Text}

/-- What is read in the comment, once the comma has torn it open. -/
def behindComma (l : ImportsList) (entry rest : Text) : Text :=
  rest ++ l.addition entry ++ l.after

theorem behindComma_imported {raw : Text} {n : ModuleName}
    (hn : ModuleName.derive raw = .ok n) (l : ImportsList) (entry rest : Text) :
    (l.imported n).behindComma entry rest = l.behindComma entry rest := by
  rw [behindComma, behindComma, addition_imported hn, after_imported]

theorem TearsComment.unique {depth' : Nat} {rest' : Text}
    (h : l.TearsComment depth rest) (h' : l.TearsComment depth' rest') :
    depth = depth' ∧ rest = rest' := by
  obtain ⟨entry, hentry, hrun, -⟩ := h
  obtain ⟨entry', hentry', hrun', -⟩ := h'
  rw [hentry, Option.some.injEq, Prod.mk.injEq] at hentry'
  obtain ⟨rfl, rfl⟩ := hentry'
  rw [hrun, Option.some.injEq, Reading.mk.injEq] at hrun'
  exact ⟨hrun'.2, rfl⟩

theorem TearsComment.exists_cut (htears : l.TearsComment depth rest) :
    ∃ s, l.body = s ++ '*' :: (rest ++ l.body.trailingBlanks) ∧
      Reading.start.run? (s ++ ['*']) = some ⟨.blockStar, depth⟩ ∧
      l.body.trimRight.separated = s ++ '*' :: ',' :: rest := by
  obtain ⟨entry, hentry, hrun, -⟩ := htears
  have hlast : entry.getLast? = some '*' :=
    LexMode.getLast?_of_run_eq_blockStar (Reading.mode_of_run? hrun).symm
  obtain ⟨s, rfl⟩ := List.getLast?_eq_some_iff.1 hlast
  have happend := (lastEntryCut?_eq_some hentry).append
  refine ⟨s, ?_, hrun, ?_⟩
  · have hsplit := trimRight_append_trailingBlanks l.body
    rw [happend] at hsplit
    simpa using hsplit.symm
  · rw [separated_eq, hentry]
    simp

/-- A search for the torn list goes on in the comment. -/
theorem Readable.find?_append_torn (h : l.Readable)
    (htears : l.TearsComment depth rest) (entry : Text) :
    ∃ s, l.body = s ++ '*' :: (rest ++ l.body.trailingBlanks) ∧
      LexMode.code.run (s ++ ['*', ',']) = .blockComment ∧
      ImportsList.find? (l.append entry).toText =
        (splitClosing? .blockComment depth (l.behindComma entry rest)).map
          fun (body, after) => { l with body := s ++ '*' :: ',' :: body, after } := by
  obtain ⟨s, hbody, hrun, hseparated⟩ := htears.exists_cut
  have hcomma : Reading.start.run? (s ++ ['*', ',']) =
      some ⟨.blockComment, depth⟩ := by
    have hlead : s ++ ['*', ','] = (s ++ ['*']) ++ [','] := by simp
    rw [hlead, Reading.run?_append_of_some _ hrun]
    rfl
  refine ⟨s, hbody, (Reading.mode_of_run? hcomma).symm, ?_⟩
  have htext : (l.append entry).toText = l.before ++ l.opening ++
      ((s ++ ['*', ',']) ++ l.behindComma entry rest) := by
    have hparts : (l.append entry).toText =
        l.before ++ l.opening ++ (l.append entry).body ++ l.after := rfl
    rw [hparts, append_body, hseparated]
    simp [behindComma]
  have hclosing : splitClosing? .code 0
      ((s ++ ['*', ',']) ++ l.behindComma entry rest) =
        (splitClosing? .blockComment depth (l.behindComma entry rest)).map
          fun (body, after) => ((s ++ ['*', ',']) ++ body, after) :=
    Reading.splitClosing?_append _ hcomma
  rw [htext, ImportsList.find?, h.opens]
  simp only [Option.bind_eq_bind, Option.bind_some, hclosing, Option.pure_def]
  cases splitClosing? .blockComment depth (l.behindComma entry rest) with
  | none => rfl
  | some parts => simp

/-- A registration leaves the class in place, adds it or tears a comment open,
and what a later search finds is decided in each case on its own. -/
theorem Readable.exists_find?_registered_iff {raw : Text} {n : ModuleName}
    (hn : ModuleName.derive raw = .ok n) (h : l.Readable) (P : Text → Prop) :
    (∃ l', ImportsList.find? (l.registered n).toText = some l' ∧ P l'.body) ↔
      (l.body.hasWord n.moduleClass = true → P l.body) ∧
      (l.body.hasWord n.moduleClass = false →
        (∀ depth rest, ¬ l.TearsComment depth rest) →
          P ((l.imported n).append n.moduleClass).body) ∧
      (l.body.hasWord n.moduleClass = false →
        ∀ depth rest, l.TearsComment depth rest →
          ∃ l', ImportsList.find?
              ((l.imported n).append n.moduleClass).toText = some l' ∧
            P l'.body) := by
  have himported := h.imported hn
  cases hword : l.body.hasWord n.moduleClass with
  | true =>
      have hfound := himported.find?
      simp [ImportsList.registered, hword, hfound]
  | false =>
      simp only [ImportsList.registered, hword, Bool.false_eq_true, if_false,
        false_implies, true_implies, true_and]
      by_cases htears : ∃ depth rest, l.TearsComment depth rest
      · obtain ⟨depth, rest, htears⟩ := htears
        refine ⟨fun hfound => ⟨?_, fun _ _ _ => hfound⟩, fun hall => ?_⟩
        · intro hwhole
          exact (hwhole depth rest htears).elim
        · exact hall.2 depth rest htears
      · have hwhole : ∀ depth rest, ¬ l.TearsComment depth rest :=
          fun depth rest h => htears ⟨depth, rest, h⟩
        have hfound := (himported.append
          (fun depth rest h => hwhole depth rest (tearsComment_imported_iff.1 h))
          (ModuleName.isWord_moduleClass hn)).find?
        constructor
        · rintro ⟨l', hl', hholds⟩
          obtain rfl := Option.some.inj (hfound.symm.trans hl')
          exact ⟨fun _ => hholds, fun depth rest h => (hwhole depth rest h).elim⟩
        · rintro ⟨hplain, -⟩
          exact ⟨_, hfound, hplain hwhole⟩

end ImportsList

end ModuleScaffold
