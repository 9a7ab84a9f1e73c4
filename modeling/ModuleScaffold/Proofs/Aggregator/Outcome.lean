import ModuleScaffold.Proofs.Aggregator.Patch
import ModuleScaffold.Proofs.Aggregator.Registered

/-!
# What an outcome tells

A registration searches for the list behind the import line that it may have put
on top, and yet its outcome speaks of the text as it was: whether there was a
list, and whether line and class were there.  It also tells whether there is
anything to write.  A new line is a line that the text lacked, and a new entry is
a word that the body lacked, so neither can give the old text back, even where
blanks are dropped for it.
-/

namespace ModuleScaffold

open Text ImportsList

variable {raw : Text} {n : ModuleName}

/-- The outcome, read off the text as it was. -/
theorem outcome_register (hn : ModuleName.derive raw = .ok n) (t : Text) :
    (register n t).outcome =
      match find? t with
      | none => .listNotFound
      | some l =>
        if t.hasLine n.importLine ∧ l.body.hasWord n.moduleClass then .alreadyPresent
        else .inserted := by
  cases hfind : find? t with
  | none => exact (register_of_find?_none hn hfind).2
  | some l => exact (register_of_find?_some hn hfind).2

/-- A text that stays as it is has the import line. -/
theorem hasLine_of_content_eq {t : Text} (hn : ModuleName.derive raw = .ok n)
    (h : (register n t).content = t) : t.hasLine n.importLine = true := by
  have hline := hasLine_register hn t
  rwa [h] at hline

/-- A list that stays as it is has the class. -/
theorem ImportsList.hasWord_of_registered_eq {l : ImportsList}
    (hn : ModuleName.derive raw = .ok n)
    (hline : l.toText.hasLine n.importLine = true)
    (h : (l.registered n).toText = l.toText) :
    l.body.hasWord n.moduleClass = true := by
  have hbefore : (l.registered n).before = l.before := by
    rw [before_registered, imported, if_pos hline]
  have hbody : (l.registered n).body = l.body := by
    rw [toText, toText, hbefore, opening_registered, after_registered] at h
    exact List.append_cancel_left (List.append_cancel_right h)
  rw [← hbody]
  exact (hasWord_registered hn (ModuleName.isWord_moduleClass hn) l).2 (.inr rfl)

/-- The text stays as it is where the outcome says that all was there, or that
there is no list and the line was there. -/
theorem content_register_eq_self_iff (hn : ModuleName.derive raw = .ok n) (t : Text) :
    (register n t).content = t ↔
      (register n t).outcome = .alreadyPresent ∨
        (register n t).outcome = .listNotFound ∧ t.hasLine n.importLine = true := by
  cases hfind : find? t with
  | none =>
      obtain ⟨hcontent, houtcome⟩ := register_of_find?_none hn hfind
      simp only [houtcome, reduceCtorEq, false_or, true_and]
      refine ⟨hasLine_of_content_eq hn, fun hline => ?_⟩
      rw [hcontent, withImport_of_hasLine hline]
  | some l =>
      obtain ⟨hcontent, houtcome⟩ := register_of_find?_some hn hfind
      obtain rfl := toText_of_find? hfind
      rw [houtcome]
      constructor
      · intro hsame
        have hline := hasLine_of_content_eq hn hsame
        have hword := hasWord_of_registered_eq hn hline (hcontent ▸ hsame)
        exact .inl (if_pos ⟨hline, hword⟩)
      · split
        next hthere =>
          intro
          rw [hcontent, registered, if_pos hthere.2, imported, if_pos hthere.1]
        next =>
          rintro (h | ⟨h, -⟩) <;> contradiction

/-- The outcome tells the truth about the text, and an update rewrites the file
where it says that something was missing. -/
theorem outcome_register_describes_text (hn : ModuleName.derive raw = .ok n)
    (t : Text) :
    (register n t).outcome ≠ .skipped ∧
      ((register n t).outcome = .listNotFound ↔ find? t = none) ∧
      (∀ l, find? t = some l →
        ((register n t).outcome = .alreadyPresent ↔
            t.hasLine n.importLine = true ∧ l.body.hasWord n.moduleClass = true) ∧
          ((register n t).outcome = .inserted ↔
            ¬ (t.hasLine n.importLine = true ∧
              l.body.hasWord n.moduleClass = true))) ∧
      ((register n t).content = t ↔
        (register n t).outcome = .alreadyPresent ∨
          (register n t).outcome = .listNotFound ∧ t.hasLine n.importLine = true) ∧
      ∀ (s : Session) (path : Path), (s.run (readText path)).1 = .ok t →
        s.run (patch path n) =
          (s.notingAll ((register n t).notes.map .registration)).run
            (if (register n t).outcome = .alreadyPresent ∨
                (register n t).outcome = .listNotFound ∧
                  t.hasLine n.importLine = true then
              pure (register n t).outcome
            else do
              replaceText path (register n t).content
              Reporting.note (.wroteAggregator path)
              return (register n t).outcome) := by
  have houtcome := outcome_register hn t
  have hsame := content_register_eq_self_iff hn t
  refine ⟨?_, ?_, ?_, hsame, ?_⟩
  · rw [houtcome]
    split
    · nofun
    · split <;> nofun
  · rw [houtcome]
    cases hfind : find? t with
    | none => simp
    | some l =>
        dsimp only
        split <;> simp
  · intro l hfind
    rw [houtcome, hfind]
    dsimp only
    split
    next hthere => simp [hthere]
    next hmissing => simp [hmissing]
  · intro s path hread
    rw [Session.run_patch_of_readText hread]
    simp only [hsame]

/-- An entry that makes the text shorter. -/
theorem outcome_register_describes_text_shorter :
    let t : Text := "import \x7b XModule \x7d from './x/x.module';\n" ++
      "imports: [A,                    ]"
    let s : Session :=
      { tree := FileTree.empty.put ["app.module.ts"] (.file t.encode 0o644), here := [] }
    (register (.ofPascal "X") t).content.length < t.length ∧
      (register (.ofPascal "X") t).outcome = .inserted ∧
      (register (.ofPascal "X") t).content ≠ t ∧
      s.run (patch (.ofText "app.module.ts") (.ofPascal "X")) =
        (s.notingAll [.registration (.importPresent "XModule")]).run (do
          replaceText (.ofText "app.module.ts") (register (.ofPascal "X") t).content
          Reporting.note (.wroteAggregator (.ofText "app.module.ts"))
          return .inserted) := by
  intro t s
  have hn : ModuleName.derive "x" = .ok (.ofPascal "X") := by rfl
  have hfind : find? t = some ⟨"import \x7b XModule \x7d from './x/x.module';\n",
      "imports: [", "A,                    ", "]"⟩ := by rfl
  have hfile : s.locate .target (.ofText "app.module.ts") = .ok ["app.module.ts"] := by
    decide +kernel
  have hread := Session.readText_of_file hfile rfl (decode?_encode t)
  have hnotes : (register (.ofPascal "X") t).notes = [.importPresent "XModule"] := by
    decide +kernel
  obtain ⟨-, -, hlist, hsame, hpatch⟩ := outcome_register_describes_text hn t
  have houtcome : (register (.ofPascal "X") t).outcome = .inserted :=
    (hlist _ hfind).2.2 (by decide +kernel)
  rw [houtcome] at hsame hpatch
  have hrun := hpatch s (.ofText "app.module.ts") hread
  rw [if_neg (by decide), hnotes] at hrun
  exact ⟨by decide +kernel, houtcome, fun h => absurd (hsame.1 h) (by decide), hrun⟩

end ModuleScaffold
