import ModuleScaffold.Proofs.Files.Refusal

/-!
# What an update of the root module does to the files

An update that finds nothing at the temporary sibling either leaves every entry
as it was or replaces the entry at the end of its path by a file, with the
permission bits of the file that was read.  For a regular file with the bytes of
a text this is the text of the registration, whatever the text and the bits are.

Whatever is at the sibling, nothing fails once the new text is written there: what
leads to a file still does, so the bits can be copied and the entry can be moved.
-/

namespace ModuleScaffold

/-- The name of the temporary file for a file of that name. -/
def temporaryName (name : Text) : Text :=
  "." ++ name ++ ".tmp"

theorem leadsDown_temporaryName (name : Text) : LeadsDown (temporaryName name) := by
  have hlength : 5 ≤ (temporaryName name).length := by
    simp [temporaryName]
  refine ⟨?_, ?_, ?_⟩ <;> intro h <;> simp [h] at hlength

theorem temporarySibling_child (path : Path) (name : Text) :
    temporarySibling (path.child name) = path.child (temporaryName name) := by
  rw [temporarySibling, Path.withName_child, Path.name_child]
  rfl

theorem name_temporarySibling (path : Path) :
    (temporarySibling path).name = temporaryName path.name := by
  simp [temporarySibling, Path.withName, Path.name, temporaryName]

theorem not_mem_temporaryName {c : Char} {name : Text} (hc : c ∉ (".tmp" : Text))
    (h : c ∉ name) : c ∉ temporaryName name := by
  simp_all [temporaryName]

theorem isEntryName_temporaryName {name : Text} (h : IsEntryName name)
    (hshort : isTooLong (temporaryName name) = false) :
    IsEntryName (temporaryName name) :=
  ⟨leadsDown_temporaryName name, hshort, not_mem_temporaryName (by decide) h.clean⟩

/-- The steps of a replacement, without the handler that removes what they leave. -/
def replacementSteps {m : Type → Type} [Monad m] [FileAccess m] (path : Path) (t : Text) :
    m Unit := do
  FileAccess.write (temporarySibling path) t.encode
  FileAccess.copyPermissions path (temporarySibling path)
  FileAccess.move (temporarySibling path) path

theorem replaceText_eq {m : Type → Type} [Monad m] [MonadExceptOf Failure m] [FileAccess m]
    (path : Path) (t : Text) :
    (replaceText path t : m Unit) =
      tryCatch (replacementSteps path t) fun failure =>
        match failure with
        | .refused _ _ => do
          removeIfThere (temporarySibling path)
          throw failure
        | _ => throw failure := rfl

namespace Session

variable {s s' : Session} {path : Path} {name : Text} {n : ModuleName}
  {place file : Location} {bytes : ByteArray} {permissions : Nat}

theorem run_replaceText_of_steps {t : Text}
    (h : s.run (replacementSteps path t) = (.ok (), s')) :
    s.run (replaceText path t) = (.ok (), s') := by
  rw [replaceText_eq, run_tryCatch, h]

theorem run_readText (s : Session) (path : Path) :
    s.run (readText path) =
      (match (s.run (FileAccess.read path)).1 with
        | .ok bytes =>
          match Text.decode? bytes with
          | some t => .ok t
          | none => .error (.notUtf8 path)
        | .error f => .error f, s) := by
  obtain ⟨r, hread⟩ : ∃ r, s.run (FileAccess.read path) = (r, s) := ⟨_, run_read s path⟩
  rw [readText, run_bind, hread]
  cases r with
  | error f => rfl
  | ok bytes =>
      dsimp only
      cases Text.decode? bytes <;> rfl

theorem read_cases (h : (s.run (FileAccess.read path)).1 = .ok bytes) :
    ∃ file permissions, s.locate .target path = .ok file ∧
      s.tree.get? file = some (.file bytes permissions) := by
  rw [run_read] at h
  cases hfile : s.locate .target path with
  | error f => simp [hfile] at h
  | ok file =>
      rcases hfound : s.tree.get? file with _ | _ | ⟨bytes', permissions⟩ | _ <;>
        simp only [hfile, hfound, reduceCtorEq, Except.ok.injEq] at h
      exact ⟨file, permissions, rfl, h ▸ hfound⟩

theorem readText_cases {t : Text} (h : (s.run (readText path)).1 = .ok t) :
    ∃ file bytes permissions, s.locate .target path = .ok file ∧
      s.tree.get? file = some (.file bytes permissions) ∧
      Text.decode? bytes = some t := by
  rw [run_readText] at h
  cases hread : (s.run (FileAccess.read path)).1 with
  | error f => simp [hread] at h
  | ok bytes =>
      obtain ⟨file, permissions, hfile, hfound⟩ := read_cases hread
      refine ⟨file, bytes, permissions, hfile, hfound, ?_⟩
      cases htext : Text.decode? bytes <;> simp_all

theorem readText_of_file {t : Text} (hfile : s.locate .target path = .ok file)
    (hfound : s.tree.get? file = some (.file bytes permissions))
    (htext : Text.decode? bytes = some t) : (s.run (readText path)).1 = .ok t := by
  rw [run_readText, run_read, hfile]
  simp only [hfound, htext]

/-- The steps of an update: what the path leads to decides whether there is a text,
and the text whether there is anything to write. -/
theorem run_patch (s : Session) (path : Path) (n : ModuleName) :
    s.run (patch path n) =
      match s.run (FileAccess.isThere path) with
      | (.error f, _) => (.error f, s)
      | (.ok false, _) => (.ok .skipped, s.noting (.aggregatorMissing path))
      | (.ok true, _) =>
        match (s.run (readText path)).1 with
        | .error f => (.error f, s)
        | .ok t =>
          let s' := s.notingAll ((register n t).notes.map .registration)
          if (register n t).content = t then
            (.ok (register n t).outcome, s')
          else
            match s'.run (replaceText path (register n t).content) with
            | (.error f, s'') => (.error f, s'')
            | (.ok (), s'') =>
              (.ok (register n t).outcome, s''.noting (.wroteAggregator path)) := by
  have hread : s.run (readText path) = ((s.run (readText path)).1, s) := by
    rw [run_readText]
  have hthere : s.run (FileAccess.isThere path) =
      ((s.run (FileAccess.isThere path)).1, s) := by
    rw [run_isThere]
  rw [patch, run_bind, hthere]
  rcases (s.run (FileAccess.isThere path)).1 with f | _ | _
  · rfl
  · rfl
  · simp only [if_true]
    rw [run_bind, hread]
    rcases (s.run (readText path)).1 with f | t
    · rfl
    · dsimp only
      rw [run_bind_of_ok (run_noteAll s _)]
      by_cases hcontent : (register n t).content = t
      · simp [hcontent]
      · simp only [hcontent, ne_eq, not_false_eq_true, if_true, if_false]
        rw [run_bind]
        rcases run _ (replaceText path (register n t).content) with ⟨_ | _, s''⟩ <;> rfl

/-- What an update does to a file with a text. -/
theorem run_patch_of_readText {t : Text} (h : (s.run (readText path)).1 = .ok t) :
    s.run (patch path n) =
      (s.notingAll ((register n t).notes.map .registration)).run
        (if (register n t).content = t then
          pure (register n t).outcome
        else do
          replaceText path (register n t).content
          Reporting.note (.wroteAggregator path)
          return (register n t).outcome) := by
  obtain ⟨file, bytes, permissions, hfile, hfound, -⟩ := readText_cases h
  have hthere : s.run (FileAccess.isThere path) = (.ok true, s) := by
    rw [run_isThere, hfile]
    simp [hfound]
  rw [run_patch, hthere]
  simp only [h]
  split
  · rfl
  · rw [run_bind]
    rcases run _ (replaceText path (register n t).content) with ⟨_ | _, _⟩ <;> rfl

/-- A file takes over the bits of another one. -/
theorem run_copyPermissions {source target : Path} {other : Location} {entry : Entry}
    (hsource : s.locate .target source = .ok file) (hentry : s.tree.get? file = some entry)
    (htarget : s.locate .target target = .ok other)
    (hfound : s.tree.get? other = some (.file bytes permissions)) :
    s.run (FileAccess.copyPermissions source target) =
      (.ok (), { s with tree := s.tree.put other (.file bytes entry.permissions) }) := by
  have hbits : s.run (Session.permissions source) = (.ok entry.permissions, s) := by
    rw [run_permissions, hsource]
    simp only [hentry]
  rw [copyPermissions_eq, run_bind_of_ok hbits, run_setPermissions, htarget]
  simp only [hfound]

/-- Once the new text is written to the sibling, nothing fails: it takes over the bits
of the file, and the entry at the sibling takes its place. -/
theorem run_replacementSteps_of_written {t : Text} {written : Session}
    (hfile : s.locate .target path = .ok file)
    (hfound : s.tree.get? file = some (.file bytes permissions))
    (hwrite : s.run (writeText (temporarySibling path) t) = (.ok (), written)) :
    ∃ other source target entry,
      let ready : Session :=
        { s with tree := s.tree.put other (.file t.encode permissions) }
      s.locate .file (temporarySibling path) = .ok other ∧
        ready.locate .entry (temporarySibling path) = .ok source ∧
        ready.tree.get? source = some entry ∧
        ready.locate .entry path = .ok target ∧
        s.run (replacementSteps path t) =
          (.ok (), { s with tree := (ready.tree.erase source).put target entry }) := by
  rcases run_write_cases s (temporarySibling path) t.encode with
    ⟨f, hrefused⟩ | ⟨other, bits, hother, hwritable, hbits, hwritten⟩
  · cases hwrite.symm.trans hrefused
  have hput (bits : Nat) :=
    FileTree.get?_put s.tree hwritable.ne_nil (.file t.encode bits)
  have hat (bits : Nat) := (hput bits other).trans (if_pos rfl)
  have hsibling := locate_target_of_written hwritable
    (locate_target_of_locate hother (.inl nofun)) (.inl rfl) t.encode
  have hpath := locate_target_of_written hwritable hfile (.inr (by simp [hfound]))
    t.encode
  -- the sibling may lead to the file itself, which has its bits then
  have hentry : ∃ entry, (s.tree.put other (.file t.encode bits)).get? file = some entry ∧
      entry.permissions = permissions := by
    by_cases hsame : file = other
    · subst hsame
      exact ⟨_, hat bits, (hbits _ _ hfound).symm⟩
    · exact ⟨_, (hput bits file).trans ((if_neg hsame).trans hfound), rfl⟩
  obtain ⟨present, hpresent, hpermissions⟩ := hentry
  have hcopy := run_copyPermissions (hpath bits) hpresent (hsibling bits) (hat bits)
  rw [hpermissions, FileTree.put_put] at hcopy
  obtain ⟨_, _, hfile'⟩ :=
    (hwritable.keepsKinds_put t.encode permissions).file _ _ _ hfound
  obtain ⟨source, target, entry, hsource, hmoved, htarget, hmove⟩ :=
    exists_run_move (hsibling permissions) (hat permissions) (hpath permissions) hfile'
  refine ⟨other, source, target, entry, hother, hsource, hmoved, htarget, ?_⟩
  rw [replacementSteps, run_bind_of_ok hwritten, run_bind_of_ok hcopy, hmove]

/-- Where nothing is at the temporary sibling, a file is replaced by one with the
new text and the bits of the old one. -/
theorem run_replaceText (hplace : s.IsDirectoryAt path place) (hname : IsEntryName name)
    (hfile : s.locate .target (path.child name) = .ok file)
    (hfound : s.tree.get? file = some (.file bytes permissions))
    (hfree : s.tree.get? (place ++ [temporaryName name]) = none)
    (hshort : isTooLong (temporaryName name) = false) (t : Text) :
    ∃ tree, s.run (replaceText (path.child name) t) = (.ok (), { s with tree }) ∧
      ∀ other, tree.get? other =
        if other = place ++ [name] then some (.file t.encode permissions)
        else s.tree.get? other := by
  have hsibling := isEntryName_temporaryName hname hshort
  have hwrite := hplace.run_writeText hsibling (.inl hfree) t
  rw [← temporarySibling_child] at hwrite
  obtain ⟨other, source, target, entry, hother, hsource, hentry, htarget, hsteps⟩ :=
    run_replacementSteps_of_written hfile hfound hwrite
  have hrun := run_replaceText_of_steps hsteps
  rw [temporarySibling_child] at hother hsource
  rw [hplace.locate_child hsibling (.inr (by simp [hfree])), Except.ok.injEq] at hother
  subst hother
  let sibling := place ++ [temporaryName name]
  have hroot : sibling ≠ [] := by simp [sibling]
  let ready : Session :=
    { s with tree := s.tree.put sibling (.file t.encode permissions) }
  have hready : ready.IsDirectoryAt path place :=
    hplace.of_keepsWays (keepsWays_of_keeps (FileTree.keeps_put hfree _) rfl)
  rw [hready.locate_child hsibling (.inl rfl), Except.ok.injEq] at hsource
  rw [hready.locate_child hname (.inl rfl), Except.ok.injEq] at htarget
  subst hsource htarget
  rw [FileTree.get?_put _ hroot, if_pos rfl, Option.some.injEq] at hentry
  subst hentry
  refine ⟨_, hrun, fun other => ?_⟩
  rw [FileTree.get?_put _ (by simp), FileTree.get?_erase _ hroot,
    FileTree.get?_put _ hroot]
  by_cases hother : other = sibling
  · simp [hother, sibling, hfree]
  · simp [hother]

/-- Where the temporary sibling can neither be written nor removed, nothing is
done. -/
theorem run_replaceText_of_error {t : Text} {f f' : Failure}
    (hwrite : s.run (writeText (temporarySibling path) t) = (.error f, s))
    (hremove : s.run (FileAccess.remove (temporarySibling path)) = (.error f', s)) :
    ∃ f, s.run (replaceText path t) = (.error f, s) := by
  obtain ⟨r, hr⟩ : ∃ r, s.run (removeIfThere (temporarySibling path)) = (r, s) := by
    rw [removeIfThere, run_tryCatch, hremove]
    dsimp only
    split <;> exact ⟨_, rfl⟩
  rw [replaceText, run_tryCatch, run_bind_of_error hwrite]
  dsimp only
  split
  · rw [run_bind, hr]
    cases r <;> exact ⟨_, rfl⟩
  · exact ⟨_, rfl⟩

theorem run_replaceText_of_isTooLong (hlong : isTooLong (temporaryName name) = true)
    (t : Text) : ∃ f, s.run (replaceText (path.child name) t) = (.error f, s) := by
  have hlocate (goal : Goal) :
      ∃ f, s.locate goal (path.child (temporaryName name)) = .error f := by
    cases h : s.locate goal (path.child (temporaryName name)) with
    | error f => exact ⟨f, rfl⟩
    | ok place =>
        obtain ⟨-, -, hname, -⟩ := locate_child_cases h (leadsDown_temporaryName name)
        simp [hname.short] at hlong
  obtain ⟨f, hfile⟩ := hlocate .file
  obtain ⟨f', hentry⟩ := hlocate .entry
  have hwrite : s.run (writeText (temporarySibling (path.child name)) t) =
      (.error f, s) := by
    rw [temporarySibling_child, writeText, run_write, hfile]
  have hremove : s.run (FileAccess.remove (temporarySibling (path.child name))) =
      (.error f', s) := by
    rw [temporarySibling_child, run_remove, hentry]
  exact run_replaceText_of_error hwrite hremove

theorem run_replaceText_of_directory (hplace : s.IsDirectoryAt path place)
    (hname : IsEntryName (temporaryName name))
    (hfound : s.tree.get? (place ++ [temporaryName name]) = some .directory) (t : Text) :
    ∃ f, s.run (replaceText (path.child name) t) = (.error f, s) := by
  have hlocate (goal : Goal) : s.locate goal (path.child (temporaryName name)) =
      .ok (place ++ [temporaryName name]) :=
    hplace.locate_child hname (.inr fun target => by simp [hfound])
  let refused : Failure := .refused .isDirectory (path.child (temporaryName name))
  have hwrite : s.run (writeText (temporarySibling (path.child name)) t) =
      (.error refused, s) := by
    rw [temporarySibling_child, writeText, run_write, hlocate]
    simp only [hfound, refused]
  have hremove : s.run (FileAccess.remove (temporarySibling (path.child name))) =
      (.error refused, s) := by
    rw [temporarySibling_child, run_remove, hlocate]
    simp only [hfound, refused]
  exact run_replaceText_of_error hwrite hremove

/-- Where no file or link is at the temporary sibling, a file is replaced, or the
sibling cannot be written and nothing is done. -/
theorem replaceText_cases (hplace : s.IsDirectoryAt path place) (hname : IsEntryName name)
    (hfile : s.locate .target (path.child name) = .ok file)
    (hfound : s.tree.get? file = some (.file bytes permissions))
    (hfree : ∀ entry, s.found? (path.child (temporaryName name)) = some entry →
      entry = .directory) (t : Text) :
    ((isTooLong (temporaryName name) = true ∨
        s.found? (path.child (temporaryName name)) ≠ none) ∧
      ∃ f, s.run (replaceText (path.child name) t) = (.error f, s)) ∨
    ∃ tree, s.run (replaceText (path.child name) t) = (.ok (), { s with tree }) ∧
      ∀ other, tree.get? other =
        if other = place ++ [name] then some (.file t.encode permissions)
        else s.tree.get? other := by
  cases hshort : isTooLong (temporaryName name) with
  | true => exact .inl ⟨.inl rfl, run_replaceText_of_isTooLong hshort t⟩
  | false =>
      have hsibling := isEntryName_temporaryName hname hshort
      rw [hplace.found?_child hsibling] at hfree ⊢
      cases hpresent : s.tree.get? (place ++ [temporaryName name]) with
      | some entry =>
          obtain rfl := hfree entry hpresent
          exact .inl ⟨.inr (by simp), run_replaceText_of_directory hplace hsibling hpresent t⟩
      | none =>
          exact .inr (run_replaceText hplace hname hfile hfound hpresent hshort t)

/-- What becomes of a file with a text, where no file or link is at the temporary
sibling: it stays as it is if the text does, or if the sibling cannot be written, and
else a file with the new text takes the place of the entry. -/
theorem patch_text_cases {t : Text} (hs : s.IsSound)
    (hfile : s.locate .target path = .ok file)
    (hfound : s.tree.get? file = some (.file bytes permissions))
    (htext : Text.decode? bytes = some t)
    (hfree : ∀ entry, s.found? (temporarySibling path) = some entry → entry = .directory)
    (n : ModuleName) :
    ∃ place found, s.locate .entry path = .ok place ∧ s.tree.get? place = some found ∧
      found ≠ .directory ∧
      ∃ r s', s.run (patch path n) = (r, s') ∧ s'.here = s.here ∧
        (((isTooLong (temporarySibling path).name = true ∨
              s.found? (temporarySibling path) ≠ none) ∧
            (∃ f, r = .error f) ∧ s'.tree = s.tree) ∨
          (r = .ok (register n t).outcome ∧ (register n t).content = t ∧
            s'.tree = s.tree) ∨
          (r = .ok (register n t).outcome ∧ (register n t).content ≠ t ∧
            ∀ other, s'.tree.get? other =
              if other = place then
                some (.file (register n t).content.encode permissions)
              else s.tree.get? other)) := by
  obtain ⟨parent, name, directory, rfl, hparent, hname, hcases⟩ :=
    hs.exists_child hfile (by simp [hfound])
  have hentry : ∃ found, s.tree.get? (directory ++ [name]) = some found ∧
      found ≠ .directory := by
    rcases hcases with rfl | ⟨-, target, hlink⟩
    · exact ⟨_, hfound, by simp⟩
    · exact ⟨_, hlink, by simp⟩
  obtain ⟨found, hentry, hkind⟩ := hentry
  refine ⟨directory ++ [name], found, hparent.locate_child hname (.inl rfl), hentry,
    hkind, ?_⟩
  rw [run_patch_of_readText (readText_of_file hfile hfound htext)]
  by_cases hcontent : (register n t).content = t
  · rw [if_pos hcontent]
    exact ⟨_, _, rfl, here_notingAll _ _, .inr (.inl ⟨rfl, hcontent, tree_notingAll _ _⟩)⟩
  rw [if_neg hcontent]
  rw [temporarySibling_child] at hfree ⊢
  rw [Path.name_child]
  let noted := s.notingAll ((register n t).notes.map .registration)
  have htree : noted.tree = s.tree := tree_notingAll _ _
  have hhere : noted.here = s.here := here_notingAll _ _
  have hsame : noted.found? (parent.child (temporaryName name)) =
      s.found? (parent.child (temporaryName name)) := found?_congr htree hhere
  rw [← hsame] at hfree ⊢
  rcases replaceText_cases (hparent.congr htree hhere) hname
    ((locate_congr htree hhere).trans hfile) (htree ▸ hfound) hfree
    (register n t).content with
    ⟨hblocked, f, hrun⟩ | ⟨tree, hrun, htree'⟩
  · rw [run_bind_of_error hrun]
    exact ⟨_, _, rfl, hhere, .inl ⟨hblocked, ⟨f, rfl⟩, htree⟩⟩
  · rw [run_bind_of_ok hrun, run_bind_of_ok (run_note _ _), run_pure]
    refine ⟨_, _, rfl, (here_noting _ _).trans hhere,
      .inr (.inr ⟨rfl, hcontent, fun other => ?_⟩)⟩
    rw [tree_noting, htree', htree]

/-- The new text of a regular file, and what became of it. -/
theorem patch_file {t : Text} (hs : s.IsSound)
    (hfile : s.locate .target path = .ok place)
    (hentry : s.locate .entry path = .ok place)
    (hfound : s.tree.get? place = some (.file t.encode permissions))
    (hfree : s.found? (temporarySibling path) = none)
    (hshort : isTooLong (temporarySibling path).name = false) (n : ModuleName) :
    ∃ s', s.run (patch path n) = (.ok (register n t).outcome, s') ∧
      s'.here = s.here ∧
      (∀ other, s'.tree.get? other =
        if other = place then some (.file (register n t).content.encode permissions)
        else s.tree.get? other) ∧
      ((register n t).content = t → s'.tree = s.tree) := by
  obtain ⟨place', found, hplace', -, -, r, s', hrun, hhere, hcases⟩ :=
    patch_text_cases hs hfile hfound (Text.decode?_encode t)
      (fun entry hentry => nomatch hfree.symm.trans hentry) n
  obtain rfl := Except.ok.inj (hentry.symm.trans hplace')
  rcases hcases with ⟨hblocked, -⟩ | ⟨rfl, hcontent, htree⟩ | ⟨rfl, hcontent, htree⟩
  · simp [hshort, hfree] at hblocked
  · refine ⟨s', hrun, hhere, fun other => ?_, fun _ => htree⟩
    rw [htree, hcontent]
    split
    next hother => rw [hother, hfound]
    next => rfl
  · exact ⟨s', hrun, hhere, htree, fun h => absurd h hcontent⟩

/-- A regular file with the bytes of a text gets the text of the registration and
keeps its permission bits; nothing else changes. -/
theorem run_patch_of_file {t : Text} (hs : s.IsSound)
    (hplace : s.locate .entry path = .ok place)
    (hfile : s.tree.get? place = some (.file t.encode permissions))
    (hfree : s.found? (temporarySibling path) = none)
    (hshort : isTooLong (temporarySibling path).name = false) (n : ModuleName) :
    ∃ s', s.run (patch path n) = (.ok (register n t).outcome, s') ∧
      (∀ other, s'.tree.get? other =
        if other = place then some (.file (register n t).content.encode permissions)
        else s.tree.get? other) ∧
      s'.here = s.here ∧ s'.found? (temporarySibling path) = none ∧
      ((register n t).content = t → s'.tree = s.tree) := by
  obtain ⟨parent, name, directory, rfl, hparent, hname, hcases⟩ :=
    hs.exists_child hplace (by simp [hfile])
  obtain rfl := hcases.resolve_right fun hlink => hlink.1 rfl
  have htarget : s.locate .target (parent.child name) = .ok (directory ++ [name]) :=
    hparent.locate_child hname (.inr fun target => by simp [hfile])
  obtain ⟨s', hrun, hhere, hget, hsame⟩ :=
    patch_file hs htarget hplace hfile hfree hshort n
  refine ⟨s', hrun, hget, hhere, ?_, hsame⟩
  rw [temporarySibling_child] at hfree hshort ⊢
  rw [Path.name_child] at hshort
  have hsibling := isEntryName_temporaryName hname hshort
  have hways : KeepsWays s s' := by
    refine ⟨hhere, fun other hother => ?_, fun other target hother => ?_⟩
    all_goals
      rw [hget, if_neg, hother]
      rintro rfl
      exact nomatch hother.symm.trans hfile
  rw [hparent.found?_child hsibling] at hfree
  rw [(hparent.of_keepsWays hways).found?_child hsibling, hget, if_neg, hfree]
  intro h
  rw [h, hfile] at hfree
  contradiction

/-- A private file with a byte order mark and Windows line ends. -/
theorem run_patch_of_file_private :
    let place : Location := ["app.module.ts"]
    let before : Text := "\ufeffimports: []\r\n"
    let after : Text := "import \x7b UsersModule \x7d from './users/users.module';\r\n" ++
      "\ufeffimports: [\r\n  UsersModule,\r\n]\r\n"
    let s : Session :=
      { tree := FileTree.empty.put place (.file before.encode 0o600), here := [] }
    ∃ s', s.run (patch (.ofText "app.module.ts") (.ofPascal "Users")) =
        (.ok .inserted, s') ∧
      s'.tree.get? place = some (.file after.encode 0o600) := by
  intro place before after s
  have hplace : s.locate .entry (.ofText "app.module.ts") = .ok place := by
    decide +kernel
  have hfile : s.tree.get? place = some (.file before.encode 0o600) := rfl
  obtain ⟨s', hrun, hget, -⟩ := run_patch_of_file (by decide +kernel) hplace hfile
    (by decide +kernel) (by decide +kernel) (.ofPascal "Users")
  have houtcome : (register (.ofPascal "Users") before).outcome = .inserted := by
    decide +kernel
  have hcontent : (register (.ofPascal "Users") before).content = after := by
    decide +kernel
  refine ⟨s', hrun.trans (by rw [houtcome]), ?_⟩
  rw [hget, if_pos rfl, hcontent]

end Session

end ModuleScaffold
