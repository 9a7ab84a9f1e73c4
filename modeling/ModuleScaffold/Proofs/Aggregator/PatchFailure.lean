import ModuleScaffold.Proofs.Aggregator.Replacement

/-!
# An update that fails

An update that fails leaves every entry as it was but the one in the place of the
temporary file, and that is removed, if anything becomes of it.  As long as the platform
refuses no step of the replacement by itself, this holds without exception: the text
could not be written then, so nothing but the removal has happened.

A platform may refuse a step behind the write.  What the path of the temporary file led
to is written by then: the sibling, or the file at the end of a link that is in its place.
The sibling is removed, unless that is refused too; the file behind a link stays as it was
written.

Places are those that the paths led to when the update began.  The path of the file
may lead through a link that is removed; it leads nowhere then, although the file is where
it was.
-/

namespace ModuleScaffold

/-- What an update that fails may have done to a session. -/
structure LeavesWhole (platform : Platform) (path : Path) (s s' : Session) : Prop where
  here : s'.here = s.here
  elsewhere : ∀ place, s.locate .entry (temporarySibling path) ≠ .ok place →
    s'.tree.get? place = s.tree.get? place ∨
      platform.RefusesReplacement path ∧
        s.locate .file (temporarySibling path) = .ok place ∧
        ∃ bytes permissions, s'.tree.get? place = some (.file bytes permissions)
  sibling : ∀ place, s.locate .entry (temporarySibling path) = .ok place →
    s'.tree.get? place = s.tree.get? place ∨ s'.tree.get? place = none ∨
      platform.Refuses .remove (temporarySibling path) ∧
        ∃ bytes permissions, s'.tree.get? place = some (.file bytes permissions)
  rootModule : ∀ goal place, s.locate goal path = .ok place →
    s'.tree.get? place = s.tree.get? place ∨
      platform.RefusesReplacement path ∧ s.locate .file (temporarySibling path) = .ok place

namespace LeavesWhole

variable {platform : Platform} {path : Path} {s s₁ s' : Session} {sibling file : Location}
  {bytes : ByteArray} {permissions : Nat}

theorem of_sameFiles (h : s.SameFiles s') : LeavesWhole platform path s s' where
  here := h.here
  elsewhere := fun _ _ => .inl (by rw [h.tree])
  sibling := fun _ _ => .inl (by rw [h.tree])
  rootModule := fun _ _ _ => .inl (by rw [h.tree])

/-- The file that the path leads to is elsewhere, or it is the sibling, which takes a file
then. -/
theorem of_sibling (hfile : s.locate .target path = .ok file)
    (hfound : s.tree.get? file = some (.file bytes permissions))
    (hsibling : s.locate .entry (temporarySibling path) = .ok sibling)
    (hhere : s'.here = s.here)
    (hrefuses : platform.RefusesReplacement path ∨ ¬ s.TakesFile (temporarySibling path))
    (helsewhere : ∀ place, place ≠ sibling → s'.tree.get? place = s.tree.get? place ∨
      platform.RefusesReplacement path ∧
        s.locate .file (temporarySibling path) = .ok place ∧
        ∃ bytes permissions, s'.tree.get? place = some (.file bytes permissions))
    (hat : s'.tree.get? sibling = s.tree.get? sibling ∨ s'.tree.get? sibling = none ∨
      platform.Refuses .remove (temporarySibling path) ∧
        ∃ bytes permissions, s'.tree.get? sibling = some (.file bytes permissions)) :
    LeavesWhole platform path s s' where
  here := hhere
  elsewhere := by
    intro place hplace
    refine helsewhere place ?_
    rintro rfl
    exact hplace hsibling
  sibling := by
    intro place hplace
    obtain rfl := Except.ok.inj (hsibling.symm.trans hplace)
    exact hat
  rootModule := by
    intro goal place hplace
    by_cases hsame : place = sibling
    · right
      subst hsame
      -- the path of the entry does not lead to the sibling, so links were followed
      have hgoal : goal ≠ .entry := by
        rintro rfl
        exact Session.ne_of_locate_temporarySibling hplace hsibling rfl
      have htarget := Session.locate_target_of_locate hplace (.inl hgoal)
      obtain rfl := Except.ok.inj (htarget.symm.trans hfile)
      have hlocate := Session.locate_file_temporarySibling hsibling (by simp [hfound])
      refine ⟨hrefuses.resolve_right fun htakes => htakes ?_, hlocate⟩
      exact ⟨place, hlocate, .inr ⟨bytes, permissions, hfound⟩⟩
    · exact (helsewhere place hsame).imp_right fun ⟨h, hlocate, _⟩ => ⟨h, hlocate⟩

theorem of_removed (hfile : s.locate .target path = .ok file)
    (hfound : s.tree.get? file = some (.file bytes permissions))
    (hrefuses : platform.Refuses .write (temporarySibling path) ∨
      ¬ s.TakesFile (temporarySibling path))
    (h : s.Removed (temporarySibling path) s') : LeavesWhole platform path s s' := by
  obtain ⟨hhere, ⟨-, htree⟩ | ⟨sibling, entry, hsibling, hentry, hkind, htree⟩⟩ := h
  · exact of_sameFiles ⟨hhere, htree⟩
  have hroot : sibling ≠ [] := by
    rintro rfl
    exact hkind (Option.some.inj hentry).symm
  have herased := FileTree.get?_erase s.tree hroot
  refine of_sibling hfile hfound hsibling hhere (hrefuses.imp_left .inl)
    (fun place hplace => .inl ?_) (.inr (.inl ?_))
  · rw [htree, herased, if_neg hplace]
  · rw [htree, herased, if_pos rfl]

/-- Where something was written, it is the sibling or what a link in its place leads
to. -/
theorem of_written (hfile : s.locate .target path = .ok file)
    (hfound : s.tree.get? file = some (.file bytes permissions))
    (hrefuses : platform.RefusesReplacement path)
    (hwritten : s.WrittenThrough (temporarySibling path) s₁)
    (h : s₁.SameFiles s' ∧ platform.Refuses .remove (temporarySibling path) ∨
      s₁.Removed (temporarySibling path) s') : LeavesWhole platform path s s' := by
  obtain ⟨sibling, entry, hsibling, hentry, hkind⟩ := hwritten.exists_sibling
  have hsibling₁ := hwritten.locate_entry hsibling
  obtain ⟨hhere, written, bytes', permissions', hlocate, hwritable, htree⟩ := hwritten
  have hput := FileTree.get?_put s.tree hwritable.ne_nil (.file bytes' permissions')
  rw [← htree] at hput
  rcases h with ⟨hsame, hremove⟩ | ⟨hhere', hremoved⟩
  · refine of_sibling hfile hfound hsibling (hsame.here.trans hhere) (.inl hrefuses)
      (fun place _ => ?_) ?_
    all_goals rw [hsame.tree, hput]
    · split
      next hplace => exact .inr ⟨hrefuses, hplace ▸ hlocate, _, _, rfl⟩
      next => exact .inl rfl
    · split
      · exact .inr (.inr ⟨hremove, _, _, rfl⟩)
      · exact .inl rfl
  · have hfound₁ : s₁.found? (temporarySibling path) = some entry := by
      simp only [Session.found?, hsibling₁, hentry]
    rcases hremoved with ⟨hnone, -⟩ | ⟨sibling', _, hsibling', -, -, htree'⟩
    · exact absurd (hnone entry hfound₁) hkind
    obtain rfl := Except.ok.inj (hsibling₁.symm.trans hsibling')
    have hroot : sibling ≠ [] := by
      rintro rfl
      exact hkind (Option.some.inj hentry).symm
    have herased := FileTree.get?_erase s₁.tree hroot
    refine of_sibling hfile hfound hsibling (hhere'.trans hhere) (.inl hrefuses)
      (fun place hplace => ?_) (.inr (.inl ?_))
    · rw [htree', herased, if_neg hplace, hput]
      split
      next hplace => exact .inr ⟨hrefuses, hplace ▸ hlocate, _, _, rfl⟩
      next => exact .inl rfl
    · rw [htree', herased, if_pos rfl]

end LeavesWhole

namespace Host

variable {platform : Platform} {h h' : Host} {path : Path} {n : ModuleName}
  {e : HostFailure}

/-- An update that fails leaves the files whole. -/
theorem leavesWhole_of_patch_error
    (hfail : (h.run (patch path n : HostM platform Outcome)).1 = .error e) :
    LeavesWhole platform path h.session
      (h.run (patch path n : HostM platform Outcome)).2.session := by
  rcases patch_cases (Prod.ext hfail rfl) with
    hsame | ⟨file, bytes, permissions, s, hfile, hfound, ⟨⟨_, hok⟩, -⟩ | ⟨-, hwrite, hremove⟩⟩
  · exact .of_sameFiles hsame
  · cases hok
  · rcases hwrite with ⟨hsame, hrefuses⟩ | ⟨hwritten, hrefuses⟩
    · rcases hremove with ⟨hsame', -⟩ | hremoved
      · exact .of_sameFiles (hsame.trans hsame')
      · exact .of_removed hfile hfound hrefuses (hsame.removed hremoved)
    · exact .of_written hfile hfound hrefuses hwritten hremove

/-- A link to a directory in the place of the temporary file. -/
theorem leavesWhole_of_patch_error_link :
    let entry : Entry := .file (Text.encode "imports: []") 0o600
    let s : Session :=
      { tree := ⟨[(["m.ts"], entry), (["lib"], .directory), ([".m.ts.tmp"], .link "lib")]⟩
        here := [] }
    let result := run ⟨s, 0⟩ (patch (.ofText "m.ts") (.ofPascal "Users") : HostM .plain Outcome)
    result.1 = .error (.files (.refused .isDirectory (.ofText ".m.ts.tmp"))) ∧
      result.2.session.tree.get? ["m.ts"] = some entry ∧
      result.2.session.tree.get? ["lib"] = some .directory ∧
      result.2.session.tree.get? [".m.ts.tmp"] = none := by
  intro entry s result
  have hfail : result.1 =
      .error (.files (.refused .isDirectory (.ofText ".m.ts.tmp"))) := by
    decide +kernel
  have hsibling : s.locate .entry (temporarySibling (.ofText "m.ts")) =
      .ok [".m.ts.tmp"] := by
    decide +kernel
  have hfile : s.locate .target (.ofText "m.ts") = .ok ["m.ts"] := by
    decide +kernel
  have hwhole := leavesWhole_of_patch_error hfail
  have hplain : ¬ Platform.plain.RefusesReplacement (.ofText "m.ts") := by
    simp [Platform.RefusesReplacement, Platform.isPlain_plain _ _]
  refine ⟨hfail, (hwhole.rootModule .target _ hfile).resolve_right fun h => hplain h.1,
    (hwhole.elsewhere _ ?_).resolve_right fun h => hplain h.1, by decide +kernel⟩
  rw [hsibling]
  decide +kernel

/-- A platform may refuse to set the permission bits of the file behind a link in the
place of the temporary file, which was written by then.  And the path of the file may lead
through such a link, so that nothing is read there once it is removed. -/
theorem not_forall_kept_of_patch_error :
    ¬ (∀ (platform : Platform) (h : Host) (path : Path) (n : ModuleName) (e : HostFailure),
      (h.run (patch path n : HostM platform Outcome)).1 = .error e →
        ∀ place, h.session.locate .entry (temporarySibling path) ≠ .ok place →
          (h.run (patch path n : HostM platform Outcome)).2.session.tree.get? place =
            h.session.tree.get? place) ∧
    ¬ ∀ (s : Session) (path : Path) (n : ModuleName) (f : Failure) (bytes : ByteArray),
      (s.run (patch path n)).1 = .error f →
        (s.run (FileAccess.read path)).1 = .ok bytes →
          ((s.run (patch path n)).2.run (FileAccess.read path)).1 = .ok bytes := by
  constructor
  · intro hkept
    let platform : Platform :=
      { refusal? := fun _ operation _ =>
          if operation = .setPermissions then some ⟨.other 1 "Operation not permitted", none⟩
          else none
        styles := .plain }
    let s : Session :=
      { tree := ⟨[(["m.ts"], .file (Text.encode "imports: []") 0o600),
          (["x"], .file ⟨#[]⟩ 0o666), ([".m.ts.tmp"], .link "x")]⟩
        here := [] }
    let path : Path := .ofText "m.ts"
    let n : ModuleName := .ofPascal "Users"
    have hfail : (run ⟨s, 0⟩ (patch path n : HostM platform Outcome)).1 = .error (.files
        (.refused (.other 1 "Operation not permitted") (temporarySibling path))) := by
      decide +kernel
    have hwritten : (run ⟨s, 0⟩ (patch path n : HostM platform Outcome)).2.session.tree.get?
        ["x"] ≠ s.tree.get? ["x"] := by
      decide +kernel
    have hsibling : s.locate .entry (temporarySibling path) ≠ .ok ["x"] := by
      decide +kernel
    exact hwritten (hkept platform ⟨s, 0⟩ path n _ hfail ["x"] hsibling)
  · intro hkept
    let s : Session :=
      { tree := ⟨[(["m.ts"], .file (Text.encode "imports: []") 0o600), (["lib"], .directory),
          ([".m.ts.tmp"], .link "lib")]⟩
        here := [] }
    let path : Path := .ofText ".m.ts.tmp/../m.ts"
    let n : ModuleName := .ofPascal "Users"
    have hfail : (s.run (patch path n)).1 =
        .error (.refused .isDirectory (temporarySibling path)) := by
      decide +kernel
    have hread : (s.run (FileAccess.read path)).1 = .ok (Text.encode "imports: []") := by
      decide +kernel
    have hnone : ((s.run (patch path n)).2.run (FileAccess.read path)).1 =
        .error (.refused .notFound path) := by
      decide +kernel
    cases hnone.symm.trans (hkept s path n _ _ hfail hread)

end Host

end ModuleScaffold
