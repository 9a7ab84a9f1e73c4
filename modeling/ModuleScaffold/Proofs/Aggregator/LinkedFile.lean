import ModuleScaffold.Proofs.Aggregator.Patch

/-!
# An update through a link

The text that an update reads is that of the file at the end of all links, and so are
the permission bits that it copies.  What it replaces is the entry at the end of its
path, and that is the link.  So a file takes the place of the link: the path leads to
the new text from then on, and the file that it led to keeps the old one.  A link whose
file needs no change stays.
-/

namespace ModuleScaffold

namespace Session

variable {s : Session} {path : Path} {name target t : Text} {n : ModuleName}
  {place file : Location} {bytes : ByteArray} {permissions : Nat}

theorem run_patch_of_content_eq (hread : (s.run (readText path)).1 = .ok t)
    (hsame : (register n t).content = t) :
    (s.run (patch path n)).1 = .ok (register n t).outcome ∧
      (s.run (patch path n)).2.here = s.here ∧ (s.run (patch path n)).2.tree = s.tree := by
  rw [run_patch_of_readText hread, if_pos hsame]
  exact ⟨rfl, here_notingAll _ _, tree_notingAll _ _⟩

/-- Without a name for the temporary file, a new text is not written. -/
theorem run_patch_of_isTooLong (hread : (s.run (readText (path.child name))).1 = .ok t)
    (hnew : (register n t).content ≠ t) (hlong : isTooLong (temporaryName name) = true) :
    (∃ f, (s.run (patch (path.child name) n)).1 = .error f) ∧
      (s.run (patch (path.child name) n)).2.here = s.here ∧
      (s.run (patch (path.child name) n)).2.tree = s.tree := by
  let noted := s.notingAll ((register n t).notes.map .registration)
  obtain ⟨f, hfailed⟩ : ∃ f, noted.run
      (replaceText (path.child name) (register n t).content) = (.error f, noted) :=
    run_replaceText_of_isTooLong hlong (register n t).content
  rw [run_patch_of_readText hread, if_neg hnew, run_bind_of_error hfailed]
  exact ⟨⟨f, rfl⟩, here_notingAll _ _, tree_notingAll _ _⟩

/-- A new text takes the place of the entry, and the path leads to it. -/
theorem run_patch_of_content_ne (hs : s.IsSound)
    (hentry : s.locate .entry path = .ok place)
    (hlink : s.tree.get? place = some (.link target))
    (hfile : s.locate .target path = .ok file)
    (hfound : s.tree.get? file = some (.file bytes permissions))
    (htext : Text.decode? bytes = some t) (hnew : (register n t).content ≠ t)
    (hfree : s.found? (temporarySibling path) = none)
    (hshort : isTooLong (temporarySibling path).name = false) :
    (s.run (patch path n)).1 = .ok (register n t).outcome ∧
      (s.run (patch path n)).2.here = s.here ∧
      (s.run (patch path n)).2.locate .target path = .ok place ∧
      ∀ other, (s.run (patch path n)).2.tree.get? other =
        if other = place then some (.file (register n t).content.encode permissions)
        else s.tree.get? other := by
  obtain ⟨place', found, hplace', -, -, r, s', hrun, hhere, hcases⟩ :=
    patch_text_cases hs hfile hfound htext
      (fun entry hentry => nomatch hfree.symm.trans hentry) n
  obtain rfl := Except.ok.inj (hentry.symm.trans hplace')
  obtain ⟨rfl, -, hget⟩ := (hcases.resolve_left fun hblocked => by
    simp [hshort, hfree] at hblocked).resolve_left fun hsame => hnew hsame.2.1
  rw [hrun]
  refine ⟨rfl, hhere, ?_, hget⟩
  obtain ⟨parent, name, directory, rfl, hparent, hname, hends⟩ :=
    hs.exists_child hentry (by simp [hlink])
  obtain rfl := hends.resolve_right fun hfollowed => hfollowed.1 rfl
  have hway : s'.IsDirectoryAt parent directory :=
    hparent.of_replaced hlink hfile (by simp [hfound]) hhere hget
  exact hway.locate_child hname (.inr fun target' => by simp [hget])

/-- A link in the way of a new text gives way to a file with that text and the bits of
the file that it led to, unless the name of the temporary file would be too long. -/
theorem run_patch_of_link (hs : s.IsSound) (hplace : s.locate .entry path = .ok place)
    (hlink : s.tree.get? place = some (.link target))
    (hfile : s.locate .target path = .ok file)
    (hfound : s.tree.get? file = some (.file t.encode permissions))
    (hfree : s.found? (temporarySibling path) = none) (n : ModuleName) :
    let result := s.run (patch path n)
    ((register n t).content = t →
      result.1 = .ok (register n t).outcome ∧ result.2.tree = s.tree) ∧
    ((register n t).content ≠ t → isTooLong (temporarySibling path).name = true →
      (∃ f, result.1 = .error f) ∧ result.2.tree = s.tree) ∧
    ((register n t).content ≠ t → isTooLong (temporarySibling path).name = false →
      result.1 = .ok (register n t).outcome ∧
        result.2.tree.get? place =
          some (.file (register n t).content.encode permissions) ∧
        result.2.locate .target path = .ok place ∧
        result.2.tree.get? file = some (.file t.encode permissions) ∧
        ∀ other, other ≠ place → result.2.tree.get? other = s.tree.get? other) := by
  intro result
  have htext := Text.decode?_encode t
  have hread := readText_of_file hfile hfound htext
  refine ⟨fun hsame => ?_, fun hnew hlong => ?_, fun hnew hshort => ?_⟩
  · obtain ⟨houtcome, -, htree⟩ := run_patch_of_content_eq hread hsame
    exact ⟨houtcome, htree⟩
  · obtain ⟨parent, name, _, rfl, -⟩ := hs.exists_child hplace (by simp [hlink])
    rw [temporarySibling_child, Path.name_child] at hlong
    obtain ⟨hfailed, -, htree⟩ := run_patch_of_isTooLong hread hnew hlong
    exact ⟨hfailed, htree⟩
  · obtain ⟨houtcome, -, hleads, hget⟩ :=
      run_patch_of_content_ne hs hplace hlink hfile hfound htext hnew hfree hshort
    have hother : file ≠ place := by
      rintro rfl
      exact nomatch hfound.symm.trans hlink
    exact ⟨houtcome, (hget place).trans (if_pos rfl), hleads,
      (hget file).trans ((if_neg hother).trans hfound),
      fun other hne => (hget other).trans (if_neg hne)⟩

/-- Two links, one behind the other, to a private file. -/
theorem run_patch_of_link_private :
    let before : Text := "imports: []\r\n"
    let after : Text := "import \x7b UsersModule \x7d from './users/users.module';\r\n" ++
      "imports: [\r\n  UsersModule,\r\n]\r\n"
    let s : Session :=
      { tree := ⟨[(["lib"], .directory), (["lib", "root.ts"], .file before.encode 0o600),
          (["current"], .link "lib/root.ts"), (["app.module.ts"], .link "./current")]⟩
        here := [] }
    let result := s.run (patch (.ofText "app.module.ts") (.ofPascal "Users"))
    result.1 = .ok .inserted ∧
      result.2.tree.get? ["app.module.ts"] = some (.file after.encode 0o600) ∧
      result.2.tree.get? ["current"] = some (.link "lib/root.ts") ∧
      result.2.tree.get? ["lib", "root.ts"] = some (.file before.encode 0o600) := by
  intro before after s result
  have hplace : s.locate .entry (.ofText "app.module.ts") = .ok ["app.module.ts"] := by
    decide +kernel
  have hfile : s.locate .target (.ofText "app.module.ts") = .ok ["lib", "root.ts"] := by
    decide +kernel
  have hcontent : (register (.ofPascal "Users") before).content = after := by
    decide +kernel
  have houtcome : (register (.ofPascal "Users") before).outcome = .inserted := by
    decide +kernel
  obtain ⟨-, -, hreplaced⟩ := run_patch_of_link (by decide +kernel) hplace
    (show s.tree.get? ["app.module.ts"] = some (.link "./current") from rfl) hfile
    (show s.tree.get? ["lib", "root.ts"] = some (.file before.encode 0o600) from rfl)
    (by decide +kernel) (.ofPascal "Users")
  obtain ⟨hresult, hnew, -, hold, hothers⟩ :=
    hreplaced (by rw [hcontent]; decide +kernel) (by decide +kernel)
  exact ⟨hresult.trans (by rw [houtcome]), hnew.trans (by rw [hcontent]),
    (hothers ["current"] (by decide +kernel)).trans rfl, hold⟩

/-- An update does not write through a link. -/
theorem not_forall_patch_keeps_link :
    ¬ ∀ (s : Session) (path : Path) (place file : Location) (target t raw : Text)
        (permissions : Nat) (n : ModuleName), ModuleName.derive raw = .ok n → s.IsSound →
      s.locate .entry path = .ok place → s.tree.get? place = some (.link target) →
      s.locate .target path = .ok file →
      s.tree.get? file = some (.file t.encode permissions) →
      s.found? (temporarySibling path) = none →
      ∀ outcome s', s.run (patch path n) = (.ok outcome, s') →
        s'.tree.get? place = some (.link target) ∧
        (∃ bits, s'.tree.get? file =
          some (.file (register n t).content.encode bits)) ∧
        ∀ other, other ≠ file → s'.tree.get? other = s.tree.get? other := by
  intro h
  let t : Text := "imports: []"
  let s : Session :=
    { tree := ⟨[(["root.ts"], .file t.encode 0o644), (["app.module.ts"], .link "root.ts")]⟩
      here := [] }
  let result := s.run (patch (.ofText "app.module.ts") (.ofPascal "Users"))
  have hresult : result.1 = .ok .inserted := by decide +kernel
  have hreplaced : result.2.tree.get? ["app.module.ts"] ≠ some (.link "root.ts") := by
    decide +kernel
  have hkept := h s (.ofText "app.module.ts") ["app.module.ts"] ["root.ts"] "root.ts" t
    "users" 0o644 (.ofPascal "Users") rfl (by decide +kernel) (by decide +kernel) rfl
    (by decide +kernel) rfl (by decide +kernel) .inserted result.2
    (Prod.ext hresult rfl)
  exact hreplaced hkept.1

end Session

end ModuleScaffold
