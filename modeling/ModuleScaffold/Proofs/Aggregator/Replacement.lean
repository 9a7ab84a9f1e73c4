import ModuleScaffold.Proofs.Aggregator.Sibling
import ModuleScaffold.Proofs.Files.Plain

/-!
# An update on any host

A file gets a new text in three steps: the text is written to the temporary sibling, the
sibling takes over the permission bits, and it is moved.  Up to the move nothing changes
but the file that the path of the sibling leads to: whatever is refused, and even if a
write is refused behind its first bytes, it is as it was or it was written.  The handler
of a refusal then removes the sibling, unless that is refused as well.

Once something is written the files are no reason for a refusal any more, so an update
that fails behind the write was refused by the platform itself.

An update that fails for another cause than a refusal has found bytes that are no text.
-/

namespace ModuleScaffold

section

variable {m : Type → Type} [Monad m] [MonadExceptOf Failure m] [FileAccess m]

theorem readText_eq (path : Path) :
    (readText path : m Text) = FileAccess.read path >>= fun bytes =>
      match Text.decode? bytes with
      | some t => pure t
      | none => throw (.notUtf8 path) := rfl

variable [Reporting m]

/-- What an update does once it has read a text. -/
def updateText (path : Path) (n : ModuleName) (t : Text) : m Outcome := do
  (register n t).notes.forM fun found => Reporting.note (.registration found)
  if (register n t).content ≠ t then
    replaceText path (register n t).content
    Reporting.note (.wroteAggregator path)
  return (register n t).outcome

theorem patch_eq (path : Path) (n : ModuleName) :
    (patch path n : m Outcome) = FileAccess.isThere path >>= fun there =>
      if there then readText path >>= updateText path n
      else Reporting.note (.aggregatorMissing path) >>= fun _ => pure .skipped := rfl

end

/-- The platform itself refuses a step of a replacement. -/
def Platform.RefusesReplacement (platform : Platform) (path : Path) : Prop :=
  platform.Refuses .write (temporarySibling path) ∨ platform.Refuses .readPermissions path ∨
    platform.Refuses .setPermissions (temporarySibling path) ∨
    platform.Refuses .move (temporarySibling path)

namespace Host

variable {platform : Platform} {h h' : Host} {path : Path} {t : Text} {n : ModuleName}
  {r : Except HostFailure Unit} {e : HostFailure}

/-- A write fails and changes nothing, for the files or for the platform, or a file is
written, and perhaps the platform refuses the rest. -/
theorem write_cases {bytes : ByteArray}
    (hrun : h.run (FileAccess.write path bytes : HostM platform Unit) = (r, h')) :
    (∃ f, r = .error f) ∧ h'.session = h.session ∧
        (platform.Refuses .write path ∨ ¬ h.session.TakesFile path) ∨
      h.session.WrittenThrough path h'.session := by
  rcases run_write_cases platform h path bytes with
    hwrite | ⟨hrefuses, -, cause, hwrite | ⟨count, hwrite⟩⟩
  · rcases Session.write_cases h.session path bytes with
      ⟨⟨f, hsession⟩, hno⟩ | ⟨s, hsession, hwritten⟩
    all_goals
      rw [run_lift_eq (h := h.counted) hsession, hrun] at hwrite
      cases hwrite
    · exact .inl ⟨⟨_, rfl⟩, rfl, .inr hno⟩
    · exact .inr hwritten
  · cases hrun.symm.trans hwrite
    exact .inl ⟨⟨_, rfl⟩, rfl, .inl hrefuses⟩
  · rw [run_bind] at hwrite
    rcases Session.write_cases h.session path (bytes.extract 0 count) with
      ⟨⟨f, hsession⟩, -⟩ | ⟨s, hsession, hwritten⟩
    all_goals
      rw [run_lift_eq (h := h.counted) hsession, hrun] at hwrite
      cases hwrite
    · exact .inl ⟨⟨_, rfl⟩, rfl, .inl hrefuses⟩
    · exact .inr hwritten

/-- Copying permission bits to the file that was written keeps what the write did. -/
theorem maintains_copyPermissions (platform : Platform) (s : Session)
    (source path : Path) :
    Maintains (s.WrittenThrough path)
      (FileAccess.copyPermissions source path : HostM platform Unit) := by
  refine Maintains.bind (maintains_operate .readPermissions source fun s' hwritten => ?_)
    fun bits => maintains_operate .setPermissions path fun s' hwritten => ?_
  · rwa [Session.run_permissions]
  · exact hwritten.setPermissions bits

/-- A move is made, or it fails and changes nothing. -/
theorem move_cases {source target : Path}
    (hrun : h.run (FileAccess.move source target : HostM platform Unit) = (r, h')) :
    (∃ f, r = .error f) ∧ h'.session = h.session ∨
      r = .ok () ∧ h.session.Moved source target h'.session := by
  rcases run_operate_cases platform h .move source (Session.move source target) with
    hmove | ⟨-, -, cause, hmove⟩
  · rcases Session.move_cases h.session source target with
      ⟨f, hsession⟩ | ⟨s, hsession, hmoved⟩
    all_goals
      cases hrun.symm.trans (hmove.trans (run_lift_eq (h := h.counted) hsession))
    · exact .inl ⟨⟨_, rfl⟩, rfl⟩
    · exact .inr ⟨rfl, hmoved⟩
  · cases hrun.symm.trans hmove
    exact .inl ⟨⟨_, rfl⟩, rfl⟩

/-- What is to be removed is removed as in a session, unless the platform refuses it. -/
theorem removeIfThere_cases (platform : Platform) (h : Host) (path : Path) :
    let s := (h.run (removeIfThere path : HostM platform Unit)).2.session
    s = h.session ∧ platform.Refuses .remove path ∨ h.session.Removed path s := by
  have heq : (FileAccess.remove path : HostM platform Unit) =
      operate .remove path (FileAccess.remove path) := rfl
  rw [removeIfThere, heq, run_tryCatch]
  rcases run_operate_cases platform h .remove path (FileAccess.remove path) with
    hrun | ⟨hrefuses, -, cause, hrun⟩
  · right
    have hremoved := h.session.removed_run_remove path
    rcases hremove : h.session.run (FileAccess.remove path) with ⟨f | _, s⟩
    all_goals
      rw [hremove] at hremoved
      rw [hrun, run_lift_eq (h := h.counted) hremove]
      dsimp only [Except.mapError]
    · split <;> exact hremoved
    · exact hremoved
  · left
    rw [hrun]
    dsimp only
    split <;> exact ⟨rfl, hrefuses⟩

/-- The steps of a replacement go as far as the move, or one of them fails: the write, and
nothing changes, or one behind it. -/
theorem replacementSteps_cases
    (hrun : h.run (replacementSteps path t : HostM platform Unit) = (r, h')) :
    (∃ f, r = .error f) ∧
        (h'.session = h.session ∧ (platform.Refuses .write (temporarySibling path) ∨
            ¬ h.session.TakesFile (temporarySibling path)) ∨
          h.session.WrittenThrough (temporarySibling path) h'.session) ∨
      r = .ok () ∧ ∃ s, h.session.WrittenThrough (temporarySibling path) s ∧
        s.Moved (temporarySibling path) path h'.session := by
  rw [replacementSteps] at hrun
  rcases hwrite : h.run (FileAccess.write (temporarySibling path) t.encode :
    HostM platform Unit) with ⟨f | _, h₁⟩
  · rw [run_bind_of_error hwrite] at hrun
    cases hrun
    exact .inl ⟨⟨f, rfl⟩, (write_cases hwrite).imp_left And.right⟩
  rw [run_bind_of_ok hwrite] at hrun
  have hwritten : h.session.WrittenThrough (temporarySibling path) h₁.session := by
    rcases write_cases hwrite with ⟨⟨_, hfail⟩, -⟩ | hwritten
    · cases hfail
    · exact hwritten
  have hcopied := maintains_copyPermissions platform h.session path (temporarySibling path)
    h₁ hwritten
  rcases hcopy : h₁.run (FileAccess.copyPermissions path (temporarySibling path) :
    HostM platform Unit) with ⟨f | _, h₂⟩ <;> rw [hcopy] at hcopied
  · rw [run_bind_of_error hcopy] at hrun
    cases hrun
    exact .inl ⟨⟨f, rfl⟩, .inr hcopied⟩
  · rw [run_bind_of_ok hcopy] at hrun
    rcases move_cases hrun with ⟨hfail, hsame⟩ | ⟨rfl, hmoved⟩
    · exact .inl ⟨hfail, .inr (hsame ▸ hcopied)⟩
    · exact .inr ⟨rfl, h₂.session, hcopied, hmoved⟩

/-- Behind the write the steps fail only if the platform refuses one. -/
theorem replacementSteps_error_cases {file : Location} {bytes : ByteArray}
    {permissions : Nat} (hfile : h.session.locate .target path = .ok file)
    (hfound : h.session.tree.get? file = some (.file bytes permissions))
    (hrun : h.run (replacementSteps path t : HostM platform Unit) = (.error e, h')) :
    h'.session = h.session ∧ (platform.Refuses .write (temporarySibling path) ∨
        ¬ h.session.TakesFile (temporarySibling path)) ∨
      h.session.WrittenThrough (temporarySibling path) h'.session ∧
        platform.RefusesReplacement path := by
  by_cases hrefuses : platform.RefusesReplacement path
  · rcases replacementSteps_cases hrun with ⟨-, hcases⟩ | ⟨hok, -⟩
    · exact hcases.imp_right fun hwritten => ⟨hwritten, hrefuses⟩
    · contradiction
  · obtain ⟨hwrite, hread, hset, hmove⟩ := by
      simpa only [Platform.RefusesReplacement, not_or] using hrefuses
    have hmirrors : Mirrors (replacementSteps path t : HostM platform Unit)
        (replacementSteps path t) :=
      (mirrors_write hwrite _).bind fun _ =>
        (mirrors_copyPermissions hread hset).bind fun _ => mirrors_operate hmove _
    obtain ⟨hresult, hsession⟩ := hmirrors h
    rw [hrun] at hresult hsession
    rcases Session.write_cases h.session (temporarySibling path) t.encode with
      ⟨⟨f, hfail⟩, hno⟩ | ⟨s, hwritten, -⟩
    · refine .inl ⟨?_, .inr hno⟩
      rw [hsession, replacementSteps, Session.run_bind_of_error hfail]
    · obtain ⟨_, _, _, _, -, -, -, -, hsteps⟩ :=
        Session.run_replacementSteps_of_written hfile hfound hwritten
      rw [hsteps] at hresult
      cases hresult

theorem refuses_replacementSteps (hclean : path.IsClean) :
    Refuses (replacementSteps path t : HostM platform Unit) :=
  have hsibling := isClean_temporarySibling hclean
  (refuses_write hsibling _).bind fun _ =>
    (refuses_copyPermissions hclean hsibling).bind fun _ => refuses_move hsibling hclean

/-- A replacement does its steps, or it fails and removes the sibling, if it can. -/
theorem replaceText_cases (hclean : path.IsClean)
    (hrun : h.run (replaceText path t : HostM platform Unit) = (r, h')) :
    r = .ok () ∧ h.run (replacementSteps path t : HostM platform Unit) = (.ok (), h') ∨
      (∃ f, r = .error f) ∧ ∃ f h₁,
        h.run (replacementSteps path t : HostM platform Unit) = (.error f, h₁) ∧
        (h'.session = h₁.session ∧ platform.Refuses .remove (temporarySibling path) ∨
          h₁.session.Removed (temporarySibling path) h'.session) := by
  rw [replaceText_eq, run_tryCatch] at hrun
  rcases hsteps : h.run (replacementSteps path t : HostM platform Unit) with ⟨f | _, h₁⟩
  · right
    obtain ⟨cause, other, rfl⟩ := refuses_replacementSteps hclean h f (by rw [hsteps])
    have hcleanup := removeIfThere_cases platform h₁ (temporarySibling path)
    rw [hsteps] at hrun
    dsimp only at hrun
    rw [run_bind] at hrun
    rcases hremove : h₁.run (removeIfThere (temporarySibling path) : HostM platform Unit)
      with ⟨f' | _, h₂⟩
    all_goals
      rw [hremove] at hrun hcleanup
      cases hrun
      exact ⟨⟨_, rfl⟩, _, h₁, rfl, hcleanup⟩
  · rw [hsteps] at hrun
    cases hrun
    exact .inl ⟨rfl, rfl⟩

theorem isClean_of_isThere
    (hthere : h.run (FileAccess.isThere path : HostM platform Bool) = (.ok true, h')) :
    path.IsClean := by
  by_contra hclean
  rw [run_isThere, looked_of_not_isClean hclean] at hthere
  cases hthere

theorem exists_run_noteAll (platform : Platform) (h : Host) (found : List RegistrationNote) :
    ∃ h', h.run (found.forM fun note => Reporting.note (.registration note) :
        HostM platform PUnit) = (.ok (), h') ∧ h.session.SameFiles h'.session := by
  induction found generalizing h with
  | nil => exact ⟨h, rfl, .refl _⟩
  | cons note found ih =>
      obtain ⟨h', hrun, hsame⟩ :=
        ih { h with session := h.session.noting (.registration note) }
      refine ⟨h', (run_bind_of_ok (run_note h _) _).trans hrun, ?_⟩
      exact ((Session.SameFiles.refl _).noting _).trans hsame

/-- An update that has read a text leaves the files alone, or replaces the file. -/
theorem updateText_cases {r : Except HostFailure Outcome}
    (hrun : h.run (updateText path n t : HostM platform Outcome) = (r, h')) :
    h.session.SameFiles h'.session ∨
      ∃ (t' : Text) (r' : Except HostFailure Unit) (h₁ h₂ : Host),
        h.session.SameFiles h₁.session ∧
        h₁.run (replaceText path t' : HostM platform Unit) = (r', h₂) ∧
        h₂.session.SameFiles h'.session ∧
        (r' = .ok () ∧ (∃ outcome, r = .ok outcome) ∨ ∃ f, r' = .error f ∧ r = .error f) := by
  obtain ⟨h₁, hnotes, hsame⟩ := exists_run_noteAll platform h (register n t).notes
  rw [updateText, run_bind_of_ok hnotes] at hrun
  split at hrun
  · right
    rcases hreplace : h₁.run (replaceText path (register n t).content : HostM platform Unit)
      with ⟨f | _, h₂⟩
    · rw [run_bind_of_error hreplace] at hrun
      cases hrun
      exact ⟨_, _, h₁, h', hsame, hreplace, .refl _, .inr ⟨f, rfl, rfl⟩⟩
    · rw [run_bind_of_ok hreplace, run_bind_of_ok (run_note h₂ _)] at hrun
      cases hrun
      exact ⟨_, _, h₁, h₂, hsame, hreplace, (Session.SameFiles.refl _).noting _,
        .inl ⟨rfl, _, rfl⟩⟩
  · cases hrun
    exact .inl hsame

theorem maintains_readText {I : Session → Prop} (path : Path) :
    Maintains I (readText path : HostM platform Text) := by
  have hread : Maintains I (FileAccess.read path : HostM platform ByteArray) := by
    refine maintains_operate .read path fun s hI => ?_
    have hsame : (s.run (FileAccess.read path)).2 = s := by rw [Session.run_read]
    exact hsame.symm ▸ hI
  refine hread.bind fun bytes => ?_
  cases Text.decode? bytes with
  | none => exact maintains_throw _
  | some t => exact maintains_pure t

/-- A text that is read is that of a file. -/
theorem exists_file_of_readText
    (hrun : h.run (readText path : HostM platform Text) = (.ok t, h')) :
    ∃ file bytes permissions, h.session.locate .target path = .ok file ∧
      h.session.tree.get? file = some (.file bytes permissions) := by
  have heq : (FileAccess.read path : HostM platform ByteArray) =
      operate .read path (FileAccess.read path) := rfl
  rw [readText_eq, heq] at hrun
  rcases run_operate_cases platform h .read path (FileAccess.read path) with
    hread | ⟨-, -, cause, hread⟩
  · rw [run_lift] at hread
    cases hbytes : (h.session.run (FileAccess.read path)).1 with
    | error f =>
        rw [session_counted, hbytes] at hread
        rw [run_bind_of_error hread] at hrun
        cases hrun
    | ok bytes =>
        obtain ⟨file, permissions, hfile, hfound⟩ := Session.read_cases hbytes
        exact ⟨file, bytes, permissions, hfile, hfound⟩
  · rw [run_bind_of_error hread] at hrun
    cases hrun

/-- The files behind an update: nothing has changed; or the text that it wrote was moved
to the path; or it failed, with something written only if the platform refused a step, and
the sibling was removed, unless the platform refused that. -/
theorem patch_cases {r : Except HostFailure Outcome}
    (hrun : h.run (patch path n : HostM platform Outcome) = (r, h')) :
    h.session.SameFiles h'.session ∨
      ∃ file bytes permissions s, h.session.locate .target path = .ok file ∧
        h.session.tree.get? file = some (.file bytes permissions) ∧
        ((∃ outcome, r = .ok outcome) ∧
            h.session.WrittenThrough (temporarySibling path) s ∧
            s.Moved (temporarySibling path) path h'.session ∨
          (∃ f, r = .error f) ∧
            (h.session.SameFiles s ∧ (platform.Refuses .write (temporarySibling path) ∨
                ¬ h.session.TakesFile (temporarySibling path)) ∨
              h.session.WrittenThrough (temporarySibling path) s ∧
                platform.RefusesReplacement path) ∧
            (s.SameFiles h'.session ∧ platform.Refuses .remove (temporarySibling path) ∨
              s.Removed (temporarySibling path) h'.session)) := by
  have hlook : h.session.SameFiles
      (h.run (FileAccess.isThere path : HostM platform Bool)).2.session :=
    maintains_isThere path h (.refl _)
  rw [patch_eq] at hrun
  rcases hthere : h.run (FileAccess.isThere path : HostM platform Bool) with
    ⟨f | _ | _, h₁⟩ <;> rw [hthere] at hlook
  · rw [run_bind_of_error hthere] at hrun
    cases hrun
    exact .inl hlook
  · rw [run_bind_of_ok hthere] at hrun
    cases hrun
    exact .inl (hlook.noting _)
  have hclean := isClean_of_isThere hthere
  rw [run_bind_of_ok hthere, if_pos rfl] at hrun
  have hread : h.session.SameFiles
      (h₁.run (readText path : HostM platform Text)).2.session :=
    maintains_readText path h₁ hlook
  rcases htext : h₁.run (readText path : HostM platform Text) with ⟨f | t, h₂⟩ <;>
    rw [htext] at hread
  · rw [run_bind_of_error htext] at hrun
    cases hrun
    exact .inl hread
  rw [run_bind_of_ok htext] at hrun
  obtain ⟨file, bytes, permissions, hfile, hfound⟩ := exists_file_of_readText htext
  rcases updateText_cases hrun with hsame | ⟨t', r', h₃, h₄, hsame, hreplace, hsame', hr⟩
  · exact .inl (hread.trans hsame)
  have hstart := hread.trans hsame
  rw [hlook.locate_eq] at hfile
  rw [hlook.tree] at hfound
  right
  rcases replaceText_cases hclean hreplace with
    ⟨rfl, hsteps⟩ | ⟨⟨f, rfl⟩, f', h₅, hsteps, hremoved⟩
  · rcases replacementSteps_cases hsteps with ⟨⟨_, hfail⟩, -⟩ | ⟨-, s, hwritten, hmoved⟩
    · cases hfail
    rcases hr with ⟨-, houtcome⟩ | ⟨_, hfail, -⟩
    · exact ⟨file, bytes, permissions, s, hfile, hfound,
        .inl ⟨houtcome, hstart.writtenThrough hwritten, hmoved.sameFiles hsame'⟩⟩
    · cases hfail
  · rcases hr with ⟨hok, -⟩ | ⟨f'', -, rfl⟩
    · cases hok
    refine ⟨file, bytes, permissions, h₅.session, hfile, hfound, .inr ⟨⟨f'', rfl⟩, ?_, ?_⟩⟩
    · rcases replacementSteps_error_cases ((hstart.locate_eq _).trans hfile)
        (hstart.tree ▸ hfound) hsteps with ⟨hsame'', hno⟩ | ⟨hwritten, hrefuses⟩
      · exact .inl ⟨hsame'' ▸ hstart, hno.imp_right fun htakes =>
          fun h => htakes (hstart.takesFile_iff.2 h)⟩
      · exact .inr ⟨hstart.writtenThrough hwritten, hrefuses⟩
    · rcases hremoved with ⟨hkept, hrefuses⟩ | hremoved
      · exact .inl ⟨hkept ▸ hsame', hrefuses⟩
      · exact .inr (hremoved.sameFiles hsame')

/-- Where no file and no link is at the temporary sibling, an update leaves every entry as
it was; or it succeeds and the entry at the end of its path is a file from then on; or it
fails and the sibling is left, since the platform refused to remove it. -/
theorem patch_cases_of_free {r : Except HostFailure Outcome}
    (hfree : ∀ entry, h.session.found? (temporarySibling path) = some entry →
      entry = .directory)
    (hrun : h.run (patch path n : HostM platform Outcome) = (r, h')) :
    (∀ other, h'.session.tree.get? other = h.session.tree.get? other) ∨
      (∃ outcome, r = .ok outcome) ∧ (∃ place found bytes permissions,
        h.session.locate .entry path = .ok place ∧
        h.session.tree.get? place = some found ∧ found ≠ .directory ∧
        ∀ other, h'.session.tree.get? other =
          if other = place then some (.file bytes permissions)
          else h.session.tree.get? other) ∨
      platform.Refuses .remove (temporarySibling path) ∧ ∃ sibling bytes permissions,
        h.session.locate .entry (temporarySibling path) = .ok sibling ∧
        h.session.tree.get? sibling = none ∧
        ∀ other, h'.session.tree.get? other =
          if other = sibling then some (.file bytes permissions)
          else h.session.tree.get? other := by
  rcases patch_cases hrun with
    hsame | ⟨file, bytes, permissions, s, hfile, hfound, ⟨hok, hwritten, hmoved⟩ |
      ⟨-, ⟨hsame, -⟩ | ⟨hwritten, -⟩, ⟨hsame', hrefuses⟩ | hremoved⟩⟩
  · exact .inl fun other => by rw [hsame.tree]
  · exact .inr (.inl ⟨hok, hwritten.exists_replaced hmoved hfree hfile hfound⟩)
  · exact .inl fun other => by rw [(hsame.trans hsame').tree]
  · exact .inl fun other => by rw [(hsame.removed hremoved).tree_eq hfree]
  · obtain ⟨sibling, bytes', permissions', hsibling, hnone, htree⟩ := hwritten.exists_new hfree
    refine .inr (.inr ⟨hrefuses, sibling, bytes', permissions', hsibling, hnone,
      fun other => ?_⟩)
    rw [hsame'.tree, htree, FileTree.get?_put _ (FileTree.ne_nil_of_get?_eq_none hnone)]
  · exact .inl (hwritten.get?_of_removed hremoved hfree)

end Host

end ModuleScaffold
