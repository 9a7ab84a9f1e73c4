import ModuleScaffold.Proofs.Aggregator.Patch

/-!
# The temporary sibling of a file

What is written to the path of the temporary sibling goes to its place, or through a link
that is there; it is never the place of the entry at the end of the path itself.  Writing
there, removing what is there and moving it are told here by what they do to the tree.
-/

namespace ModuleScaffold

theorem isClean_temporarySibling {path : Path} (hclean : path.IsClean) :
    (temporarySibling path).IsClean := by
  intro other hother
  rcases List.mem_append.1 hother with hparent | hlast
  · exact hclean other (List.dropLast_subset _ hparent)
  · rw [List.mem_singleton.1 hlast]
    refine not_mem_temporaryName (by decide) ?_
    rw [Path.name]
    cases hname : path.names.getLast? with
    | none => simp
    | some last => exact hclean last (List.mem_of_getLast? hname)

namespace Session

/-- The tree and the current directory are the same. -/
structure SameFiles (s s' : Session) : Prop where
  here : s'.here = s.here
  tree : s'.tree = s.tree

/-- A file can be written where the path leads. -/
def TakesFile (s : Session) (path : Path) : Prop :=
  ∃ place, s.locate .file path = .ok place ∧ s.tree.Writable place

/-- A file was written where the path leads. -/
def WrittenThrough (s : Session) (path : Path) (s' : Session) : Prop :=
  s'.here = s.here ∧ ∃ place bytes permissions, s.locate .file path = .ok place ∧
    s.tree.Writable place ∧ s'.tree = s.tree.put place (.file bytes permissions)

/-- The file or the link at the path was removed, if there was one. -/
def Removed (s : Session) (path : Path) (s' : Session) : Prop :=
  s'.here = s.here ∧
    ((∀ entry, s.found? path = some entry → entry = .directory) ∧ s'.tree = s.tree ∨
      ∃ place entry, s.locate .entry path = .ok place ∧ s.tree.get? place = some entry ∧
        entry ≠ .directory ∧ s'.tree = s.tree.erase place)

/-- The entry at one path was moved to the other. -/
def Moved (s : Session) (source target : Path) (s' : Session) : Prop :=
  s'.here = s.here ∧ ∃ origin goal entry, s.locate .entry source = .ok origin ∧
    s.locate .entry target = .ok goal ∧ s.tree.get? origin = some entry ∧
    s'.tree = (s.tree.erase origin).put goal entry

variable {s s' : Session} {path source target : Path} {goal : Goal}
  {place place' : Location}

theorem SameFiles.refl (s : Session) : s.SameFiles s := ⟨rfl, rfl⟩

theorem SameFiles.trans {s'' : Session} (h : s.SameFiles s') (h' : s'.SameFiles s'') :
    s.SameFiles s'' :=
  ⟨h'.here.trans h.here, h'.tree.trans h.tree⟩

theorem SameFiles.noting (h : s.SameFiles s') (step : Note) :
    s.SameFiles (s'.noting step) :=
  ⟨(here_noting _ _).trans h.here, (tree_noting _ _).trans h.tree⟩

theorem SameFiles.locate_eq (h : s.SameFiles s') (goal : Goal) :
    s'.locate goal path = s.locate goal path :=
  locate_congr h.tree h.here

theorem SameFiles.takesFile_iff (h : s.SameFiles s') :
    s'.TakesFile path ↔ s.TakesFile path := by
  simp only [TakesFile, h.locate_eq, h.tree]

theorem SameFiles.writtenThrough {s'' : Session} (h : s.SameFiles s')
    (hwritten : s'.WrittenThrough path s'') : s.WrittenThrough path s'' := by
  simpa only [WrittenThrough, h.locate_eq, h.tree, h.here] using hwritten

theorem SameFiles.removed {s'' : Session} (h : s.SameFiles s')
    (hremoved : s'.Removed path s'') : s.Removed path s'' := by
  simpa only [Removed, found?, h.locate_eq, h.tree, h.here] using hremoved

theorem Removed.sameFiles {s'' : Session} (hremoved : s.Removed path s')
    (h : s'.SameFiles s'') : s.Removed path s'' := by
  simpa only [Removed, h.tree, h.here] using hremoved

theorem Moved.sameFiles {s'' : Session} (hmoved : s.Moved source target s')
    (h : s'.SameFiles s'') : s.Moved source target s'' := by
  simpa only [Moved, h.tree, h.here] using hmoved

/-- Other permission bits change no more than the write did. -/
theorem WrittenThrough.setPermissions (h : s.WrittenThrough path s') (bits : Nat) :
    s.WrittenThrough path (s'.run (setPermissions path bits)).2 := by
  obtain ⟨hhere, place, bytes, permissions, hplace, hwritable, htree⟩ := h
  let written : Session := { s with tree := s.tree.put place (.file bytes permissions) }
  have hlocate : s'.locate .target path = .ok place :=
    (locate_congr (s := written) htree hhere).trans (locate_target_of_written hwritable
      (locate_target_of_locate hplace (.inl nofun)) (.inl rfl) bytes permissions)
  have hfound : s'.tree.get? place = some (.file bytes permissions) := by
    rw [htree, FileTree.get?_put _ hwritable.ne_nil, if_pos rfl]
  rw [run_setPermissions, hlocate]
  simp only [hfound]
  exact ⟨hhere, place, bytes, bits, hplace, hwritable, by rw [htree, FileTree.put_put]⟩

theorem write_cases (s : Session) (path : Path) (bytes : ByteArray) :
    (∃ f, s.run (FileAccess.write path bytes) = (.error f, s)) ∧ ¬ s.TakesFile path ∨
      ∃ s', s.run (FileAccess.write path bytes) = (.ok (), s') ∧
        s.WrittenThrough path s' := by
  by_cases htakes : s.TakesFile path
  · obtain ⟨place, hplace, hwritable⟩ := htakes
    right
    rw [run_write, hplace]
    rcases hwritable with hnone | ⟨_, _, hfile⟩
    · simp only [hnone]
      exact ⟨_, rfl, rfl, place, bytes, _, hplace, .inl hnone, rfl⟩
    · simp only [hfile]
      exact ⟨_, rfl, rfl, place, bytes, _, hplace, .inr ⟨_, _, hfile⟩, rfl⟩
  · rcases run_write_cases s path bytes with
      hrefused | ⟨place, _, hplace, hwritable, -, -⟩
    · exact .inl ⟨hrefused, htakes⟩
    · exact absurd ⟨place, hplace, hwritable⟩ htakes

theorem removed_run_remove (s : Session) (path : Path) :
    s.Removed path (s.run (FileAccess.remove path)).2 := by
  rcases run_remove_cases s path with ⟨f, hrun⟩ | ⟨place, entry, hplace, hfound, hkind, hrun⟩
  · rw [hrun]
    refine ⟨rfl, .inl ⟨fun entry hentry => ?_, rfl⟩⟩
    by_contra hkind
    rw [run_remove] at hrun
    rw [found?] at hentry
    split at hentry
    next place hplace =>
      simp only [hplace, hentry] at hrun
      cases entry <;> first | contradiction | cases hrun
    next => contradiction
  · rw [hrun]
    exact ⟨rfl, .inr ⟨place, entry, hplace, hfound, hkind, rfl⟩⟩

theorem move_cases (s : Session) (source target : Path) :
    (∃ f, s.run (FileAccess.move source target) = (.error f, s)) ∨
      ∃ s', s.run (FileAccess.move source target) = (.ok (), s') ∧
        s.Moved source target s' := by
  rcases run_move_cases s source target with
    hrefused | ⟨origin, goal, entry, horigin, hgoal, hentry, -, hrun⟩
  · exact .inl hrefused
  · exact .inr ⟨_, hrun, rfl, origin, goal, entry, horigin, hgoal, hentry, rfl⟩

theorem temporarySibling_eq_child (path : Path) :
    temporarySibling path = path.parent.child (temporaryName path.name) := rfl

/-- The temporary file has a place of its own. -/
theorem ne_of_locate_temporarySibling (h : s.locate .entry path = .ok place)
    (h' : s.locate .entry (temporarySibling path) = .ok place') : place ≠ place' := by
  rw [temporarySibling_eq_child] at h'
  obtain ⟨directory, hparent, -, hcases⟩ :=
    locate_child_cases h' (leadsDown_temporaryName path.name)
  obtain rfl := hcases.resolve_right fun hlink => hlink.1 rfl
  intro hsame
  have hlength := congrArg List.length hsame
  rcases hparent.locate_entry_cases h with rfl | rfl | rfl
  · simp at hlength
  · simp at hlength
  · rw [List.append_cancel_left_eq, List.singleton_inj] at hsame
    have hlonger := congrArg List.length hsame
    simp [temporaryName] at hlonger
    omega

/-- What is written to the temporary sibling goes to its place, or through a link that is
there. -/
theorem exists_sibling_of_locate (h : s.locate goal (temporarySibling path) = .ok place) :
    ∃ sibling, s.locate .entry (temporarySibling path) = .ok sibling ∧
      (place = sibling ∨ ∃ target, s.tree.get? sibling = some (.link target)) := by
  rw [temporarySibling_eq_child] at h ⊢
  obtain ⟨directory, hparent, hname, hcases⟩ :=
    locate_child_cases h (leadsDown_temporaryName path.name)
  exact ⟨_, hparent.locate_child hname (.inl rfl), hcases.imp_right And.right⟩

/-- Without a link in its place the temporary sibling is written there. -/
theorem locate_file_temporarySibling
    (h : s.locate .entry (temporarySibling path) = .ok place)
    (hlink : ∀ target, s.tree.get? place ≠ some (.link target)) :
    s.locate .file (temporarySibling path) = .ok place := by
  rw [temporarySibling_eq_child] at h ⊢
  obtain ⟨directory, hparent, hname, hcases⟩ :=
    locate_child_cases h (leadsDown_temporaryName path.name)
  obtain rfl := hcases.resolve_right fun hlink => hlink.1 rfl
  exact hparent.locate_child hname (.inr hlink)

/-- A file that is written does not change where the temporary sibling is. -/
theorem WrittenThrough.locate_entry (h : s.WrittenThrough (temporarySibling path) s')
    (hplace : s.locate .entry (temporarySibling path) = .ok place) :
    s'.locate .entry (temporarySibling path) = .ok place := by
  obtain ⟨hhere, written, bytes, permissions, -, hwritable, htree⟩ := h
  refine locate_of_keepsKinds ?_ hhere hplace fun _ => .inl rfl
  rw [htree]
  exact hwritable.keepsKinds_put bytes permissions

/-- What is written ends in a file or a link in the place of the sibling. -/
theorem WrittenThrough.exists_sibling (h : s.WrittenThrough (temporarySibling path) s') :
    ∃ sibling entry, s.locate .entry (temporarySibling path) = .ok sibling ∧
      s'.tree.get? sibling = some entry ∧ entry ≠ .directory := by
  obtain ⟨-, written, bytes, permissions, hwritten, hwritable, htree⟩ := h
  obtain ⟨sibling, hsibling, hcases⟩ := exists_sibling_of_locate hwritten
  have hput := FileTree.get?_put s.tree hwritable.ne_nil (.file bytes permissions) sibling
  rw [← htree] at hput
  by_cases hsame : sibling = written
  · exact ⟨sibling, _, hsibling, hput.trans (if_pos hsame), by simp⟩
  · obtain ⟨target, hlink⟩ := hcases.resolve_left (Ne.symm hsame)
    exact ⟨sibling, _, hsibling, hput.trans ((if_neg hsame).trans hlink), by simp⟩

/-- Where no file and no link is at the sibling, what is written there is a new file. -/
theorem WrittenThrough.exists_new (h : s.WrittenThrough (temporarySibling path) s')
    (hfree : ∀ entry, s.found? (temporarySibling path) = some entry → entry = .directory) :
    ∃ sibling bytes permissions, s.locate .entry (temporarySibling path) = .ok sibling ∧
      s.tree.get? sibling = none ∧ s'.tree = s.tree.put sibling (.file bytes permissions) := by
  obtain ⟨-, written, bytes, permissions, hwritten, hwritable, htree⟩ := h
  obtain ⟨sibling, hsibling, hcases⟩ := exists_sibling_of_locate hwritten
  simp only [found?, hsibling] at hfree
  have hnoLink : ¬ ∃ target, s.tree.get? sibling = some (.link target) := by
    rintro ⟨target, hlink⟩
    cases hfree _ hlink
  obtain rfl := hcases.resolve_right hnoLink
  have hnone : s.tree.get? written = none := by
    rcases hwritable with hnone | ⟨_, _, hfile⟩
    · exact hnone
    · cases hfree _ hfile
  exact ⟨written, bytes, permissions, hsibling, hnone, htree⟩

theorem Removed.tree_eq (h : s.Removed path s')
    (hfree : ∀ entry, s.found? path = some entry → entry = .directory) :
    s'.tree = s.tree := by
  obtain ⟨-, ⟨-, htree⟩ | ⟨place, entry, hplace, hentry, hkind, -⟩⟩ := h
  · exact htree
  · exact absurd (hfree entry (by simp only [found?, hplace, hentry])) hkind

/-- A new sibling that is removed again leaves the tree as it was. -/
theorem WrittenThrough.get?_of_removed {s₁ : Session}
    (h : s.WrittenThrough (temporarySibling path) s₁)
    (hremoved : s₁.Removed (temporarySibling path) s')
    (hfree : ∀ entry, s.found? (temporarySibling path) = some entry → entry = .directory)
    (other : Location) : s'.tree.get? other = s.tree.get? other := by
  obtain ⟨sibling, bytes, permissions, hsibling, hnone, htree⟩ := h.exists_new hfree
  have hroot := FileTree.ne_nil_of_get?_eq_none hnone
  have hput := FileTree.get?_put s.tree hroot (.file bytes permissions)
  have hsibling₁ := h.locate_entry hsibling
  have hfound : s₁.found? (temporarySibling path) = some (.file bytes permissions) := by
    simp only [found?, hsibling₁, htree, hput, if_true]
  obtain ⟨-, ⟨hnone, -⟩ | ⟨sibling', _, hsibling', -, -, htree'⟩⟩ := hremoved
  · cases hnone _ hfound
  · obtain rfl := Except.ok.inj (hsibling₁.symm.trans hsibling')
    rw [htree', FileTree.get?_erase _ hroot, htree, hput]
    split
    next hother => rw [hother, hnone]
    next => rfl

/-- A new sibling that is moved takes the place of the entry. -/
theorem WrittenThrough.exists_replaced {s₁ : Session} {file : Location} {bytes : ByteArray}
    {permissions : Nat} (h : s.WrittenThrough (temporarySibling path) s₁)
    (hmoved : s₁.Moved (temporarySibling path) path s')
    (hfree : ∀ entry, s.found? (temporarySibling path) = some entry → entry = .directory)
    (hfile : s.locate .target path = .ok file)
    (hfound : s.tree.get? file = some (.file bytes permissions)) :
    ∃ place found bytes permissions, s.locate .entry path = .ok place ∧
      s.tree.get? place = some found ∧ found ≠ .directory ∧
      ∀ other, s'.tree.get? other =
        if other = place then some (.file bytes permissions) else s.tree.get? other := by
  obtain ⟨sibling, bytes', permissions', hsibling, hnone, htree⟩ := h.exists_new hfree
  obtain ⟨place, found, hplace, hentry, hkind⟩ :=
    exists_locate_entry hfile (by simp [hfound])
  have hdirectory : found ≠ .directory := by
    rintro rfl
    obtain rfl := hkind rfl
    cases hfound.symm.trans hentry
  have hroot := FileTree.ne_nil_of_get?_eq_none hnone
  have hput := FileTree.get?_put s.tree hroot (.file bytes' permissions')
  have hplace₁ : s₁.locate .entry path = .ok place := by
    refine locate_of_keeps ?_ h.1 hplace (.inl rfl)
    rw [htree]
    exact FileTree.keeps_put hnone _
  obtain ⟨-, origin, goal, entry, horigin, hgoal, hmovedEntry, htree'⟩ := hmoved
  obtain rfl := Except.ok.inj ((h.locate_entry hsibling).symm.trans horigin)
  obtain rfl := Except.ok.inj (hplace₁.symm.trans hgoal)
  rw [htree, hput, if_pos rfl, Option.some.injEq] at hmovedEntry
  subst hmovedEntry
  refine ⟨place, found, bytes', permissions', hplace, hentry, hdirectory, fun other => ?_⟩
  have hplaceRoot : place ≠ [] := by
    rintro rfl
    exact hdirectory (Option.some.inj hentry).symm
  rw [htree', FileTree.get?_put _ hplaceRoot, FileTree.get?_erase _ hroot, htree, hput]
  by_cases hother : other = sibling
  · simp [hother, hnone]
  · simp [hother]

end Session

end ModuleScaffold
