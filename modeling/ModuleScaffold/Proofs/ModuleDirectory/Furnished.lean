import ModuleScaffold.Proofs.Files.Host
import ModuleScaffold.Proofs.ModuleDirectory

/-!
# The directory of a module on any host

Whatever is refused on the way, artifacts go into a directory that was created for them,
and nothing else changes.  The invariant is that this directory holds files with names of
artifacts and nothing else: the path of an artifact then leads to a place in it, so a
write, or the first bytes of one, ends there.

Materializing fails with a refusal, or it finds the directory there already; only the
null character in the path of the directory is another failure.
-/

namespace ModuleScaffold

namespace Session

variable {s s' : Session} {path : Path} {place : Location} {artifact : Artifact}
  {artifacts : List Artifact}

/-- What writing artifacts into the directory of a path may have done to a session. -/
structure Furnished (path : Path) (artifacts : List Artifact) (s s' : Session) :
    Prop where
  here : s'.here = s.here
  keeps : s.tree.Keeps s'.tree
  new : ∀ other entry, s.tree.get? other = none → s'.tree.get? other = some entry →
    (∃ bytes permissions, entry = .file bytes permissions) ∧
      ∃ artifact ∈ artifacts, ∃ place, s.IsDirectoryAt path place ∧
        other = place ++ [artifact.filename]
  sound : s.IsSound → s'.IsSound

theorem Furnished.of_tree_eq (htree : s'.tree = s.tree) (hhere : s'.here = s.here) :
    Furnished path artifacts s s' where
  here := hhere
  keeps := by
    rw [htree]
    exact .refl _
  new := fun other entry hnone hsome => by
    rw [htree, hnone] at hsome
    contradiction
  sound := fun hs => hs.congr htree hhere

theorem Furnished.congr_left {t : Session} (h : Furnished path artifacts s s')
    (htree : t.tree = s.tree) (hhere : t.here = s.here) :
    Furnished path artifacts t s' where
  here := h.here.trans hhere.symm
  keeps := htree ▸ h.keeps
  new := fun other entry hnone hsome => by
    obtain ⟨hentry, artifact, hmem, place, hplace, hother⟩ :=
      h.new other entry (htree ▸ hnone) hsome
    exact ⟨hentry, artifact, hmem, place, hplace.congr htree hhere, hother⟩
  sound := fun ht => h.sound (ht.congr htree.symm hhere.symm)

theorem Furnished.congr_right {t : Session} (h : Furnished path artifacts s s')
    (htree : t.tree = s'.tree) (hhere : t.here = s'.here) :
    Furnished path artifacts s t where
  here := hhere.trans h.here
  keeps := htree ▸ h.keeps
  new := fun other entry hnone hsome => h.new other entry hnone (htree ▸ hsome)
  sound := fun hs => (h.sound hs).congr htree hhere

/-- In a directory that was empty the path of an artifact leads to a place where a file
can be written. -/
theorem Furnished.locate_child {name : Text} {other : Location}
    (h : Furnished path artifacts s s') (hplace : s.IsDirectoryAt path place)
    (hempty : ∀ name, s.tree.get? (place ++ [name]) = none) (hname : LeadsDown name)
    (hlocate : s'.locate .file (path.child name) = .ok other) :
    other = place ++ [name] ∧ s'.tree.Writable (place ++ [name]) := by
  have hwritable : s'.tree.Writable (place ++ [name]) := by
    cases hfound : s'.tree.get? (place ++ [name]) with
    | none => exact .inl hfound
    | some entry =>
        obtain ⟨⟨bytes, permissions, rfl⟩, -⟩ := h.new _ entry (hempty name) hfound
        exact .inr ⟨bytes, permissions, hfound⟩
  obtain ⟨directory, hdirectory, -, hcases⟩ := locate_child_cases hlocate hname
  obtain rfl := hdirectory.unique
    (hplace.of_keepsWays (keepsWays_of_keeps h.keeps h.here))
  refine ⟨hcases.resolve_right fun ⟨_, target, hlink⟩ => ?_, hwritable⟩
  simp [FileTree.Writable, hlink] at hwritable

/-- A write to the path of an artifact goes into the directory. -/
theorem Furnished.write (h : Furnished path artifacts s s')
    (hplace : s.IsDirectoryAt path place)
    (hempty : ∀ name, s.tree.get? (place ++ [name]) = none)
    (hmem : artifact ∈ artifacts) (hname : LeadsDown artifact.filename)
    (bytes : ByteArray) :
    Furnished path artifacts s
      (s'.run (FileAccess.write (path.child artifact.filename) bytes)).2 := by
  rcases run_write_cases s' (path.child artifact.filename) bytes with
    ⟨f, hrun⟩ | ⟨other, permissions, hlocate, -, -, hrun⟩
  · rwa [hrun]
  obtain ⟨rfl, hwritable⟩ := h.locate_child hplace hempty hname hlocate
  have hput := FileTree.get?_put s'.tree hwritable.ne_nil (.file bytes permissions)
  rw [hrun]
  refine ⟨h.here, fun other entry hfound => ?_, fun other entry hnone hsome => ?_,
    fun hs => ⟨?_, ?_⟩⟩
  · rw [hput, if_neg, h.keeps _ _ hfound]
    rintro rfl
    exact nomatch (hempty _).symm.trans hfound
  · rw [hput] at hsome
    split at hsome
    next hother =>
      exact ⟨⟨bytes, permissions, (Option.some.inj hsome).symm⟩, artifact, hmem, place,
        hplace, hother⟩
    next => exact h.new other entry hnone hsome
  · refine (h.sound hs).rooted.put (h.keeps _ _ hplace.found) ?_ _
    rcases hwritable with hnone | ⟨_, _, hfile⟩
    · simp [hnone]
    · simp [hfile]
  · exact (hwritable.keepsKinds_put bytes permissions).directory _ (h.sound hs).here

end Session

namespace Host

variable {platform : Platform} {h h₁ : Host} {path : Path} {place : Location}
  {artifact : Artifact} {artifacts : List Artifact}

theorem maintains_writeArtifact {s : Session} (hplace : s.IsDirectoryAt path place)
    (hempty : ∀ name, s.tree.get? (place ++ [name]) = none)
    (hmem : artifact ∈ artifacts) (hname : IsFilename artifact.filename) :
    Maintains (Session.Furnished path artifacts s)
      (writeArtifact path artifact : HostM platform Text) := by
  rw [writeArtifact, Path.joinText_eq_child path hname]
  refine (maintains_write _ fun s' part hfurnished =>
    hfurnished.write hplace hempty hmem hname.leadsDown part).bind fun _ => ?_
  refine (maintains_note _ fun s' hfurnished => ?_).bind fun _ => maintains_pure _
  exact hfurnished.congr_right (Session.tree_noting _ _) (Session.here_noting _ _)

theorem run_materialize_of_error {f : Failure}
    (hrun : h.run (makeDirectories false path : HostM platform Unit) =
      (.error (.files f), h₁)) :
    h.run (materialize path artifacts : HostM platform _) =
      (.error (.files (Session.creationFailure path f)), h₁) := by
  rw [materialize, run_bind, run_tryCatch, hrun]
  cases f with
  | refused cause other => cases cause <;> rfl
  | _ => rfl

theorem run_materialize_of_ok
    (hrun : h.run (makeDirectories false path : HostM platform Unit) = (.ok (), h₁)) :
    h.run (materialize path artifacts : HostM platform _) =
      h₁.run ((do
        Reporting.note (.createdDirectory path)
        artifacts.mapM (writeArtifact path)) : HostM platform _) := by
  rw [materialize, run_bind, run_tryCatch, hrun]

/-- Materializing creates directories, and writes artifacts into the last one that it
created. -/
theorem furnished_materialize (platform : Platform) (hs : h.session.IsSound)
    (hnames : ∀ artifact ∈ artifacts, IsFilename artifact.filename) :
    Session.Furnished path artifacts
      (h.run (makeDirectories false path : HostM platform Unit)).2.session
      (h.run (materialize path artifacts : HostM platform _)).2.session := by
  rcases hrun : h.run (makeDirectories false path : HostM platform Unit) with ⟨e | _, h₁⟩
  · have hfailed : (h.run (materialize path artifacts : HostM platform _)).2 = h₁ := by
      cases e with
      | files f => rw [run_materialize_of_error hrun]
      | markup f => rw [materialize, run_bind, run_tryCatch, hrun]
    rw [hfailed]
    exact .of_tree_eq rfl rfl
  · rw [run_materialize_of_ok hrun]
    obtain ⟨s, place, hgrown, hlocate, hnone, hcreated⟩ :=
      exists_created_of_makeDirectories hrun
    obtain ⟨hplace, hempty⟩ := Session.isDirectoryAt_of_created hlocate hnone
      (hgrown.sound hs)
    rw [← hcreated] at hplace hempty
    have hwrites : Maintains (Session.Furnished path artifacts h₁.session)
        (artifacts.mapM (writeArtifact path) : HostM platform _) :=
      maintains_mapM fun artifact hmem =>
        maintains_writeArtifact hplace hempty hmem (hnames artifact hmem)
    refine ((maintains_note _ fun s' hfurnished => ?_).bind fun _ => hwrites) h₁
      (.of_tree_eq rfl rfl)
    exact hfurnished.congr_right (Session.tree_noting _ _) (Session.here_noting _ _)

end Host

end ModuleScaffold
