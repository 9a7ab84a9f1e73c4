import ModuleScaffold.Proofs.Files.Plain

/-!
# Creating directories

Whatever comes of the attempt to create a directory and those above it, what was
there stays, and what is new are directories, each at the end of a path that was
to be created.  Where the attempt succeeds the path leads to a directory; if none
was tolerated, to one that was not there before.
-/

namespace ModuleScaffold

theorem Path.exists_lineage_eq (path : Path) : ∃ above, path.lineage = path :: above := by
  by_cases hnames : path.names = []
  · exact ⟨[], by simp [Path.lineage, hnames]; rw [← hnames]⟩
  · rw [Path.eq_child hnames, Path.lineage_child]
    exact ⟨_, rfl⟩

/-- A directory that has to be new is not tolerated. -/
theorem settle_false {m : Type → Type} [Monad m] [MonadExceptOf Failure m] [FileAccess m]
    (path : Path) (f : Failure) : (settle false path f : m Unit) = throw f := by
  unfold settle
  split <;> rfl

namespace Session

/-- What creating the directories of `paths` may have done to a session. -/
structure Grown (paths : List Path) (s s' : Session) : Prop where
  here : s'.here = s.here
  keeps : s.tree.Keeps s'.tree
  new : ∀ place entry, s.tree.get? place = none → s'.tree.get? place = some entry →
    entry = .directory ∧ ∃ path ∈ paths, s'.locate .entry path = .ok place
  sound : s.IsSound → s'.IsSound

variable {s s' s'' : Session} {goal : Goal} {paths : List Path} {path : Path}
  {name : Text} {place : Location}

theorem Grown.of_tree_eq (paths : List Path) (htree : s'.tree = s.tree)
    (hhere : s'.here = s.here) : Grown paths s s' where
  here := hhere
  keeps := by
    rw [htree]
    exact .refl _
  new := fun place entry hnone hsome => by
    rw [htree, hnone] at hsome
    contradiction
  sound := fun hs => hs.congr htree hhere

theorem Grown.refl (paths : List Path) (s : Session) : Grown paths s s :=
  .of_tree_eq paths rfl rfl

theorem Grown.trans (h : Grown paths s s') (h' : Grown paths s' s'') :
    Grown paths s s'' where
  here := h'.here.trans h.here
  keeps := h.keeps.trans h'.keeps
  new := by
    intro place entry hnone hsome
    cases hmid : s'.tree.get? place with
    | none => exact h'.new place entry hmid hsome
    | some found =>
        obtain ⟨rfl, path, hpath, hlocate⟩ := h.new place found hnone hmid
        obtain rfl := Option.some.inj ((h'.keeps place _ hmid).symm.trans hsome)
        exact ⟨rfl, path, hpath, locate_of_keeps h'.keeps h'.here hlocate (.inl rfl)⟩
  sound := h'.sound ∘ h.sound

theorem Grown.mono {more : List Path} (h : Grown paths s s')
    (hsub : paths ⊆ more) : Grown more s s' where
  here := h.here
  keeps := h.keeps
  new := fun place entry hnone hsome => by
    obtain ⟨hentry, path, hpath, hlocate⟩ := h.new place entry hnone hsome
    exact ⟨hentry, path, hsub hpath, hlocate⟩
  sound := h.sound

theorem grown_put (hplace : s.locate .entry path = .ok place)
    (hnone : s.tree.get? place = none) (hmem : path ∈ paths) :
    Grown paths s { s with tree := s.tree.put place .directory } where
  here := rfl
  keeps := FileTree.keeps_put hnone _
  new := by
    intro other entry hother hsome
    rw [FileTree.get?_put _ (FileTree.ne_nil_of_get?_eq_none hnone)] at hsome
    split at hsome
    next h =>
      subst h
      exact ⟨(Option.some.inj hsome).symm, path, hmem,
        locate_of_keeps (FileTree.keeps_put hnone _) rfl hplace (.inl rfl)⟩
    next =>
      rw [hother] at hsome
      contradiction
  sound := by
    intro hs
    obtain ⟨parent, name, rfl, hparent⟩ := hs.exists_directory hplace hnone
    exact ⟨hs.rooted.put hparent (by simp [hnone]) _,
      FileTree.keeps_put hnone _ _ _ hs.here⟩

/-- One directory is created where nothing was, or nothing is done. -/
theorem makeDirectory_cases (s : Session) (path : Path) :
    (∃ f, s.run (FileAccess.makeDirectory path) = (.error f, s)) ∨
      ∃ place, s.locate .entry path = .ok place ∧ s.tree.get? place = none ∧
        s.run (FileAccess.makeDirectory path) =
          (.ok (), { s with tree := s.tree.put place .directory }) := by
  rw [run_makeDirectory]
  cases hplace : s.locate .entry path with
  | error f => exact .inl ⟨f, rfl⟩
  | ok place =>
      cases hfound : s.tree.get? place with
      | some entry =>
          exact .inl ⟨.refused .alreadyThere path, by simp only [hfound]⟩
      | none => exact .inr ⟨place, rfl, hfound, by simp only [hfound]⟩

end Session

namespace Host

variable {platform : Platform} {h h' : Host} {path : Path}

/-- Whatever is refused, what was there stays, and what is new are directories of the
lineage. -/
theorem maintains_grown (platform : Platform) (s : Session) (tolerant : Bool) (paths : List Path) :
    Maintains (Session.Grown paths s) (makeLineage tolerant paths : HostM platform Unit) := by
  refine maintains_makeLineage tolerant fun path hmem s' hgrown => ?_
  rcases Session.makeDirectory_cases s' path with ⟨f, hrun⟩ | ⟨place, hplace, hnone, hrun⟩
  · rwa [hrun]
  · rw [hrun]
    exact hgrown.trans (Session.grown_put hplace hnone hmem)

/-- One directory is created where nothing was, or nothing is done. -/
theorem makeDirectory_cases (platform : Platform) (h : Host) (path : Path) :
    (∃ f, h.run (FileAccess.makeDirectory path : HostM platform Unit) =
        (.error (.files f), h.counted)) ∨
      ∃ place, h.session.locate .entry path = .ok place ∧
        h.session.tree.get? place = none ∧
        h.run (FileAccess.makeDirectory path : HostM platform Unit) =
          (.ok (), { h.counted with
            session := { h.session with tree := h.session.tree.put place .directory } }) := by
  rcases run_operate_cases platform h .makeDirectory path (Session.makeDirectory path) with
    hrun | ⟨-, -, cause, hrun⟩
  · rcases Session.makeDirectory_cases h.session path with
      ⟨f, hmake⟩ | ⟨place, hplace, hnone, hmake⟩
    · exact .inl ⟨f, hrun.trans (run_lift_eq (h := h.counted) hmake)⟩
    · exact .inr ⟨place, hplace, hnone, hrun.trans (run_lift_eq (h := h.counted) hmake)⟩
  · exact .inl ⟨_, hrun⟩

/-- A directory that has to be new is created where nothing was, if at all. -/
theorem exists_created_of_ensureDirectory
    (hrun : h.run (ensureDirectory false path : HostM platform Unit) = (.ok (), h')) :
    ∃ place, h.session.locate .entry path = .ok place ∧ h.session.tree.get? place = none ∧
      h'.session = { h.session with tree := h.session.tree.put place .directory } := by
  rw [ensureDirectory, run_tryCatch] at hrun
  rcases makeDirectory_cases platform h path with ⟨f, hfail⟩ | ⟨place, hplace, hnone, hmake⟩
  · rw [hfail] at hrun
    dsimp only at hrun
    rw [settle_false, run_throw] at hrun
    cases hrun
  · rw [hmake] at hrun
    cases hrun
    exact ⟨place, hplace, hnone, rfl⟩

/-- A directory that was not tolerated is a new one, and the last one that was
created. -/
theorem exists_created_of_makeDirectories
    (hrun : h.run (makeDirectories false path : HostM platform Unit) = (.ok (), h')) :
    ∃ s place, Session.Grown path.lineage h.session s ∧ s.locate .entry path = .ok place ∧
      s.tree.get? place = none ∧
      h'.session = { s with tree := s.tree.put place .directory } := by
  obtain ⟨above, habove⟩ := path.exists_lineage_eq
  rw [makeDirectories, habove, makeLineage, run_tryCatch] at hrun
  rcases makeDirectory_cases platform h path with ⟨f, hfail⟩ | ⟨place, hplace, hnone, hmake⟩
  · rw [hfail] at hrun
    dsimp only at hrun
    split at hrun
    next first others =>
      rcases hup : h.counted.run (makeLineage true (first :: others) : HostM platform Unit)
        with ⟨e | _, h₁⟩
      · rw [run_bind_of_error hup] at hrun
        cases hrun
      · rw [run_bind_of_ok hup] at hrun
        obtain ⟨place, hplace, hnone, hcreated⟩ := exists_created_of_ensureDirectory hrun
        have hgrown := maintains_grown platform h.session true (first :: others)
          h.counted (.refl _ _)
        rw [hup] at hgrown
        rw [habove]
        exact ⟨h₁.session, place, hgrown.mono (List.subset_cons_self _ _), hplace, hnone,
          hcreated⟩
    next =>
      rw [settle_false, run_throw] at hrun
      cases hrun
  · rw [hmake] at hrun
    cases hrun
    exact ⟨h.session, place, .refl _ _, hplace, hnone, rfl⟩

end Host

namespace Session

variable {s s' s'' : Session} {goal : Goal} {paths : List Path} {path : Path}
  {name : Text} {place : Location}

theorem grown_makeDirectories (s : Session) (tolerant : Bool) (path : Path) :
    Grown path.lineage s (s.run (makeDirectories tolerant path)).2 :=
  (Host.mirrors_makeLineage Platform.isPlain_plain tolerant path.lineage).maintains
    (Host.maintains_grown .plain s tolerant path.lineage) (.refl _ s)

theorem exists_created_of_makeDirectories
    (h : s.run (makeDirectories false path) = (.ok (), s')) :
    ∃ s₁ place, Grown path.lineage s s₁ ∧ s₁.locate .entry path = .ok place ∧
      s₁.tree.get? place = none ∧
      s' = { s₁ with tree := s₁.tree.put place .directory } := by
  obtain ⟨hresult, hsession⟩ :=
    Host.mirrors_makeLineage Platform.isPlain_plain false path.lineage ⟨s, 0⟩
  rw [← makeDirectories, ← makeDirectories, h] at hresult hsession
  obtain ⟨s₁, place, hgrown, hplace, hnone, hcreated⟩ :=
    Host.exists_created_of_makeDirectories (Prod.ext hresult rfl)
  exact ⟨s₁, place, hgrown, hplace, hnone, hsession.symm.trans hcreated⟩

/-- The path leads to some directory, links followed. -/
def IsDirectory (s : Session) (path : Path) : Prop :=
  ∃ place, s.IsDirectoryAt path place

theorem run_isDirectory (s : Session) (path : Path) :
    ∃ r, s.run (FileAccess.isDirectory path) = (r, s) ∧
      (r = .ok true ↔ s.IsDirectory path) := by
  have hrun : s.run (FileAccess.isDirectory path) =
      ((s.run (find path)).1.map (· == some Entry.directory), (s.run (find path)).2) :=
    run_map s _ _
  rw [hrun, run_find]
  refine ⟨_, rfl, ?_⟩
  have hiff : s.IsDirectory path ↔ ∃ place, s.locate .target path = .ok place ∧
      s.tree.get? place = some .directory :=
    exists_congr fun place => ⟨fun h => ⟨h.locate, h.found⟩, fun h => ⟨h.1, h.2⟩⟩
  rw [hiff]
  cases hplace : s.locate .target path with
  | ok place => simp [Except.map]
  | error f =>
      rcases locate_error_cases hplace with rfl | ⟨cause, rfl⟩
      · simp [Except.map]
      · cases cause <;> simp [Except.map]

/-- What remains of a refusal: a failure, or a directory that is tolerated. -/
theorem settle_cases (s : Session) (tolerant : Bool) (path : Path) (f : Failure) :
    (∃ f', s.run (settle tolerant path f) = (.error f', s)) ∨
      tolerant = true ∧ s.IsDirectory path ∧
        s.run (settle tolerant path f) = (.ok (), s) := by
  unfold settle
  split
  · exact .inl ⟨_, rfl⟩
  · split
    next h =>
      obtain ⟨r, hrun, hr⟩ := run_isDirectory s path
      cases r with
      | error f' => exact .inl ⟨f', run_bind_of_error hrun _⟩
      | ok b =>
          rw [run_bind_of_ok hrun]
          cases b with
          | true => exact .inr ⟨h, hr.1 rfl, rfl⟩
          | false => exact .inl ⟨_, rfl⟩
    next => exact .inl ⟨_, rfl⟩
  · exact .inl ⟨_, rfl⟩

theorem run_settle_of_isDirectory (h : s.IsDirectory path) :
    s.run (settle true path (.refused .alreadyThere path)) = (.ok (), s) := by
  obtain ⟨r, hrun, hr⟩ := run_isDirectory s path
  rw [hr.2 h] at hrun
  exact run_bind_of_ok hrun _

/-- A directory that cannot be created leaves everything as it was; so does one that is
tolerated. -/
theorem ensureDirectory_cases (s : Session) (tolerant : Bool) (path : Path) :
    (∃ f, s.run (ensureDirectory tolerant path) = (.error f, s)) ∨
      (tolerant = true ∧ s.IsDirectory path ∧
        s.run (ensureDirectory tolerant path) = (.ok (), s)) ∨
      ∃ place, s.locate .entry path = .ok place ∧ s.tree.get? place = none ∧
        s.run (ensureDirectory tolerant path) =
          (.ok (), { s with tree := s.tree.put place .directory }) := by
  rw [ensureDirectory, run_tryCatch]
  rcases makeDirectory_cases s path with ⟨f, hrun⟩ | ⟨place, hplace, hnone, hrun⟩
  · rw [hrun]
    exact (settle_cases s tolerant path f).imp_right .inl
  · rw [hrun]
    exact .inr (.inr ⟨place, hplace, hnone, rfl⟩)

/-- The steps of an attempt to create the first of several directories: those
above it come first if it needs them, and then it is created, or tolerated, or
the attempt fails. -/
theorem makeLineage_cons_cases (s : Session) (tolerant : Bool) (path : Path)
    (above : List Path) :
    ∃ s₁, (s₁ = s ∨ s₁ = (s.run (makeLineage true above)).2) ∧
      ((∃ f, s.run (makeLineage tolerant (path :: above)) = (.error f, s₁)) ∨
        (tolerant = true ∧ s₁.IsDirectory path ∧
          s.run (makeLineage tolerant (path :: above)) = (.ok (), s₁)) ∨
        ∃ place, s₁.locate .entry path = .ok place ∧
          s₁.tree.get? place = none ∧
          s.run (makeLineage tolerant (path :: above)) =
            (.ok (), { s₁ with tree := s₁.tree.put place .directory })) := by
  rw [makeLineage, run_tryCatch]
  rcases makeDirectory_cases s path with ⟨f, hrun⟩ | ⟨place, hplace, hnone, hrun⟩
  · rw [hrun]
    dsimp only
    split
    next first others =>
      rw [run_bind]
      rcases hup : s.run (makeLineage true (first :: others)) with ⟨f | _, s₁⟩
      · exact ⟨s₁, .inr rfl, .inl ⟨f, rfl⟩⟩
      · exact ⟨s₁, .inr rfl, ensureDirectory_cases s₁ tolerant path⟩
    next => exact ⟨s, .inl rfl, (settle_cases s tolerant path f).imp_right .inl⟩
  · rw [hrun]
    exact ⟨s, .inl rfl, .inr (.inr ⟨place, hplace, hnone, rfl⟩)⟩

theorem IsDirectory.of_put (hplace : s.locate .entry path = .ok place)
    (hnone : s.tree.get? place = none) :
    IsDirectory { s with tree := s.tree.put place .directory } path := by
  have hkeeps : s.tree.Keeps (s.tree.put place .directory) :=
    FileTree.keeps_put hnone _
  have hfound : (s.tree.put place .directory).get? place = some .directory := by
    rw [FileTree.get?_put _ (FileTree.ne_nil_of_get?_eq_none hnone), if_pos rfl]
  have hlocate : locate { s with tree := s.tree.put place .directory } .entry path =
      .ok place :=
    locate_of_keeps hkeeps rfl hplace (.inl rfl)
  exact ⟨place, isDirectoryAt_of_locate hlocate hfound⟩

theorem run_makeDirectories_of_not_isClean (hclean : ¬ path.IsClean) (tolerant : Bool) :
    s.run (makeDirectories tolerant path) = (.error .nullCharacter, s) := by
  obtain ⟨above, habove⟩ := path.exists_lineage_eq
  rw [makeDirectories, habove, makeLineage, run_tryCatch, run_makeDirectory,
    locate_of_not_isClean hclean]
  rfl

theorem isDirectory_of_makeDirectories
    (h : s.run (makeDirectories true path) = (.ok (), s')) : s'.IsDirectory path := by
  obtain ⟨above, habove⟩ := path.exists_lineage_eq
  rw [makeDirectories, habove] at h
  obtain ⟨s₁, -, hcases⟩ := makeLineage_cons_cases s true path above
  rw [h] at hcases
  rcases hcases with ⟨f, hrun⟩ | ⟨-, hdirectory, hrun⟩ | ⟨place, hplace, hnone, hrun⟩
  · simp at hrun
  · obtain rfl := (Prod.mk.inj hrun).2
    exact hdirectory
  · obtain rfl := (Prod.mk.inj hrun).2
    exact .of_put hplace hnone

theorem found?_ne_none_iff :
    s.found? path ≠ none ↔
      ∃ place entry, s.locate .entry path = .ok place ∧ s.tree.get? place = some entry := by
  rw [found?]
  cases s.locate .entry path with
  | error f => simp
  | ok place => simp [Option.ne_none_iff_exists']

theorem IsDirectory.found?_ne_none (h : s.IsDirectory path) : s.found? path ≠ none := by
  obtain ⟨place, hplace⟩ := h
  obtain ⟨entryPlace, entry, hlocate, hentry, -⟩ :=
    exists_locate_entry hplace.locate (by simp [hplace.found])
  exact found?_ne_none_iff.2 ⟨entryPlace, entry, hlocate, hentry⟩

theorem ne_notFound_of_found? (h : s.found? path ≠ none) (other : Path) :
    s.locate .entry path ≠ .error (.refused .notFound other) := by
  intro hnotFound
  simp [found?, hnotFound] at h

theorem run_makeDirectory_of_found? (h : s.found? path ≠ none) :
    s.run (FileAccess.makeDirectory path) =
      (.error (.refused .alreadyThere path), s) := by
  obtain ⟨place, entry, hlocate, hentry⟩ := found?_ne_none_iff.1 h
  rw [run_makeDirectory, hlocate]
  simp only [hentry]

theorem run_ensureDirectory_of_isDirectory (h : s.IsDirectory path) :
    s.run (ensureDirectory true path) = (.ok (), s) := by
  rw [ensureDirectory, run_tryCatch, run_makeDirectory_of_found? h.found?_ne_none]
  exact run_settle_of_isDirectory h

/-- Where no directory above is missing none of them is created. -/
theorem run_makeDirectories_of_ne_notFound
    (h : s.locate .entry path ≠ .error (.refused .notFound path)) (tolerant : Bool) :
    s.run (makeDirectories tolerant path) = s.run (ensureDirectory tolerant path) := by
  obtain ⟨above, habove⟩ := path.exists_lineage_eq
  rw [makeDirectories, habove, makeLineage, ensureDirectory, run_tryCatch, run_tryCatch,
    run_makeDirectory]
  cases hlocate : s.locate .entry path with
  | ok place => cases hfound : s.tree.get? place <;> simp only [hfound]
  | error e =>
      rcases locate_error_cases hlocate with rfl | ⟨cause, rfl⟩
      · rfl
      · cases cause with
        | notFound => exact absurd hlocate h
        | _ => rfl

/-- A directory that is there is left alone. -/
theorem run_makeDirectories_of_isDirectory (h : s.IsDirectory path) :
    s.run (makeDirectories true path) = (.ok (), s) := by
  have hlocate := ne_notFound_of_found? h.found?_ne_none path
  rw [run_makeDirectories_of_ne_notFound hlocate, run_ensureDirectory_of_isDirectory h]

theorem locate_child_of_error {cause : Cause} (hclean : '\x00' ∉ name)
    (hgoal : goal ≠ .file) (h : s.locate .entry path = .error (.refused cause path)) :
    s.locate goal (path.child name) = .error (.refused cause (path.child name)) := by
  have hpath : path.IsClean := by
    by_contra hno
    simp [locate_of_not_isClean hno] at h
  have hfollow : s.tree.follow .entry maxLinks (s.origin path) path.names =
      .error cause := by
    rw [locate_of_isClean hpath] at h
    cases hfollow : s.tree.follow .entry maxLinks (s.origin path) path.names <;>
      simp_all [Except.mapError]
  rw [locate_of_isClean (Path.isClean_child.2 ⟨hpath, hclean⟩), origin_child,
    Path.child, FileTree.follow_append_of_error (List.cons_ne_nil _ _) hgoal hfollow]
  rfl

theorem IsSound.locate_child_of_none (hs : s.IsSound) (hclean : '\x00' ∉ name)
    (hgoal : goal ≠ .file) (h : s.locate .entry path = .ok place)
    (hnone : s.tree.get? place = none) :
    s.locate goal (path.child name) = .error (.refused .notFound (path.child name)) := by
  obtain ⟨hpath, links, hleads⟩ := locate_eq_ok_iff.1 h
  rw [locate_of_isClean (Path.isClean_child.2 ⟨hpath, hclean⟩), origin_child,
    Path.child, hleads.follow_append_of_none hs.rooted (by simp [hs.origin]) hnone
      (List.cons_ne_nil _ _) hgoal]
  rfl

/-- Where a directory can be created, but is not there yet, the path of an entry in
it leads to nothing. -/
theorem locate_child_of_makeDirectories (hs : s.IsSound) (hclean : '\x00' ∉ name)
    (hgoal : goal ≠ .file) (h : s.run (makeDirectories true path) = (.ok (), s'))
    (hmissing : ¬ s.IsDirectory path) :
    s.locate goal (path.child name) = .error (.refused .notFound (path.child name)) := by
  by_cases hnotFound : s.locate .entry path = .error (.refused .notFound path)
  · exact locate_child_of_error hclean hgoal hnotFound
  · rw [run_makeDirectories_of_ne_notFound hnotFound] at h
    rcases ensureDirectory_cases s true path with
      ⟨f, hrun⟩ | ⟨-, hdirectory, -⟩ | ⟨place, hplace, hnone, -⟩
    · cases hrun.symm.trans h
    · exact absurd hdirectory hmissing
    · exact hs.locate_child_of_none hclean hgoal hplace hnone

/-- Creating an entry in a directory that can be created is to create the directory
first. -/
theorem run_makeDirectories_child (hs : s.IsSound)
    (h : s.run (makeDirectories true path) = (.ok (), s'))
    (hplace : s'.locate .target path = .ok place) (hname : IsEntryName name)
    (hfree : s'.tree.get? (place ++ [name]) = none) :
    s.run (FileAccess.isThere (path.child name)) = (.ok false, s) ∧
      s.run (makeDirectories false (path.child name)) =
        (.ok (), { s' with tree := s'.tree.put (place ++ [name]) .directory }) := by
  have hdirectory : s'.IsDirectoryAt path place := by
    obtain ⟨other, hother⟩ := isDirectory_of_makeDirectories h
    obtain rfl := Except.ok.inj (hplace.symm.trans hother.locate)
    exact hother
  have hlocate : ∀ goal, s'.locate goal (path.child name) = .ok (place ++ [name]) :=
    fun goal => hdirectory.locate_child hname (.inr fun target => by simp [hfree])
  have hcreate : s'.run (FileAccess.makeDirectory (path.child name)) =
      (.ok (), { s' with tree := s'.tree.put (place ++ [name]) .directory }) := by
    rw [run_makeDirectory, hlocate]
    simp only [hfree]
  rw [makeDirectories, Path.lineage_child, makeLineage, run_tryCatch]
  by_cases hthere : s.IsDirectory path
  · rw [run_makeDirectories_of_isDirectory hthere] at h
    obtain rfl := (Prod.mk.inj h).2
    rw [run_isThere, hlocate, hcreate]
    simp [hfree]
  · have hmissing : ∀ goal, goal ≠ .file → s.locate goal (path.child name) =
        .error (.refused .notFound (path.child name)) :=
      fun goal hgoal => locate_child_of_makeDirectories hs hname.clean hgoal h hthere
    obtain ⟨above, habove⟩ := path.exists_lineage_eq
    rw [makeDirectories, habove] at h
    rw [run_isThere, hmissing .target nofun, run_makeDirectory, hmissing .entry nofun,
      habove]
    refine ⟨rfl, ?_⟩
    dsimp only
    rw [run_bind_of_ok h, ensureDirectory, run_tryCatch, hcreate]

/-- An action whose result and effect are a matter of the file tree and the
current directory only. -/
def Silent {α : Type} (action : SessionM α) : Prop :=
  ∃ f : FileTree → Location → Except Failure α × FileTree, ∀ s : Session,
    s.run action = ((f s.tree s.here).1, { s with tree := (f s.tree s.here).2 })

section Silent

variable {α β : Type}

theorem Silent.congr {action : SessionM α} {t : Session} (h : Silent action)
    (htree : t.tree = s.tree) (hhere : t.here = s.here) :
    (t.run action).1 = (s.run action).1 ∧
      (t.run action).2.tree = (s.run action).2.tree ∧
      (t.run action).2.here = (s.run action).2.here := by
  obtain ⟨f, hf⟩ := h
  rw [hf, hf, htree, hhere]
  exact ⟨rfl, rfl, rfl⟩

theorem silent_pure (a : α) : Silent (pure a) :=
  ⟨fun tree _ => (.ok a, tree), fun _ => rfl⟩

theorem silent_throw (f : Failure) : Silent (throw f : SessionM α) :=
  ⟨fun tree _ => (.error f, tree), fun _ => rfl⟩

theorem Silent.bind {x : SessionM α} {k : α → SessionM β} (hx : Silent x)
    (hk : ∀ a, Silent (k a)) : Silent (x >>= k) := by
  obtain ⟨f, hf⟩ := hx
  choose g hg using hk
  refine ⟨fun tree here =>
    match f tree here with
    | (.ok a, tree') => g a tree' here
    | (.error e, tree') => (.error e, tree'), fun s => ?_⟩
  rw [run_bind, hf]
  rcases hrun : f s.tree s.here with ⟨e | a, tree'⟩
  · simp only [hrun]
  · simp only [hrun, hg]

theorem Silent.tryCatch {x : SessionM α} {handler : Failure → SessionM α}
    (hx : Silent x) (hh : ∀ f, Silent (handler f)) :
    Silent (tryCatch x handler) := by
  obtain ⟨f, hf⟩ := hx
  choose g hg using hh
  refine ⟨fun tree here =>
    match f tree here with
    | (.ok a, tree') => (.ok a, tree')
    | (.error e, tree') => g e tree' here, fun s => ?_⟩
  rw [run_tryCatch, hf]
  rcases hrun : f s.tree s.here with ⟨e | a, tree'⟩
  · simp only [hrun, hg]
  · simp only [hrun]

theorem silent_makeDirectory (path : Path) :
    Silent (FileAccess.makeDirectory path : SessionM Unit) := by
  refine ⟨fun tree here =>
    let r := run { tree, here } (FileAccess.makeDirectory path)
    (r.1, r.2.tree), fun s => ?_⟩
  have hlocate : locate { tree := s.tree, here := s.here } .entry path =
      s.locate .entry path := rfl
  simp only [run_makeDirectory, hlocate]
  cases s.locate .entry path with
  | error f => rfl
  | ok place => cases hfound : s.tree.get? place <;> simp only [hfound]

theorem silent_isDirectory (path : Path) :
    Silent (FileAccess.isDirectory path : SessionM Bool) := by
  refine ⟨fun tree here =>
    ((run { tree, here } (FileAccess.isDirectory path)).1, tree), fun s => ?_⟩
  have hrun : ∀ t : Session, t.run (FileAccess.isDirectory path) =
      ((t.run (find path)).1.map (· == some Entry.directory), (t.run (find path)).2) :=
    fun t => run_map t _ _
  simp only [hrun, run_find]
  rfl

theorem silent_settle (tolerant : Bool) (path : Path) (f : Failure) :
    Silent (settle tolerant path f : SessionM Unit) := by
  unfold settle
  split
  · exact silent_throw _
  · split
    · refine (silent_isDirectory path).bind fun b => ?_
      cases b
      · exact silent_throw _
      · exact silent_pure ()
    · exact silent_throw _
  · exact silent_throw _

theorem silent_makeLineage (tolerant : Bool) (paths : List Path) :
    Silent (makeLineage tolerant paths : SessionM Unit) := by
  induction paths generalizing tolerant with
  | nil => exact silent_pure ()
  | cons path above ih =>
      refine (silent_makeDirectory path).tryCatch fun f => ?_
      split
      · refine (ih true).bind fun _ => ?_
        exact (silent_makeDirectory path).tryCatch fun f => silent_settle _ _ _
      · exact silent_settle _ _ _

theorem silent_makeDirectories (tolerant : Bool) (path : Path) :
    Silent (makeDirectories tolerant path : SessionM Unit) :=
  silent_makeLineage tolerant _

end Silent

end Session

end ModuleScaffold
