import ModuleScaffold.Proofs.Files.Lineage

/-!
# Where creating directories stops

Directories are created from the first one that is missing down to the last.  A refusal
stops this at one of them: those above it are there, and it cannot be created and is not
there.  That something else is in its place is the cause exactly if an entry is found at
its path, so the entry found first on the way down tells the cause.
-/

namespace ModuleScaffold

namespace FileTree

/-- Following a path is refused for other causes than that something is there. -/
theorem follow_ne_alreadyThere (tree : FileTree) (goal : Goal) (links : Nat)
    (place : Location) (names : List Text) :
    follow tree goal links place names ≠ .error .alreadyThere := by
  induction links using Nat.strongRecOn generalizing place names with
  | ind links ihlinks =>
    induction names generalizing place with
    | nil => simp
    | cons name rest ihrest =>
        rw [follow_cons]
        split
        · simp
        split
        · exact ihrest _
        split
        · exact ihrest _
        split
        · simp
        split
        · simp
        split
        · split <;> simp
        · split
          · simp
          · cases links with
            | zero => simp [followLink]
            | succ links => exact ihlinks links (by omega) _ _
        · exact ihrest _

end FileTree

namespace Path

variable {path above other : Path}

theorem mem_lineage_iff :
    above ∈ path.lineage ↔ above.anchor = path.anchor ∧ above.names <+: path.names := by
  obtain ⟨anchor, names⟩ := path
  obtain ⟨anchor', names'⟩ := above
  simp only [lineage, List.mem_map, List.mem_reverse, List.mem_range, Path.mk.injEq]
  constructor
  · rintro ⟨k, -, rfl, rfl⟩
    exact ⟨rfl, List.take_prefix _ _⟩
  · rintro ⟨rfl, hprefix⟩
    exact ⟨names'.length, Nat.lt_succ_of_le hprefix.length_le, rfl,
      (List.prefix_iff_eq_take.1 hprefix).symm⟩

/-- Of two paths on the way to a third one lies on the way to the other. -/
theorem mem_lineage_or_mem_lineage (habove : above ∈ path.lineage)
    (hother : other ∈ path.lineage) : above ∈ other.lineage ∨ other ∈ above.lineage := by
  obtain ⟨hanchor, hnames⟩ := mem_lineage_iff.1 habove
  obtain ⟨hanchor', hnames'⟩ := mem_lineage_iff.1 hother
  rw [mem_lineage_iff, mem_lineage_iff]
  exact (List.prefix_or_prefix_of_prefix hnames hnames').imp
    (.intro (hanchor.trans hanchor'.symm)) (.intro (hanchor'.trans hanchor.symm))

theorem lineage_of_ne_nil (hnames : path.names ≠ []) :
    path.lineage = path :: path.parent.lineage := by
  rw [eq_child hnames, lineage_child, parent_child]

/-- What lies on the way to a path is the path, or on the way to its parent. -/
theorem mem_lineage_cases (habove : above ∈ path.lineage) :
    above = path ∨ path.names ≠ [] ∧ above ∈ path.parent.lineage := by
  by_cases hnames : path.names = []
  · left
    rw [mem_lineage_iff, hnames, List.prefix_nil] at habove
    obtain ⟨anchor, names⟩ := path
    obtain ⟨anchor', names'⟩ := above
    simp_all
  · rw [lineage_of_ne_nil hnames, List.mem_cons] at habove
    exact habove.imp_right fun h => ⟨hnames, h⟩

/-- What holds of a path if it holds of its parent holds of every path. -/
@[elab_as_elim]
theorem parentInduction {motive : Path → Prop}
    (step : ∀ path : Path, (path.names ≠ [] → motive path.parent) → motive path)
    (path : Path) : motive path := by
  induction hlength : path.names.length generalizing path with
  | zero =>
      exact step path fun hnames => absurd (List.length_eq_zero_iff.1 hlength) hnames
  | succ count ih => exact step path fun _ => ih _ (by simp [parent, hlength])

end Path

namespace Session

variable {s s' : Session} {goal : Goal} {path above : Path} {name : Text}
  {place : Location} {f : Failure}

theorem locate_ne_alreadyThere (other : Path) :
    s.locate goal path ≠ .error (.refused .alreadyThere other) := by
  intro h
  by_cases hclean : path.IsClean
  · rw [locate_of_isClean hclean] at h
    have hfollow := s.tree.follow_ne_alreadyThere goal maxLinks (s.origin path) path.names
    cases hplace : s.tree.follow goal maxLinks (s.origin path) path.names with
    | ok place => simp [hplace, Except.mapError] at h
    | error cause =>
        simp only [hplace, Except.mapError, Except.error.injEq, Failure.refused.injEq] at h
        exact hfollow (h.1 ▸ hplace)
  · rw [locate_of_not_isClean hclean] at h
    cases h

/-- A path that leads on leads through a directory. -/
theorem isDirectory_of_locate_child (h : s.locate goal (path.child name) = .ok place) :
    s.IsDirectory path := by
  obtain ⟨hclean, _, hleads⟩ := locate_eq_ok_iff.1 h
  obtain ⟨links, middle, hmiddle, hparent, -⟩ := hleads.exists_of_append (List.cons_ne_nil _ _)
  exact ⟨middle, locate_eq_ok_iff.2 ⟨(Path.isClean_child.1 hclean).1, links, hparent⟩, hmiddle⟩

/-- The way to a directory leads through directories. -/
theorem IsDirectory.of_mem_lineage (h : s.IsDirectory path) (habove : above ∈ path.lineage) :
    s.IsDirectory above := by
  induction path using Path.parentInduction with
  | step path ih =>
      rcases Path.mem_lineage_cases habove with rfl | ⟨hnames, habove⟩
      · exact h
      · obtain ⟨place, hplace⟩ := h
        rw [Path.eq_child hnames] at hplace
        exact ih hnames (isDirectory_of_locate_child hplace.locate) habove

theorem names_ne_nil_of_notFound
    (h : s.locate goal path = .error (.refused .notFound path)) : path.names ≠ [] := by
  intro hnames
  have hclean : path.IsClean := by simp [Path.IsClean, hnames]
  rw [locate_of_isClean hclean, hnames] at h
  simp [Except.mapError] at h

/-- What leads nowhere for want of a directory does so from its parent on. -/
theorem locate_parent_of_notFound
    (h : s.locate .entry path = .error (.refused .notFound path)) {e : Failure}
    (hparent : s.locate .entry path.parent = .error e) :
    e = .refused .notFound path.parent := by
  have hchild := Path.eq_child (names_ne_nil_of_notFound h)
  have hclean : path.IsClean := by
    by_contra hno
    simp [locate_of_not_isClean hno] at h
  rw [hchild, Path.isClean_child] at hclean
  obtain ⟨cause, rfl⟩ := exists_cause_of_locate hclean.1 hparent
  have hlast : s.locate .entry (path.parent.child path.name) = _ :=
    locate_child_of_error hclean.2 nofun hparent
  rw [hchild, hlast] at h
  simp only [Except.error.injEq, Failure.refused.injEq] at h
  rw [h.1]

theorem isDirectory_parent_of_found? (h : s.found? path ≠ none) (hnames : path.names ≠ []) :
    s.IsDirectory path.parent := by
  obtain ⟨place, entry, hlocate, -⟩ := found?_ne_none_iff.1 h
  rw [Path.eq_child hnames] at hlocate
  exact isDirectory_of_locate_child hlocate

/-- Looking for a directory fails only on a name that is too long. -/
theorem isTooLong_of_isDirectory (h : (s.run (FileAccess.isDirectory path)).1 = .error f) :
    ∃ other, f = .refused .nameTooLong other := by
  have hrun : (s.run (FileAccess.isDirectory path)).1 =
      (s.run (find path)).1.map (· == some Entry.directory) :=
    congrArg Prod.fst (run_map s _ _)
  rw [hrun, run_find] at h
  dsimp only at h
  split at h
  · contradiction
  next other _ => exact ⟨other, (Except.error.inj h).symm⟩
  · contradiction

/-- A refusal that is not tolerated is what remains, unless the look for a directory
fails. -/
theorem settle_failure {tolerant : Bool} {e : Failure}
    (h : s.run (settle tolerant path e) = (.error f, s')) :
    f = e ∨ ∃ other, f = .refused .nameTooLong other := by
  unfold settle at h
  split at h
  · cases h
    exact .inl rfl
  · split at h
    · rcases run_bind_error_cases h with hlook | ⟨b, s₁, -, hrest⟩
      · exact .inr (isTooLong_of_isDirectory (congrArg Prod.fst hlook))
      · cases b <;> cases hrest
        exact .inl rfl
    · cases h
      exact .inl rfl
  · cases h
    exact .inl rfl

/-- Something else than a directory is in the place of one. -/
structure IsObstructed (s : Session) (path : Path) : Prop where
  found : s.found? path ≠ none
  other : (s.run (FileAccess.isDirectory path)).1 = .ok false

theorem IsObstructed.not_isDirectory (h : s.IsObstructed path) : ¬ s.IsDirectory path := by
  intro hdirectory
  obtain ⟨r, hrun, hr⟩ := run_isDirectory s path
  have hother := h.other
  rw [hrun, hr.2 hdirectory] at hother
  exact nomatch hother

/-- A path at which creating directories stops: the one above it is there, and it cannot
be created. -/
structure StopsAt (s : Session) (path : Path) (f : Failure) : Prop where
  parent : path.names ≠ [] → s.IsDirectory path.parent
  refused : s.run (ensureDirectory true path) = (.error f, s)

theorem StopsAt.not_isDirectory (h : s.StopsAt path f) : ¬ s.IsDirectory path := by
  intro hdirectory
  cases (run_ensureDirectory_of_isDirectory hdirectory).symm.trans h.refused

/-- A directory is refused for being there exactly if something is found in its place, and
no directory where one is tolerated. -/
theorem ensureDirectory_alreadyThere_iff {tolerant : Bool} :
    (∃ other, (s.run (ensureDirectory tolerant path)).1 =
        .error (.refused .alreadyThere other)) ↔
      s.found? path ≠ none ∧
        (tolerant = true → (s.run (FileAccess.isDirectory path)).1 = .ok false) := by
  rw [ensureDirectory, run_tryCatch]
  by_cases hfound : s.found? path = none
  · refine iff_of_false ?_ fun h => h.1 hfound
    rintro ⟨other, h⟩
    rw [run_makeDirectory] at h
    cases hlocate : s.locate .entry path with
    | error e =>
        simp only [hlocate] at h
        rcases settle_failure (Prod.ext h rfl) with rfl | ⟨_, hlong⟩
        · exact absurd hlocate (locate_ne_alreadyThere other)
        · cases hlong
    | ok place =>
        have hfree : s.tree.get? place = none := by simpa [found?, hlocate] using hfound
        simp [hlocate, hfree] at h
  · rw [run_makeDirectory_of_found? hfound]
    cases tolerant with
    | false => exact iff_of_true ⟨path, rfl⟩ ⟨hfound, fun h => absurd h Bool.false_ne_true⟩
    | true =>
        obtain ⟨r, hlook, -⟩ := run_isDirectory s path
        dsimp only [settle]
        rw [if_pos rfl, run_bind, hlook]
        rcases r with e | _ | _
        · obtain ⟨other, rfl⟩ := isTooLong_of_isDirectory (congrArg Prod.fst hlook)
          simp
        · exact iff_of_true ⟨path, rfl⟩ ⟨hfound, fun _ => rfl⟩
        · simp

/-- That something is there is the cause exactly if it is found there. -/
theorem StopsAt.alreadyThere_iff (h : s.StopsAt path f) :
    (∃ other, f = .refused .alreadyThere other) ↔ s.IsObstructed path := by
  constructor
  · rintro ⟨other, rfl⟩
    obtain ⟨hfound, hother⟩ :=
      ensureDirectory_alreadyThere_iff.1 ⟨other, congrArg Prod.fst h.refused⟩
    exact ⟨hfound, hother rfl⟩
  · intro hobstructed
    obtain ⟨other, hrun⟩ :=
      ensureDirectory_alreadyThere_iff.2 ⟨hobstructed.found, fun _ => hobstructed.other⟩
    rw [h.refused] at hrun
    exact ⟨other, Except.error.inj hrun⟩

theorem eq_of_ensureDirectory {tolerant : Bool}
    (h : s.run (ensureDirectory tolerant path) = (.error f, s')) : s' = s := by
  rcases ensureDirectory_cases s tolerant path with
    ⟨_, hrun⟩ | ⟨-, -, hrun⟩ | ⟨_, -, -, hrun⟩ <;> cases hrun.symm.trans h
  rfl

/-- A directory that is missing above a path is created ahead of it. -/
theorem run_makeDirectories_of_notFound
    (h : s.locate .entry path = .error (.refused .notFound path)) (tolerant : Bool) :
    s.run (makeDirectories tolerant path) =
      s.run (makeDirectories true path.parent >>= fun _ => ensureDirectory tolerant path) := by
  obtain ⟨above, habove⟩ := path.parent.exists_lineage_eq
  rw [makeDirectories, Path.lineage_of_ne_nil (names_ne_nil_of_notFound h), makeLineage,
    run_tryCatch, run_makeDirectory, h, makeDirectories, habove]

/-- Where a path leads nowhere but for a missing directory, creating those on the way
stops at one of them. -/
theorem exists_stopsAt
    (hmissing : ∀ e, s.locate .entry path = .error e → e = .refused .notFound path)
    (h : s.run (makeDirectories true path) = (.error f, s')) :
    ∃ above ∈ path.lineage, s'.StopsAt above f := by
  induction path using Path.parentInduction with
  | step path ih =>
      have hself : path ∈ path.lineage := Path.mem_lineage_iff.2 ⟨rfl, List.prefix_rfl⟩
      by_cases hnotFound : s.locate .entry path = .error (.refused .notFound path)
      · have hnames := names_ne_nil_of_notFound hnotFound
        rw [run_makeDirectories_of_notFound hnotFound] at h
        rcases run_bind_error_cases h with hparent | ⟨_, s₁, hparent, hensure⟩
        · obtain ⟨above, habove, hstops⟩ :=
            ih hnames (fun _ => locate_parent_of_notFound hnotFound) hparent
          refine ⟨above, ?_, hstops⟩
          rw [Path.lineage_of_ne_nil hnames]
          exact List.mem_cons_of_mem _ habove
        · obtain rfl := eq_of_ensureDirectory hensure
          exact ⟨path, hself, fun _ => isDirectory_of_makeDirectories hparent, hensure⟩
      · rw [run_makeDirectories_of_ne_notFound hnotFound] at h
        obtain rfl : s = s' := (eq_of_ensureDirectory h).symm
        refine ⟨path, hself, isDirectory_parent_of_found? fun hnone => ?_, h⟩
        cases hlocate : s.locate .entry path with
        | error e => exact hnotFound (hmissing e hlocate ▸ hlocate)
        | ok place =>
            have hfree : s.tree.get? place = none := by simpa [found?, hlocate] using hnone
            simp [ensureDirectory, run_tryCatch, run_makeDirectory, hlocate, hfree] at h

/-- Of the paths on the way to the one at which creating directories stops, and of those
that lead on from it, none but itself is obstructed. -/
theorem StopsAt.eq_of_isObstructed {stop : Path} (hstops : s.StopsAt stop f)
    (hobstructed : s.IsObstructed above)
    (hway : above ∈ stop.lineage ∨ stop ∈ above.lineage) : above = stop := by
  rcases hway with habove | hstop
  · rcases Path.mem_lineage_cases habove with rfl | ⟨hnames, habove⟩
    · rfl
    · exact absurd ((hstops.parent hnames).of_mem_lineage habove) hobstructed.not_isDirectory
  · rcases Path.mem_lineage_cases hstop with rfl | ⟨hnames, hstop⟩
    · rfl
    · have hparent := isDirectory_parent_of_found? hobstructed.found hnames
      exact absurd (hparent.of_mem_lineage hstop) hstops.not_isDirectory

/-- Creating the directories on the way fails because something is there exactly if a path
on the way is obstructed. -/
theorem makeDirectories_alreadyThere_iff
    (hmissing : ∀ e, s.locate .entry path = .error e → e = .refused .notFound path) :
    (∃ other, (s.run (makeDirectories true path)).1 =
        .error (.refused .alreadyThere other)) ↔
      ∃ above ∈ path.lineage, (s.run (makeDirectories true path)).2.IsObstructed above := by
  rcases h : s.run (makeDirectories true path) with ⟨f | _, s'⟩
  · obtain ⟨stop, hstop, hstops⟩ := exists_stopsAt hmissing h
    simp only [Except.error.injEq]
    rw [hstops.alreadyThere_iff]
    refine ⟨fun hobstructed => ⟨stop, hstop, hobstructed⟩, ?_⟩
    rintro ⟨above, habove, hobstructed⟩
    rwa [← hstops.eq_of_isObstructed hobstructed
      (Path.mem_lineage_or_mem_lineage habove hstop)]
  · constructor
    · rintro ⟨_, hfail⟩
      cases hfail
    rintro ⟨above, habove, hobstructed⟩
    exact absurd ((isDirectory_of_makeDirectories h).of_mem_lineage habove)
      hobstructed.not_isDirectory

/-- The session once the missing directories above a path are created, as far as they can
be. -/
def withParents (s : Session) (path : Path) : Session :=
  (s.run (makeDirectories true path.parent)).2

/-- Something is in the place of a new directory, or something else than a directory above
it. -/
def IsTaken (s : Session) (path : Path) : Prop :=
  s.found? path ≠ none ∨ ∃ above ∈ path.parent.lineage, s.IsObstructed above

/-- Creating a new directory fails because something is there exactly if something is found
in its place, or a directory above it is missing and its place turns out to be taken in
the end. -/
theorem makeDirectories_new_alreadyThere_iff :
    (∃ other, (s.run (makeDirectories false path)).1 =
        .error (.refused .alreadyThere other)) ↔
      s.found? path ≠ none ∨
        s.locate .entry path = .error (.refused .notFound path) ∧
          (s.withParents path).IsTaken path := by
  by_cases hnotFound : s.locate .entry path = .error (.refused .notFound path)
  · have hnone : s.found? path = none := by rw [found?, hnotFound]
    have hmissing : ∀ e, s.locate .entry path.parent = .error e →
        e = .refused .notFound path.parent := fun _ => locate_parent_of_notFound hnotFound
    have hparents := makeDirectories_alreadyThere_iff hmissing
    simp only [run_makeDirectories_of_notFound hnotFound, hnone, hnotFound, ne_eq,
      not_true_eq_false, false_or, true_and, withParents, IsTaken, ← hparents]
    rcases h : s.run (makeDirectories true path.parent) with ⟨f | _, s₁⟩
    · rw [run_bind_of_error h]
      obtain ⟨stop, hstop, hstops⟩ := exists_stopsAt hmissing h
      refine (or_iff_right fun hfound => hstops.not_isDirectory ?_).symm
      exact (isDirectory_parent_of_found? hfound (names_ne_nil_of_notFound hnotFound)
        ).of_mem_lineage hstop
    · rw [run_bind_of_ok h, ensureDirectory_alreadyThere_iff,
        and_iff_left fun hfalse => absurd hfalse Bool.false_ne_true]
      refine (or_iff_left ?_).symm
      rintro ⟨_, hfail⟩
      cases hfail
  · rw [run_makeDirectories_of_ne_notFound hnotFound, ensureDirectory_alreadyThere_iff]
    simp [hnotFound]

end Session

end ModuleScaffold
