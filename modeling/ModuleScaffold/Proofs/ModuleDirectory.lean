import ModuleScaffold.Proofs.Files.Lineage
import ModuleScaffold.Proofs.ModuleName

/-!
# What becomes of the directory of a module

The artifacts of a module have names that can be written in any directory, unless
the name of the module is so long that one of them is refused.  Written into a
directory that has no such entries, they are found there and nothing else changes;
what is refused ends the writing, and the artifacts ahead of it stay.  Materializing
writes into a directory that it created itself.
-/

namespace ModuleScaffold

namespace ModuleName

variable {raw : Text} {n : ModuleName}

theorem not_mem_kebab (h : derive raw = .ok n) {c : Char} (hc : c.isAlphanum = false)
    (hhyphen : c ≠ '-') : c ∉ n.kebab := by
  intro hmem
  rcases isAlphanum_of_mem_kebab h c hmem with rfl | halphanum
  · contradiction
  · simp [halphanum] at hc

theorem isFilename_kebab (h : derive raw = .ok n) : IsFilename n.kebab where
  leadsDown := by
    have hdot : '.' ∉ n.kebab := not_mem_kebab h (by decide) (by decide)
    refine ⟨kebab_ne_nil h, fun heq => ?_, fun heq => ?_⟩ <;> simp [heq] at hdot
  noSlash := not_mem_kebab h (by decide) (by decide)
  clean := not_mem_kebab h (by decide) (by decide)

/-- A name of an artifact begins with a letter or a digit and not with a dot. -/
theorem isFilename_append_suffix (h : derive raw = .ok n) (kind : ArtifactKind) :
    IsFilename (n.kebab ++ kind.suffix) where
  leadsDown := by
    have hlength : 3 ≤ (n.kebab ++ kind.suffix).length := by
      have hsuffix : 3 ≤ kind.suffix.length := by cases kind <;> decide
      rw [List.length_append]
      omega
    refine ⟨?_, ?_, ?_⟩ <;> intro heq <;> simp [heq] at hlength
  noSlash := by
    have hsuffix : '/' ∉ kind.suffix := by cases kind <;> decide
    exact List.not_mem_append (isFilename_kebab h).noSlash hsuffix
  clean := by
    have hsuffix : '\x00' ∉ kind.suffix := by cases kind <;> decide
    exact List.not_mem_append (isFilename_kebab h).clean hsuffix

theorem isFilename_of_mem_buildArtifacts (h : derive raw = .ok n) {backend : Backend}
    {artifact : Artifact} (hmem : artifact ∈ buildArtifacts backend n) :
    IsFilename artifact.filename := by
  obtain ⟨kind, -, rfl⟩ := List.mem_map.1 hmem
  exact isFilename_append_suffix h kind

end ModuleName

/-- The file that an artifact is written as. -/
def Artifact.entry (artifact : Artifact) : Entry :=
  .file artifact.content.trim.encode newFilePermissions

/-- The last of the artifacts with a name. -/
def lastNamed (artifacts : List Artifact) (name : Text) : Option Artifact :=
  artifacts.reverse.find? fun artifact => artifact.filename = name

section LastNamed

variable {artifact : Artifact} {artifacts : List Artifact} {name : Text}

theorem lastNamed_cons :
    lastNamed (artifact :: artifacts) name =
      (lastNamed artifacts name).or
        (if artifact.filename = name then some artifact else none) := by
  simp only [lastNamed, List.reverse_cons, List.find?_append]
  by_cases h : artifact.filename = name <;> simp [h]

theorem lastNamed_eq_some (h : lastNamed artifacts name = some artifact) :
    artifact ∈ artifacts ∧ artifact.filename = name :=
  ⟨List.mem_reverse.1 (List.mem_of_find?_eq_some h), by simpa using List.find?_some h⟩

theorem lastNamed_eq_none_iff :
    lastNamed artifacts name = none ↔ ∀ artifact ∈ artifacts, artifact.filename ≠ name := by
  simp [lastNamed]

theorem lastNamed_of_mem (hnodup : (artifacts.map Artifact.filename).Nodup)
    (hmem : artifact ∈ artifacts) : lastNamed artifacts artifact.filename = some artifact := by
  cases hlast : lastNamed artifacts artifact.filename with
  | none => exact absurd rfl (lastNamed_eq_none_iff.1 hlast artifact hmem)
  | some last =>
      obtain ⟨hlastmem, hname⟩ := lastNamed_eq_some hlast
      rw [List.inj_on_of_nodup_map hnodup hlastmem hmem hname]

end LastNamed

namespace FileTree

/-- The tree with artifacts written into a directory. -/
def withArtifacts (tree : FileTree) (place : Location) (artifacts : List Artifact) :
    FileTree :=
  artifacts.foldl (fun tree artifact =>
    tree.put (place ++ [artifact.filename]) artifact.entry) tree

variable {tree : FileTree} {place other : Location} {artifact : Artifact}
  {artifacts : List Artifact}

theorem withArtifacts_cons :
    tree.withArtifacts place (artifact :: artifacts) =
      (tree.put (place ++ [artifact.filename]) artifact.entry).withArtifacts place
        artifacts := rfl

/-- Only the entries of the artifacts change. -/
theorem get?_withArtifacts_of_ne
    (hother : ∀ artifact ∈ artifacts, other ≠ place ++ [artifact.filename]) :
    (tree.withArtifacts place artifacts).get? other = tree.get? other := by
  induction artifacts generalizing tree with
  | nil => rfl
  | cons artifact artifacts ih =>
      rw [withArtifacts_cons, ih fun a ha => hother a (List.mem_cons_of_mem _ ha),
        get?_put _ (by simp), if_neg (hother artifact List.mem_cons_self)]

/-- Of the artifacts with one name the last is found under it. -/
theorem get?_withArtifacts (tree : FileTree) (place : Location)
    (artifacts : List Artifact) (name : Text) :
    (tree.withArtifacts place artifacts).get? (place ++ [name]) =
      ((lastNamed artifacts name).map Artifact.entry).or (tree.get? (place ++ [name])) := by
  induction artifacts generalizing tree with
  | nil => rfl
  | cons first artifacts ih =>
      rw [withArtifacts_cons, ih, get?_put _ (by simp), lastNamed_cons]
      by_cases hname : first.filename = name
      · subst hname
        cases lastNamed artifacts first.filename <;> simp
      · have hother : place ++ [name] ≠ place ++ [first.filename] := by
          simpa using Ne.symm hname
        cases lastNamed artifacts name <;> simp [hname, hother]

/-- Every artifact is found under its name. -/
theorem get?_withArtifacts_of_mem (hnodup : (artifacts.map Artifact.filename).Nodup)
    (hmem : artifact ∈ artifacts) :
    (tree.withArtifacts place artifacts).get? (place ++ [artifact.filename]) =
      some artifact.entry := by
  rw [get?_withArtifacts, lastNamed_of_mem hnodup hmem]
  rfl

/-- Artifacts that are written where nothing is take no entry away. -/
theorem keeps_withArtifacts (hempty : ∀ name, tree.get? (place ++ [name]) = none) :
    tree.Keeps (tree.withArtifacts place artifacts) := by
  intro other entry hfound
  rw [get?_withArtifacts_of_ne, hfound]
  rintro artifact - rfl
  exact nomatch (hempty _).symm.trans hfound

theorem IsRooted.withArtifacts (hrooted : tree.IsRooted)
    (hplace : tree.get? place = some .directory)
    (hfree : ∀ artifact ∈ artifacts,
      tree.get? (place ++ [artifact.filename]) ≠ some .directory) :
    (tree.withArtifacts place artifacts).IsRooted := by
  induction artifacts generalizing tree with
  | nil => exact hrooted
  | cons artifact artifacts ih =>
      rw [List.forall_mem_cons] at hfree
      rw [withArtifacts_cons]
      refine ih (hrooted.put hplace hfree.1 _) ?_ fun a ha => ?_
      · rw [get?_put _ (by simp), if_neg (by simp), hplace]
      · rw [get?_put _ (by simp)]
        split
        · exact nofun
        · exact hfree.2 a ha

end FileTree

namespace Session

variable {s s' : Session} {path : Path} {place : Location} {artifact : Artifact}
  {artifacts : List Artifact}

theorem run_writeArtifact (h : s.IsDirectoryAt path place)
    (hname : IsFilename artifact.filename)
    (hshort : isTooLong artifact.filename = false)
    (hfree : s.tree.TakesNew (place ++ [artifact.filename])) :
    s.run (writeArtifact path artifact) =
      (.ok artifact.filename, { s with
        tree := s.tree.put (place ++ [artifact.filename]) artifact.entry }.noting
          (.wroteArtifact artifact.filename)) := by
  rw [writeArtifact, Path.joinText_eq_child path hname,
    run_bind_of_ok (h.run_writeText (hname.isEntryName hshort) hfree _)]
  rfl

/-- An artifact whose name is too long is not written. -/
theorem run_writeArtifact_of_isTooLong (h : s.IsDirectoryAt path place)
    (hname : IsFilename artifact.filename)
    (hlong : isTooLong artifact.filename = true) :
    ∃ cause other, s.run (writeArtifact path artifact) =
      (.error (.refused cause other), s) := by
  have hclean : (path.child artifact.filename).IsClean :=
    Path.isClean_child.2 ⟨(locate_eq_ok_iff.1 h.locate).1, hname.clean⟩
  rw [writeArtifact, Path.joinText_eq_child path hname]
  cases hlocate : s.locate .file (path.child artifact.filename) with
  | ok place' =>
      obtain ⟨-, -, hentry, -⟩ := locate_child_cases hlocate hname.leadsDown
      simp [hentry.short] at hlong
  | error f =>
      have hwrite : s.run (writeText (path.child artifact.filename)
          artifact.content.trim) = (.error f, s) := by
        rw [writeText, run_write, hlocate]
      obtain ⟨cause, rfl⟩ := exists_cause_of_locate hclean hlocate
      rw [run_bind_of_error hwrite]
      exact ⟨cause, _, rfl⟩

/-- The artifacts ahead of the first one with a name that is too long. -/
def shortNamed (artifacts : List Artifact) : List Artifact :=
  artifacts.takeWhile fun artifact => !isTooLong artifact.filename

/-- Artifacts are written in their order, all of them or those ahead of the first name
that is too long, each in place of an earlier one of its name. -/
theorem run_writeArtifacts (h : s.IsDirectoryAt path place)
    (hnames : ∀ artifact ∈ artifacts, IsFilename artifact.filename)
    (hfree : ∀ artifact ∈ artifacts, s.tree.TakesNew (place ++ [artifact.filename])) :
    ∃ r s', s.run (artifacts.mapM (writeArtifact path)) = (r, s') ∧
      s'.here = s.here ∧ s'.printed = s.printed ∧
      s'.tree = s.tree.withArtifacts place (shortNamed artifacts) ∧
      ((shortNamed artifacts = artifacts ∧ r = .ok (artifacts.map Artifact.filename)) ∨
        shortNamed artifacts ≠ artifacts ∧
          ∃ cause other, r = .error (.refused cause other)) := by
  induction artifacts generalizing s with
  | nil => exact ⟨_, s, rfl, rfl, rfl, rfl, .inl ⟨rfl, rfl⟩⟩
  | cons artifact artifacts ih =>
      rw [List.mapM_cons]
      rw [List.forall_mem_cons] at hnames hfree
      cases hshort : isTooLong artifact.filename with
      | true =>
          have hnone : shortNamed (artifact :: artifacts) = [] := by
            simp [shortNamed, hshort]
          obtain ⟨cause, other, hrun⟩ :=
            run_writeArtifact_of_isTooLong h hnames.1 hshort
          rw [run_bind_of_error hrun, hnone]
          exact ⟨_, s, rfl, rfl, rfl, rfl, .inr ⟨by simp, cause, other, rfl⟩⟩
      | false =>
          have hcons : shortNamed (artifact :: artifacts) =
              artifact :: shortNamed artifacts := by
            simp [shortNamed, hshort]
          rw [run_bind_of_ok (run_writeArtifact h hnames.1 hshort hfree.1), hcons]
          let s₁ := { s with
            tree := s.tree.put (place ++ [artifact.filename]) artifact.entry }.noting
              (.wroteArtifact artifact.filename)
          have htree : s₁.tree =
              s.tree.put (place ++ [artifact.filename]) artifact.entry := tree_noting _ _
          have hhere : s₁.here = s.here := here_noting _ _
          have hways : KeepsWays s s₁ := by
            refine keepsWays_of_keepsKinds ?_ hhere
            rw [htree]
            exact hfree.1.writable.keepsKinds_put _ _
          obtain ⟨r, s', hrun, hhere', hprinted, htree', hcases⟩ :=
            ih (h.of_keepsWays hways) hnames.2 fun a ha => by
              rw [FileTree.TakesNew, htree, FileTree.get?_put _ (by simp)]
              split
              · exact .inr ⟨_, rfl⟩
              · exact hfree.2 a ha
          have hmap : s₁.run (artifacts.mapM (writeArtifact path) >>= fun names =>
              pure (artifact.filename :: names)) =
              (r.map (artifact.filename :: ·), s') := by
            rw [run_bind, hrun]
            cases r <;> rfl
          refine ⟨_, s', hmap, hhere'.trans hhere, hprinted.trans (printed_noting _ _), ?_, ?_⟩
          · rw [htree', htree, FileTree.withArtifacts_cons]
          · rcases hcases with ⟨hall, rfl⟩ | ⟨hsome, cause, other, rfl⟩
            · exact .inl ⟨by rw [hall], rfl⟩
            · exact .inr ⟨by simpa using hsome, cause, other, rfl⟩

theorem run_materialize_of_ok {s₁ : Session}
    (h : s.run (makeDirectories false path) = (.ok (), s₁)) :
    s.run (materialize path artifacts) =
      (s₁.noting (.createdDirectory path)).run (artifacts.mapM (writeArtifact path)) := by
  rw [materialize, run_bind, run_tryCatch, h]
  rfl

/-- The failure that is reported when the directory could not be created. -/
def creationFailure (path : Path) : Failure → Failure
  | .refused .alreadyThere _ => .directoryExists path
  | f => f

theorem run_materialize_of_error {s₁ : Session} {f : Failure}
    (h : s.run (makeDirectories false path) = (.error f, s₁)) :
    s.run (materialize path artifacts) = (.error (creationFailure path f), s₁) := by
  rw [materialize, run_bind, run_tryCatch, h]
  cases f with
  | refused cause other => cases cause <;> rfl
  | _ => rfl

/-- A directory that is created where nothing was is empty. -/
theorem isDirectoryAt_of_created (hplace : s.locate .entry path = .ok place)
    (hnone : s.tree.get? place = none) (hs : s.IsSound) :
    let created : Session := { s with tree := s.tree.put place .directory }
    created.IsDirectoryAt path place ∧
      ∀ name, created.tree.get? (place ++ [name]) = none := by
  intro created
  have hput := FileTree.get?_put s.tree (FileTree.ne_nil_of_get?_eq_none hnone) .directory
  refine ⟨isDirectoryAt_of_locate
    (locate_of_keeps (FileTree.keeps_put hnone _) rfl hplace (.inl rfl)) ?_, fun name => ?_⟩
  · rw [hput, if_pos rfl]
  · rw [hput, if_neg (by simp), hs.rooted.append_eq_none hnone [name]]

/-- A created directory is new and empty. -/
theorem exists_empty_of_makeDirectories (hs : s.IsSound)
    (h : s.run (makeDirectories false path) = (.ok (), s')) :
    ∃ place, s'.IsDirectoryAt path place ∧ s.tree.get? place = none ∧
      ∀ name, s'.tree.get? (place ++ [name]) = none := by
  obtain ⟨s₁, place, hgrown, hplace, hnone, rfl⟩ := exists_created_of_makeDirectories h
  obtain ⟨hdirectory, hempty⟩ := isDirectoryAt_of_created hplace hnone (hgrown.sound hs)
  refine ⟨place, hdirectory, ?_, hempty⟩
  by_contra hfound
  obtain ⟨entry, hentry⟩ := Option.ne_none_iff_exists'.1 hfound
  exact nomatch (hgrown.keeps _ _ hentry).symm.trans hnone

/-- Where the directory can be created, the artifacts are written into it. -/
theorem exists_run_materialize {s₁ : Session} (hs : s.IsSound)
    (h : s.run (makeDirectories false path) = (.ok (), s₁))
    (hnames : ∀ artifact ∈ artifacts, IsFilename artifact.filename) :
    ∃ place r s', s₁.IsDirectoryAt path place ∧ s.tree.get? place = none ∧
      (∀ name, s₁.tree.get? (place ++ [name]) = none) ∧
      s.run (materialize path artifacts) = (r, s') ∧ s'.here = s₁.here ∧
      s'.tree = s₁.tree.withArtifacts place (shortNamed artifacts) ∧
      ((shortNamed artifacts = artifacts ∧ r = .ok (artifacts.map Artifact.filename)) ∨
        shortNamed artifacts ≠ artifacts ∧
          ∃ cause other, r = .error (.refused cause other)) := by
  obtain ⟨place, hplace, hnone, hempty⟩ := exists_empty_of_makeDirectories hs h
  have htree := tree_noting s₁ (.createdDirectory path)
  have hhere := here_noting s₁ (.createdDirectory path)
  obtain ⟨r, s', hrun, hhere', -, htree', hcases⟩ :=
    run_writeArtifacts (hplace.congr htree hhere) hnames fun artifact _ =>
      .inl (by rw [htree, hempty])
  exact ⟨place, r, s', hplace, hnone, hempty, (run_materialize_of_ok h).trans hrun,
    hhere'.trans hhere, by rw [htree', htree], hcases⟩

/-- In a directory that can be created all artifacts are written, if none has too
long a name. -/
theorem run_materialize {s₁ : Session} (hs : s.IsSound)
    (h : s.run (makeDirectories false path) = (.ok (), s₁))
    (hplace : s₁.IsDirectoryAt path place)
    (hnames : ∀ artifact ∈ artifacts, IsFilename artifact.filename)
    (hshort : ∀ artifact ∈ artifacts, isTooLong artifact.filename = false) :
    ∃ s', s.run (materialize path artifacts) =
        (.ok (artifacts.map Artifact.filename), s') ∧
      s'.here = s₁.here ∧ s'.tree = s₁.tree.withArtifacts place artifacts := by
  obtain ⟨place', r, s', hplace', -, -, hrun, hhere, htree, hcases⟩ :=
    exists_run_materialize hs h hnames
  obtain rfl := hplace.unique hplace'
  have hall : shortNamed artifacts = artifacts :=
    List.takeWhile_eq_self_iff.2 fun artifact hmem => by simp [hshort artifact hmem]
  obtain ⟨-, rfl⟩ := hcases.resolve_right fun hsome => hsome.1 hall
  exact ⟨s', hrun, hhere, by rw [htree, hall]⟩

end Session

end ModuleScaffold
