import ModuleScaffold.Proofs.Aggregator.Replacement
import ModuleScaffold.Proofs.CommandLine.Generation
import ModuleScaffold.Proofs.ModuleDirectory.Furnished

/-!
# What a run leaves alone

However a run ends, and whatever the platform refuses on the way, every entry that was
there is still there, except that a run that came as far as its report may have given the
root module a new text; and what is new are the target directory, missing ones above it,
and artifacts.  The temporary sibling of the root module is new as well if the platform
refuses to remove it.

The sibling has to be free for this where it lies when it is written, which is after the
directories were created: a path that leads nowhere before may lead to an entry then.
-/

namespace ModuleScaffold

namespace ModuleName

/-- No artifact is hidden. -/
theorem head?_filename {raw : Text} {n : ModuleName} (h : derive raw = .ok n)
    {backend : Backend} {artifact : Artifact} (hmem : artifact ∈ buildArtifacts backend n) :
    artifact.filename.head? ≠ some '.' := by
  obtain ⟨kind, -, rfl⟩ := List.mem_map.1 hmem
  have hdot : '.' ∉ n.kebab := not_mem_kebab h (by decide) (by decide)
  cases hkebab : n.kebab with
  | nil => exact absurd hkebab (kebab_ne_nil h)
  | cons c rest =>
      rw [hkebab] at hdot
      rintro heq
      simp only [List.cons_append, List.head?_cons, Option.some.injEq] at heq
      simp [heq] at hdot

end ModuleName

namespace Session

variable {s s₁ s₂ : Session} {path : Path} {artifacts : List Artifact}

/-- Artifacts bring no directory and no link. -/
theorem Furnished.keepsWays (h : Furnished path artifacts s₁ s₂) : KeepsWays s₂ s₁ := by
  have hback : ∀ place entry, s₂.tree.get? place = some entry →
      (∀ bytes permissions, entry ≠ .file bytes permissions) →
        s₁.tree.get? place = some entry := by
    intro place entry hfound hentry
    cases hbefore : s₁.tree.get? place with
    | none =>
        obtain ⟨⟨bytes, permissions, hfile⟩, -⟩ := h.new place entry hbefore hfound
        exact absurd hfile (hentry bytes permissions)
    | some before => exact (h.keeps _ _ hbefore).symm.trans hfound
  exact ⟨h.here.symm, fun place hplace => hback place _ hplace nofun,
    fun place target hplace => hback place _ hplace nofun⟩

/-- A path that ends in no directory ends at the same place with and without the
artifacts. -/
theorem Furnished.locate_entry (h : Furnished path artifacts s₁ s₂) (hs : s₂.IsSound)
    {other : Path} {place : Location} (hplace : s₂.locate .entry other = .ok place)
    (hkind : s₂.tree.get? place ≠ some .directory) :
    s₁.locate .entry other = .ok place := by
  obtain ⟨parent, name, directory, rfl, hparent, hname, hcases⟩ :=
    hs.exists_child hplace hkind
  obtain rfl := hcases.resolve_right fun hlink => hlink.1 rfl
  exact (hparent.of_keepsWays h.keepsWays).locate_child hname (.inl rfl)

/-- What is new is a directory on the way, or a file with the name of an artifact. -/
theorem Grown.new_of_furnished {place : Location} {entry : Entry}
    (hgrown : Grown path.lineage s s₁) (h : Furnished path artifacts s₁ s₂)
    (hnone : s.tree.get? place = none) (hsome : s₂.tree.get? place = some entry) :
    (entry = .directory ∧ ∃ above ∈ path.lineage, s₁.locate .entry above = .ok place) ∨
      (∃ bytes permissions, entry = .file bytes permissions) ∧
        ∃ artifact ∈ artifacts, ∃ directory, s₁.IsDirectoryAt path directory ∧
          place = directory ++ [artifact.filename] := by
  cases hmid : s₁.tree.get? place with
  | none => exact .inr (h.new place entry hmid hsome)
  | some found =>
      obtain ⟨rfl, hlineage⟩ := hgrown.new place found hnone hmid
      exact .inl ⟨Option.some.inj (hsome.symm.trans (h.keeps _ _ hmid)), hlineage⟩

/-- If nothing was at the temporary sibling before the directories were created, no
file or link is there with the artifacts. -/
theorem Furnished.eq_directory_of_sibling {entry : Entry}
    (hgrown : Grown path.lineage s s₁) (h : Furnished path artifacts s₁ s₂)
    (hs : s₂.IsSound)
    (hhidden : ∀ artifact ∈ artifacts, artifact.filename.head? ≠ some '.')
    {other : Path} (hclear : ∀ place, s₁.locate .entry (temporarySibling other) = .ok place →
      s.tree.get? place = none)
    (hentry : s₂.found? (temporarySibling other) = some entry) : entry = .directory := by
  by_contra hkind
  rw [found?] at hentry
  split at hentry
  next place hplace =>
    have hplaceKind : s₂.tree.get? place ≠ some .directory := by simpa [hentry] using hkind
    obtain ⟨parent, name, directory, hsibling, -, -, hcases⟩ :=
      hs.exists_child hplace hplaceKind
    obtain rfl := hcases.resolve_right fun hlink => hlink.1 rfl
    have hnone := hclear _ (h.locate_entry hs hplace hplaceKind)
    rcases hgrown.new_of_furnished h hnone hentry with
      ⟨hdirectory, -⟩ | ⟨-, artifact, hmem, _, -, heq⟩
    · exact hkind hdirectory
    · have hname : name = temporaryName other.name := by
        rw [← name_temporarySibling, hsibling, Path.name_child]
      have hartifact : artifact.filename = name := by
        simpa using (List.append_inj_right' heq rfl).symm
      exact hhidden artifact hmem (by rw [hartifact, hname]; rfl)
  next => contradiction

end Session

namespace Host

variable {platform : Platform} {h h₂ : Host} {arguments : List Text}
  {environment : Environment} {g : Generation}

/-- The session with the target directory of a generation and the missing directories
above it, as far as the platform creates them. -/
def withDirectory (platform : Platform) (h : Host) (g : Generation) : Session :=
  ((h.beginning g).run (makeDirectories false g.target : HostM platform Unit)).2.session

/-- What a run may leave at a place where nothing was: a directory on the way to the
target, a file with the name of an artifact in the target, and the temporary sibling if the
platform refuses to remove it. -/
inductive MayAppear (platform : Platform) (h : Host) (g : Generation) (place : Location) :
    Entry → Prop
  | directory (path : Path) (onTheWay : path ∈ g.target.lineage)
      (located : (withDirectory platform h g).locate .entry path = .ok place) :
      MayAppear platform h g place .directory
  | artifact (artifact : Artifact) (mem : artifact ∈ g.artifacts) (directory : Location)
      (target : (withDirectory platform h g).IsDirectoryAt g.target directory)
      (inTarget : place = directory ++ [artifact.filename]) (bytes : ByteArray)
      (permissions : Nat) : MayAppear platform h g place (.file bytes permissions)
  | sibling (refused : platform.Refuses .remove (temporarySibling g.config.aggregatorPath))
      (located : (withDirectory platform h g).locate .entry
        (temporarySibling g.config.aggregatorPath) = .ok place) (bytes : ByteArray)
      (permissions : Nat) : MayAppear platform h g place (.file bytes permissions)

/-- A run keeps every entry, except that the one at the end of the path of the root module
may have become another file if the run succeeded, or if it failed only in that the markup
of its report cannot be read.  Nothing is new but what may appear. -/
structure IsHarmless (platform : Platform) (h : Host) (arguments : List Text)
    (environment : Environment) : Prop where
  kept : ∀ place entry, h.session.tree.get? place = some entry →
    (h.run (runCommandLine arguments environment : HostM platform _)).2.session.tree.get?
        place = some entry ∨
      ((h.run (runCommandLine arguments environment : HostM platform _)).1 = .ok 0 ∨
        ∃ failure, (h.run (runCommandLine arguments environment : HostM platform _)).1 =
          .error (.markup failure)) ∧
        ∃ g bytes permissions,
          generation? arguments environment h.session.here = some g ∧
          (withDirectory platform h g).locate .entry g.config.aggregatorPath = .ok place ∧
          (h.run (runCommandLine arguments environment :
            HostM platform _)).2.session.tree.get? place = some (.file bytes permissions)
  new : ∀ place entry, h.session.tree.get? place = none →
    (h.run (runCommandLine arguments environment : HostM platform _)).2.session.tree.get?
        place = some entry →
      ∃ g, generation? arguments environment h.session.here = some g ∧
        MayAppear platform h g place entry

theorem isHarmless_of_tree_eq
    (htree : (h.run (runCommandLine arguments environment :
      HostM platform _)).2.session.tree = h.session.tree) :
    IsHarmless platform h arguments environment where
  kept := fun place entry hfound => .inl (by rw [htree, hfound])
  new := fun place entry hnone hsome => by
    rw [htree, hnone] at hsome
    contradiction

theorem tree_afterPatch (platform : Platform) (config : Config) (n : ModuleName)
    (x : Except HostFailure Outcome × Host) :
    (afterPatch platform config n x).2.session.tree = x.2.session.tree := by
  rcases x with ⟨(f | f) | outcome, h⟩
  · cases f <;> rfl
  · rfl
  · cases hread : (Lines.registered config n outcome).mapM (Line.read platform.styles) with
    | ok shown => rw [afterPatch_of_ok hread]; rfl
    | error f =>
        obtain ⟨said, hrun⟩ := afterPatch_of_error (h := h) hread
        rw [hrun]
        rfl

theorem afterPatch_ok_cases (platform : Platform) (config : Config) (n : ModuleName)
    (outcome : Outcome) (h : Host) :
    (afterPatch platform config n (.ok outcome, h)).1 = .ok 0 ∨
      ∃ failure, (afterPatch platform config n (.ok outcome, h)).1 =
        .error (.markup failure) := by
  cases hread : (Lines.registered config n outcome).mapM (Line.read platform.styles) with
  | ok shown => exact .inl (by rw [afterPatch_of_ok hread])
  | error f =>
      obtain ⟨said, hrun⟩ := afterPatch_of_error (h := h) hread
      exact .inr ⟨f, by rw [hrun]⟩

/-- Behind the artifacts only the entry of the root module may change, and then the run
comes as far as its report; or the temporary sibling is left. -/
theorem afterArtifacts_cases (platform : Platform) (config : Config) (n : ModuleName)
    (hfree : ∀ entry, h₂.session.found? (temporarySibling config.aggregatorPath) =
      some entry → entry = .directory) (r : Except HostFailure (List Text)) :
    let result := afterArtifacts platform config n (r, h₂)
    (∀ other, result.2.session.tree.get? other = h₂.session.tree.get? other) ∨
      (result.1 = .ok 0 ∨ ∃ failure, result.1 = .error (.markup failure)) ∧
        (∃ place found bytes permissions,
          h₂.session.locate .entry config.aggregatorPath = .ok place ∧
          h₂.session.tree.get? place = some found ∧ found ≠ .directory ∧
          ∀ other, result.2.session.tree.get? other =
            if other = place then some (.file bytes permissions)
            else h₂.session.tree.get? other) ∨
      platform.Refuses .remove (temporarySibling config.aggregatorPath) ∧
        ∃ sibling bytes permissions,
          h₂.session.locate .entry (temporarySibling config.aggregatorPath) = .ok sibling ∧
          h₂.session.tree.get? sibling = none ∧
          ∀ other, result.2.session.tree.get? other =
            if other = sibling then some (.file bytes permissions)
            else h₂.session.tree.get? other := by
  intro result
  rcases r with (f | f) | filenames
  · cases f <;> exact .inl fun _ => rfl
  · exact .inl fun _ => rfl
  · let told := h₂.saying (Lines.created filenames config.backend)
    rcases hpatch : told.run (patch config.aggregatorPath n : HostM platform _) with ⟨r, h'⟩
    have hresult : result = afterPatch platform config n (r, h') :=
      congrArg (afterPatch platform config n) hpatch
    have htree : result.2.session.tree = h'.session.tree := by
      rw [hresult, tree_afterPatch]
    rw [htree]
    rcases patch_cases_of_free (h := told) hfree hpatch with
      hsame | ⟨⟨outcome, rfl⟩, hplace⟩ | hleft
    · exact .inl hsame
    · rw [hresult]
      exact .inr (.inl ⟨afterPatch_ok_cases platform config n outcome h', hplace⟩)
    · exact .inr (.inr hleft)

theorem grown_withDirectory (platform : Platform) (h : Host) (g : Generation) :
    Session.Grown g.target.lineage h.session (withDirectory platform h g) :=
  maintains_grown platform h.session false g.target.lineage (h.beginning g)
    (.of_tree_eq _ (Session.tree_beginning _ _) (Session.here_beginning _ _))

/-- The artifacts of a generation are written into its target directory. -/
theorem furnished_withDirectory (platform : Platform) (hs : h.session.IsSound)
    (hg : generation? arguments environment h.session.here = some g) :
    Session.Furnished g.target g.artifacts (withDirectory platform h g)
      ((h.beginning g).run (materialize g.target g.artifacts :
        HostM platform _)).2.session := by
  obtain ⟨raw, hderive⟩ := exists_derive_of_generation? hg
  exact furnished_materialize platform
    (hs.congr (Session.tree_beginning _ _) (Session.here_beginning _ _))
    fun artifact hmem => ModuleName.isFilename_of_mem_buildArtifacts hderive hmem

theorem mayAppear_of_furnished {place : Location} {entry : Entry}
    (hfurnished : Session.Furnished g.target g.artifacts (withDirectory platform h g)
      h₂.session)
    (hnone : h.session.tree.get? place = none)
    (hsome : h₂.session.tree.get? place = some entry) :
    MayAppear platform h g place entry := by
  rcases (grown_withDirectory platform h g).new_of_furnished hfurnished hnone hsome with
    ⟨rfl, path, hmem, hplace⟩ | ⟨⟨bytes, permissions, rfl⟩, artifact, hmem, directory,
      htarget, hplace⟩
  · exact .directory path hmem hplace
  · exact .artifact artifact hmem directory htarget hplace bytes permissions

/-- A run that got as far as the artifacts damages nothing. -/
theorem isHarmless_of_furnished {r : Except HostFailure (List Text)}
    (hs : h.session.IsSound)
    (hg : generation? arguments environment h.session.here = some g)
    (hfurnished : Session.Furnished g.target g.artifacts (withDirectory platform h g)
      h₂.session)
    (hclear : ∀ place, (withDirectory platform h g).locate .entry
      (temporarySibling g.config.aggregatorPath) = .ok place →
        h.session.tree.get? place = none)
    (hrun : h.run (runCommandLine arguments environment : HostM platform _) =
      afterArtifacts platform g.config g.name (r, h₂)) :
    IsHarmless platform h arguments environment := by
  obtain ⟨raw, hderive⟩ := exists_derive_of_generation? hg
  have hgrown := grown_withDirectory platform h g
  have hs₂ : h₂.session.IsSound := hfurnished.sound (hgrown.sound hs)
  have hkeeps : h.session.tree.Keeps h₂.session.tree := hgrown.keeps.trans hfurnished.keeps
  have hcases := afterArtifacts_cases platform g.config g.name
    (fun entry => hfurnished.eq_directory_of_sibling hgrown hs₂
      (fun artifact => ModuleName.head?_filename hderive) hclear) r
  rw [← hrun] at hcases
  rcases hcases with
    hsame | ⟨hend, place', found, bytes, permissions, hplace', hfound', hkind, htree⟩ |
      ⟨hrefuses, sibling, bytes, permissions, hsibling, hfree, htree⟩
  · refine ⟨fun place entry hfound => .inl ?_, fun place entry hnone hsome => ⟨g, hg, ?_⟩⟩
    · rw [hsame, hkeeps _ _ hfound]
    · exact mayAppear_of_furnished hfurnished hnone (hsame place ▸ hsome)
  · refine ⟨fun place entry hfound => ?_, fun place entry hnone hsome => ⟨g, hg, ?_⟩⟩
    · by_cases hplace : place = place'
      · subst hplace
        exact .inr ⟨hend, g, bytes, permissions, hg,
          hfurnished.locate_entry hs₂ hplace' (by simpa [hfound'] using hkind),
          (htree _).trans (if_pos rfl)⟩
      · exact .inl ((htree _).trans ((if_neg hplace).trans (hkeeps _ _ hfound)))
    · rw [htree] at hsome
      split at hsome
      next hplace =>
        subst hplace
        obtain rfl := Option.some.inj hsome
        -- what is replaced is no directory, so it is new as an artifact only
        cases mayAppear_of_furnished hfurnished hnone hfound' with
        | directory => exact absurd rfl hkind
        | artifact artifact hmem directory htarget hin =>
            exact .artifact artifact hmem directory htarget hin bytes permissions
        | sibling hrefuses hlocated => exact .sibling hrefuses hlocated bytes permissions
      next => exact mayAppear_of_furnished hfurnished hnone hsome
  · refine ⟨fun place entry hfound => .inl ?_, fun place entry hnone hsome => ⟨g, hg, ?_⟩⟩
    · have hfound₂ := hkeeps _ _ hfound
      rw [htree, if_neg, hfound₂]
      rintro rfl
      simp [hfree] at hfound₂
    · rw [htree] at hsome
      split at hsome
      next hplace =>
        subst hplace
        obtain rfl := Option.some.inj hsome
        exact .sibling hrefuses (hfurnished.locate_entry hs₂ hsibling (by simp [hfree]))
          bytes permissions
      next => exact mayAppear_of_furnished hfurnished hnone hsome

/-- Where the temporary sibling is free once the directories are there, a run damages
nothing. -/
theorem isHarmless_of_free (hs : h.session.IsSound)
    (hclear : ∀ g, generation? arguments environment h.session.here = some g → ∀ place,
      (withDirectory platform h g).locate .entry (temporarySibling g.config.aggregatorPath) =
        .ok place → h.session.tree.get? place = none) :
    IsHarmless platform h arguments environment := by
  cases hg : generation? arguments environment h.session.here with
  | none =>
      obtain ⟨code, lines, verbose, -, hrun⟩ := run_runCommandLine_of_none platform hg
      exact isHarmless_of_tree_eq (by rw [hrun]; rfl)
  | some g =>
      have hrun : h.run (runCommandLine arguments environment : HostM platform _) = _ :=
        run_generation hg
      rw [run_isThere] at hrun
      rcases hthere : (h.looked platform g.target).map Option.isSome with f | _ | _
      all_goals rw [hthere] at hrun
      · exact isHarmless_of_tree_eq (by rw [hrun]; rfl)
      · exact isHarmless_of_furnished hs hg (furnished_withDirectory platform hs hg)
          (hclear g hg) hrun
      · exact isHarmless_of_tree_eq (by rw [hrun]; rfl)

theorem isHarmless_of_free_media :
    let s : Session :=
      { tree := ⟨[(["src"], .directory),
          (["src", "app.module.ts"], .file (Text.encode "imports: []") 0o600)]⟩
        here := [] }
    IsHarmless .plain ⟨s, 0⟩ ["generate", "media", "--src-dir", "src"] {} := by
  intro s
  let g : Generation :=
    ⟨false, { root := ⟨.root, []⟩, sourceDirectory := .ofText "src" }, .ofPascal "Media"⟩
  have hg : generation? ["generate", "media", "--src-dir", "src"] {} s.here = some g := by
    decide +kernel
  have hsibling : (withDirectory .plain ⟨s, 0⟩ g).locate .entry
      (temporarySibling g.config.aggregatorPath) = .ok ["src", ".app.module.ts.tmp"] := by
    decide +kernel
  refine isHarmless_of_free (by decide +kernel) fun g' hg' place hplace => ?_
  obtain rfl := Option.some.inj (hg.symm.trans hg')
  obtain rfl := Except.ok.inj (hsibling.symm.trans hplace)
  decide +kernel

/-- It is not enough that the path of the temporary sibling leads to nothing before the
run: it may lead through a directory that the run creates. -/
theorem not_forall_isHarmless :
    ¬ ∀ (s : Session) (arguments : List Text) (environment : Environment), s.IsSound →
      (∀ g, generation? arguments environment s.here = some g →
        s.found? (temporarySibling g.config.aggregatorPath) = none) →
      IsHarmless .plain ⟨s, 0⟩ arguments environment := by
  intro h
  let s : Session :=
    { tree := ⟨[(["foo"], .directory),
        (["foo", "x"], .file ⟨#[]⟩ newFilePermissions),
        (["foo", ".x.tmp"], .file ⟨#[0xff]⟩ newFilePermissions)]⟩
      here := [] }
  let arguments : List Text :=
    ["generate", "media", "--src-dir", "src", "--aggregator", "../foo/x"]
  let g : Generation :=
    ⟨false, { root := ⟨.root, []⟩, sourceDirectory := .ofText "src", aggregator := "../foo/x" },
      .ofPascal "Media"⟩
  have hg : generation? arguments {} s.here = some g := by decide +kernel
  have hfree : s.found? (temporarySibling g.config.aggregatorPath) = none := by
    decide +kernel
  have hremoved : (run ⟨s, 0⟩ (runCommandLine arguments {} :
      HostM .plain _)).2.session.tree.get? ["foo", ".x.tmp"] = none := by
    decide +kernel
  have hharmless : IsHarmless .plain ⟨s, 0⟩ arguments {} := by
    refine h s arguments {} (by decide +kernel) fun g' hg' => ?_
    obtain rfl := Option.some.inj (hg.symm.trans hg')
    exact hfree
  have hkept := hharmless.kept ["foo", ".x.tmp"] (.file ⟨#[0xff]⟩ newFilePermissions) rfl
  rw [hremoved] at hkept
  simp at hkept

end Host

end ModuleScaffold
