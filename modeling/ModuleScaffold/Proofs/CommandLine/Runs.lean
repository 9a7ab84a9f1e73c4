import ModuleScaffold.Proofs.Aggregator.Patch
import ModuleScaffold.Proofs.CommandLine.Generation
import ModuleScaffold.Proofs.ModuleDirectory
import ModuleScaffold.Proofs.Text.Blanks
import Mathlib.Data.List.Induction

/-!
# Several runs one after the other

Runs below one root that generate modules of different names do what the pure
functions of this library say: each one leaves a directory with the artifacts of its
module and nothing else, and the root module, if there is one, holds the registrations
in the order of the runs.  One run keeps a session ready for the next one, and from
this it follows for any number of runs.
-/

namespace ModuleScaffold

/-- How a command line chooses a backend: by its name, by the flag for one of them, by
both, or not at all. -/
structure BackendChoice where
  orm : Option Backend := none
  typeorm : Bool := false

namespace BackendChoice

/-- The arguments that make the choice. -/
def arguments : BackendChoice → List Text
  | ⟨none, false⟩ => []
  | ⟨none, true⟩ => ["--typeorm"]
  | ⟨some backend, false⟩ => ["--orm", backend.value]
  | ⟨some backend, true⟩ => ["--orm", backend.value, "--typeorm"]

/-- What the arguments say. -/
def settings : BackendChoice → List Argument
  | ⟨none, false⟩ => []
  | ⟨none, true⟩ => [.flag .typeorm]
  | ⟨some backend, false⟩ => [.setting .orm backend.value]
  | ⟨some backend, true⟩ => [.setting .orm backend.value, .flag .typeorm]

/-- The backend that is chosen.  The flag goes before the name. -/
def backend (choice : BackendChoice) : Backend :=
  if choice.typeorm then .typeorm else choice.orm.getD .prisma

end BackendChoice

/-- A run that generates a module: its name as typed, the names derived from it, and the
choice of the backend. -/
structure Run where
  raw : Text
  name : ModuleName
  derived : ModuleName.derive raw = .ok name
  choice : BackendChoice := {}

/-- The usual source directory below a root. -/
def sourceRoot (root : Text) : Path :=
  (Path.ofText root).join (.ofText defaultSourceDirectory)

theorem isFilename_defaultAggregator : IsFilename defaultAggregator where
  leadsDown := ⟨by decide, by decide, by decide⟩
  noSlash := by decide
  clean := by decide

/-- A name is no option. -/
theorem ModuleName.isOption_of_derive {raw : Text} {n : ModuleName}
    (h : derive raw = .ok n) : isOption raw = false := by
  unfold isOption
  split
  next c rest =>
    have htrim : Text.trim ('-' :: c :: rest) = '-' :: Text.trimRight (c :: rest) :=
      Text.trimRight_append_cons [] (c :: rest) (by decide)
    simp [derive, htrim, Text.isIdentifier] at h
  next => rfl

namespace Run

variable {root : Text}

/-- The command line of a run below a root. -/
def arguments (run : Run) (root : Text) : List Text :=
  "generate" :: run.raw :: "--root" :: root :: run.choice.arguments

/-- What a run generates below a root, with the usual source directory and root
module. -/
def generation (run : Run) (root : Text) : Generation :=
  ⟨false, { root := .ofText root, backend := run.choice.backend }, run.name⟩

theorem aggregatorPath_eq (run : Run) (root : Text) :
    (run.generation root).config.aggregatorPath =
      (sourceRoot root).child defaultAggregator :=
  Path.joinText_eq_child _ isFilename_defaultAggregator

theorem target_eq (run : Run) (root : Text) :
    (run.generation root).target = (sourceRoot root).child run.name.kebab :=
  Path.joinText_eq_child _ (ModuleName.isFilename_kebab run.derived)

theorem dot_not_mem_kebab (run : Run) : '.' ∉ run.name.kebab :=
  ModuleName.not_mem_kebab run.derived (by decide) (by decide)

theorem readAll?_arguments (run : Run) (root : Text) :
    Argument.readAll? (run.raw :: "--root" :: root :: run.choice.arguments) =
      some (.name run.raw :: .setting .root root :: run.choice.settings) := by
  have hoption := ModuleName.isOption_of_derive run.derived
  have hname : run.raw ≠ "--" := by
    intro h
    simp [h, isOption] at hoption
  have hrest : Argument.readAll? ("--root" :: root :: run.choice.arguments) =
      some (.setting .root root :: run.choice.settings) := by
    obtain ⟨_ | backend, _ | _⟩ := run.choice <;> rfl
  rw [Argument.readAll?, if_neg hname, hoption, hrest]
  rfl

/-- A run generates its module. -/
theorem generation?_arguments (run : Run) {environment : Environment} {here : Location}
    (hroot : '\x00' ∉ root)
    (henvironment : Environment.nonempty environment.sourceDirectory = none) :
    generation? (run.arguments root) environment here = some (run.generation root) := by
  have hinvocation : Invocation.ofArguments (run.arguments root) =
      .generate
        { name := some run.raw
          root := some root
          orm := run.choice.orm.map Backend.value
          typeorm := run.choice.typeorm } := by
    change Invocation.ofCommandArguments
      (run.raw :: "--root" :: root :: run.choice.arguments) = _
    rw [Invocation.ofCommandArguments, readAll?_arguments]
    obtain ⟨_, _, _, _ | backend, _ | _⟩ := run <;>
      simp [BackendChoice.settings, List.countP_cons, Argument.urgent?, Argument.isName,
        Options.add, Options.hasNullCharacter, hroot]
  rw [generation?, hinvocation]
  obtain ⟨raw, n, hderive, _ | backend, _ | _⟩ := run <;>
    simp [Options.backend, Backend.ofValue?_value, hderive, Options.config, henvironment,
      generation, BackendChoice.backend]

end Run

/-- The number of bytes up to which the artifacts of a module have names that can be
looked up. -/
def maxKebabBytes : Nat := 236

theorem isTooLong_append {s t : Text}
    (h : (String.ofList s).utf8ByteSize + (String.ofList t).utf8ByteSize ≤ maxNameBytes) :
    isTooLong (s ++ t) = false := by
  rw [isTooLong, String.ofList_append, String.utf8ByteSize_append]
  simpa using h

theorem isTooLong_filename {backend : Backend} {n : ModuleName}
    (hshort : (String.ofList n.kebab).utf8ByteSize ≤ maxKebabBytes) {artifact : Artifact}
    (hmem : artifact ∈ buildArtifacts backend n) :
    isTooLong artifact.filename = false := by
  obtain ⟨kind, -, rfl⟩ := List.mem_map.1 hmem
  have hsuffix : (String.ofList kind.suffix).utf8ByteSize ≤ 19 := by
    cases kind <;> decide
  refine isTooLong_append ?_
  unfold maxKebabBytes at hshort
  unfold maxNameBytes
  omega

theorem isEntryName_kebab {raw : Text} {n : ModuleName}
    (h : ModuleName.derive raw = .ok n)
    (hshort : (String.ofList n.kebab).utf8ByteSize ≤ maxKebabBytes) :
    IsEntryName n.kebab := by
  refine (ModuleName.isFilename_kebab h).isEntryName ?_
  have hfits : (String.ofList n.kebab).utf8ByteSize ≤ maxNameBytes :=
    hshort.trans (by decide)
  simpa [isTooLong] using hfits

/-- A root module by its text and its permission bits, if there is one. -/
abbrev RootModule := Option (Text × Nat)

/-- What is found at the place of a root module. -/
def RootModule.file (present : RootModule) : Option Entry :=
  present.map fun (t, permissions) => .file t.encode permissions

/-- The root module after the registration of a module. -/
def RootModule.register (n : ModuleName) (present : RootModule) : RootModule :=
  present.map fun (t, permissions) => ((ModuleScaffold.register n t).content, permissions)

namespace FileTree

/-- A directory with the artifacts in it, and with nothing else at any depth. -/
structure HoldsExactly (tree : FileTree) (place : Location) (artifacts : List Artifact) :
    Prop where
  directory : tree.get? place = some .directory
  found : ∀ artifact ∈ artifacts,
    tree.get? (place ++ [artifact.filename]) = some artifact.entry
  nothingElse : ∀ names, names ≠ [] →
    (∀ artifact ∈ artifacts, names ≠ [artifact.filename]) →
      tree.get? (place ++ names) = none

variable {tree tree' : FileTree} {place : Location} {artifacts : List Artifact}

theorem HoldsExactly.congr (h : tree.HoldsExactly place artifacts)
    (heq : ∀ names, tree'.get? (place ++ names) = tree.get? (place ++ names)) :
    tree'.HoldsExactly place artifacts where
  directory := by
    have := heq []
    rw [List.append_nil] at this
    rw [this, h.directory]
  found := fun artifact hmem => by rw [heq, h.found artifact hmem]
  nothingElse := fun names hnames hother => by rw [heq, h.nothingElse names hnames hother]

/-- The tree with a new directory and artifacts in it. -/
def withModule (tree : FileTree) (place : Location) (artifacts : List Artifact) :
    FileTree :=
  (tree.put place .directory).withArtifacts place artifacts

theorem get?_withModule_of_not_prefix {other : Location} (hplace : place ≠ [])
    (hother : ¬ place <+: other) :
    (tree.withModule place artifacts).get? other = tree.get? other := by
  rw [withModule, get?_withArtifacts_of_ne, get?_put _ hplace, if_neg]
  · rintro rfl
    exact hother (List.prefix_refl _)
  · rintro artifact - rfl
    exact hother (List.prefix_append _ _)

/-- Artifacts in a new directory are all that it holds. -/
theorem holdsExactly_withModule (hrooted : tree.IsRooted) (hplace : tree.get? place = none)
    (hnodup : (artifacts.map Artifact.filename).Nodup) :
    (tree.withModule place artifacts).HoldsExactly place artifacts where
  directory := by
    rw [withModule, get?_withArtifacts_of_ne (by simp),
      get?_put _ (ne_nil_of_get?_eq_none hplace), if_pos rfl]
  found := fun artifact hmem => get?_withArtifacts_of_mem hnodup hmem
  nothingElse := by
    intro names hnames hother
    rw [withModule, get?_withArtifacts_of_ne, get?_put _ (ne_nil_of_get?_eq_none hplace),
      if_neg (by simpa using hnames), hrooted.append_eq_none hplace names]
    intro artifact hmem heq
    exact hother artifact hmem (List.append_cancel_left heq)

theorem isRooted_withModule {parent : Location} {name : Text} (hrooted : tree.IsRooted)
    (hparent : tree.get? parent = some .directory)
    (hplace : tree.get? (parent ++ [name]) = none) :
    (tree.withModule (parent ++ [name]) artifacts).IsRooted := by
  have hroot := ne_nil_of_get?_eq_none hplace
  refine (hrooted.put hparent (by simp [hplace]) _).withArtifacts ?_ fun artifact _ => ?_
  · rw [get?_put _ hroot, if_pos rfl]
  · rw [get?_put _ hroot, if_neg (by simp),
      hrooted.append_eq_none hplace [artifact.filename]]
    exact nofun

/-- A tree in which one file took another text is still rooted. -/
theorem IsRooted.of_replaced {entry : Option Entry} (hrooted : tree.IsRooted)
    (hplace : tree.get? place ≠ some .directory)
    (hentry : tree.get? place = none → entry = none)
    (hget : ∀ other, tree'.get? other = if other = place then entry else tree.get? other) :
    tree'.IsRooted := by
  intro parent name hfound
  have hbefore : tree.get? (parent ++ [name]) ≠ none := by
    rw [hget] at hfound
    split at hfound
    next h => exact h ▸ fun hnone => hfound (hentry hnone)
    next => exact hfound
  have hparent := hrooted parent name hbefore
  rw [hget, if_neg (by rintro rfl; exact hplace hparent), hparent]

end FileTree

namespace Session

variable {s s₁ : Session} {root : Text} {path : Path} {place : Location}
  {present : RootModule}

theorem short_temporaryName : isTooLong (temporaryName defaultAggregator) = false := by
  decide

theorem isEntryName_defaultAggregator : IsEntryName defaultAggregator :=
  isFilename_defaultAggregator.isEntryName (by decide)

/-- The root module in a directory takes the registration, if it is there. -/
theorem IsDirectoryAt.run_patch (h : s.IsDirectoryAt path place) (hs : s.IsSound)
    (hpresent : s.tree.get? (place ++ [defaultAggregator]) = present.file)
    (hfree : s.tree.get? (place ++ [temporaryName defaultAggregator]) = none)
    (n : ModuleName) :
    ∃ outcome s', s.run (patch (path.child defaultAggregator) n) = (.ok outcome, s') ∧
      s'.here = s.here ∧
      ∀ other, s'.tree.get? other =
        if other = place ++ [defaultAggregator] then (present.register n).file
        else s.tree.get? other := by
  have hname := isEntryName_defaultAggregator
  have hnolink : ∀ target, s.tree.get? (place ++ [defaultAggregator]) ≠
      some (.link target) := by
    intro target
    rw [hpresent]
    cases present <;> simp [RootModule.file]
  have htarget : s.locate .target (path.child defaultAggregator) =
      .ok (place ++ [defaultAggregator]) := h.locate_child hname (.inr hnolink)
  cases present with
  | none =>
      have hnone : s.tree.get? (place ++ [defaultAggregator]) = none := hpresent
      have hthere : s.run (FileAccess.isThere (path.child defaultAggregator)) =
          (.ok false, s) := by
        rw [run_isThere, htarget]
        simp [hnone]
      rw [Session.run_patch, hthere]
      refine ⟨_, _, rfl, here_noting _ _, fun other => ?_⟩
      rw [tree_noting]
      split
      next heq => rw [heq, hnone]; rfl
      next => rfl
  | some found =>
      obtain ⟨t, permissions⟩ := found
      have hsibling : s.found? (temporarySibling (path.child defaultAggregator)) = none := by
        rw [temporarySibling_child,
          h.found?_child (isEntryName_temporaryName hname short_temporaryName), hfree]
      obtain ⟨s', hrun, hhere, hget, -⟩ := patch_file hs htarget
        (h.locate_child hname (.inl rfl)) hpresent hsibling
        (by rw [temporarySibling_child, Path.name_child, short_temporaryName]) n
      exact ⟨_, s', hrun, hhere, hget⟩

/-- A session in which modules can be generated below a root, and the one in which its
source directory was created, if it was missing. -/
structure IsReady (s s₁ : Session) (root : Text) (place : Location)
    (present : RootModule) : Prop where
  sound : s.IsSound
  created : s.run (makeDirectories true (sourceRoot root)) = (.ok (), s₁)
  directory : s₁.IsDirectoryAt (sourceRoot root) place
  rootModule : s₁.tree.get? (place ++ [defaultAggregator]) = present.file
  sibling : s₁.tree.get? (place ++ [temporaryName defaultAggregator]) = none

variable {run : Run} {environment : Environment}

theorem IsReady.grown (h : IsReady s s₁ root place present) :
    Grown (sourceRoot root).lineage s s₁ := by
  have hgrown := grown_makeDirectories s true (sourceRoot root)
  rwa [h.created] at hgrown

theorem IsReady.not_mem_root (h : IsReady s s₁ root place present) : '\x00' ∉ root := by
  have hclean : (sourceRoot root).IsClean :=
    (locate_eq_ok_iff.1 h.directory.locate).1
  exact Path.IsClean.of_ofText fun name hname =>
    hclean name (List.mem_append_left _ hname)

/-- The artifacts of a module are written into a directory of their own. -/
theorem IsReady.run_artifacts (h : IsReady s s₁ root place present)
    (hshort : (String.ofList run.name.kebab).utf8ByteSize ≤ maxKebabBytes)
    (hfree : s₁.tree.get? (place ++ [run.name.kebab]) = none) :
    (s.run (FileAccess.isThere (run.generation root).target)).1 = .ok false ∧
      ∃ s', (s.beginning (run.generation root)).run
          (materialize (run.generation root).target (run.generation root).artifacts) =
            (.ok ((run.generation root).artifacts.map Artifact.filename), s') ∧
        s'.here = s₁.here ∧
        s'.tree = s₁.tree.withModule (place ++ [run.name.kebab])
          (run.generation root).artifacts := by
  have hname := isEntryName_kebab run.derived hshort
  obtain ⟨hthere, hcreate⟩ :=
    run_makeDirectories_child h.sound h.created h.directory.locate hname hfree
  rw [Run.target_eq run root]
  refine ⟨by rw [hthere], ?_⟩
  -- creating the directory does not depend on what was printed or noted before
  obtain ⟨hok, htree, hhere⟩ := (silent_makeDirectories false
    ((sourceRoot root).child run.name.kebab)).congr (tree_beginning s (run.generation root))
      (here_beginning s (run.generation root))
  rw [hcreate] at hok htree hhere
  dsimp only at hok htree hhere
  rcases hbegun : (s.beginning (run.generation root)).run
    (makeDirectories false ((sourceRoot root).child run.name.kebab)) with ⟨r, s₂⟩
  rw [hbegun] at hok htree hhere
  dsimp only at hok htree hhere
  subst hok
  have hkeeps : s₁.tree.Keeps s₂.tree := by
    rw [htree]
    exact FileTree.keeps_put hfree _
  have hfound : s₂.tree.get? (place ++ [run.name.kebab]) = some .directory := by
    rw [htree, FileTree.get?_put _ (by simp), if_pos rfl]
  have hplace : s₂.IsDirectoryAt ((sourceRoot root).child run.name.kebab)
      (place ++ [run.name.kebab]) := by
    have hroot := h.directory.of_keepsWays (keepsWays_of_keeps hkeeps hhere)
    exact ⟨hroot.locate_child hname (.inr fun target => by simp [hfound]), hfound⟩
  obtain ⟨s', hrun, hhere', htree'⟩ := run_materialize
    (h.sound.congr (tree_beginning _ _) (here_beginning _ _)) hbegun hplace
    (fun artifact hmem => ModuleName.isFilename_of_mem_buildArtifacts run.derived hmem)
    (fun artifact hmem => isTooLong_filename hshort hmem)
  exact ⟨s', hrun, hhere'.trans hhere, by rw [htree', htree]; rfl⟩

/-- Where the source directory is there already, nothing has to be created. -/
theorem IsDirectoryAt.isReady (h : s.IsDirectoryAt (sourceRoot root) place) (hs : s.IsSound)
    (hrootModule : s.tree.get? (place ++ [defaultAggregator]) = present.file)
    (hsibling : s.tree.get? (place ++ [temporaryName defaultAggregator]) = none) :
    IsReady s s root place present :=
  ⟨hs, run_makeDirectories_of_isDirectory ⟨place, h⟩, h, hrootModule, hsibling⟩

theorem prefix_append_cons_iff {a b : Text} {names : List Text} :
    place ++ [a] <+: place ++ b :: names ↔ a = b := by
  rw [List.prefix_append_right_inj, List.cons_prefix_cons]
  simp

/-- The directory of a module lies elsewhere than the files with a dot in their
names. -/
theorem not_prefix_of_dot (run : Run) {name : Text} (hname : '.' ∈ name) :
    ¬ place ++ [run.name.kebab] <+: place ++ [name] := by
  intro hprefix
  exact run.dot_not_mem_kebab (prefix_append_cons_iff.1 hprefix ▸ hname)

/-- With the directory of a module the session is as ready as before. -/
theorem IsReady.withModule {s₂ : Session} {artifacts : List Artifact}
    (h : IsReady s s₁ root place present)
    (hfree : s₁.tree.get? (place ++ [run.name.kebab]) = none)
    (htree : s₂.tree = s₁.tree.withModule (place ++ [run.name.kebab]) artifacts)
    (hhere : s₂.here = s₁.here) : IsReady s₂ s₂ root place present := by
  have hs₁ : s₁.IsSound := h.grown.sound h.sound
  have hframe : ∀ other, ¬ place ++ [run.name.kebab] <+: other →
      s₂.tree.get? other = s₁.tree.get? other := by
    intro other hother
    rw [htree, FileTree.get?_withModule_of_not_prefix (by simp) hother]
  have hkeeps : s₁.tree.Keeps s₂.tree := by
    intro other entry hfound
    rw [hframe, hfound]
    rintro ⟨names, rfl⟩
    exact nomatch (hs₁.rooted.append_eq_none hfree names).symm.trans hfound
  have hs₂ : s₂.IsSound := by
    refine ⟨htree ▸ FileTree.isRooted_withModule hs₁.rooted h.directory.found hfree, ?_⟩
    rw [hhere]
    exact hkeeps _ _ hs₁.here
  refine (h.directory.of_keepsWays (keepsWays_of_keeps hkeeps hhere)).isReady hs₂ ?_ ?_
  · exact (hframe _ (not_prefix_of_dot run (by decide))).trans h.rootModule
  · exact (hframe _ (not_prefix_of_dot run (by decide))).trans h.sibling

/-- With another text of the root module the session is ready for another run. -/
theorem IsReady.withRootModule {s' : Session} {n : ModuleName}
    (h : IsReady s s₁ root place present) (hhere : s'.here = s₁.here)
    (hget : ∀ other, s'.tree.get? other =
      if other = place ++ [defaultAggregator] then (present.register n).file
      else s₁.tree.get? other) :
    IsReady s' s' root place (present.register n) := by
  have hs₁ : s₁.IsSound := h.grown.sound h.sound
  have hdirectory : ∀ other entry, s₁.tree.get? other = some entry →
      (∀ bytes permissions, entry ≠ .file bytes permissions) →
        s'.tree.get? other = some entry := by
    intro other entry hfound hentry
    rw [hget, if_neg, hfound]
    rintro rfl
    rw [h.rootModule] at hfound
    obtain ⟨found, -, rfl⟩ := Option.map_eq_some_iff.1 hfound
    exact hentry _ _ rfl
  have hways : KeepsWays s₁ s' :=
    ⟨hhere, fun other hother => hdirectory other _ hother nofun,
      fun other target hother => hdirectory other _ hother nofun⟩
  refine (h.directory.of_keepsWays hways).isReady
    ⟨hs₁.rooted.of_replaced ?_ ?_ hget, ?_⟩ ?_ ?_
  · rw [h.rootModule]
    cases present <;> simp [RootModule.file]
  · rw [h.rootModule]
    cases present <;> simp [RootModule.file, RootModule.register]
  · rw [hhere]
    exact hways.directory _ hs₁.here
  · rw [hget, if_pos rfl]
  · rw [hget, if_neg, h.sibling]
    intro heq
    have hname : temporaryName defaultAggregator = defaultAggregator := by simpa using heq
    exact absurd hname (by decide)

/-- One run generates its module, and leaves the session ready for another one. -/
theorem IsReady.step (h : IsReady s s₁ root place present)
    (henvironment : Environment.nonempty environment.sourceDirectory = none)
    (hshort : (String.ofList run.name.kebab).utf8ByteSize ≤ maxKebabBytes)
    (hfree : s₁.tree.get? (place ++ [run.name.kebab]) = none) :
    ∃ s', s.run (runCommandLine (run.arguments root) environment) = (.ok 0, s') ∧
      s'.here = s.here ∧
      IsReady s' s' root place (present.register run.name) ∧
      s'.tree.HoldsExactly (place ++ [run.name.kebab]) (run.generation root).artifacts ∧
      ∀ other, ¬ place ++ [run.name.kebab] <+: other →
        other ≠ place ++ [defaultAggregator] → s'.tree.get? other = s₁.tree.get? other := by
  have hg : generation? (run.arguments root) environment s.here =
      some (run.generation root) :=
    run.generation?_arguments h.not_mem_root henvironment
  obtain ⟨hthere, s₂, hartifacts, hhere₂, htree₂⟩ := h.run_artifacts hshort hfree
  have hholds : s₂.tree.HoldsExactly (place ++ [run.name.kebab])
      (run.generation root).artifacts := by
    rw [htree₂]
    exact FileTree.holdsExactly_withModule (h.grown.sound h.sound).rooted hfree
      (nodup_filenames run.choice.backend run.name)
  let told := s₂.saying (Lines.created
    ((run.generation root).artifacts.map Artifact.filename) run.choice.backend)
  have hready : IsReady told told root place present := h.withModule hfree htree₂ hhere₂
  obtain ⟨outcome, s₃, hpatch, hhere₃, hget⟩ :=
    hready.directory.run_patch hready.sound hready.rootModule hready.sibling run.name
  let s' := (s₃.saying ((Lines.registered (run.generation root).config run.name
    outcome).map Line.text)).saying (Lines.done run.name)
  have hrun : s.run (runCommandLine (run.arguments root) environment) = (.ok 0, s') := by
    rw [← Run.aggregatorPath_eq run root] at hpatch
    exact run_generation_of_ok hg hthere hartifacts hpatch
  have hhere : s'.here = s.here := hhere₃.trans (hhere₂.trans h.grown.here)
  refine ⟨s', hrun, hhere, hready.withRootModule hhere₃ hget, ?_, fun other hother hne => ?_⟩
  · refine hholds.congr fun names => (hget _).trans (if_neg ?_)
    intro heq
    exact not_prefix_of_dot run (by decide : '.' ∈ defaultAggregator) ⟨names, heq⟩
  · refine ((hget other).trans (if_neg hne)).trans ?_
    exact htree₂ ▸ FileTree.get?_withModule_of_not_prefix (by simp) hother

/-- The runs below a root, one after the other. -/
def runAll (runs : List Run) (root : Text) (environment : Environment) :
    SessionM (List ExitCode) :=
  runs.mapM fun run => runCommandLine (run.arguments root) environment

/-- The root module after the registrations of all runs in their order. -/
def registerRuns (runs : List Run) (present : RootModule) : RootModule :=
  present.map fun (t, permissions) =>
    (runs.foldl (fun t run => (ModuleScaffold.register run.name t).content) t, permissions)

theorem registerRuns_concat (runs : List Run) (run : Run) (present : RootModule) :
    registerRuns (runs ++ [run]) present =
      (registerRuns runs present).register run.name := by
  cases present with
  | none => rfl
  | some found => simp [registerRuns, RootModule.register]

theorem runAll_concat (runs : List Run) (run : Run) (root : Text)
    (environment : Environment) :
    runAll (runs ++ [run]) root environment = (do
      let codes ← runAll runs root environment
      let code ← runCommandLine (run.arguments root) environment
      return codes ++ [code]) := by
  simp [runAll, List.mapM_append]

/-- After any number of runs the session is ready for one more: each directory is as
its run left it, and below the source root no other name is taken. -/
theorem IsReady.runAll {runs : List Run} (h : IsReady s s₁ root place present)
    (henvironment : Environment.nonempty environment.sourceDirectory = none)
    (hdistinct : (runs.map fun run => run.name.kebab).Nodup)
    (hshort : ∀ run ∈ runs,
      (String.ofList run.name.kebab).utf8ByteSize ≤ maxKebabBytes)
    (hfree : ∀ run ∈ runs, s₁.tree.get? (place ++ [run.name.kebab]) = none) :
    ∃ s' s₁', s.run (runAll runs root environment) = (.ok (runs.map fun _ => 0), s') ∧
      s'.here = s.here ∧
      IsReady s' s₁' root place (registerRuns runs present) ∧
      (runs ≠ [] → s₁' = s') ∧
      (∀ run ∈ runs, s'.tree.HoldsExactly (place ++ [run.name.kebab])
        (run.generation root).artifacts) ∧
      ∀ name, '.' ∉ name → name ∉ runs.map (fun run => run.name.kebab) →
        s₁'.tree.get? (place ++ [name]) = s₁.tree.get? (place ++ [name]) := by
  induction runs using List.reverseRecOn with
  | nil =>
      have hnone : registerRuns [] present = present := by cases present <;> rfl
      exact ⟨s, s₁, rfl, rfl, hnone.symm ▸ h, nofun, nofun, fun _ _ _ => rfl⟩
  | append_singleton runs run ih =>
      rw [List.forall_mem_append] at hshort hfree
      rw [List.map_append, List.nodup_append] at hdistinct
      obtain ⟨hdistinct, -, hnew⟩ := hdistinct
      obtain ⟨s', s₁', hrun, hhere, hready, hsame, hheld, hothers⟩ :=
        ih hdistinct hshort.1 hfree.1
      have hnotin : run.name.kebab ∉ runs.map fun run => run.name.kebab :=
        fun hmem => hnew _ hmem _ (by simp) rfl
      have hfree' : s₁'.tree.get? (place ++ [run.name.kebab]) = none := by
        rw [hothers _ run.dot_not_mem_kebab hnotin]
        exact hfree.2 run (by simp)
      obtain ⟨s'', hstep, hhere', hready', hholds, hframe⟩ :=
        hready.step henvironment (hshort.2 run (by simp)) hfree'
      have haggregator : '.' ∈ defaultAggregator := by decide
      -- what lies below another name than that of the last run is as before
      have hbelow : ∀ name names, '.' ∉ name → name ≠ run.name.kebab →
          s''.tree.get? (place ++ name :: names) = s₁'.tree.get? (place ++ name :: names) := by
        intro name names hname hne
        refine hframe _ (fun hprefix => hne (prefix_append_cons_iff.1 hprefix).symm) ?_
        intro heq
        obtain ⟨rfl, -⟩ := List.cons.inj (List.append_cancel_left heq)
        exact hname haggregator
      refine ⟨s'', s'', ?_, hhere'.trans hhere, ?_, fun _ => rfl, ?_, ?_⟩
      · rw [runAll_concat, run_bind_of_ok hrun, run_bind_of_ok hstep]
        simp
      · rw [registerRuns_concat]
        exact hready'
      · rw [List.forall_mem_append]
        refine ⟨fun earlier hmem => (hheld earlier hmem).congr fun names => ?_, ?_⟩
        · have hkebab : earlier.name.kebab ∈ runs.map fun run => run.name.kebab :=
            List.mem_map_of_mem hmem
          rw [← List.append_cons,
            hbelow _ _ earlier.dot_not_mem_kebab fun heq => hnotin (heq ▸ hkebab),
            hsame (List.ne_nil_of_mem hmem)]
        · simpa using hholds
      · intro name hname hother
        rw [List.map_append, List.mem_append, not_or] at hother
        rw [hbelow name [] hname fun heq => hother.2 (by simp [heq]), hothers name hname hother.1]

/-- The root module is there before the source directory was created, too. -/
theorem IsReady.get?_rootModule (h : IsReady s s₁ root place present) :
    s.tree.get? (place ++ [defaultAggregator]) = present.file := by
  cases hbefore : s.tree.get? (place ++ [defaultAggregator]) with
  | some entry => rw [← h.grown.keeps _ _ hbefore, h.rootModule]
  | none =>
      cases hpresent : present.file with
      | none => rfl
      | some entry =>
          obtain ⟨rfl, -⟩ := h.grown.new _ entry hbefore (h.rootModule.trans hpresent)
          simp [RootModule.file] at hpresent

/-- Runs of modules with different names all succeed; every module has a directory with
its artifacts and nothing else, and the root module holds all registrations, if it was
there. -/
theorem runAll_refines {runs : List Run} (h : IsReady s s₁ root place present)
    (henvironment : Environment.nonempty environment.sourceDirectory = none)
    (hdistinct : (runs.map fun run => run.name.kebab).Nodup)
    (hshort : ∀ run ∈ runs,
      (String.ofList run.name.kebab).utf8ByteSize ≤ maxKebabBytes)
    (hfree : ∀ run ∈ runs, s₁.tree.get? (place ++ [run.name.kebab]) = none) :
    ∃ s', s.run (runAll runs root environment) = (.ok (runs.map fun _ => 0), s') ∧
      (∀ run ∈ runs,
        s'.IsDirectoryAt (run.generation root).target (place ++ [run.name.kebab]) ∧
        s'.tree.HoldsExactly (place ++ [run.name.kebab])
          (buildArtifacts run.choice.backend run.name)) ∧
      s'.tree.get? (place ++ [defaultAggregator]) = (registerRuns runs present).file := by
  obtain ⟨s', s₁', hrun, -, hready, hsame, hheld, -⟩ :=
    h.runAll henvironment hdistinct hshort hfree
  refine ⟨s', hrun, fun run hmem => ⟨?_, hheld run hmem⟩, hready.get?_rootModule⟩
  have hfound := (hheld run hmem).directory
  have hplace := hready.directory
  rw [hsame (List.ne_nil_of_mem hmem)] at hplace
  rw [Run.target_eq run root]
  exact ⟨hplace.locate_child (isEntryName_kebab run.derived (hshort run hmem))
    (.inr fun target => by simp [hfound]), hfound⟩

/-- Two runs with different backends below a root module that only its owner may
read. -/
theorem runAll_refines_media_users :
    let place : Location := ["proj", "apps", "api", "src"]
    let s : Session :=
      { tree := ⟨[(["proj"], .directory), (["proj", "apps"], .directory),
          (["proj", "apps", "api"], .directory), (place, .directory),
          (place ++ [defaultAggregator], .file (Text.encode "imports: [A]") 0o600)]⟩
        here := [] }
    let runs : List Run :=
      [{ raw := "media", name := .ofPascal "Media", derived := by decide +kernel },
        { raw := "users", name := .ofPascal "Users", derived := by decide +kernel
          choice := { orm := some .typeorm } }]
    let after : Text :=
      "import \x7b UsersModule \x7d from './users/users.module';\n" ++
        "import \x7b MediaModule \x7d from './media/media.module';\n" ++
        "imports: [A,\n  MediaModule,\n  UsersModule,\n]"
    ∃ s', s.run (runAll runs "proj" {}) = (.ok [0, 0], s') ∧
      s'.tree.get? (place ++ [defaultAggregator]) = some (.file after.encode 0o600) := by
  intro place s runs after
  have hdirectory : s.IsDirectoryAt (sourceRoot "proj") place :=
    ⟨by decide +kernel, by decide +kernel⟩
  have hready : IsReady s s "proj" place (some ("imports: [A]", 0o600)) :=
    ⟨by decide +kernel, run_makeDirectories_of_isDirectory ⟨place, hdirectory⟩, hdirectory,
      rfl, by decide +kernel⟩
  have henvironment : Environment.nonempty ({} : Environment).sourceDirectory = none := rfl
  have hdistinct : (runs.map fun run => run.name.kebab).Nodup := by decide +kernel
  obtain ⟨s', hrun, -, hrootModule⟩ := runAll_refines hready henvironment hdistinct
    (by decide +kernel) (by decide +kernel)
  refine ⟨s', hrun, hrootModule.trans ?_⟩
  have hafter : runs.foldl (fun t run => (ModuleScaffold.register run.name t).content)
      "imports: [A]" = after := by
    decide +kernel
  have hregistered : registerRuns runs (some ("imports: [A]", 0o600)) = some (after, 0o600) :=
    congrArg (fun t => some (t, 0o600)) hafter
  rw [hregistered]
  rfl

/-- It is not enough that nothing is below the source root before the first run: the
path of the root may lead through a directory that the run creates on the way. -/
theorem not_forall_runAll_succeeds :
    ¬ ∀ (s : Session) (environment : Environment) (root : Text) (present : RootModule)
        (runs : List Run), s.IsSound →
      Environment.nonempty environment.sourceDirectory = none →
      (s.run (makeDirectories true (sourceRoot root))).1 = .ok () →
      s.found? ((sourceRoot root).child defaultAggregator) = present.file →
      s.found? (temporarySibling ((sourceRoot root).child defaultAggregator)) = none →
      (runs.map fun run => run.name.kebab).Nodup →
      (∀ run ∈ runs, (String.ofList run.name.kebab).utf8ByteSize ≤ maxKebabBytes) →
      (∀ run ∈ runs, s.found? ((sourceRoot root).child run.name.kebab) = none) →
      (s.run (runAll runs root environment)).1 = .ok (runs.map fun _ => 0) := by
  intro h
  let s : Session :=
    { tree := ⟨[(["y"], .directory), (["y", "apps"], .directory),
        (["y", "apps", "api"], .directory), (["y", "apps", "api", "src"], .directory),
        (["y", "apps", "api", "src", "media"], .directory)]⟩
      here := [] }
  let run : Run :=
    { raw := "media", name := .ofPascal "Media", derived := by decide +kernel
      choice := { orm := some .prisma } }
  have hfailed : (s.run (runAll [run] "x/../y" {})).1 = .ok [1] := by decide +kernel
  have hsucceeds := h s {} "x/../y" none [run] (by decide +kernel) rfl
    (by decide +kernel) (by decide +kernel) (by decide +kernel) (by decide +kernel)
    (by decide +kernel) (by decide +kernel)
  rw [hfailed] at hsucceeds
  simp at hsucceeds

end Session

end ModuleScaffold
