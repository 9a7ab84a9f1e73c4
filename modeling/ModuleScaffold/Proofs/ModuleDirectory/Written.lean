import ModuleScaffold.Proofs.ModuleDirectory

/-!
# What materializing leaves behind

In a directory that can be created the artifacts are written up to the first name that is
too long to be looked up.  Those ahead of it stay when the writing ends there, and those
behind it are never begun.  An artifact replaces an earlier one of its name, so the last
one counts.  Outside of the directory nothing happens but that it is created, with the
missing ones above it.
-/

namespace ModuleScaffold

namespace FileTree

variable {tree : FileTree} {place : Location} {artifacts : List Artifact}

/-- A place under which artifacts lie, the last one of each name, and nothing else at any
depth. -/
structure HoldsLast (tree : FileTree) (place : Location) (artifacts : List Artifact) :
    Prop where
  named : ∀ name, tree.get? (place ++ [name]) =
    (lastNamed artifacts name).map Artifact.entry
  deeper : ∀ name more, more ≠ [] → tree.get? (place ++ name :: more) = none

/-- Artifacts that are written where nothing was are all that is found there. -/
theorem holdsLast_withArtifacts (hrooted : tree.IsRooted)
    (hempty : ∀ name, tree.get? (place ++ [name]) = none) :
    (tree.withArtifacts place artifacts).HoldsLast place artifacts where
  named := fun name => by rw [get?_withArtifacts, hempty, Option.or_none]
  deeper := by
    intro name more hmore
    rw [get?_withArtifacts_of_ne, List.append_cons,
      hrooted.append_eq_none (hempty name) more]
    rintro artifact - heq
    obtain ⟨-, rfl⟩ := List.cons.inj (List.append_cancel_left heq)
    contradiction

end FileTree

namespace Session

variable {s s₁ : Session} {path : Path} {artifacts : List Artifact}

/-- Where a directory can be created, the artifacts ahead of the first name that is too
long are written into it, the last one of each name counts, and nothing else changes but
for the directories that are created on the way.  The result is the list of all names, or
a refusal if there is a name that is too long. -/
theorem materialize_writes_prefix (hs : s.IsSound)
    (hcreate : s.run (makeDirectories false path) = (.ok (), s₁))
    (hnames : ∀ artifact ∈ artifacts, IsFilename artifact.filename) :
    let k := artifacts.findIdx fun artifact => isTooLong artifact.filename
    ∃ r s' place, s.run (materialize path artifacts) = (r, s') ∧
      s'.IsDirectoryAt path place ∧ s'.tree.HoldsLast place (artifacts.take k) ∧
      (∀ other, (∀ name more, other ≠ place ++ name :: more) →
        s'.tree.get? other = s.tree.get? other ∨
          s.tree.get? other = none ∧ s'.tree.get? other = some .directory ∧
            ∃ above ∈ path.lineage, s'.locate .entry above = .ok other) ∧
      (k = artifacts.length ∧ r = .ok (artifacts.map Artifact.filename) ∨
        k < artifacts.length ∧ ∃ cause other, r = .error (.refused cause other)) := by
  intro k
  obtain ⟨place, r, s', hplace, -, hempty, hrun, hhere, htree, hcases⟩ :=
    exists_run_materialize hs hcreate hnames
  have hgrown : Grown path.lineage s s₁ := by
    have hlineage := grown_makeDirectories s false path
    rwa [hcreate] at hlineage
  have hkeeps : s₁.tree.Keeps s'.tree := by
    rw [htree]
    exact FileTree.keeps_withArtifacts hempty
  have htake : shortNamed artifacts = artifacts.take k := by
    simp [shortNamed, List.takeWhile_eq_take_findIdx_not, k]
  have hlength : k ≤ artifacts.length := List.findIdx_le_length
  refine ⟨r, s', place, hrun, ?_, ?_, fun other hother => ?_, ?_⟩
  · exact hplace.of_keepsWays (keepsWays_of_keeps hkeeps hhere)
  · rw [htree, ← htake]
    exact FileTree.holdsLast_withArtifacts (hgrown.sound hs).rooted hempty
  · have hsame : s'.tree.get? other = s₁.tree.get? other := by
      rw [htree, FileTree.get?_withArtifacts_of_ne fun artifact _ => hother _ _]
    cases hbefore : s.tree.get? other with
    | some entry => exact .inl (hsame.trans (hgrown.keeps _ _ hbefore))
    | none =>
        cases hcreated : s₁.tree.get? other with
        | none => exact .inl (hsame.trans hcreated)
        | some entry =>
            obtain ⟨rfl, above, habove, hlocate⟩ := hgrown.new other entry hbefore hcreated
            exact .inr ⟨rfl, hsame.trans hcreated, above, habove,
              locate_of_keeps hkeeps hhere hlocate (.inl rfl)⟩
  · rw [htake] at hcases
    refine hcases.imp (And.imp_left fun hall => ?_) (And.imp_left fun hsome => ?_)
    · have hcount := congrArg List.length hall
      rw [List.length_take] at hcount
      omega
    · refine lt_of_le_of_ne hlength fun hk => hsome ?_
      rw [hk, List.take_length]

/-- Two artifacts with one name, and one whose name is too long. -/
theorem materialize_writes_prefix_media :
    let artifacts : List Artifact := [⟨"a.ts", " 1 "⟩, ⟨"b.ts", "2"⟩, ⟨"a.ts", "\n3"⟩,
      ⟨List.replicate 256 'a', "4"⟩, ⟨"c.ts", "5"⟩]
    let s : Session := { tree := ⟨[(["src"], .directory)]⟩, here := [] }
    let s' := (s.run (materialize (.ofText "src/media") artifacts)).2
    s'.tree.get? ["src", "media", "a.ts"] =
        some (.file (Text.encode "3") newFilePermissions) ∧
      s'.tree.get? ["src", "media", "c.ts"] = none ∧
      s'.tree.get? ["src"] = some .directory := by
  intro artifacts s s'
  have hcreate : (s.run (makeDirectories false (.ofText "src/media"))).1 = .ok () := by
    decide +kernel
  have hlocate : s'.locate .target (.ofText "src/media") = .ok ["src", "media"] := by
    decide +kernel
  obtain ⟨r, after, place, hrun, hplace, hholds, hothers, -⟩ :=
    materialize_writes_prefix (by decide +kernel : s.IsSound) (Prod.ext hcreate rfl)
      (by decide +kernel : ∀ artifact ∈ artifacts, IsFilename artifact.filename)
  obtain rfl : s' = after := congrArg Prod.snd hrun
  obtain rfl := Except.ok.inj (hlocate.symm.trans hplace.locate)
  refine ⟨(hholds.named "a.ts").trans (by decide +kernel),
    (hholds.named "c.ts").trans (by decide +kernel), ?_⟩
  rcases hothers ["src"] (by simp) with hsame | ⟨hnone, -⟩
  · exact hsame
  · exact nomatch (rfl : s.tree.get? ["src"] = some .directory).symm.trans hnone

end Session

end ModuleScaffold
