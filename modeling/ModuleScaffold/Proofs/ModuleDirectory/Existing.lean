import ModuleScaffold.Proofs.Files.LineageFailure
import ModuleScaffold.Proofs.ModuleDirectory

/-!
# A directory that is there already

The artifacts of a module are not written into a directory that is there already, and the
report that it is there should mean this and nothing else.  But the missing directories
above it are created in the same attempt, and one that something else is in place of is
reported in the same way: a link that leads nowhere, say.  So the report is right exactly
if no directory is missing above the path, or those that are can be created and the path
does not lead to something then.
-/

namespace ModuleScaffold

namespace Session

variable {s : Session} {path other : Path} {artifact : Artifact} {artifacts : List Artifact}

/-- Writing an artifact fails for other causes than a directory that is there. -/
theorem writeArtifact_ne_directoryExists :
    (s.run (writeArtifact path artifact)).1 ≠ .error (.directoryExists other) := by
  intro h
  rcases run_bind_error_cases (Prod.ext h rfl) with hwrite | ⟨_, _, -, hnote⟩
  · rw [writeText, run_write] at hwrite
    cases hlocate : s.locate .file (path.joinText artifact.filename) with
    | error f =>
        simp only [hlocate] at hwrite
        rcases locate_error_cases hlocate with rfl | ⟨cause, rfl⟩ <;> cases hwrite
    | ok place =>
        rcases hfound : s.tree.get? place with _ | _ | _ | _ <;>
          simp [hlocate, hfound] at hwrite
  · cases hnote

/-- The report is made exactly if creating the directory fails because something is
there. -/
theorem directoryExists_iff_alreadyThere :
    (s.run (materialize path artifacts)).1 = .error (.directoryExists path) ↔
      ∃ other, (s.run (makeDirectories false path)).1 =
        .error (.refused .alreadyThere other) := by
  rcases hcreate : s.run (makeDirectories false path) with ⟨f | _, s₁⟩
  · rw [run_materialize_of_error hcreate]
    by_cases hclean : path.IsClean
    · obtain ⟨cause, other, rfl⟩ :=
        refuses_makeDirectories false hclean s f (congrArg Prod.fst hcreate)
      cases cause <;> simp [creationFailure]
    · rw [run_makeDirectories_of_not_isClean hclean] at hcreate
      cases hcreate
      simp [creationFailure]
  · rw [run_materialize_of_ok hcreate]
    constructor
    · intro hreport
      obtain ⟨artifact, -, s', hwrite⟩ := mapM_failure hreport
      exact absurd hwrite writeArtifact_ne_directoryExists
    · rintro ⟨_, hfail⟩
      cases hfail

/-- The report is made exactly if something is found in place of the directory, or a
directory above it is missing and its place turns out to be taken in the end. -/
theorem directoryExists_iff :
    (s.run (materialize path artifacts)).1 = .error (.directoryExists path) ↔
      s.found? path ≠ none ∨
        s.locate .entry path = .error (.refused .notFound path) ∧
          (s.withParents path).IsTaken path :=
  directoryExists_iff_alreadyThere.trans makeDirectories_new_alreadyThere_iff

/-- Nothing happens to a directory that is there. -/
theorem run_materialize_of_found? (h : s.found? path ≠ none) :
    s.run (materialize path artifacts) = (.error (.directoryExists path), s) := by
  have hcreate : s.run (makeDirectories false path) =
      (.error (.refused .alreadyThere path), s) := by
    rw [run_makeDirectories_of_ne_notFound (ne_notFound_of_found? h _), ensureDirectory,
      run_tryCatch, run_makeDirectory_of_found? h]
    rfl
  exact run_materialize_of_error hcreate

/-- That the directory exists is reported exactly if something is found in its place, and
nothing changes then. -/
structure ReportsExisting (s : Session) (path : Path) (artifacts : List Artifact) :
    Prop where
  truly : (s.run (materialize path artifacts)).1 = .error (.directoryExists path) ↔
    s.found? path ≠ none
  unchanged : (s.run (materialize path artifacts)).1 = .error (.directoryExists path) →
    (s.run (materialize path artifacts)).2.tree = s.tree

theorem reportsExisting_of_not_isTaken
    (h : s.locate .entry path = .error (.refused .notFound path) →
      ¬ (s.withParents path).IsTaken path) : s.ReportsExisting path artifacts := by
  have htruly : (s.run (materialize path artifacts)).1 = .error (.directoryExists path) ↔
      s.found? path ≠ none :=
    directoryExists_iff.trans (or_iff_left fun ⟨hnotFound, htaken⟩ => h hnotFound htaken)
  exact ⟨htruly, fun hexists => by rw [run_materialize_of_found? (htruly.1 hexists)]⟩

/-- In a directory that is there the report is right. -/
theorem reportsExisting_of_isDirectory_parent (h : s.IsDirectory path.parent) :
    s.ReportsExisting path artifacts := by
  refine reportsExisting_of_not_isTaken fun hnotFound htaken => ?_
  rw [withParents, run_makeDirectories_of_isDirectory h] at htaken
  rcases htaken with hfound | ⟨above, habove, hobstructed⟩
  · exact ne_notFound_of_found? hfound _ hnotFound
  · exact hobstructed.not_isDirectory (h.of_mem_lineage habove)

/-- Exactly a directory that is missing above the path, while its place turns out to be
taken in the end, keeps the report from being right. -/
theorem reportsExisting_iff :
    s.ReportsExisting path artifacts ↔
      (s.locate .entry path = .error (.refused .notFound path) →
        ¬ (s.withParents path).IsTaken path) := by
  constructor
  · intro h hnotFound htaken
    have hfound := h.truly.1 (directoryExists_iff.2 (.inr ⟨hnotFound, htaken⟩))
    exact ne_notFound_of_found? hfound _ hnotFound
  · exact reportsExisting_of_not_isTaken

/-- A link that leads nowhere in place of the directory above is reported as the directory
of the module. -/
theorem not_reportsExisting_danglingLink :
    ¬ ReportsExisting { tree := ⟨[(["src"], .link "nowhere")]⟩, here := [] }
      (.ofText "src/media") [] := by
  intro h
  exact h.truly.1 (by decide +kernel) (by decide +kernel)

end Session

end ModuleScaffold
