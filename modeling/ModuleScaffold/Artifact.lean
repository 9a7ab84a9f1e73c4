import ModuleScaffold.Template.Module

/-!
# Artifacts

The registry says which template renders which kind of artifact for which
backend.  A registry may have gaps; `Registry.check` finds the first one, and
the registry of this library has none.  The artifacts of a module are its
rendered files under their names.
-/

namespace ModuleScaffold

/-- The templates of one backend by artifact kind. -/
abbrev BackendTemplates := ArtifactKind → Option Template

/-- The templates of all backends. -/
abbrev Registry := Backend → Option BackendTemplates

/-- Why there is no template. -/
inductive UnsupportedArtifact where
  /-- There is no backend of this name, or the registry does not know it. -/
  | missingBackend (value : Text)
  /-- The registry has no template of this kind for the backend. -/
  | missingKind (kind : ArtifactKind)
  /-- There is no artifact kind of this name. -/
  | unknownKind (value : Text)
deriving DecidableEq, Repr

/-- The message that names what is missing. -/
def UnsupportedArtifact.message : UnsupportedArtifact → Text
  | .missingBackend value =>
    "No templates registered for backend " ++ value.quoted
  | .missingKind kind =>
    "No render function for artifact kind <ArtifactKind." ++ kind.label ++
      ": " ++ kind.value.quoted ++ ">"
  | .unknownKind value =>
    "No render function for artifact kind " ++ value.quoted

namespace Registry

/-- Fails with the first gap: backends in their order, and for each one first
its presence and then the kinds in their order. -/
def check (registry : Registry) : Except UnsupportedArtifact Unit :=
  Backend.all.forM fun backend => do
    let some templates := registry backend | throw (.missingBackend backend.value)
    ArtifactKind.all.forM fun kind => do
      if (templates kind).isNone then
        throw (.missingKind kind)

end Registry

/-- The template of a kind of artifact for a backend. -/
def Template.of (backend : Backend) : ArtifactKind → Template
  | .service => service backend
  | .serviceSpec => serviceSpec backend
  | .controller => controller backend
  | .controllerSpec => controllerSpec backend
  | .module => moduleFile backend

/-- The registry of this library. -/
def Registry.standard : Registry := fun backend =>
  some fun kind => some (Template.of backend kind)

/-- The registry of this library has no gap. -/
theorem Registry.check_standard : Registry.standard.check = .ok () := rfl

/-- The text of one artifact. -/
def renderArtifact (backend : Backend) (kind : ArtifactKind) (n : ModuleName) :
    Text :=
  (Template.of backend kind).render n

/-- The text of one artifact, for a backend and a kind given by name. -/
def renderNamed (backend kind : Text) (n : ModuleName) :
    Except UnsupportedArtifact Text := do
  let some backend := Backend.ofValue? backend | throw (.missingBackend backend)
  let some kind := ArtifactKind.ofValue? kind | throw (.unknownKind kind)
  return renderArtifact backend kind n

/-- A generated file: its name in the directory of the module, and its text. -/
structure Artifact where
  filename : Text
  content : Text
deriving DecidableEq, Repr

/-- The artifacts of a module, in the order in which they are written. -/
def buildArtifacts (backend : Backend) (n : ModuleName) : List Artifact :=
  ArtifactKind.all.map fun kind =>
    ⟨n.kebab ++ kind.suffix, renderArtifact backend kind n⟩

/-- Different artifacts of a module have different file names. -/
theorem nodup_filenames (backend : Backend) (n : ModuleName) :
    ((buildArtifacts backend n).map Artifact.filename).Nodup := by
  simp only [buildArtifacts, List.map_map]
  refine List.Pairwise.map _ (R := (· ≠ ·)) ?_ (by decide)
  intro k l hne heq
  exact hne (ArtifactKind.suffix_injective (List.append_cancel_left heq))

end ModuleScaffold
