import ModuleScaffold.Text.Basic

/-!
# Backends and artifact kinds

A module is generated for one of two data-access backends and consists of one
artifact of every kind.
-/

namespace ModuleScaffold

/-- How the generated code reaches its data. -/
inductive Backend where
  /-- Through a generated client. -/
  | prisma
  /-- Through an injected repository of entities. -/
  | typeorm
deriving DecidableEq, Repr

namespace Backend

/-- All backends, in the order in which they are listed. -/
def all : List Backend :=
  [.prisma, .typeorm]

/-- The name of the backend on the command line. -/
def value : Backend → Text
  | prisma => "prisma"
  | typeorm => "typeorm"

/-- The name of the backend in running text. -/
def label : Backend → Text
  | prisma => "Prisma"
  | typeorm => "TypeORM"

/-- What the generated code looks like, in one line. -/
def description : Backend → Text
  | prisma =>
    "Generated Prisma client accessed through PrismaService. " ++
      "CRUD service + JWT-guarded controller."
  | typeorm =>
    "Entity repository injected with @InjectRepository. " ++
      "Registers the entity via TypeOrmModule.forFeature."

/-- The backend of a name, in exactly this spelling. -/
def ofValue? (t : Text) : Option Backend :=
  all.find? fun backend => backend.value == t

theorem mem_all (backend : Backend) : backend ∈ all := by
  cases backend <;> decide

theorem ofValue?_value (backend : Backend) :
    ofValue? backend.value = some backend := by
  cases backend <;> decide

end Backend

/-- What a generated file is for. -/
inductive ArtifactKind where
  | service
  | serviceSpec
  | controller
  | controllerSpec
  /-- The module class that ties the others together. -/
  | module
deriving DecidableEq, Repr

namespace ArtifactKind

/-- All kinds, in the order in which the artifacts are written. -/
def all : List ArtifactKind :=
  [.service, .serviceSpec, .controller, .controllerSpec, .module]

/-- The name of the kind. -/
def value : ArtifactKind → Text
  | service => "service"
  | serviceSpec => "service-spec"
  | controller => "controller"
  | controllerSpec => "controller-spec"
  | module => "module"

/-- The name of the kind in capitals, as messages show it. -/
def label : ArtifactKind → Text
  | service => "SERVICE"
  | serviceSpec => "SERVICE_SPEC"
  | controller => "CONTROLLER"
  | controllerSpec => "CONTROLLER_SPEC"
  | module => "MODULE"

/-- How the file name of such an artifact ends. -/
def suffix : ArtifactKind → Text
  | service => ".service.ts"
  | serviceSpec => ".service.spec.ts"
  | controller => ".controller.ts"
  | controllerSpec => ".controller.spec.ts"
  | module => ".module.ts"

/-- The kind of a name, in exactly this spelling. -/
def ofValue? (t : Text) : Option ArtifactKind :=
  all.find? fun kind => kind.value == t

theorem mem_all (kind : ArtifactKind) : kind ∈ all := by
  cases kind <;> decide

theorem ofValue?_value (kind : ArtifactKind) :
    ofValue? kind.value = some kind := by
  cases kind <;> decide

/-- Different kinds have different file names. -/
theorem suffix_injective {k l : ArtifactKind} (h : k.suffix = l.suffix) :
    k = l := by
  revert h
  cases k <;> cases l <;> decide

end ArtifactKind

end ModuleScaffold
