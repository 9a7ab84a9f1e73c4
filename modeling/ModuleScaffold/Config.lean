import ModuleScaffold.Backend
import ModuleScaffold.Files.Path
import ModuleScaffold.ModuleName

/-!
# Configuration

A configuration says where modules are generated and registered: below a
workspace root lies the source directory, in it the file of the root module and
one directory for every module, named by the route spelling.
-/

namespace ModuleScaffold

/-- The source directory unless another is given. -/
def defaultSourceDirectory : Text := "apps/api/src"

/-- The file name of the root module unless another is given. -/
def defaultAggregator : Text := "app.module.ts"

/-- Where modules are generated and registered. -/
structure Config where
  root : Path
  /-- The source directory, seen from the root. -/
  sourceDirectory : Path := .ofText defaultSourceDirectory
  /-- The file name of the root module, seen from the source directory. -/
  aggregator : Text := defaultAggregator
  backend : Backend := .prisma
deriving DecidableEq, Repr

namespace Config

/-- The directory of the sources. -/
def sourceRoot (config : Config) : Path :=
  config.root.join config.sourceDirectory

/-- The file of the root module. -/
def aggregatorPath (config : Config) : Path :=
  config.sourceRoot.joinText config.aggregator

/-- The directory of a module. -/
def targetDirectory (config : Config) (n : ModuleName) : Path :=
  config.sourceRoot.joinText n.kebab

end Config

end ModuleScaffold
