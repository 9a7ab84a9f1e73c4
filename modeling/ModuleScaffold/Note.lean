import ModuleScaffold.Aggregator.Registration
import ModuleScaffold.Backend
import ModuleScaffold.Files.Path
import ModuleScaffold.Text.Markup

/-!
# Notes

A run that is asked to be verbose reports each step that it takes.  A note is
one such step.
-/

namespace ModuleScaffold

/-- A step of a run. -/
inductive Note where
  /-- So many artifacts were rendered for a module. -/
  | rendered (count : Nat) (pascal : Text) (backend : Backend)
  | createdDirectory (path : Path)
  | wroteArtifact (filename : Text)
  /-- There is no root module at the path. -/
  | aggregatorMissing (path : Path)
  /-- A registration found something in the text. -/
  | registration (found : RegistrationNote)
  /-- The file of the root module got a new text. -/
  | wroteAggregator (path : Path)
deriving DecidableEq, Repr

/-- A step in words. -/
def Note.message : Note → Text
  | .rendered count pascal backend =>
    "Rendered " ++ Nat.toDigits 10 count ++ " artifacts for " ++ pascal ++
      " with " ++ backend.value
  | .createdDirectory path => "Created " ++ path.toText
  | .wroteArtifact filename => "Wrote " ++ filename
  | .aggregatorMissing path =>
    "Aggregator " ++ path.toText ++ " not found, skipping registration"
  | .registration found => found.message
  | .wroteAggregator path => "Wrote " ++ path.toText

/-- What a run tells the one who started it. -/
class Reporting (m : Type → Type) where
  /-- Prints a line. -/
  say : Line → m Unit
  /-- Reports a step, if the run is verbose. -/
  note : Note → m Unit
  /-- Makes the run verbose from now on, or not. -/
  setVerbose : Bool → m Unit

end ModuleScaffold
