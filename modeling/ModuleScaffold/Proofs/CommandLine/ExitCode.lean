import ModuleScaffold.Proofs.Aggregator.Replacement
import ModuleScaffold.Proofs.CommandLine.Generation
import ModuleScaffold.Proofs.ModuleDirectory.Furnished

/-!
# How a run ends

A run should end with an exit code, and once the artifacts are written it should
succeed, with a report on the root module, whatever the platform refuses.  Four things
keep it from that, each a failure that no step of the run handles: a first look at the
target path that fails, a target path with the null character, a root module whose bytes
are no text, and an option for the root module whose markup cannot be read when the
report names it.
-/

namespace ModuleScaffold

namespace Host

variable {platform : Platform} {h h' : Host} {arguments : List Text}
  {environment : Environment} {g : Generation} {path : Path}

/-- The tag in the option closes no other one. -/
example :
    let s : Session :=
      { tree := ⟨[(["src"], .directory), (["src", "x["], .directory),
          (["src", "x[", "].ts"], .file (Text.encode "imports: []") newFilePermissions)]⟩
        here := [] }
    let arguments : List Text :=
      ["generate", "media", "--src-dir", "src", "--aggregator", "x[/].ts"]
    (run ⟨s, 0⟩ (runCommandLine arguments {} : HostM .plain _)).1 =
      .error (.markup (.unmatched ⟨"/", none⟩)) := by
  decide +kernel

end Host

end ModuleScaffold
