import ModuleScaffold.CommandLine.Generate
import ModuleScaffold.Files.Host
import ModuleScaffold.Files.Session
import ModuleScaffold.Main
import ModuleScaffold.Proofs.Aggregator.Batch
import ModuleScaffold.Proofs.Aggregator.Bounds
import ModuleScaffold.Proofs.Aggregator.RegisteredBody
import ModuleScaffold.Proofs.Aggregator.ClosingBracket
import ModuleScaffold.Proofs.Aggregator.Idempotence
import ModuleScaffold.Proofs.Aggregator.Identifier
import ModuleScaffold.Proofs.Aggregator.Literals
import ModuleScaffold.Proofs.Aggregator.LineReading
import ModuleScaffold.Proofs.Aggregator.OneSeparator
import ModuleScaffold.Proofs.Aggregator.CodeLines
import ModuleScaffold.Proofs.Aggregator.CodeText
import ModuleScaffold.Proofs.Aggregator.TrailingComment
import ModuleScaffold.Proofs.Aggregator.CommentedList
import ModuleScaffold.Proofs.Aggregator.Insertions
import ModuleScaffold.Proofs.Aggregator.TextOnTop
import ModuleScaffold.Proofs.Aggregator.LineEnds
import ModuleScaffold.Proofs.Files.Action
import ModuleScaffold.Proofs.Files.Location
import ModuleScaffold.Proofs.Files.Host
import ModuleScaffold.Proofs.Files.Plain
import ModuleScaffold.Proofs.Files.Lineage
import ModuleScaffold.Proofs.Aggregator.Patch
import ModuleScaffold.Proofs.Aggregator.Outcome
import ModuleScaffold.Proofs.Aggregator.Sibling
import ModuleScaffold.Proofs.Aggregator.Replacement
import ModuleScaffold.Proofs.Aggregator.PatchFailure
import ModuleScaffold.Proofs.Aggregator.LinkedFile
import ModuleScaffold.Proofs.ModuleName.Spellings
import ModuleScaffold.Proofs.ModuleName.ClassOfRoute
import ModuleScaffold.Proofs.ModuleName.NormalForm
import ModuleScaffold.Proofs.Artifact
import ModuleScaffold.Proofs.Files.LineageFailure
import ModuleScaffold.Proofs.ModuleDirectory.Furnished
import ModuleScaffold.Proofs.ModuleDirectory.Written
import ModuleScaffold.Proofs.ModuleDirectory.Existing
import ModuleScaffold.Proofs.CommandLine.ExitCode
import ModuleScaffold.Proofs.CommandLine.Frame
import ModuleScaffold.Proofs.CommandLine.Runs
