import Stageflow.Duration
import Stageflow.Main
import Stageflow.Proofs.Check.Preflight
import Stageflow.Proofs.Check.Warnings
import Stageflow.Proofs.Cli.ExitStatus
import Stageflow.Proofs.Expression.Composition
import Stageflow.Proofs.Expression.Faults
import Stageflow.Proofs.Expression.Segments
import Stageflow.Proofs.Expression.Spelling
import Stageflow.Proofs.Expression.TypeWords
import Stageflow.Proofs.Failure.Advice
import Stageflow.Proofs.Failure.Closest
import Stageflow.Proofs.Options.Views
import Stageflow.Proofs.Outputs.Substitution
import Stageflow.Proofs.Pipeline.Document
import Stageflow.Proofs.Placeholder.Occurrences
import Stageflow.Proofs.Registry.Operations
import Stageflow.Proofs.Registry.Standard
import Stageflow.Proofs.Report.Listing
import Stageflow.Proofs.Report.Sections
import Stageflow.Proofs.Run.Extension
import Stageflow.Proofs.Run.Failure
import Stageflow.Proofs.Run.Interleaving
import Stageflow.Proofs.Run.Structured
import Stageflow.Proofs.Run.Unreferenced
import Stageflow.Proofs.Settings.Names
import Stageflow.Proofs.Trace.Document
