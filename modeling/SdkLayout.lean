import SdkLayout.Api.Builder
import SdkLayout.Files.Tree
import SdkLayout.Main
import SdkLayout.Proofs.Digraphs
import SdkLayout.Proofs.Components
import SdkLayout.Proofs.ReferenceGraphs
import SdkLayout.Proofs.Resolution
import SdkLayout.Proofs.Termination
import SdkLayout.Proofs.Directories
import SdkLayout.Proofs.GatheredFiles
import SdkLayout.Proofs.TypeTargets
import SdkLayout.Proofs.PlacedFiles
import SdkLayout.Proofs.PlacedOnce
import SdkLayout.Proofs.PackageConsistency
import SdkLayout.Proofs.ServiceScoped
import SdkLayout.Proofs.NormalForms
import SdkLayout.Proofs.AcyclicImports
import SdkLayout.Proofs.CycleReports
import SdkLayout.Proofs.Reordering
import SdkLayout.Proofs.ReorderedPlans
import SdkLayout.Proofs.ValidApis
import SdkLayout.Proofs.PlanningFailures
import SdkLayout.Proofs.ImportCycles
import SdkLayout.Proofs.LeafGroups
import SdkLayout.Proofs.FileNames
import SdkLayout.Proofs.ExportedNames
import SdkLayout.Proofs.Deadlocks
import SdkLayout.Proofs.ErrorImports
import SdkLayout.Proofs.Shadowing
import SdkLayout.Proofs.Decoding
import SdkLayout.Proofs.RoundTrip
import SdkLayout.Proofs.PhaseFrames
import SdkLayout.Proofs.PhaseOrder
import SdkLayout.Proofs.Reports
import SdkLayout.Proofs.Fallbacks
import SdkLayout.Proofs.ClientTrees
import SdkLayout.Proofs.Violations
import SdkLayout.Proofs.LetterCases
import SdkLayout.Proofs.PlannedPaths
import SdkLayout.Proofs.ReservedNames
import SdkLayout.Proofs.ValueSpans
import SdkLayout.Proofs.CanonicalNames
import SdkLayout.Proofs.PathSpellings
import SdkLayout.Proofs.MovedGroups
import SdkLayout.Proofs.WordBoundaries
