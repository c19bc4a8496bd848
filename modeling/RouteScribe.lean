import RouteScribe.Dump.JsonText
import RouteScribe.Main
import RouteScribe.Proofs.Artifact.PreludeNames
import RouteScribe.Proofs.Artifact.ReadingBack
import RouteScribe.Proofs.Artifact.RegisteredTypes
import RouteScribe.Proofs.Artifact.RouteWiring
import RouteScribe.Proofs.CommandLine.GenerateStatus
import RouteScribe.Proofs.Generation.DeclarationOrder
import RouteScribe.Proofs.Generation.FailureReport
import RouteScribe.Proofs.Generation.OutputMirror
import RouteScribe.Proofs.Reachability.RouteMembers
import RouteScribe.Proofs.Reachability.Runs
import RouteScribe.Proofs.Routes.ScannedGroups
import RouteScribe.Proofs.Reachability.FiniteWalks
import RouteScribe.Proofs.Artifact.ImportLines
import RouteScribe.Proofs.Generation.ClosureOptions
import RouteScribe.Proofs.Artifact.RegisteredRoutes
import RouteScribe.Proofs.Listing.Agreement
import RouteScribe.Proofs.Routes.MarkerSplit
import RouteScribe.Proofs.Routes.ReturnShapes
import RouteScribe.Proofs.Declarations.AttributeText
import RouteScribe.Proofs.Artifact.RegistrationLines
import RouteScribe.Proofs.Artifact.HandlerCalls
import RouteScribe.Proofs.Routes.JoinedPaths
import RouteScribe.Proofs.Settings.Layering
import RouteScribe.Proofs.Settings.ListTexts
import RouteScribe.Proofs.Settings.Flattening
import RouteScribe.Proofs.TypeText.Refusals
import RouteScribe.Proofs.Reachability.BaseSearch
