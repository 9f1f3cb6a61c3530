import Botwright.Main
import Botwright.Disk.FileTree
import Botwright.Environment.Session
import Botwright.Proofs.CanonicalPath
import Botwright.Proofs.DocumentKeys
import Botwright.Proofs.CatalogueExactness
import Botwright.Proofs.HierarchyPlacement
import Botwright.Proofs.HierarchyRoundTrip
import Botwright.Proofs.SourceLayout
import Botwright.Proofs.LiteralScan
import Botwright.Proofs.TemplateScan
import Botwright.Proofs.SnippetScan
import Botwright.Proofs.HandlerScan
import Botwright.Proofs.CommandModuleScan
import Botwright.Proofs.SpecAdmission
import Botwright.Proofs.BlankTexts
import Botwright.Proofs.SecretIndependence
import Botwright.Proofs.GuardedReply
import Botwright.Proofs.NumberReading
import Botwright.Proofs.JsonReading
import Botwright.Proofs.SpecReading
import Botwright.Proofs.TreeGrowth
import Botwright.Proofs.SpecStorage
import Botwright.Proofs.ProjectWriting
import Botwright.Proofs.CatalogueTransmission
import Botwright.Proofs.EditingSession
import Botwright.Proofs.ModuleReading
import Botwright.Proofs.WarningForecast
import Botwright.Proofs.CommandDispatch
import Botwright.Proofs.IdentifierNames
import Botwright.Proofs.EmittedNames
import Botwright.Proofs.CodeLines
import Botwright.Proofs.OptionLocals
import Botwright.Proofs.RequestReading
import Botwright.Proofs.SettingsListing
import Botwright.Proofs.TemplateSplit
import Botwright.Proofs.StaticReplies
import Botwright.Proofs.EndpointPlaceholders
import Botwright.Proofs.PreviewAgreement
import Botwright.Proofs.SnippetScoping
import Botwright.Proofs.ProfileAddition
import Botwright.Proofs.EscapedLiterals
import Botwright.Proofs.StaticRestoration
import Botwright.Proofs.EndpointSubstitution
import Botwright.Proofs.BindingRuns
import Botwright.Proofs.ResumedNames
import Botwright.Proofs.ExampleAssignments
import Botwright.Proofs.MemberAccess
import Botwright.Proofs.DotenvReading
import Botwright.Proofs.EnvironmentTable
import Botwright.Proofs.RandomChoices
import Botwright.Proofs.DefinitionReading
import Botwright.Proofs.PackageNames
import Botwright.Proofs.PathReaders
import Botwright.Proofs.Reindentation
import Botwright.Proofs.FileAdditions
