import CrossBuild.Resolution.MemoryEngine
import CrossBuild.Resolution.Resolve
import CrossBuild.Restriction.EnvironmentCheck
import CrossBuild.Restriction.PlatformCheck
import CrossBuild.Proofs.AnswerPrecedence
import CrossBuild.Proofs.Bracketing
import CrossBuild.Proofs.ConjoinedConstraints
import CrossBuild.Proofs.Contexts
import CrossBuild.Proofs.CulpritChains
import CrossBuild.Proofs.DebugFilters
import CrossBuild.Proofs.Debugging
import CrossBuild.Proofs.EnvironmentCollections
import CrossBuild.Proofs.EnvironmentReports
import CrossBuild.Proofs.EnvironmentsApart
import CrossBuild.Proofs.Explanation
import CrossBuild.Proofs.ForcedPlatform
import CrossBuild.Proofs.IrrelevantPlatforms
import CrossBuild.Proofs.LastWrites
import CrossBuild.Proofs.MessageReading
import CrossBuild.Proofs.NearestRemoval
import CrossBuild.Proofs.RequestedToolchains
import CrossBuild.Proofs.Restart
import CrossBuild.Proofs.SkippedTargets
import CrossBuild.Proofs.Spelling
import CrossBuild.Proofs.WrittenRequests
