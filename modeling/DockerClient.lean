import DockerClient.Config.Writer
import DockerClient.Context.Resolve
import DockerClient.Credentials.Resolver
import DockerClient.Error.Removal
import DockerClient.Labels
import DockerClient.Program.Launch
import DockerClient.Proofs.Base64Texts
import DockerClient.Proofs.BridgeGateways
import DockerClient.Proofs.CauseChains
import DockerClient.Proofs.ClientHeaders
import DockerClient.Proofs.ContextDescriptions
import DockerClient.Proofs.ContextDirectories
import DockerClient.Proofs.CredentialOrder
import DockerClient.Proofs.DaemonHosts
import DockerClient.Proofs.DigestRules
import DockerClient.Proofs.EncodedPairs
import DockerClient.Proofs.EndpointPrecedence
import DockerClient.Proofs.ErrorTrees
import DockerClient.Proofs.HandleCalls
import DockerClient.Proofs.HandleSafety
import DockerClient.Proofs.HandleSessions
import DockerClient.Proofs.HeldResources
import DockerClient.Proofs.HelperAnswers
import DockerClient.Proofs.HelperPrograms
import DockerClient.Proofs.IdentityTokens
import DockerClient.Proofs.ImageHosts
import DockerClient.Proofs.InspectRaces
import DockerClient.Proofs.InspectRuns
import DockerClient.Proofs.LoadedConfig
import DockerClient.Proofs.NormalizedEntries
import DockerClient.Proofs.OptionKinds
import DockerClient.Proofs.ReferenceGrammar
import DockerClient.Proofs.ReferenceRoundTrip
import DockerClient.Proofs.RemovalReports
import DockerClient.Proofs.SavedConfig
import DockerClient.Proofs.SharedClient
import DockerClient.Proofs.ShellPatterns
import DockerClient.Proofs.StoredContexts
import DockerClient.Proofs.TeardownRuns
import DockerClient.Proofs.TeardownVerdicts
import DockerClient.Proofs.TlsSelection
import DockerClient.Proofs.WrittenJson
import DockerClient.Proofs.WrittenRecords
import DockerClient.Session.Step
import DockerClient.World.FileTree

