import HostAgent.Scenario.Respond
import HostAgent.Main
import HostAgent.Proofs.Agent
import HostAgent.Proofs.UploadRetry
import HostAgent.Proofs.PathPieces
import HostAgent.Proofs.FileTreeFrame
import HostAgent.Proofs.PlainTrees
import HostAgent.Proofs.MarkerFiles
import HostAgent.Proofs.StoreWrites
import HostAgent.Proofs.StoreOutcomes
import HostAgent.Proofs.RunSteps
import HostAgent.Proofs.RunInvariants
import HostAgent.Proofs.MarkerExclusion
import HostAgent.Proofs.Unregistration
import HostAgent.Proofs.LegacyRegistration
import HostAgent.Proofs.CleanupOutcome
import HostAgent.Proofs.RegistrationAgreement
import HostAgent.Proofs.StepFrames
import HostAgent.Proofs.HttpAnswers
import HostAgent.Proofs.HttpUpload
import HostAgent.Proofs.IdentityRecord
import HostAgent.Proofs.RecordPlace
import HostAgent.Proofs.IdentityRequests
import HostAgent.Proofs.CallSequence
import HostAgent.Proofs.Authorization
import HostAgent.Proofs.DirectoryWalk
import HostAgent.Proofs.LogRotation
import HostAgent.Proofs.CacheClearing
import HostAgent.Proofs.DirectoryCreation
import HostAgent.Proofs.AtomicWrites
