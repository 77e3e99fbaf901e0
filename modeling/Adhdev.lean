import Adhdev.ProviderSpec.SignalGates
import Adhdev.KeyedTranscript.ViewMirror
import Adhdev.Foundation.Machine
import Adhdev.Foundation.Process
import Adhdev.Foundation.Discipline
import Adhdev.Foundation.AsyncRules
import Adhdev.TurnLedger.Types
import Adhdev.TurnLedger.Admission
import Adhdev.TurnLedger.Guards
import Adhdev.TurnLedger.Reducer
import Adhdev.TurnLedger.Ledger
import Adhdev.TurnLedger.Footprint
import Adhdev.TurnLedger.HoldFlow
import Adhdev.TurnLedger.GuardFacts
import Adhdev.TurnLedger.Settlement
import Adhdev.TurnLedger.RuleShapes
import Adhdev.TurnLedger.Stopping
import Adhdev.TurnLedger.Steps
import Adhdev.TurnLedger.Consistency
import Adhdev.TurnLedger.WriterStops
import Adhdev.TurnLedger.SingleCommit
import Adhdev.TurnLedger.Generations
import Adhdev.TurnLedger.HoldSets
import Adhdev.TurnLedger.Ceiling
import Adhdev.TurnLedger.Reports
import Adhdev.TurnLedger.RuleTable
import Adhdev.TurnLedger.StopOutcomes
import Adhdev.TurnLedger.RecoveryTimers
import Adhdev.TurnLedger.Retries
import Adhdev.TurnLedger.Store
import Adhdev.TurnLedger.Observe
import Adhdev.TurnLedger.Replays
import Adhdev.TurnLedger.Persistence
import Adhdev.TurnLedger.OpenSessions
import Adhdev.HostHandoff.Certificate
import Adhdev.HostHandoff.MemberAdopt
import Adhdev.HostHandoff.Protocol
import Adhdev.HostHandoff.SourceMachine
import Adhdev.HostHandoff.TargetMachine
import Adhdev.HostHandoff.SourceView
import Adhdev.HostHandoff.TargetView
import Adhdev.HostHandoff.SourceInvariant
import Adhdev.HostHandoff.SourceSteps
import Adhdev.HostHandoff.SourceSafety
import Adhdev.HostHandoff.SourceAdvance
import Adhdev.HostHandoff.SourceActivate
import Adhdev.HostHandoff.TargetInvariant
import Adhdev.HostHandoff.TargetSafety
import Adhdev.HostHandoff.HandoffSystem
import Adhdev.HostHandoff.HandoffSafety
import Adhdev.HostHandoff.Decisions
import Adhdev.MeshShared.SemverCompare
import Adhdev.MeshShared.TaskStages
import Adhdev.StagePipeline.Reducer
import Adhdev.StagePipeline.Moves
import Adhdev.StagePipeline.Bounds
import Adhdev.StagePipeline.Approval
import Adhdev.SendSubmit.Engine
import Adhdev.SendSubmit.Conservation
import Adhdev.Foundation.DepthFirst
import Adhdev.Foundation.Transaction
import Adhdev.TaskQueue.PhaseRule
import Adhdev.TaskQueue.Queue
import Adhdev.TaskQueue.Revision
import Adhdev.TaskQueue.Claim
import Adhdev.TaskQueue.QueueRuns
import Adhdev.TaskQueue.QueueInvariants
import Adhdev.StagePipeline.Runtime
import Adhdev.StagePipeline.ReviewView
import Adhdev.StagePipeline.Completion
import Adhdev.Transfer.Engine
import Adhdev.Transfer.Moves
import Adhdev.Transfer.Finished
import Adhdev.Transfer.Agreement
import Adhdev.TaskQueue.WritersApart
import Adhdev.Contract.EpochFence
import Adhdev.Contract.GrantRotation
import Adhdev.Contract.RetentionRuns
import Adhdev.OutgoingReceipts.Advances
import Adhdev.OwnedLock.Exclusion
import Adhdev.OwnerDecisions.Follows
import Adhdev.Contract.Eligibility
import Adhdev.KeyedTranscript.BaseFrames
import Adhdev.SessionReplay.GapFree
import Adhdev.MeshChunking.Interleaving
import Adhdev.KeyedTranscript.FrameDeltas
import Adhdev.KeyedDoc.TwoDocuments
import Adhdev.Transfer.FrameCodec
import Adhdev.MeshChunking.Bounded
import Adhdev.KeyedTranscript.BodyParts
import Adhdev.KeyedTranscript.HeadChanges
import Adhdev.SessionHost.InputStamps
import Adhdev.SessionHost.WriteOwner
import Adhdev.MuxLayout.Leaves
import Adhdev.TransferLink.BothFinish
import Adhdev.TransferLink.StagingLeftover
import Adhdev.TaskQueue.PhaseExact
import Adhdev.PathOwnership.Denotation
import Adhdev.KeyedTranscript.MissingMeta
import Adhdev.TaskQueue.DependencyFailure
import Adhdev.TaskQueue.ClaimOrder
