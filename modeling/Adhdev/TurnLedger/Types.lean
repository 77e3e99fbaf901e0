import Adhdev.Foundation.KeyedMap
import Adhdev.TurnLedger.Policy

/-! # Attempts, holds and effects

The shapes of `turn-ledger/types.ts`. A field that the source declares optional
is an `Option`; `at` and `until`, which Lean reserves, are `atMs` and `untilMs`.
-/

namespace Adhdev.TurnLedger

open MeshShared

inductive TurnState
  | accepted | delivered | consumed | generating | suspended | finalizing | stopping
  | completed | blocked | failed | cancelled
  deriving DecidableEq

namespace TurnState

/-- `isTerminalTurnState`. -/
def isTerminal : TurnState → Bool
  | .completed | .blocked | .failed | .cancelled => true
  | _ => false

end TurnState

def outcomeState : TurnOutcome → TurnState
  | .completed => .completed
  | .blocked => .blocked
  | .failed => .failed
  | .cancelled => .cancelled

@[simp] theorem isTerminal_outcomeState (outcome : TurnOutcome) :
    (outcomeState outcome).isTerminal = true := by
  cases outcome <;> rfl

structure TurnTerminal where
  outcome : TurnOutcome
  reason : TurnReason
  source : EvidenceSourceId
  strength : CommitStrength
  atMs : Int
  summary : Option SummaryRef := none

/-! ## Attempt annotations -/

inductive WriterUnreachable
  | unreachableBound | nodeRemoved

structure WriterStopTerminal where
  outcome : TurnOutcome
  strength : CommitStrength
  adoptSessionId : Option String := none
  summary : Option SummaryRef := none
  textEventId : Option String := none
  source : Option EvidenceSourceId := none

/-- A cap or reclaim retains the exact writer until the stop port proves
quiescence. An absent `confirmed` reads as `false`. -/
structure WriterStop where
  requestId : String
  reason : TurnReason
  requestedAt : Int
  tries : Int
  escalated : Bool
  confirmed : Bool := false
  settledBy : Option WriterUnreachable := none
  terminal : Option WriterStopTerminal := none

structure ProviderSuspension where
  generation : Int
  modalKey : Option String
  providerSetup : Bool
  atMs : Option Int
  resolvedAt : Option Int
  reminders : Option Int := none
  lastReminderAt : Option Int := none

structure GitSideEffect where
  dirty : Bool
  commitsSinceDispatch : Int
  attributable : Bool
  atMs : Int

structure UnconfirmedEndDeferral where
  generation : Int
  count : Int
  requestedAt : Option Int := none

structure LivenessObservation where
  generation : Int
  sessionId : Option String := none
  atMs : Int
  probeStartedAt : Int

structure LivenessSessionCut where
  generation : Int
  atMs : Int
  revision : Int

structure ReportCorrection where
  generation : Int
  untilMs : Int

structure RecordedReport where
  generation : Int
  outcome : WorkerReportOutcome
  eventId : String
  atMs : Int
  summary : Option SummaryRef := none

structure TurnAttemptData where
  writerStop : Option WriterStop := none
  providerSuspension : Option ProviderSuspension := none
  gitSideEffect : Option GitSideEffect := none
  falseIdleCount : Option Int := none
  unconfirmedEndDeferral : Option UnconfirmedEndDeferral := none
  livenessObservation : Option LivenessObservation := none
  livenessSessionCut : Option LivenessSessionCut := none
  reportCorrection : Option ReportCorrection := none
  report : Option RecordedReport := none

structure PrevGeneration where
  sessionId : String
  consumed : Bool

structure AttemptCoordinator where
  daemonId : Option String
  sessionId : Option String

structure TurnAttempt where
  attemptId : String
  scope : TurnScope
  meshId : Option String
  taskId : Option String
  attemptNo : Int
  sessionId : String
  nodeId : Option String
  providerType : Option String
  ownerDaemonId : String
  generation : Int
  prevGeneration : Option PrevGeneration
  dispatchNonce : Option Int
  messageId : Option String
  consumeProfile : ConsumeProfile
  maxTaskRetries : Int
  state : TurnState
  suspension : Option SuspensionModal
  redriveCount : Int
  reclaimCount : Int
  hollowCount : Int
  livenessFailStreak : Int
  lastLiveness : Option LivenessResult
  coordinator : AttemptCoordinator
  acceptedAt : Int
  deliveredAt : Option Int
  consumedAt : Option Int
  lastActivityAt : Option Int
  weakSince : Option Int
  candidateNotifiedGeneration : Option Int
  lastNoProgressNoticeAt : Option Int
  notifiedAt : Option Int
  terminal : Option TurnTerminal
  data : TurnAttemptData

def isMeshScope (attempt : TurnAttempt) : Bool := attempt.scope != .plain

/-! ## Holds -/

inductive HoldOnExpire
  | commit | release | escalate | reclaim | redeliver | reevaluate
  deriving DecidableEq

inductive AdmissionDeclineReason
  | activeModal | sessionNotIdle | nativeMarkerAbsent | trailingToolActivity
  | noFinalAssistantSummary | transcriptGrowing
  deriving DecidableEq

/-- The keys of a hold's `data` record, each at the type its one writer gives it.
`suspendedAt` is absent, `null` or a clock value. -/
structure HoldData where
  evidenceId : Option String := none
  decline : Option AdmissionDeclineReason := none
  modal : Option SuspensionModal := none
  modalKey : Option String := none
  suspendedAt : Option (Option Int) := none
  providerSetup : Option Bool := none
  nativeProbeReportOnly : Option Bool := none
  textEventId : Option String := none
  summaryTopic : Option String := none
  summaryWriter : Option String := none
  summarySeq : Option Int := none
  deriving DecidableEq

structure TurnHold where
  holdId : String
  attemptId : String
  /-- `none` is generation-agnostic (the hard ceiling). -/
  generation : Option Int
  reason : HoldReason
  /-- `none` is released only by evidence. -/
  untilMs : Option Int
  onExpire : HoldOnExpire
  data : HoldData := {}
  createdAt : Int
  deriving DecidableEq

def holdReasonName : HoldReason → String
  | .awaitDelivery => "await_delivery"
  | .awaitConsume => "await_consume"
  | .awaitTurn => "await_turn"
  | .liveness => "liveness"
  | .hardCeiling => "hard_ceiling"
  | .livePending => "live_pending"
  | .transcriptQuiet => "transcript_quiet"
  | .weakCandidate => "weak_candidate"
  | .suspensionBeforeConsumed => "suspension_before_consumed"
  | .awaitReport => "await_report"
  | .awaitEnd => "await_end"
  | .reportCorrection => "report_correction"

theorem holdReasonName_injective : Function.Injective holdReasonName := by
  intro left right equal
  cases left <;> cases right <;> first | rfl | exact absurd equal (by decide)

def holdId (attemptId : String) (reason : HoldReason) : String :=
  attemptId ++ ":" ++ holdReasonName reason

theorem holdId_injective (attemptId : String) : Function.Injective (holdId attemptId) := by
  intro left right equal
  exact holdReasonName_injective ((String.append_right_inj _).mp equal)

/-- The draft's `Map<holdId, TurnHold>`. -/
abbrev HoldMap := KeyedMap TurnHold.holdId

/-! ## Effects -/

inductive BusPhase
  | started | suspended | resumed | progress | committed
  deriving DecidableEq

structure TurnBusEvent where
  phase : BusPhase
  sessionId : String
  attemptId : String
  generation : Int
  outcome : Option TurnOutcome := none
  strength : Option CommitStrength := none
  deriving DecidableEq

inductive ReduceRejection
  | noAttempt | attemptMismatch | sessionMismatch | alreadyTerminal | illegalTransition
  deriving DecidableEq

/-- The audit notes the reducer writes. -/
inductive RecordNote
  | rejection (rejection : ReduceRejection)
  | writerStopCheckpointPending | writerStopUnconfirmedCheckpointPending
  | noAttempt | lateCompletionPrevGeneration | staleGeneration | lateDeliveryAck
  | deliveryRefusedRetryable | foreignHolder | staleModalResolution | duplicateSuspension
  | duplicateWeakEnd | awaitReportDuplicateEnd | awaitReportTranscriptFinal
  | falseIdleWorkerResumed | reportAwaitsEnd | afterReport | duplicate | alreadyTerminal
  | admissionDeclined (reason : Option AdmissionDeclineReason)
  | suspensionReminderNotDue | stallNoticeAlreadySent | stallQuiet
  | directCompletionReportMissing | nativeProbeAwaitReportExpired
  | queueCompletionReportMissing | holdStale
  deriving DecidableEq

inductive ReleasedReasons
  | all
  | reasons (reasons : List HoldReason)
  deriving DecidableEq

/-- `TurnOutcome | 'pending'`. -/
inductive QueueStatus
  | outcome (outcome : TurnOutcome)
  | pending
  deriving DecidableEq

structure CommitEffect where
  attemptId : String
  generation : Int
  outcome : TurnOutcome
  strength : CommitStrength
  reason : TurnReason
  source : EvidenceSourceId
  summary : Option SummaryRef := none
  deriving DecidableEq

structure NotifyEffect where
  attemptId : String
  generation : Int
  notify : NotifyKind
  taskId : Option String
  coordinatorDaemonId : Option String
  coordinatorSessionId : Option String
  summary : Option SummaryRef := none
  textEventId : Option String := none
  deriving DecidableEq

/-- `revokeBind` is never set by the reducer and is left out. -/
structure CancelDispatchEffect where
  attemptId : String
  generation : Int
  sessionId : String
  messageId : Option (Option String) := none
  stopRequestId : Option String := none
  deriving DecidableEq

inductive TurnEffect
  | commit (effect : CommitEffect)
  | notifyCoordinator (effect : NotifyEffect)
  | hold (hold : TurnHold)
  | releaseHold (attemptId : String) (reasons : ReleasedReasons)
  | reclaim (attemptId : String) (fromGeneration toGeneration : Int) (reason : TurnReason)
  | redeliver (attemptId : String) (generation : Int) (messageId : Option String)
      (sessionId : String)
  | cancelDispatch (effect : CancelDispatchEffect)
  | bus (event : TurnBusEvent)
  | record (note : RecordNote)
  | releaseAttemptRef (attemptId sessionId : String)
  | queueStatus (meshId taskId : String) (status : QueueStatus) (reason : TurnReason)
  | taskTerminal (meshId taskId : String) (outcome : TurnOutcome)
  | probe (attemptId sessionId : String)
  | reevaluate (attemptId evidenceId : String) (forceLiveFalse : Bool)
  deriving DecidableEq

inductive ReduceVerdict
  | applied | recorded | rejected
  deriving DecidableEq

end Adhdev.TurnLedger
