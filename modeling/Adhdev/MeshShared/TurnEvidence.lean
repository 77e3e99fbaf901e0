import Mathlib

/-! # Turn evidence

The closed vocabulary of `mesh-shared/src/turn-evidence.ts`: what a producer may
tell the turn ledger about a turn. Times are epoch milliseconds and, like every
other `number` of the source, integers here.
-/

namespace Adhdev.MeshShared

/-! ## Closed vocabularies -/

inductive EvidenceSourceId
  | fsmEdge | shortGenInline | completionFlushGenuine | completionFlushWeak
  | monitorFinalSummary | preCleanupTranscript | stallTranscript | startupGraceCollapse
  | acpPromptResponse | cdpState | approvalGate | modalButton
  | meshStallWatchdog | statusMonitor | ptyExit | providerError
  | coordinatorProbe | mcpProbe | workerTool | dispatch | inputService
  | operator | intentionalCleanup | scheduler | gitProbe | sessionRegistry
  deriving DecidableEq

inductive TurnScope
  | meshQueue | meshDirect | plain
  deriving DecidableEq

/-- `SendRefusal` of `outbound-message.ts`. -/
inductive SendRefusal
  | notReady | sendInFlight | notGenerating | notSupported | platformUnsupported
  | modalParked | interruptNotImplemented | interruptRefused | idleTimeout
  | sessionExited | unsupportedInput | noTarget | bootstrapPending
  | duplicateDispatch | newWorkHeld | internalError
  deriving DecidableEq

/-- `RECLAIMING_SEND_REFUSALS`: the target can never take this dispatch. -/
def reclaimingSendRefusals : List SendRefusal :=
  [.sessionExited, .noTarget, .unsupportedInput]

inductive DeliveryOutcome
  | delivered | queued
  deriving DecidableEq

inductive DeliveryVia
  | «local» | p2p
  deriving DecidableEq

inductive DispatchFailureReason
  | workerAbsent | transportError | spawnFailed | rejectedByWorker | timeout
  | submitUnconfirmed
  deriving DecidableEq

inductive ConsumeProfile
  | default | nativeSource
  deriving DecidableEq

inductive SessionReboundReason
  | restart | liveHolder
  deriving DecidableEq

inductive SuspensionModal
  | approval | choice
  deriving DecidableEq

inductive SuspensionResolution
  | approved | rejected | answered | dismissed
  deriving DecidableEq

inductive SuspensionResolutionVia
  | modalButton | autoApprove | promptAnswer | modalDisappeared
  deriving DecidableEq

inductive TurnEndStrength
  | genuine | weak
  deriving DecidableEq

inductive TurnEndBlockReason
  | missingFinalAssistant | finalizationTimeout | terminalBlockHardCap
  | decoupledCompletion
  deriving DecidableEq

inductive NativeTurnOutcome
  | completed | aborted | failed
  deriving DecidableEq

inductive LivenessResult
  | alive | unknown | readFailed | dead
  deriving DecidableEq

inductive ProviderFailure
  | authFailed | billingFailed | usageLimitExceeded | serverOverloaded | providerError
  deriving DecidableEq

inductive SessionErrorReason
  | providerError | adapterError | spawnFailed | authFailed | billingFailed | unknown
  | daemonRestart
  deriving DecidableEq

inductive CancelReason
  | operatorCancel | intentionalCleanup | taskRemoved | missionAbandoned | superseded
  deriving DecidableEq

inductive OperatorStatus
  | completed | failed
  deriving DecidableEq

inductive OperatorStatusReason
  | operatorUpdate | refineTerminal | validationTerminal
  deriving DecidableEq

inductive CoordinatorAckOutcome
  | delivered | queued | duplicate
  deriving DecidableEq

/-- `NO_PROGRESS_OBSERVED_STATUSES`: a canonical session status or `unknown`. -/
inductive NoProgressObservedStatus
  | idle | generating | waitingApproval | waitingChoice | finalizing | error | stopped
  | starting | panelHidden | notMonitored | disconnected | unknown
  deriving DecidableEq

inductive WorkerReportOutcome
  | completed | blocked | failed
  deriving DecidableEq

inductive WorkerBranchState
  | mergedToMain | pushedFeatureBranchNeedsMerge | blockedReview | cleanupCandidate
  | notMergeable
  deriving DecidableEq

inductive HoldReason
  | awaitDelivery | awaitConsume | awaitTurn | liveness | hardCeiling
  | livePending | transcriptQuiet | weakCandidate | suspensionBeforeConsumed
  | awaitReport | awaitEnd | reportCorrection
  deriving DecidableEq

inductive TurnOutcome
  | completed | blocked | failed | cancelled
  deriving DecidableEq

inductive CommitStrength
  | genuine | weak | toolReport | operator
  deriving DecidableEq

/-- Every terminal or reclaim reason the ledger writes. `dispatchRefused` is the
source's `dispatch_refused_${reason}`. -/
inductive TurnReason
  | turnEnd | weakEndConfirmed | transcriptFinal | workerReported
  | finalizationTimeoutNoResponse | weakEndLivenessUnconfirmed | weakEndProbeUnobserved
  | reportCorrectionExpired | sessionError | providerAuthFailed | providerBillingFailed
  | providerUsageLimitExceeded | providerServerOverloaded | providerError
  | operatorCancel | intentionalCleanup | taskRemoved | missionAbandoned | superseded
  | operatorUpdate | refineTerminal | validationTerminal
  | hardCeiling | reclaimBudgetExhausted | hollowMaxRetries | migrationOrphan
  | writerUnreachable
  | dispatchRefused (reason : SendRefusal) | dispatchFailed
  | sessionExit | sessionExitBeforeTurn | sessionDead | hollowCompletion
  | assignedStrandedDispatchUnconfirmed | deliveredNotConsumedRedrive
  | deliveredNoTurnDeadline
  deriving DecidableEq

inductive NotifyKind
  | completed | blocked | failed | cancelled | stopped | approval | choice
  | approvalResolved | candidate | noProgress | progress | lateCompletion | meshEvent
  deriving DecidableEq

/-! ## Shared shapes -/

structure TurnAttemptRef where
  attemptId : String
  generation : Int
  deriving DecidableEq

/-- Pointer to text that lives in a content-class topic entry. -/
structure SummaryRef where
  topic : String
  writer : String
  seq : Int
  deriving DecidableEq

structure LiveTurnPending where
  modal : Bool
  adapterPending : Bool
  trailingTool : Bool
  newestActivityAt : Option Int := none
  deriving DecidableEq

structure EvidenceCoordinatorIdentity where
  daemonId : String
  coordinatorRunId : String
  sessionId : Option String := none
  deriving DecidableEq

structure NativeTurnMarkerRef where
  outcome : NativeTurnOutcome
  turnId : Option String := none
  receivedAt : Option Int := none
  startedAt : Option Int := none
  errorAt : Option Int := none
  deriving DecidableEq

/-! ## Evidence bodies -/

structure DispatchAccepted where
  scope : TurnScope
  messageId : String
  meshId : Option String := none
  nodeId : Option String := none
  providerType : Option String := none
  attemptNo : Option Int := none
  dispatchNonce : Option Int := none
  consumeProfile : Option ConsumeProfile := none
  maxTaskRetries : Option Int := none
  coordinator : Option EvidenceCoordinatorIdentity := none
  deriving DecidableEq

structure DispatchFailed where
  workerAbsent : Bool
  reason : DispatchFailureReason
  refusalCode : Option String := none
  deriving DecidableEq

structure Suspension where
  modal : SuspensionModal
  modalKey : Option String := none
  providerSetup : Option Bool := none
  clockUnknown : Option Bool := none
  deriving DecidableEq

structure TurnEnd where
  strength : TurnEndStrength
  afterFinalizationTimeout : Option Bool := none
  hollow : Option Bool := none
  summary : Option SummaryRef := none
  blockReason : Option TurnEndBlockReason := none
  releasedByHardCap : Option Bool := none
  nativeOutcome : Option NativeTurnOutcome := none
  nativeMarker : Option NativeTurnMarkerRef := none
  live : Option LiveTurnPending := none
  reportExpected : Option Bool := none
  providerFailure : Option ProviderFailure := none
  deriving DecidableEq

structure TranscriptFinal where
  selfAttributing : Bool
  nativeRead : Bool
  nativeMarker : Option NativeTurnMarkerRef := none
  live : LiveTurnPending
  summary : Option SummaryRef := none
  messageAt : Option Int := none
  deriving DecidableEq

structure NoProgress where
  stalledMs : Int
  observedStatus : NoProgressObservedStatus
  finalAssistantPresent : Bool
  deriving DecidableEq

structure WorkerReport where
  outcome : WorkerReportOutcome
  summary : Option SummaryRef := none
  hasHandoffNotes : Bool
  branchState : Option WorkerBranchState := none
  touchedFileCount : Option Int := none
  deriving DecidableEq

inductive TurnEvidenceBody
  | dispatchAccepted (body : DispatchAccepted)
  | delivered (messageId : String) (outcome : DeliveryOutcome) (via : DeliveryVia)
  | deliveryRefused (messageId : String) (reason : SendRefusal)
  | dispatchFailed (body : DispatchFailed)
  | duplicateDispatchRefusal (holderSessionId : String) (holderAttemptId : Option String)
  | sessionRebound (toSessionId : String) (reason : SessionReboundReason)
  | turnStarted (retro : Bool)
  | suspension (body : Suspension)
  | suspensionResolved (resolution : SuspensionResolution) (via : SuspensionResolutionVia)
      (modalKey : Option String)
  | turnEnd (body : TurnEnd)
  | transcriptFinal (body : TranscriptFinal)
  | transcriptActivity (newestActivityAt : Int)
  | noProgress (body : NoProgress)
  | liveness (result : LivenessResult) (probeStartedAtMs : Option Int)
  | processExit (exitCode : Option Int) (providerFailure : Option ProviderFailure)
  | sessionError (reason : SessionErrorReason)
  | workerReport (body : WorkerReport)
  | workerReportCorrectionRequested (deliveryId : Option String)
  | workerProgress (note : Option SummaryRef)
  | gitSideEffect (dirty : Bool) (commitsSinceDispatch : Int) (attributable : Bool)
  | cancel (reason : CancelReason)
  | operatorStatus (status : OperatorStatus) (reason : OperatorStatusReason)
  | coordinatorAck (notify : NotifyKind) (outcome : CoordinatorAckOutcome)
  | holdExpired (holdId : String) (reason : HoldReason)
  deriving DecidableEq

inductive TurnEvidenceKind
  | dispatchAccepted | delivered | deliveryRefused | dispatchFailed
  | duplicateDispatchRefusal | sessionRebound | turnStarted | suspension
  | suspensionResolved | turnEnd | transcriptFinal | transcriptActivity | noProgress
  | liveness | processExit | sessionError | workerReport
  | workerReportCorrectionRequested | workerProgress | gitSideEffect | cancel
  | operatorStatus | coordinatorAck | holdExpired
  deriving DecidableEq

/-- `TURN_EVIDENCE_KINDS`, in the order of the field-spec registry. -/
def turnEvidenceKinds : List TurnEvidenceKind :=
  [.dispatchAccepted, .delivered, .deliveryRefused, .dispatchFailed,
    .duplicateDispatchRefusal, .sessionRebound, .turnStarted, .suspension,
    .suspensionResolved, .turnEnd, .transcriptFinal, .transcriptActivity, .noProgress,
    .liveness, .processExit, .sessionError, .workerReport,
    .workerReportCorrectionRequested, .workerProgress, .gitSideEffect, .cancel,
    .operatorStatus, .coordinatorAck, .holdExpired]

/-- `TERMINAL_CLASS_EVIDENCE_KINDS`: kinds that, on their own, can end a turn. -/
def terminalClassEvidenceKinds : List TurnEvidenceKind :=
  [.turnEnd, .transcriptFinal, .noProgress, .workerReport, .sessionError, .processExit,
    .cancel, .operatorStatus]

namespace TurnEvidenceBody

def kind : TurnEvidenceBody → TurnEvidenceKind
  | .dispatchAccepted .. => .dispatchAccepted
  | .delivered .. => .delivered
  | .deliveryRefused .. => .deliveryRefused
  | .dispatchFailed .. => .dispatchFailed
  | .duplicateDispatchRefusal .. => .duplicateDispatchRefusal
  | .sessionRebound .. => .sessionRebound
  | .turnStarted .. => .turnStarted
  | .suspension .. => .suspension
  | .suspensionResolved .. => .suspensionResolved
  | .turnEnd .. => .turnEnd
  | .transcriptFinal .. => .transcriptFinal
  | .transcriptActivity .. => .transcriptActivity
  | .noProgress .. => .noProgress
  | .liveness .. => .liveness
  | .processExit .. => .processExit
  | .sessionError .. => .sessionError
  | .workerReport .. => .workerReport
  | .workerReportCorrectionRequested .. => .workerReportCorrectionRequested
  | .workerProgress .. => .workerProgress
  | .gitSideEffect .. => .gitSideEffect
  | .cancel .. => .cancel
  | .operatorStatus .. => .operatorStatus
  | .coordinatorAck .. => .coordinatorAck
  | .holdExpired .. => .holdExpired

end TurnEvidenceBody

/-- `EvidenceEnvelope & TurnEvidenceBody`. -/
structure TurnEvidence where
  eventId : String
  /-- Producer clock, epoch ms (`at` in the source). -/
  atMs : Int
  source : EvidenceSourceId
  sessionId : String
  attemptRef : Option TurnAttemptRef := none
  taskId : Option String := none
  observedBy : String
  body : TurnEvidenceBody
  deriving DecidableEq

def TurnEvidence.kind (evidence : TurnEvidence) : TurnEvidenceKind := evidence.body.kind

/-! ## Strings

The identifier guard and the session comparison work on JavaScript strings:
`\s` and `trim` use the same whitespace set, and lengths count UTF-16 units. -/

/-- The characters `\s` matches and `trim` removes. -/
def isWhitespaceChar (char : Char) : Bool :=
  let code := char.toNat
  (9 ≤ code && code ≤ 13) || code == 0x20 || code == 0xa0 || code == 0x1680 ||
    (0x2000 ≤ code && code ≤ 0x200a) || code == 0x2028 || code == 0x2029 ||
    code == 0x202f || code == 0x205f || code == 0x3000 || code == 0xfeff

def utf16Units (text : String) : List Nat :=
  text.toList.flatMap fun char =>
    let code := char.toNat
    if code < 0x10000 then [code]
    else [0xd800 + (code - 0x10000) / 0x400, 0xdc00 + (code - 0x10000) % 0x400]

def utf16Length (text : String) : Nat := (utf16Units text).length

def trim (text : String) : String :=
  let fromStart := text.toList.dropWhile isWhitespaceChar
  String.ofList (fromStart.reverse.dropWhile isWhitespaceChar).reverse

/-- The trimmed string, unless nothing is left of it (`json.ts readString`). -/
def readString (value : String) : Option String :=
  let trimmed := trim value
  if trimmed = "" then none else some trimmed

/-- Exact match after trimming; a blank id matches nothing, not even itself. -/
def sessionIdsEquivalent (left right : String) : Bool :=
  match readString left, readString right with
  | some leftId, some rightId => leftId == rightId
  | _, _ => false

def truthy : Option String → Bool
  | none => false
  | some text => text != ""

example : sessionIdsEquivalent " s1" "s1" = true := by decide

example : sessionIdsEquivalent "" "" = false := by decide

/-! ## The evidence guard

Every optional field is absent or of its declared class; enum fields are valid
by type here, so only identifiers, clocks, integers and nested shapes are left
to check. -/

/-- `IDENTIFIER_RE`: 1 to 256 units, no whitespace or control characters. -/
def isEvidenceIdentifier (text : String) : Bool :=
  1 ≤ utf16Length text && utf16Length text ≤ 256 &&
    text.toList.all fun char =>
      !isWhitespaceChar char && !(char.toNat ≤ 0x1f) && char.toNat != 0x7f

def isSafeInteger (value : Int) : Bool :=
  -(2 ^ 53 - 1) ≤ value && value ≤ 2 ^ 53 - 1

def isMs (value : Int) : Bool := 0 ≤ value

def isSummaryRef (ref : SummaryRef) : Bool :=
  isEvidenceIdentifier ref.topic && isEvidenceIdentifier ref.writer &&
    isSafeInteger ref.seq && 0 ≤ ref.seq

def isTurnAttemptRef (ref : TurnAttemptRef) : Bool :=
  isEvidenceIdentifier ref.attemptId && isSafeInteger ref.generation && 0 ≤ ref.generation

def isNativeMarkerRef (marker : NativeTurnMarkerRef) : Bool :=
  marker.turnId.all isEvidenceIdentifier

def isCoordinatorIdentity (identity : EvidenceCoordinatorIdentity) : Bool :=
  isEvidenceIdentifier identity.daemonId && isEvidenceIdentifier identity.coordinatorRunId &&
    identity.sessionId.all isEvidenceIdentifier

def envelopeMatches (evidence : TurnEvidence) : Bool :=
  isEvidenceIdentifier evidence.eventId && isMs evidence.atMs &&
    isEvidenceIdentifier evidence.sessionId && evidence.attemptRef.all isTurnAttemptRef &&
    evidence.taskId.all isEvidenceIdentifier && isEvidenceIdentifier evidence.observedBy

def bodyMatches : TurnEvidenceBody → Bool
  | .dispatchAccepted body =>
    isEvidenceIdentifier body.messageId && body.meshId.all isEvidenceIdentifier &&
      body.nodeId.all isEvidenceIdentifier && body.providerType.all isEvidenceIdentifier &&
      body.attemptNo.all isSafeInteger && body.dispatchNonce.all isSafeInteger &&
      body.maxTaskRetries.all isSafeInteger && body.coordinator.all isCoordinatorIdentity
  | .delivered messageId _ _ => isEvidenceIdentifier messageId
  | .deliveryRefused messageId _ => isEvidenceIdentifier messageId
  | .dispatchFailed body => body.refusalCode.all isEvidenceIdentifier
  | .duplicateDispatchRefusal holderSessionId holderAttemptId =>
    isEvidenceIdentifier holderSessionId && holderAttemptId.all isEvidenceIdentifier
  | .sessionRebound toSessionId _ => isEvidenceIdentifier toSessionId
  | .turnStarted _ => true
  | .suspension body => body.modalKey.all isEvidenceIdentifier
  | .suspensionResolved _ _ modalKey => modalKey.all isEvidenceIdentifier
  | .turnEnd body => body.summary.all isSummaryRef && body.nativeMarker.all isNativeMarkerRef
  | .transcriptFinal body =>
    body.nativeMarker.all isNativeMarkerRef && body.summary.all isSummaryRef &&
      body.messageAt.all isMs
  | .transcriptActivity newestActivityAt => isMs newestActivityAt
  | .noProgress body => isMs body.stalledMs
  | .liveness _ probeStartedAtMs => probeStartedAtMs.all isMs
  | .processExit exitCode _ => exitCode.all isSafeInteger
  | .sessionError _ => true
  | .workerReport body => body.summary.all isSummaryRef && body.touchedFileCount.all isSafeInteger
  | .workerReportCorrectionRequested deliveryId => deliveryId.all isEvidenceIdentifier
  | .workerProgress note => note.all isSummaryRef
  | .gitSideEffect _ commitsSinceDispatch _ => isSafeInteger commitsSinceDispatch
  | .cancel _ => true
  | .operatorStatus _ _ => true
  | .coordinatorAck _ _ => true
  | .holdExpired holdId _ => isEvidenceIdentifier holdId

def isTurnEvidence (evidence : TurnEvidence) : Bool :=
  envelopeMatches evidence && bodyMatches evidence.body

end Adhdev.MeshShared
