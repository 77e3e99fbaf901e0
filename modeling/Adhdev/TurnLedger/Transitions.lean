import Adhdev.TurnLedger.Types

/-! # The transition table

`turn-ledger/transitions.ts`: the turn state machine as data. A rule matches
when its lane equals the evidence lane, `fromStates` admits the attempt state,
`on` contains the evidence kind and its guard passes; `otherwise` passes only
when no other rule of the same lane, state and kind does. -/

namespace Adhdev.TurnLedger

open MeshShared

inductive RuleLane
  | none | current | stale
  deriving DecidableEq

/-- `none` is the lane-none pseudo state; `any` includes terminal states. -/
inductive RuleFrom
  | states (states : List TurnState)
  | none
  | nonterminal
  | terminal
  | any
  deriving DecidableEq

inductive GuardId
  | otherwise
  | unbound | bound
  | prevGenerationCompletion | staleSessionDistinct
  | reclaimingRefusal
  | suspensionChanged
  | endGenuine | endProviderFailure | endWeak | endWeakAfterTimeout | hollowRetry
  | hollowExhausted
  | endReportAwaited | endReportAwaitedHeld | finalStrongReportAwaited | falseIdleResumed
  | finalStrong | finalWeak | finalWeakProbe
  | genuineEndOrStrongFinal | weakEndOrFinal
  | admissionHold | admissionDecline
  | afterWeakSince | activityKeepsState
  | livenessUnknown | livenessFatal | livenessFailedNonfatal
  | reportedTerminal
  | providerFailure | noProviderFailure
  | holderIsThisAttempt | confirmedProviderSetup | heldProviderSetup | staleModalResolution
  | finalPresent | parkedSuspensionObservation
  | holdAwaitDelivery | holdAwaitConsumeRedrive | holdAwaitConsumeExhausted | holdAwaitTurn
  | holdLiveness | holdHardCeiling | holdSuspensionBeforeConsumed | holdWeakCandidate
  | holdAdmission
  | holdAwaitReport
  | holdNativeProbeReportOnly | holdDirectReportMissing | holdQueueReportMissing
  | holdEndUnconfirmedDefer | holdEndUnconfirmedExhausted | holdEndProbeMissing
  | holdReportCorrection
  | finishedAfterReport | holdAwaitEnd | exitAfterReport | settleIdleReportOwed
  deriving DecidableEq

/-- Named attempt mutations. -/
inductive ActionId
  | openDispatch | openPlain | rebindDispatch
  | markDelivered | consume | applyHeldSuspension
  | suspend | resume | resumeByActivity
  | weakCandidate | clearWeak | awaitReport | falseIdle
  | activity | livenessUnknown | livenessFailure | workerAbsent
  | rebindToHolder | rebind
  | hollow | markNotified | storeGit | redrive | stampNoProgressNotice
  | recordReport | deferUnconfirmedEnd | openReportCorrection
  deriving DecidableEq

/-- Hold deadline expressions, resolved against policy and ledger clock. -/
inductive UntilExpr
  | awaitDelivery | awaitConsume | awaitTurn | liveness | hardCeiling
  | weakConfirm | unknownGrace | livenessReprobe | admission | awaitReport | awaitEnd | none
  deriving DecidableEq

inductive HoldReasonExpr
  | reason (reason : HoldReason)
  | fromAdmission
  deriving DecidableEq

inductive ReleaseExpr
  | reasons (reasons : List HoldReason)
  | all
  | expiredHold
  deriving DecidableEq

inductive OutcomeExpr
  | outcome (outcome : TurnOutcome)
  | fromReport
  | fromRecordedReport
  | fromOperator
  deriving DecidableEq

inductive CommitReasonExpr
  | reason (reason : TurnReason)
  | fromCancel
  | fromOperator
  | fromProviderFailure
  | fromSessionError
  deriving DecidableEq

inductive ReclaimReasonExpr
  | reason (reason : TurnReason)
  | fromRefusal
  | fromExitState
  deriving DecidableEq

inductive NotifyExpr
  | notify (kind : NotifyKind)
  | fromModal
  | fromSuspension
  deriving DecidableEq

inductive NotifyWhen
  | candidateOnce | noProgressDue | suspensionReminderDue
  deriving DecidableEq

inductive NoteExpr
  | note (note : RecordNote)
  | fromTerminalCompare
  | fromAdmission
  deriving DecidableEq

inductive CancelTarget
  | current | evidenceSession
  deriving DecidableEq

structure HoldTemplate where
  reason : HoldReasonExpr
  untilExpr : UntilExpr
  onExpire : HoldOnExpire
  meshOnly : Bool := false
  generationAgnostic : Bool := false
  deriving DecidableEq

structure CommitTemplate where
  outcome : OutcomeExpr
  strength : CommitStrength
  reason : CommitReasonExpr
  /-- `text: 'recorded_report'`: the text of the recorded report, not of the
  committing evidence. -/
  recordedReportText : Bool := false
  deriving DecidableEq

structure NotifyTemplate where
  kind : NotifyExpr
  due : Option NotifyWhen := none
  /-- The notice names the evidence's generation, not the attempt's. -/
  evidenceGeneration : Bool := false
  deriving DecidableEq

inductive EffectTemplate
  | act (act : ActionId)
  | hold (template : HoldTemplate)
  | release (reasons : ReleaseExpr)
  | commit (template : CommitTemplate)
  | reclaim (reason : ReclaimReasonExpr)
  | notify (template : NotifyTemplate)
  | adoptPrevGeneration
  | bus (phase : BusPhase)
  | record (note : NoteExpr)
  | cancelDispatch (target : CancelTarget) (notIntentionalCleanup : Bool)
  | redeliver
  | probe
  | reevaluate
  deriving DecidableEq

inductive RuleTarget
  | state (state : TurnState)
  | same
  | outcome
  deriving DecidableEq

inductive RuleId
  | WR | R1 | R1r | R0a | R0b | R0 | R27a | R27 | R28a | R28
  | R2s | R2 | R2a | R3 | R3a | R24 | R25 | R25a | R26
  | R4 | R5s | R5 | R5stale | R5bs | R5b | R6 | R6s | R6d | R7 | R8
  | R9 | R9f | R10 | R10a | R11 | R12 | R13b | R14 | R15 | R15p | R16 | R16a | R33
  | R9r | R9d | R11d | R12r | R33f
  | R17 | R17g | R9t | R13t | R17ps | R17p
  | R18 | R19 | R34
  | R20r | R20 | R20f | R21 | R22 | R23s | R23 | R17c
  | R29 | R30p | R30 | R31 | R31a | R32 | R32u | R35
  | H1 | H2 | H2r | H3 | H4 | H5 | H6 | H7
  | R13d | R13a | R13n | R13q | R13r | R13u | R13x | R13z | R13c | H0
  deriving DecidableEq

structure TransitionRule where
  id : RuleId
  lane : RuleLane
  fromStates : RuleFrom
  on : List TurnEvidenceKind
  guard : Option GuardId := none
  target : RuleTarget
  verdict : ReduceVerdict
  effects : List EffectTemplate

/-! ## Shared pieces of the table -/

def awaits : List HoldReason := [.awaitDelivery, .awaitConsume, .awaitTurn]

def preTurn : RuleFrom := .states [.accepted, .delivered]

def running : RuleFrom := .states [.consumed, .generating, .suspended]

def inTurn : RuleFrom := .states [.consumed, .generating, .suspended, .finalizing]

def livenessExtend : EffectTemplate :=
  .hold { reason := .reason .liveness, untilExpr := .liveness, onExpire := .escalate }

def livenessReprobe : EffectTemplate :=
  .hold { reason := .reason .liveness, untilExpr := .livenessReprobe, onExpire := .escalate }

def awaitConsumeHold : EffectTemplate :=
  .hold {
    reason := .reason .awaitConsume, untilExpr := .awaitConsume
    onExpire := .redeliver, meshOnly := true }

def awaitTurnHold : EffectTemplate :=
  .hold {
    reason := .reason .awaitTurn, untilExpr := .awaitTurn
    onExpire := .reclaim, meshOnly := true }

def heldSuspension : EffectTemplate :=
  .hold {
    reason := .reason .suspensionBeforeConsumed, untilExpr := .none
    onExpire := .release }

def weakCandidate : List EffectTemplate :=
  [.act .weakCandidate,
    .hold { reason := .reason .weakCandidate, untilExpr := .weakConfirm, onExpire := .commit },
    .notify { kind := .notify .candidate, due := some .candidateOnce }]

def awaitReport : List EffectTemplate :=
  [.act .awaitReport,
    .release (.reasons [.weakCandidate]),
    .hold {
      reason := .reason .awaitReport, untilExpr := .awaitReport
      onExpire := .commit, meshOnly := true }]

def commitFixed (outcome : TurnOutcome) (strength : CommitStrength) (reason : TurnReason) :
    EffectTemplate :=
  .commit { outcome := .outcome outcome, strength := strength, reason := .reason reason }

def commitRecordedReport : EffectTemplate :=
  .commit {
    outcome := .fromRecordedReport, strength := .toolReport
    reason := .reason .workerReported, recordedReportText := true }

def recordNote (note : RecordNote) : EffectTemplate := .record (.note note)

/-! ## The rules -/

def transitions : List TransitionRule := [
  { id := .WR, lane := .current, fromStates := .states [.stopping]
    on := turnEvidenceKinds.filter (· != .coordinatorAck)
    target := .same, verdict := .applied
    effects := [recordNote .writerStopCheckpointPending] },
  -- Lane none: no attempt resolved.
  { id := .R1, lane := .none, fromStates := .none, on := [.dispatchAccepted]
    target := .state .accepted, verdict := .applied
    effects := [.act .openDispatch,
      .hold {
        reason := .reason .awaitDelivery, untilExpr := .awaitDelivery
        onExpire := .reclaim, meshOnly := true },
      .hold {
        reason := .reason .hardCeiling, untilExpr := .hardCeiling
        onExpire := .escalate, meshOnly := true, generationAgnostic := true }] },
  { id := .R1r, lane := .current, fromStates := .states [.accepted], on := [.dispatchAccepted]
    target := .same, verdict := .applied
    effects := [.act .rebindDispatch] },
  { id := .R0a, lane := .none, fromStates := .none, on := [.turnStarted]
    guard := some .unbound, target := .state .generating, verdict := .applied
    effects := [.act .openPlain, .act .consume, .bus .started] },
  { id := .R0b, lane := .none, fromStates := .none, on := [.turnStarted]
    guard := some .bound, target := .same, verdict := .recorded
    effects := [recordNote .noAttempt] },
  { id := .R0, lane := .none, fromStates := .none
    on := turnEvidenceKinds.filter fun kind => kind != .dispatchAccepted && kind != .turnStarted
    target := .same, verdict := .recorded
    effects := [recordNote .noAttempt] },
  -- Lane stale: evidence of another generation. While the current generation has
  -- not started, a genuine completion of the previous one is adopted.
  { id := .R27a, lane := .stale, fromStates := preTurn
    on := [.turnEnd, .workerReport, .transcriptFinal]
    guard := some .prevGenerationCompletion, target := .outcome, verdict := .applied
    effects := [.adoptPrevGeneration] },
  { id := .R27, lane := .stale
    fromStates := .states [.consumed, .generating, .suspended, .finalizing,
      .completed, .blocked, .failed, .cancelled]
    on := [.turnEnd, .workerReport, .transcriptFinal]
    guard := some .prevGenerationCompletion, target := .same, verdict := .recorded
    effects := [recordNote .lateCompletionPrevGeneration,
      .notify { kind := .notify .lateCompletion, evidenceGeneration := true }] },
  { id := .R28a, lane := .stale, fromStates := .any, on := [.turnStarted]
    guard := some .staleSessionDistinct, target := .same, verdict := .recorded
    effects := [recordNote .staleGeneration, .cancelDispatch .evidenceSession false] },
  { id := .R28, lane := .stale, fromStates := .any, on := turnEvidenceKinds
    guard := some .otherwise, target := .same, verdict := .recorded
    effects := [recordNote .staleGeneration] },
  -- Dispatch and delivery.
  { id := .R2s, lane := .current, fromStates := preTurn, on := [.delivered]
    guard := some .heldProviderSetup, target := .state .delivered, verdict := .applied
    effects := [.act .markDelivered, .release (.reasons awaits)] },
  { id := .R2, lane := .current, fromStates := preTurn, on := [.delivered]
    guard := some .otherwise, target := .state .delivered, verdict := .applied
    effects := [.act .markDelivered, .release (.reasons [.awaitDelivery]), awaitConsumeHold,
      awaitTurnHold] },
  { id := .R2a, lane := .current, fromStates := inTurn, on := [.delivered]
    target := .same, verdict := .recorded
    effects := [recordNote .lateDeliveryAck] },
  { id := .R3, lane := .current, fromStates := preTurn, on := [.deliveryRefused]
    guard := some .reclaimingRefusal, target := .state .accepted, verdict := .applied
    effects := [.reclaim .fromRefusal] },
  { id := .R3a, lane := .current, fromStates := preTurn, on := [.deliveryRefused]
    guard := some .otherwise, target := .same, verdict := .recorded
    effects := [recordNote .deliveryRefusedRetryable] },
  { id := .R24, lane := .current, fromStates := preTurn, on := [.dispatchFailed]
    target := .state .accepted, verdict := .applied
    effects := [.act .workerAbsent, .reclaim (.reason .dispatchFailed)] },
  { id := .R25, lane := .current, fromStates := preTurn, on := [.duplicateDispatchRefusal]
    guard := some .holderIsThisAttempt, target := .state .consumed, verdict := .applied
    effects := [.act .rebindToHolder, .act .consume, .release (.reasons awaits),
      livenessExtend] },
  { id := .R25a, lane := .current, fromStates := preTurn, on := [.duplicateDispatchRefusal]
    guard := some .otherwise, target := .same, verdict := .recorded
    effects := [recordNote .foreignHolder] },
  { id := .R26, lane := .current, fromStates := .nonterminal, on := [.sessionRebound]
    target := .same, verdict := .applied
    effects := [.act .rebind] },
  -- Turn start and suspension.
  { id := .R4, lane := .current, fromStates := .states [.accepted, .delivered, .consumed]
    on := [.turnStarted], target := .state .generating, verdict := .applied
    effects := [.act .consume, .release (.reasons awaits), livenessExtend, .bus .started,
      .act .applyHeldSuspension] },
  { id := .R5s, lane := .current, fromStates := preTurn, on := [.suspension]
    guard := some .confirmedProviderSetup, target := .same, verdict := .applied
    effects := [.act .suspend, .release (.reasons awaits), heldSuspension, .bus .suspended,
      .notify { kind := .fromModal }] },
  { id := .R5, lane := .current, fromStates := preTurn, on := [.suspension]
    guard := some .otherwise, target := .same, verdict := .applied
    effects := [heldSuspension] },
  { id := .R5stale, lane := .current, fromStates := .states [.accepted, .delivered, .suspended]
    on := [.suspensionResolved]
    guard := some .staleModalResolution, target := .same, verdict := .recorded
    effects := [recordNote .staleModalResolution] },
  { id := .R5bs, lane := .current, fromStates := preTurn, on := [.suspensionResolved]
    guard := some .heldProviderSetup, target := .same, verdict := .applied
    effects := [.release (.reasons [.suspensionBeforeConsumed]), .act .resume,
      awaitConsumeHold, awaitTurnHold] },
  { id := .R5b, lane := .current, fromStates := preTurn, on := [.suspensionResolved]
    guard := some .otherwise, target := .same, verdict := .applied
    effects := [.release (.reasons [.suspensionBeforeConsumed])] },
  { id := .R6, lane := .current, fromStates := .states [.consumed, .generating, .finalizing]
    on := [.suspension], target := .state .suspended, verdict := .applied
    effects := [.act .suspend,
      .release (.reasons [.weakCandidate, .livePending, .transcriptQuiet, .awaitReport]),
      .bus .suspended, .notify { kind := .fromModal }] },
  { id := .R6s, lane := .current, fromStates := .states [.suspended], on := [.suspension]
    guard := some .suspensionChanged, target := .state .suspended, verdict := .applied
    effects := [.act .suspend, .bus .suspended, .notify { kind := .fromModal }] },
  { id := .R6d, lane := .current, fromStates := .states [.suspended], on := [.suspension]
    guard := some .otherwise, target := .same, verdict := .recorded
    effects := [recordNote .duplicateSuspension] },
  { id := .R7, lane := .current, fromStates := .states [.suspended], on := [.suspensionResolved]
    guard := some .otherwise, target := .state .generating, verdict := .applied
    effects := [.act .resume, .bus .resumed, .notify { kind := .notify .approvalResolved }] },
  { id := .R8, lane := .current, fromStates := .states [.suspended]
    on := [.turnStarted, .transcriptActivity]
    target := .state .generating, verdict := .applied
    effects := [.act .resumeByActivity,
      .release (.reasons [.livePending, .transcriptQuiet, .weakCandidate]),
      livenessExtend, .bus .resumed] },
  -- Turn end.
  { id := .R9, lane := .current, fromStates := running, on := [.turnEnd]
    guard := some .endGenuine, target := .state .completed, verdict := .applied
    effects := [commitFixed .completed .genuine .turnEnd] },
  { id := .R9f, lane := .current, fromStates := inTurn, on := [.turnEnd]
    guard := some .endProviderFailure, target := .state .failed, verdict := .applied
    effects := [.commit {
      outcome := .outcome .failed, strength := .genuine, reason := .fromProviderFailure }] },
  { id := .R10, lane := .current, fromStates := running, on := [.turnEnd]
    guard := some .endWeak, target := .state .finalizing, verdict := .applied
    effects := weakCandidate },
  { id := .R10a, lane := .current, fromStates := .states [.finalizing]
    on := [.turnEnd, .transcriptFinal]
    guard := some .weakEndOrFinal, target := .same, verdict := .recorded
    effects := [recordNote .duplicateWeakEnd] },
  { id := .R11, lane := .current, fromStates := .states [.finalizing]
    on := [.turnEnd, .transcriptFinal]
    guard := some .genuineEndOrStrongFinal, target := .state .completed, verdict := .applied
    effects := [commitFixed .completed .genuine .transcriptFinal] },
  { id := .R12, lane := .current, fromStates := .states [.finalizing]
    on := [.turnStarted, .transcriptActivity]
    guard := some .afterWeakSince, target := .state .generating, verdict := .applied
    effects := [.act .clearWeak, .act .activity, .release (.reasons [.weakCandidate]),
      livenessExtend] },
  { id := .R13b, lane := .current, fromStates := inTurn, on := [.turnEnd]
    guard := some .endWeakAfterTimeout, target := .state .failed, verdict := .applied
    effects := [commitFixed .failed .weak .finalizationTimeoutNoResponse] },
  { id := .R14, lane := .current, fromStates := running, on := [.transcriptFinal]
    guard := some .finalStrong, target := .state .completed, verdict := .applied
    effects := [commitFixed .completed .genuine .transcriptFinal] },
  { id := .R15, lane := .current, fromStates := running, on := [.transcriptFinal]
    guard := some .finalWeak, target := .state .finalizing, verdict := .applied
    effects := weakCandidate },
  { id := .R15p, lane := .current, fromStates := running, on := [.transcriptFinal]
    guard := some .finalWeakProbe, target := .state .finalizing, verdict := .applied
    effects := awaitReport },
  { id := .R16, lane := .current, fromStates := inTurn, on := [.turnEnd, .transcriptFinal]
    guard := some .admissionHold, target := .same, verdict := .applied
    effects := [.hold {
      reason := .fromAdmission, untilExpr := .admission, onExpire := .reevaluate }] },
  { id := .R16a, lane := .current, fromStates := inTurn, on := [.transcriptFinal]
    guard := some .admissionDecline, target := .same, verdict := .recorded
    effects := [.record .fromAdmission] },
  { id := .R33, lane := .current, fromStates := inTurn, on := [.turnEnd]
    guard := some .hollowRetry, target := .state .accepted, verdict := .applied
    effects := [.act .hollow, .reclaim (.reason .hollowCompletion)] },
  -- Report-awaiting end.
  { id := .R9r, lane := .current, fromStates := inTurn, on := [.turnEnd]
    guard := some .endReportAwaited, target := .state .finalizing, verdict := .applied
    effects := awaitReport },
  { id := .R9d, lane := .current, fromStates := .states [.finalizing], on := [.turnEnd]
    guard := some .endReportAwaitedHeld, target := .same, verdict := .recorded
    effects := [recordNote .awaitReportDuplicateEnd] },
  { id := .R11d, lane := .current, fromStates := .states [.finalizing], on := [.transcriptFinal]
    guard := some .finalStrongReportAwaited, target := .same, verdict := .recorded
    effects := [recordNote .awaitReportTranscriptFinal] },
  { id := .R12r, lane := .current, fromStates := .states [.finalizing]
    on := [.turnStarted, .transcriptActivity]
    guard := some .falseIdleResumed, target := .state .generating, verdict := .applied
    effects := [.act .falseIdle, .release (.reasons [.awaitReport]), livenessExtend,
      .bus .resumed, recordNote .falseIdleWorkerResumed] },
  { id := .R33f, lane := .current, fromStates := inTurn, on := [.turnEnd]
    guard := some .hollowExhausted, target := .state .failed, verdict := .applied
    effects := [.act .hollow, commitFixed .failed .genuine .hollowMaxRetries] },
  -- Worker report: the primary completion evidence.
  { id := .R17, lane := .current
    fromStates := .states [.accepted, .delivered, .finalizing], on := [.workerReport]
    target := .outcome, verdict := .applied
    effects := [.commit {
      outcome := .fromReport, strength := .toolReport, reason := .reason .workerReported }] },
  { id := .R17g, lane := .current, fromStates := running, on := [.workerReport]
    target := .same, verdict := .applied
    effects := [.act .recordReport,
      .hold {
        reason := .reason .awaitEnd, untilExpr := .awaitEnd
        onExpire := .commit, meshOnly := true },
      recordNote .reportAwaitsEnd] },
  { id := .R9t, lane := .current, fromStates := inTurn
    on := [.turnEnd, .transcriptFinal, .noProgress]
    guard := some .finishedAfterReport, target := .outcome, verdict := .applied
    effects := [commitRecordedReport] },
  { id := .R13t, lane := .current, fromStates := inTurn, on := [.holdExpired]
    guard := some .holdAwaitEnd, target := .outcome, verdict := .applied
    effects := [commitRecordedReport] },
  { id := .R17ps, lane := .current, fromStates := preTurn, on := [.workerProgress]
    target := .state .consumed, verdict := .applied
    effects := [.act .consume, .release (.reasons awaits), livenessExtend,
      .act .applyHeldSuspension, .bus .progress] },
  { id := .R17p, lane := .current, fromStates := inTurn, on := [.workerProgress]
    target := .same, verdict := .applied
    effects := [.act .activity, livenessExtend, .bus .progress] },
  -- Terminal attempts.
  { id := .R18, lane := .current, fromStates := .terminal
    on := [.turnEnd, .transcriptFinal, .noProgress]
    guard := some .reportedTerminal, target := .same, verdict := .recorded
    effects := [recordNote .afterReport] },
  { id := .R19, lane := .current, fromStates := .terminal, on := terminalClassEvidenceKinds
    guard := some .otherwise, target := .same, verdict := .recorded
    effects := [.record .fromTerminalCompare] },
  { id := .R34, lane := .current, fromStates := .any, on := [.coordinatorAck]
    target := .same, verdict := .applied
    effects := [.act .markNotified] },
  -- Session end, errors, operator.
  { id := .R20r, lane := .current, fromStates := inTurn, on := [.processExit]
    guard := some .exitAfterReport, target := .outcome, verdict := .applied
    effects := [commitRecordedReport] },
  { id := .R20, lane := .current, fromStates := .nonterminal, on := [.processExit]
    guard := some .noProviderFailure, target := .state .accepted, verdict := .applied
    effects := [.reclaim .fromExitState] },
  { id := .R20f, lane := .current, fromStates := .nonterminal, on := [.processExit]
    guard := some .providerFailure, target := .state .failed, verdict := .applied
    effects := [.commit {
      outcome := .outcome .failed, strength := .genuine, reason := .fromProviderFailure }] },
  { id := .R21, lane := .current, fromStates := .nonterminal, on := [.sessionError]
    target := .state .failed, verdict := .applied
    effects := [.commit {
      outcome := .outcome .failed, strength := .genuine, reason := .fromSessionError }] },
  { id := .R22, lane := .current, fromStates := .nonterminal, on := [.cancel]
    target := .state .cancelled, verdict := .applied
    effects := [.cancelDispatch .current true,
      .commit { outcome := .outcome .cancelled, strength := .operator, reason := .fromCancel }] },
  { id := .R23s, lane := .current, fromStates := .states [.finalizing], on := [.operatorStatus]
    guard := some .settleIdleReportOwed, target := .state .failed, verdict := .applied
    effects := [.commit {
      outcome := .outcome .failed, strength := .operator, reason := .fromOperator }] },
  { id := .R23, lane := .current, fromStates := .nonterminal, on := [.operatorStatus]
    guard := some .otherwise, target := .outcome, verdict := .applied
    effects := [.commit {
      outcome := .fromOperator, strength := .operator, reason := .fromOperator }] },
  { id := .R17c, lane := .current, fromStates := .nonterminal
    on := [.workerReportCorrectionRequested]
    target := .same, verdict := .applied
    effects := [.act .openReportCorrection] },
  -- Progress and liveness.
  { id := .R29, lane := .current, fromStates := .states [.consumed, .generating]
    on := [.noProgress]
    guard := some .finalPresent, target := .state .finalizing, verdict := .applied
    effects := weakCandidate },
  { id := .R30p, lane := .current, fromStates := .states [.suspended], on := [.noProgress]
    guard := some .parkedSuspensionObservation, target := .same, verdict := .applied
    effects := [.notify { kind := .fromSuspension, due := some .suspensionReminderDue }] },
  { id := .R30, lane := .current, fromStates := inTurn, on := [.noProgress]
    guard := some .otherwise, target := .same, verdict := .applied
    effects := [.notify { kind := .notify .noProgress, due := some .noProgressDue }] },
  { id := .R31, lane := .current, fromStates := inTurn, on := [.liveness]
    guard := some .livenessFatal, target := .state .accepted, verdict := .applied
    effects := [.act .livenessFailure, .reclaim (.reason .sessionDead)] },
  { id := .R31a, lane := .current, fromStates := inTurn, on := [.liveness]
    guard := some .livenessFailedNonfatal, target := .same, verdict := .applied
    effects := [.act .livenessFailure] },
  { id := .R32, lane := .current, fromStates := inTurn
    on := [.liveness, .transcriptActivity, .turnStarted]
    guard := some .activityKeepsState, target := .same, verdict := .applied
    effects := [.act .activity, livenessExtend] },
  { id := .R32u, lane := .current, fromStates := inTurn, on := [.liveness]
    guard := some .livenessUnknown, target := .same, verdict := .applied
    effects := [.act .livenessUnknown, livenessReprobe] },
  { id := .R35, lane := .current, fromStates := inTurn, on := [.gitSideEffect]
    target := .same, verdict := .applied
    effects := [.act .storeGit] },
  -- Hold expiry.
  { id := .H1, lane := .current, fromStates := .states [.accepted], on := [.holdExpired]
    guard := some .holdAwaitDelivery, target := .state .accepted, verdict := .applied
    effects := [.reclaim (.reason .assignedStrandedDispatchUnconfirmed)] },
  { id := .H2, lane := .current, fromStates := .states [.delivered], on := [.holdExpired]
    guard := some .holdAwaitConsumeRedrive, target := .state .delivered, verdict := .applied
    effects := [.act .redrive, .redeliver, awaitConsumeHold] },
  { id := .H2r, lane := .current, fromStates := .states [.delivered], on := [.holdExpired]
    guard := some .holdAwaitConsumeExhausted, target := .state .accepted, verdict := .applied
    effects := [.reclaim (.reason .deliveredNotConsumedRedrive)] },
  { id := .H3, lane := .current, fromStates := .states [.delivered], on := [.holdExpired]
    guard := some .holdAwaitTurn, target := .state .accepted, verdict := .applied
    effects := [.reclaim (.reason .deliveredNoTurnDeadline)] },
  { id := .H4, lane := .current, fromStates := inTurn, on := [.holdExpired]
    guard := some .holdLiveness, target := .same, verdict := .applied
    effects := [.probe, livenessReprobe] },
  { id := .H5, lane := .current, fromStates := .nonterminal, on := [.holdExpired]
    guard := some .holdHardCeiling, target := .state .failed, verdict := .applied
    effects := [commitFixed .failed .genuine .hardCeiling] },
  { id := .H6, lane := .current, fromStates := .nonterminal, on := [.holdExpired]
    guard := some .holdSuspensionBeforeConsumed, target := .same, verdict := .applied
    effects := [.release .expiredHold] },
  { id := .H7, lane := .current, fromStates := inTurn, on := [.holdExpired]
    guard := some .holdAdmission, target := .same, verdict := .applied
    effects := [.release .expiredHold, .reevaluate] },
  { id := .R13d, lane := .current, fromStates := .states [.finalizing], on := [.holdExpired]
    guard := some .holdDirectReportMissing, target := .same, verdict := .applied
    effects := [.release .expiredHold, recordNote .directCompletionReportMissing,
      .notify { kind := .notify .candidate, due := some .candidateOnce }] },
  { id := .R13a, lane := .current, fromStates := .states [.finalizing], on := [.holdExpired]
    guard := some .holdWeakCandidate, target := .state .completed, verdict := .applied
    effects := [commitFixed .completed .weak .weakEndConfirmed] },
  { id := .R13n, lane := .current, fromStates := .states [.finalizing], on := [.holdExpired]
    guard := some .holdNativeProbeReportOnly, target := .same, verdict := .applied
    effects := [.release .expiredHold, recordNote .nativeProbeAwaitReportExpired] },
  { id := .R13q, lane := .current, fromStates := .states [.finalizing], on := [.holdExpired]
    guard := some .holdQueueReportMissing, target := .same, verdict := .applied
    effects := [.release .expiredHold, recordNote .queueCompletionReportMissing,
      .notify { kind := .notify .candidate, due := some .candidateOnce }] },
  { id := .R13r, lane := .current, fromStates := .states [.finalizing], on := [.holdExpired]
    guard := some .holdAwaitReport, target := .state .completed, verdict := .applied
    effects := [commitFixed .completed .weak .weakEndConfirmed] },
  { id := .R13u, lane := .current, fromStates := .states [.finalizing], on := [.holdExpired]
    guard := some .holdEndUnconfirmedDefer, target := .same, verdict := .applied
    effects := [.act .deferUnconfirmedEnd, .probe] },
  { id := .R13x, lane := .current, fromStates := .states [.finalizing], on := [.holdExpired]
    guard := some .holdEndUnconfirmedExhausted, target := .state .failed, verdict := .applied
    effects := [commitFixed .failed .weak .weakEndLivenessUnconfirmed] },
  { id := .R13z, lane := .current, fromStates := .states [.finalizing], on := [.holdExpired]
    guard := some .holdEndProbeMissing, target := .state .failed, verdict := .applied
    effects := [commitFixed .failed .weak .weakEndProbeUnobserved] },
  { id := .R13c, lane := .current, fromStates := .nonterminal, on := [.holdExpired]
    guard := some .holdReportCorrection, target := .state .failed, verdict := .applied
    effects := [commitFixed .failed .weak .reportCorrectionExpired] },
  { id := .H0, lane := .current, fromStates := .any, on := [.holdExpired]
    guard := some .otherwise, target := .same, verdict := .recorded
    effects := [recordNote .holdStale] }]

/-- `NONTERMINAL` of the table: stopping is exclusive and not among them. -/
def nonterminalStates : List TurnState :=
  [.accepted, .delivered, .consumed, .generating, .suspended, .finalizing]

def terminalStates : List TurnState := [.completed, .blocked, .failed, .cancelled]

/-- Does a rule's `from` admit this state (`none` is lane none, no attempt)? -/
def ruleAdmitsState (fromStates : RuleFrom) : Option TurnState → Bool
  | none => fromStates == .none
  | some state =>
    match fromStates with
    | .none => false
    | .any => true
    | .nonterminal => nonterminalStates.contains state
    | .terminal => terminalStates.contains state
    | .states states => states.contains state

end Adhdev.TurnLedger
