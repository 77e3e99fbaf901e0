import Adhdev.TurnLedger.Admission
import Adhdev.TurnLedger.Transitions

/-! # Lanes, guards and rule matching

The deciding half of `turn-ledger/reducer.ts`: which generation an evidence
speaks for, and which rows of the table match it. -/

namespace Adhdev.TurnLedger

open MeshShared

/-- `stopConfirmed` and `writerUnreachable` are capabilities of the local
executor, never read from received evidence. -/
structure ReduceInput where
  stopConfirmed : Bool := false
  writerUnreachable : Option WriterUnreachable := none
  attempt : Option TurnAttempt
  holds : List TurnHold
  evidence : TurnEvidence
  policy : TurnPolicy
  nowMs : Int

def sessionProducedKinds : List TurnEvidenceKind :=
  [.turnStarted, .suspension, .suspensionResolved, .turnEnd, .transcriptFinal,
    .transcriptActivity, .noProgress, .processExit, .sessionError, .workerReport,
    .workerProgress, .liveness]

/-! ## Lane classification -/

structure LaneClass where
  lane : RuleLane
  effectiveGeneration : Option Int
  deriving DecidableEq

def livenessBeforeCut (attempt : TurnAttempt) (evidence : TurnEvidence) : Bool :=
  match evidence.body, attempt.data.livenessSessionCut with
  | .liveness _ probeStartedAtMs, some cut =>
    cut.generation == attempt.generation &&
      (evidence.attemptRef.map (·.generation)).getD attempt.generation == attempt.generation &&
      (evidence.atMs < cut.atMs || probeStartedAtMs.getD evidence.atMs < cut.atMs)
  | _, _ => false

def classifyHoldExpired (attempt : TurnAttempt) (evidence : TurnEvidence)
    (holds : List TurnHold) (expiredId : String) : Except ReduceRejection LaneClass :=
  let hold := holds.find? (·.holdId == expiredId)
  let generation := (evidence.attemptRef.map (·.generation)).or (hold.bind (·.generation))
  if evidence.attemptRef.any (·.attemptId != attempt.attemptId) then .error .attemptMismatch
  else if generation.any (· != attempt.generation) then .ok ⟨.stale, generation⟩
  else .ok ⟨.current, some attempt.generation⟩

def classifySession (attempt : TurnAttempt) (evidence : TurnEvidence) :
    Except ReduceRejection LaneClass :=
  let sessionProduced := sessionProducedKinds.contains evidence.kind
  match evidence.attemptRef with
  | some ref =>
    if ref.attemptId != attempt.attemptId then .error .attemptMismatch
    else if ref.generation != attempt.generation then .ok ⟨.stale, some ref.generation⟩
    else if sessionProduced && !sessionIdsEquivalent evidence.sessionId attempt.sessionId then
      .error .sessionMismatch
    else .ok ⟨.current, some ref.generation⟩
  | none =>
    if !sessionProduced then .ok ⟨.current, some attempt.generation⟩
    else if sessionIdsEquivalent evidence.sessionId attempt.sessionId then
      .ok ⟨.current, some attempt.generation⟩
    else if attempt.prevGeneration.any fun prev =>
        sessionIdsEquivalent evidence.sessionId prev.sessionId then
      .ok ⟨.stale, some (attempt.generation - 1)⟩
    else .error .sessionMismatch

def classifyLane (attempt : Option TurnAttempt) (evidence : TurnEvidence)
    (holds : List TurnHold) : Except ReduceRejection LaneClass :=
  match attempt with
  | none => .ok ⟨.none, none⟩
  | some attempt =>
    match evidence.body with
    | .holdExpired expiredId _ => classifyHoldExpired attempt evidence holds expiredId
    | _ =>
      if livenessBeforeCut attempt evidence then .error .sessionMismatch
      else classifySession attempt evidence

/-! ## Guard helpers -/

structure GuardCtx where
  attempt : Option TurnAttempt
  holds : List TurnHold
  evidence : TurnEvidence
  policy : TurnPolicy
  nowMs : Int
  effectiveGeneration : Option Int

def ReduceInput.guardCtx (input : ReduceInput) (effectiveGeneration : Option Int) : GuardCtx where
  attempt := input.attempt
  holds := input.holds
  evidence := input.evidence
  policy := input.policy
  nowMs := input.nowMs
  effectiveGeneration := effectiveGeneration

namespace GuardCtx

def isKind (ctx : GuardCtx) (kind : TurnEvidenceKind) : Bool := ctx.evidence.kind == kind

def inState (ctx : GuardCtx) (state : TurnState) : Bool :=
  ctx.attempt.any (·.state == state)

def inScope (ctx : GuardCtx) (scope : TurnScope) : Bool :=
  ctx.attempt.any (·.scope == scope)

def providerSuspension (ctx : GuardCtx) : Option ProviderSuspension :=
  ctx.attempt.bind (·.data.providerSuspension)

end GuardCtx

def admissionOf (ctx : GuardCtx) : Option EvidenceAdmission :=
  match ctx.evidence.body with
  | .transcriptFinal body => some (admitTranscriptFinal ctx.evidence body ctx.policy)
  | .turnEnd body => some (admitTurnEnd ctx.evidence body ctx.policy)
  | _ => none

def expiredHold (ctx : GuardCtx) : Option TurnHold :=
  match ctx.evidence.body with
  | .holdExpired expiredId reason =>
    (ctx.holds.find? (·.holdId == expiredId)).filter fun hold =>
      hold.reason == reason && ctx.attempt.all (hold.attemptId == ·.attemptId)
  | _ => none

def holdIs (ctx : GuardCtx) (reasons : List HoldReason) : Bool :=
  (expiredHold ctx).any (reasons.contains ·.reason)

def activityAt (evidence : TurnEvidence) : Int :=
  match evidence.body with
  | .transcriptActivity newestActivityAt => newestActivityAt
  | _ => evidence.atMs

def afterWeakSince (ctx : GuardCtx) : Bool :=
  (ctx.attempt.bind (·.weakSince)).any (· < activityAt ctx.evidence)

def turnEnd (ctx : GuardCtx) : Option TurnEnd :=
  match ctx.evidence.body with
  | .turnEnd body => some body
  | _ => none

def endFailed (body : TurnEnd) : Bool :=
  body.providerFailure.isSome || body.nativeOutcome == some .failed

def completionEnd (ctx : GuardCtx) : Option TurnEnd :=
  (turnEnd ctx).filter (!endFailed ·)

def isHollow (body : TurnEnd) : Bool := body.hollow == some true

def notHeld (ctx : GuardCtx) : Bool := !(admissionOf ctx).any (·.isHold)

def reportAwaitedEnd (ctx : GuardCtx) : Bool :=
  (completionEnd ctx).any (fun body =>
    body.strength == .genuine && !isHollow body && body.reportExpected == some true) &&
    ctx.attempt.any isMeshScope

def reportedThisGeneration (ctx : GuardCtx) : Bool :=
  ctx.attempt.any fun attempt =>
    attempt.data.report.any (·.generation == attempt.generation)

def exitAfterReport (ctx : GuardCtx) : Bool :=
  (match ctx.evidence.body with
    | .processExit _ providerFailure => providerFailure.isNone
    | _ => false) &&
    reportedThisGeneration ctx &&
    ctx.holds.any fun hold =>
      hold.reason == .awaitEnd && ctx.attempt.all (hold.attemptId == ·.attemptId)

def finishedAfterReport (ctx : GuardCtx) : Bool :=
  reportedThisGeneration ctx &&
    match ctx.evidence.body with
    | .turnEnd _ | .transcriptFinal _ =>
      (admissionOf ctx).any fun admission =>
        admission.isStrong || admission.isWeak || admission.isDecline
    | .noProgress body => body.finalAssistantPresent
    | _ => false

def finalWeak (ctx : GuardCtx) : Bool :=
  ctx.isKind .transcriptFinal && (admissionOf ctx).any (·.isWeak) && !reportedThisGeneration ctx

/-- `OWNER_SCRAPE_SOURCES`: evidence the owner read itself. -/
def ownerScrapeSources : List EvidenceSourceId := [.coordinatorProbe, .mcpProbe]

def ownerScrapedMeshFinal (ctx : GuardCtx) : Bool :=
  ctx.isKind .transcriptFinal && ownerScrapeSources.contains ctx.evidence.source &&
    ctx.attempt.any isMeshScope

def ownerProbedQueueNativeCompletion (ctx : GuardCtx) : Bool :=
  (match ctx.evidence.body with
    | .transcriptFinal body => body.nativeRead && body.nativeMarker.any (·.outcome == .completed)
    | _ => false) &&
    ownerScrapeSources.contains ctx.evidence.source && ctx.inScope .meshQueue &&
    (admissionOf ctx).any (·.isStrong)

def awaitReportHeld (ctx : GuardCtx) : Bool :=
  ctx.attempt.any fun attempt =>
    ctx.holds.any fun hold => hold.reason == .awaitReport && hold.attemptId == attempt.attemptId

/-- A timer may use only a recent observation from a probe begun after its hold
or request. -/
def freshEndProbe (ctx : GuardCtx) : Bool :=
  ctx.attempt.any fun attempt =>
    let requestedAt := (attempt.data.unconfirmedEndDeferral.filter
      (·.generation == attempt.generation)).bind (·.requestedAt)
    let cutAt := (attempt.data.livenessSessionCut.filter
      (·.generation == attempt.generation)).map (·.atMs)
    match attempt.data.livenessObservation,
      requestedAt.or ((expiredHold ctx).map (·.createdAt)) with
    | some observation, some boundary =>
      let since := max boundary (cutAt.getD 0)
      observation.generation == attempt.generation &&
        observation.sessionId.any (fun sessionId =>
          sessionId != "" && sessionIdsEquivalent sessionId attempt.sessionId) &&
        since ≤ observation.probeStartedAt && since ≤ observation.atMs &&
        observation.atMs ≤ ctx.nowMs &&
        ctx.nowMs - observation.atMs ≤ ctx.policy.endProbeGraceMs
    | _, _ => false

def correctionPending (ctx : GuardCtx) : Bool :=
  (ctx.attempt.bind (·.data.reportCorrection)).map (·.generation) ==
      ctx.attempt.map (·.generation) &&
    !reportedThisGeneration ctx

def pinnedFollowupSettleEventPrefix : String := "pinned_followup_supersede:"

def settleIdleReportOwed (ctx : GuardCtx) : Bool :=
  ctx.isKind .operatorStatus && ctx.evidence.source == .scheduler &&
    pinnedFollowupSettleEventPrefix.toList.isPrefixOf ctx.evidence.eventId.toList &&
    ctx.inScope .meshQueue && ctx.inState .finalizing &&
    ctx.attempt.all (·.data.writerStop.isNone) && !reportedThisGeneration ctx

def queueReportMissing (ctx : GuardCtx) : Bool :=
  ctx.inScope .meshQueue && holdIs ctx [.awaitReport] && !reportedThisGeneration ctx

def nativeProbeReportOnly (ctx : GuardCtx) : Bool :=
  (expiredHold ctx).any (·.data.nativeProbeReportOnly == some true)

def endTimer (ctx : GuardCtx) : Bool :=
  holdIs ctx [.weakCandidate, .awaitReport] && !ctx.inScope .meshDirect &&
    !nativeProbeReportOnly ctx && !correctionPending ctx && !queueReportMissing ctx

def freshAlive (ctx : GuardCtx) : Bool :=
  freshEndProbe ctx && ctx.attempt.any (·.lastLiveness == some .alive)

/-- How often a weak or report-awaiting expiry was already deferred in this
generation. -/
def unconfirmedEndDeferrals (ctx : GuardCtx) : Int :=
  match ctx.attempt with
  | none => 0
  | some attempt =>
    match attempt.data.unconfirmedEndDeferral with
    | none => 0
    | some deferral =>
      if deferral.generation == attempt.generation && deferral.requestedAt.isSome then
        deferral.count
      else 0

/-! ## Guards -/

def prevGenerationCompletion (ctx : GuardCtx) : Bool :=
  ctx.attempt.any fun attempt =>
    attempt.prevGeneration.any fun prev =>
      ctx.effectiveGeneration == some (attempt.generation - 1) &&
        sessionIdsEquivalent ctx.evidence.sessionId prev.sessionId &&
        match ctx.evidence.body with
        | .workerReport _ => true
        | .turnEnd body => body.strength == .genuine && !isHollow body && !endFailed body
        | .transcriptFinal body =>
          (admitTranscriptFinal ctx.evidence body ctx.policy).isStrong &&
            !ownerProbedQueueNativeCompletion ctx
        | _ => false

def staleModalResolution (ctx : GuardCtx) : Bool :=
  match ctx.evidence.body with
  | .suspensionResolved _ _ modalKey =>
    truthy modalKey && truthy (ctx.providerSuspension.bind (·.modalKey)) &&
      modalKey != ctx.providerSuspension.bind (·.modalKey)
  | _ => false

def underProviderSetup (attempt : TurnAttempt) : Bool :=
  attempt.data.providerSuspension.any fun suspension =>
    suspension.providerSetup && suspension.generation == attempt.generation &&
      suspension.resolvedAt.isNone

def heldProviderSetup (ctx : GuardCtx) : Bool :=
  !(match ctx.evidence.body with
    | .suspensionResolved _ _ modalKey =>
      truthy modalKey && modalKey != ctx.providerSuspension.bind (·.modalKey)
    | _ => false) &&
    ctx.attempt.any underProviderSetup

def suspensionChanged (ctx : GuardCtx) : Bool :=
  match ctx.evidence.body with
  | .suspension body =>
    ctx.attempt.bind (·.suspension) != some body.modal ||
      (truthy body.modalKey && ctx.providerSuspension.bind (·.modalKey) != body.modalKey)
  | _ => false

def endGenuine (ctx : GuardCtx) : Bool :=
  (completionEnd ctx).any (fun body => body.strength == .genuine && !isHollow body) &&
    notHeld ctx && !reportAwaitedEnd ctx && !reportedThisGeneration ctx

def endWeak (ctx : GuardCtx) : Bool :=
  (completionEnd ctx).any (fun body =>
    body.strength == .weak && body.afterFinalizationTimeout != some true && !isHollow body) &&
    notHeld ctx && !reportedThisGeneration ctx

def endWeakAfterTimeout (ctx : GuardCtx) : Bool :=
  (completionEnd ctx).any (fun body =>
    body.strength == .weak && body.afterFinalizationTimeout == some true && !isHollow body) &&
    notHeld ctx && !reportedThisGeneration ctx

def hollowEnd (ctx : GuardCtx) : Bool :=
  (completionEnd ctx).any isHollow && notHeld ctx && !reportedThisGeneration ctx

def finalStrong (ctx : GuardCtx) : Bool :=
  ctx.isKind .transcriptFinal && (admissionOf ctx).any (·.isStrong) &&
    !ownerProbedQueueNativeCompletion ctx && !reportedThisGeneration ctx

def activityKeepsState (ctx : GuardCtx) : Bool :=
  match ctx.evidence.body with
  | .liveness result _ => result == .alive
  | .transcriptActivity _ =>
    ctx.inState .consumed || ctx.inState .generating ||
      (ctx.inState .finalizing && !afterWeakSince ctx)
  | .turnStarted _ => ctx.inState .generating || (ctx.inState .finalizing && !afterWeakSince ctx)
  | _ => false

def livenessIs (ctx : GuardCtx) (result : LivenessResult) : Bool :=
  match ctx.evidence.body with
  | .liveness observed _ => observed == result
  | _ => false

def failStreakReached (ctx : GuardCtx) : Bool :=
  ctx.attempt.any fun attempt => livenessFailStreakLimit ≤ attempt.livenessFailStreak + 1

def parkedSuspensionObservation (ctx : GuardCtx) : Bool :=
  (match ctx.evidence.body with
    | .noProgress body =>
      body.observedStatus == .waitingApproval || body.observedStatus == .waitingChoice
    | _ => false) &&
    ctx.attempt.any fun attempt =>
      attempt.suspension.isSome &&
        attempt.data.providerSuspension.any fun suspension =>
          suspension.generation == attempt.generation && suspension.resolvedAt.isNone

def redrivesExhausted (ctx : GuardCtx) : Bool :=
  ctx.attempt.any fun attempt => maxRedrivesPerGeneration ≤ attempt.redriveCount

def hollowRetriesExhausted (ctx : GuardCtx) : Bool :=
  ctx.attempt.any fun attempt => attempt.maxTaskRetries ≤ attempt.hollowCount

/-- `GUARDS`; `otherwise` has no entry there and is resolved by `matchingRules`. -/
def guards (guard : GuardId) (ctx : GuardCtx) : Bool :=
  match guard with
  | .otherwise => false
  | .unbound => ctx.evidence.attemptRef.isNone && !truthy ctx.evidence.taskId
  | .bound => ctx.evidence.attemptRef.isSome || truthy ctx.evidence.taskId
  | .prevGenerationCompletion => prevGenerationCompletion ctx
  | .staleSessionDistinct =>
    ctx.attempt.any fun attempt =>
      !sessionIdsEquivalent ctx.evidence.sessionId attempt.sessionId
  | .reclaimingRefusal =>
    match ctx.evidence.body with
    | .deliveryRefused _ reason => reclaimingSendRefusals.contains reason
    | _ => false
  | .staleModalResolution => staleModalResolution ctx
  | .heldProviderSetup => heldProviderSetup ctx
  | .confirmedProviderSetup =>
    match ctx.evidence.body with
    | .suspension body => body.providerSetup == some true && truthy body.modalKey
    | _ => false
  | .suspensionChanged => suspensionChanged ctx
  | .endGenuine => endGenuine ctx
  | .endReportAwaited =>
    reportAwaitedEnd ctx && notHeld ctx && !awaitReportHeld ctx && !reportedThisGeneration ctx
  | .endReportAwaitedHeld =>
    reportAwaitedEnd ctx && notHeld ctx && awaitReportHeld ctx && !reportedThisGeneration ctx
  | .finalStrongReportAwaited =>
    ctx.isKind .transcriptFinal && (admissionOf ctx).any (·.isStrong) &&
      awaitReportHeld ctx && !reportedThisGeneration ctx
  | .finishedAfterReport => finishedAfterReport ctx
  | .endProviderFailure => (turnEnd ctx).any endFailed && notHeld ctx && !reportedThisGeneration ctx
  | .falseIdleResumed =>
    (ctx.isKind .turnStarted || ctx.isKind .transcriptActivity) &&
      afterWeakSince ctx && awaitReportHeld ctx
  | .endWeak => endWeak ctx
  | .endWeakAfterTimeout => endWeakAfterTimeout ctx
  | .hollowRetry => hollowEnd ctx && !hollowRetriesExhausted ctx
  | .hollowExhausted => hollowEnd ctx && hollowRetriesExhausted ctx
  | .finalStrong => finalStrong ctx
  | .finalWeak => finalWeak ctx && !ownerScrapedMeshFinal ctx
  | .finalWeakProbe =>
    !reportedThisGeneration ctx &&
      ((finalWeak ctx && ownerScrapedMeshFinal ctx) || ownerProbedQueueNativeCompletion ctx)
  | .genuineEndOrStrongFinal => endGenuine ctx || (finalStrong ctx && !awaitReportHeld ctx)
  | .weakEndOrFinal =>
    endWeak ctx || finalWeak ctx || (ownerProbedQueueNativeCompletion ctx && !awaitReportHeld ctx)
  | .admissionHold => (admissionOf ctx).any (·.isHold)
  | .admissionDecline => (admissionOf ctx).any (·.isDecline) && !reportedThisGeneration ctx
  | .afterWeakSince => afterWeakSince ctx && !awaitReportHeld ctx
  | .activityKeepsState => activityKeepsState ctx
  | .livenessUnknown => livenessIs ctx .unknown
  | .livenessFatal => livenessIs ctx .dead || (livenessIs ctx .readFailed && failStreakReached ctx)
  | .livenessFailedNonfatal => livenessIs ctx .readFailed && !failStreakReached ctx
  | .reportedTerminal => (ctx.attempt.bind (·.terminal)).any (·.strength == .toolReport)
  | .providerFailure =>
    match ctx.evidence.body with
    | .processExit _ providerFailure => providerFailure.isSome
    | _ => false
  | .noProviderFailure =>
    (match ctx.evidence.body with
      | .processExit _ providerFailure => providerFailure.isNone
      | _ => false) && !exitAfterReport ctx
  | .exitAfterReport => exitAfterReport ctx
  | .holderIsThisAttempt =>
    match ctx.evidence.body with
    | .duplicateDispatchRefusal _ holderAttemptId =>
      holderAttemptId == ctx.attempt.map (·.attemptId)
    | _ => false
  | .parkedSuspensionObservation => parkedSuspensionObservation ctx
  | .finalPresent =>
    (match ctx.evidence.body with
      | .noProgress body => body.finalAssistantPresent
      | _ => false) && !reportedThisGeneration ctx
  | .holdAwaitDelivery => holdIs ctx [.awaitDelivery]
  | .holdAwaitConsumeRedrive => holdIs ctx [.awaitConsume] && !redrivesExhausted ctx
  | .holdAwaitConsumeExhausted => holdIs ctx [.awaitConsume] && redrivesExhausted ctx
  | .holdAwaitTurn => holdIs ctx [.awaitTurn]
  | .holdLiveness => holdIs ctx [.liveness]
  | .holdHardCeiling => holdIs ctx [.hardCeiling]
  | .holdSuspensionBeforeConsumed => holdIs ctx [.suspensionBeforeConsumed]
  | .holdDirectReportMissing =>
    ctx.inScope .meshDirect && holdIs ctx [.weakCandidate, .awaitReport] &&
      !correctionPending ctx && !reportedThisGeneration ctx
  | .holdWeakCandidate =>
    holdIs ctx [.weakCandidate] && !ctx.inScope .meshDirect && !correctionPending ctx &&
      freshAlive ctx
  | .holdAdmission => holdIs ctx [.livePending, .transcriptQuiet]
  | .settleIdleReportOwed => settleIdleReportOwed ctx
  | .holdQueueReportMissing =>
    queueReportMissing ctx && !nativeProbeReportOnly ctx && !correctionPending ctx
  | .holdAwaitReport =>
    holdIs ctx [.awaitReport] && !ctx.inScope .meshDirect && !nativeProbeReportOnly ctx &&
      !correctionPending ctx && !queueReportMissing ctx && freshAlive ctx
  | .holdNativeProbeReportOnly =>
    holdIs ctx [.awaitReport] && !ctx.inScope .meshDirect && nativeProbeReportOnly ctx &&
      !correctionPending ctx && !reportedThisGeneration ctx
  | .holdEndUnconfirmedDefer =>
    endTimer ctx && !freshAlive ctx && unconfirmedEndDeferrals ctx < maxUnconfirmedEndDeferrals
  | .holdEndUnconfirmedExhausted =>
    endTimer ctx && !freshAlive ctx &&
      maxUnconfirmedEndDeferrals ≤ unconfirmedEndDeferrals ctx && freshEndProbe ctx
  | .holdEndProbeMissing =>
    endTimer ctx && !freshEndProbe ctx && maxUnconfirmedEndDeferrals ≤ unconfirmedEndDeferrals ctx
  | .holdReportCorrection => holdIs ctx [.reportCorrection] && !reportedThisGeneration ctx
  | .holdAwaitEnd => holdIs ctx [.awaitEnd] && reportedThisGeneration ctx

/-! ## Rule matching -/

def ruleIsCandidate (lane : RuleLane) (state : Option TurnState) (kind : TurnEvidenceKind)
    (rule : TransitionRule) : Bool :=
  rule.lane == lane && ruleAdmitsState rule.fromStates state && rule.on.contains kind

def laneCandidates (lane : RuleLane) (state : Option TurnState) (kind : TurnEvidenceKind) :
    List TransitionRule :=
  transitions.filter (ruleIsCandidate lane state kind)

/-- An unguarded rule passes; `otherwise` is no specific rule. -/
def guardPasses (guard : Option GuardId) (ctx : GuardCtx) : Bool :=
  match guard with
  | none => true
  | some .otherwise => false
  | some guard => guards guard ctx

def matchingRules (input : ReduceInput) : List TransitionRule :=
  match classifyLane input.attempt input.evidence input.holds with
  | .error _ => []
  | .ok lane =>
    let ctx := input.guardCtx lane.effectiveGeneration
    let candidates := laneCandidates lane.lane (input.attempt.map (·.state)) input.evidence.kind
    let specific := candidates.filter (guardPasses ·.guard ctx)
    if specific.isEmpty then candidates.filter (·.guard == some .otherwise) else specific

end Adhdev.TurnLedger
