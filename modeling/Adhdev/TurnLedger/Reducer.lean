import Adhdev.TurnLedger.Guards

/-! # The reducer

The applying half of `turn-ledger/reducer.ts`: one evidence against one attempt
and its holds. The source threads one mutable draft through these functions;
here each of them returns the next draft, and the draft's constant `ctx` is an
argument of its own. A function that reads `draft.attempt!` leaves a draft
without attempt alone. -/

namespace Adhdev.TurnLedger

open MeshShared

inductive ResultRule
  | table (id : RuleId)
  | writerSettled
  | writerUnreachableSettled
  deriving DecidableEq

structure ReduceResult where
  attempt : Option TurnAttempt
  holds : List TurnHold
  effects : List TurnEffect
  verdict : ReduceVerdict
  rule : Option ResultRule := none
  rejection : Option ReduceRejection := none

/-! ## Vocabulary shared by evidence, commits and notices -/

def cancelTurnReason : CancelReason → TurnReason
  | .operatorCancel => .operatorCancel
  | .intentionalCleanup => .intentionalCleanup
  | .taskRemoved => .taskRemoved
  | .missionAbandoned => .missionAbandoned
  | .superseded => .superseded

def operatorTurnReason : OperatorStatusReason → TurnReason
  | .operatorUpdate => .operatorUpdate
  | .refineTerminal => .refineTerminal
  | .validationTerminal => .validationTerminal

def operatorOutcome : OperatorStatus → TurnOutcome
  | .completed => .completed
  | .failed => .failed

def reportOutcome : WorkerReportOutcome → TurnOutcome
  | .completed => .completed
  | .blocked => .blocked
  | .failed => .failed

def outcomeNotice : TurnOutcome → NotifyKind
  | .completed => .completed
  | .blocked => .blocked
  | .failed => .failed
  | .cancelled => .cancelled

def modalNotice : SuspensionModal → NotifyKind
  | .approval => .approval
  | .choice => .choice

def providerFailureReason : ProviderFailure → TurnReason
  | .authFailed => .providerAuthFailed
  | .billingFailed => .providerBillingFailed
  | .usageLimitExceeded => .providerUsageLimitExceeded
  | .serverOverloaded => .providerServerOverloaded
  | .providerError => .providerError

/-! ## Opening and adopting -/

def newAttempt (evidence : TurnEvidence) (attemptId : String) (scope : TurnScope) :
    TurnAttempt where
  attemptId := attemptId
  scope := scope
  meshId := none
  taskId := evidence.taskId
  attemptNo := 0
  sessionId := evidence.sessionId
  nodeId := none
  providerType := none
  ownerDaemonId := evidence.observedBy
  generation := (evidence.attemptRef.map (·.generation)).getD 0
  prevGeneration := none
  dispatchNonce := none
  messageId := none
  consumeProfile := .default
  maxTaskRetries := defaultMaxTaskRetries
  state := .accepted
  suspension := none
  redriveCount := 0
  reclaimCount := 0
  hollowCount := 0
  livenessFailStreak := 0
  lastLiveness := none
  coordinator := ⟨none, none⟩
  acceptedAt := evidence.atMs
  deliveredAt := none
  consumedAt := none
  lastActivityAt := none
  weakSince := none
  candidateNotifiedGeneration := none
  lastNoProgressNoticeAt := none
  notifiedAt := none
  terminal := none
  data := {}

structure AdoptedTerminal where
  outcome : TurnOutcome
  strength : CommitStrength
  reason : TurnReason

def adoptedTerminal (evidence : TurnEvidence) : AdoptedTerminal :=
  match evidence.body with
  | .workerReport body => ⟨reportOutcome body.outcome, .toolReport, .workerReported⟩
  | .transcriptFinal _ => ⟨.completed, .genuine, .transcriptFinal⟩
  | _ => ⟨.completed, .genuine, .turnEnd⟩

/-! ## The draft -/

/-- `committed` is set once a commit ran; later templates of the rule are
skipped. -/
structure Draft where
  attempt : Option TurnAttempt
  holds : HoldMap
  effects : List TurnEffect
  committed : Bool

namespace Draft

def onAttempt (draft : Draft) (body : TurnAttempt → Draft) : Draft :=
  match draft.attempt with
  | none => draft
  | some attempt => body attempt

def update (draft : Draft) (change : TurnAttempt → TurnAttempt) : Draft :=
  { draft with attempt := draft.attempt.map change }

def emit (draft : Draft) (effect : TurnEffect) : Draft :=
  { draft with effects := draft.effects ++ [effect] }

end Draft

def resolveUntil (expr : UntilExpr) (ctx : GuardCtx) (attempt : TurnAttempt) : Option Int :=
  match expr with
  | .none => none
  | .awaitDelivery => some (ctx.nowMs + ctx.policy.awaitDeliveryMs)
  | .awaitConsume => some (ctx.nowMs + ctx.policy.consumeGraceFor attempt.consumeProfile)
  | .awaitTurn => some (ctx.nowMs + ctx.policy.noTurnDeadlineMs)
  | .liveness => some (ctx.nowMs + ctx.policy.livenessDeadlineMs)
  | .hardCeiling => some (ctx.nowMs + ctx.policy.hardCeilingMs)
  | .weakConfirm => some (ctx.nowMs + ctx.policy.weakConfirmMs)
  | .awaitReport => some (ctx.nowMs + ctx.policy.awaitReportMs)
  | .awaitEnd => some (ctx.nowMs + ctx.policy.awaitEndMs)
  | .unknownGrace => some (ctx.nowMs + ctx.policy.unknownLivenessGraceMs)
  | .livenessReprobe => some (ctx.nowMs + ctx.policy.livenessReArmMs (awaitReportHeld ctx))
  | .admission =>
    match admissionOf ctx with
    | some (.hold _ holdReason) =>
      let live :=
        match ctx.evidence.body with
        | .transcriptFinal body => some body.live
        | .turnEnd body => body.live
        | _ => none
      some (admissionHoldUntil holdReason live ctx.evidence.atMs ctx.policy ctx.nowMs)
    | _ => some ctx.nowMs

def addHold (draft : Draft) (hold : TurnHold) : Draft :=
  { draft with holds := draft.holds.set hold }.emit (.hold hold)

def isReleased (reasons : ReleasedReasons) (keep : List HoldReason) (reason : HoldReason) : Bool :=
  !keep.contains reason &&
    match reasons with
    | .all => true
    | .reasons reasons => reasons.contains reason

/-- The released reasons are reported in hold order, or as `*` when nothing was
to be kept; releasing nothing emits nothing. -/
def releaseHolds (draft : Draft) (reasons : ReleasedReasons) (keep : List HoldReason := []) :
    Draft :=
  let released := (draft.holds.entries.map (·.reason)).filter (isReleased reasons keep)
  let remaining :=
    { draft with
      holds := draft.holds.keepWhere fun hold => !isReleased reasons keep hold.reason }
  if released.isEmpty then remaining
  else
    remaining.onAttempt fun attempt =>
      remaining.emit (.releaseHold attempt.attemptId
        (if reasons == .all && keep.isEmpty then .all else .reasons released))

structure NotifyOptions where
  generation : Option Int := none
  summary : Option SummaryRef := none
  textEventId : Option String := none

def notify (draft : Draft) (kind : NotifyKind) (options : NotifyOptions := {}) : Draft :=
  draft.onAttempt fun attempt =>
    if isMeshScope attempt then
      draft.emit (.notifyCoordinator {
        attemptId := attempt.attemptId
        generation := options.generation.getD attempt.generation
        notify := kind
        taskId := attempt.taskId
        coordinatorDaemonId := attempt.coordinator.daemonId
        coordinatorSessionId := attempt.coordinator.sessionId
        summary := options.summary
        textEventId := options.textEventId.filter (· != "") })
    else draft

/-! ## Commit text -/

def textCarryingHolds : List HoldReason := [.weakCandidate, .awaitReport, .awaitEnd]

structure CommitText where
  summary : Option SummaryRef := none
  textEventId : Option String := none

def heldSummary (data : HoldData) : Option SummaryRef :=
  match data.summaryTopic, data.summaryWriter, data.summarySeq with
  | some topic, some writer, some seq => some ⟨topic, writer, seq⟩
  | _, _, _ => none

def heldText (ctx : GuardCtx) : CommitText :=
  match (expiredHold ctx).filter (textCarryingHolds.contains ·.reason) with
  | none => {}
  | some hold => ⟨heldSummary hold.data, hold.data.textEventId.filter (· != "")⟩

def summaryOf (evidence : TurnEvidence) : Option SummaryRef :=
  match evidence.body with
  | .turnEnd body => body.summary
  | .transcriptFinal body => body.summary
  | .workerReport body => body.summary
  | _ => none

def recordedReportText (attempt : TurnAttempt) : CommitText :=
  match attempt.data.report with
  | none => {}
  | some report => ⟨report.summary, some report.eventId⟩

def WriterStopTerminal.text (terminal : WriterStopTerminal) : CommitText :=
  ⟨terminal.summary, terminal.textEventId⟩

/-! ## Writer stops -/

def writerStopRetryMs : Int := 30000

def writerStopMaxTries : Int := 3

def livenessHold (ctx : GuardCtx) (attempt : TurnAttempt) : TurnHold where
  holdId := holdId attempt.attemptId .liveness
  attemptId := attempt.attemptId
  generation := some attempt.generation
  reason := .liveness
  untilMs := some (ctx.nowMs + writerStopRetryMs)
  onExpire := .escalate
  createdAt := ctx.nowMs

def requestWriterStop (ctx : GuardCtx) (draft : Draft) : Draft :=
  draft.onAttempt fun attempt =>
    let requested := draft.emit (.cancelDispatch {
      attemptId := attempt.attemptId
      generation := attempt.generation
      sessionId := attempt.sessionId
      messageId := some attempt.messageId
      stopRequestId := attempt.data.writerStop.map (·.requestId) })
    addHold requested (livenessHold ctx attempt)

def holdsKeptByStop (reason : TurnReason) : List HoldReason :=
  if reason == .hardCeiling then [] else [.hardCeiling]

def freshWriterStop (ctx : GuardCtx) (reason : TurnReason) : WriterStop where
  requestId := ctx.evidence.eventId ++ ":writer-stop"
  reason := reason
  requestedAt := ctx.nowMs
  tries := 1
  escalated := false

def beginWriterStop (ctx : GuardCtx) (draft : Draft) (reason : TurnReason) : Draft :=
  draft.onAttempt fun attempt =>
    if attempt.data.writerStop.isSome then draft
    else
      let stopping := { draft with
        attempt := some { attempt with
          state := .stopping
          data := { attempt.data with writerStop := some (freshWriterStop ctx reason) } } }
      requestWriterStop ctx (releaseHolds stopping .all (holdsKeptByStop reason))

/-- `attempt.data.writerStop!.terminal = terminal`. -/
def setStopTerminal (draft : Draft) (terminal : WriterStopTerminal) : Draft :=
  draft.update fun attempt =>
    { attempt with data := { attempt.data with
        writerStop := attempt.data.writerStop.map fun stop =>
          { stop with terminal := some terminal } } }

/-! ## Commit -/

def stopFencedKinds : List TurnEvidenceKind :=
  [.cancel, .operatorStatus, .sessionError, .processExit]

def commitAwaitsStop (ctx : GuardCtx) (attempt : TurnAttempt) (reason : TurnReason) : Bool :=
  isMeshScope attempt && !attempt.data.writerStop.any (·.confirmed) &&
    !settleIdleReportOwed ctx &&
    (reason == .hardCeiling || stopFencedKinds.contains ctx.evidence.kind)

def attemptOnly (attempt : TurnAttempt) (reason : TurnReason) : Bool :=
  reason == .superseded && attempt.scope == .meshQueue

def queueRow (attempt : TurnAttempt) : Option (String × String) :=
  match attempt.meshId, attempt.taskId with
  | some meshId, some taskId => if meshId != "" && taskId != "" then some (meshId, taskId) else none
  | _, _ => none

def commitQueueEffects (attempt : TurnAttempt) (outcome : TurnOutcome) (reason : TurnReason) :
    List TurnEffect :=
  match queueRow attempt with
  | none => []
  | some (meshId, taskId) =>
    if attemptOnly attempt reason then
      if attempt.data.writerStop.any (·.confirmed) then
        [.queueStatus meshId taskId .pending reason]
      else []
    else if isMeshScope attempt then
      [.queueStatus meshId taskId (.outcome outcome) reason,
        .taskTerminal meshId taskId outcome]
    else []

def commitSummary (ctx : GuardCtx) (text : Option CommitText) : Option SummaryRef :=
  match text with
  | some text => text.summary
  | none => (summaryOf ctx.evidence).or (heldText ctx).summary

def commitTerminal (ctx : GuardCtx) (attempt : TurnAttempt) (outcome : TurnOutcome)
    (strength : CommitStrength) (reason : TurnReason) (text : Option CommitText) :
    TurnTerminal where
  outcome := outcome
  reason := reason
  source := ((attempt.data.writerStop.bind (·.terminal)).bind (·.source)).getD ctx.evidence.source
  strength := strength
  atMs := ctx.evidence.atMs
  summary := commitSummary ctx text

def terminalAttempt (attempt : TurnAttempt) (terminal : TurnTerminal) : TurnAttempt :=
  { attempt with
    state := outcomeState terminal.outcome, suspension := none, terminal := some terminal }

def commitEffect (attempt : TurnAttempt) (terminal : TurnTerminal) : CommitEffect where
  attemptId := attempt.attemptId
  generation := attempt.generation
  outcome := terminal.outcome
  strength := terminal.strength
  reason := terminal.reason
  source := terminal.source
  summary := terminal.summary

/-- The part of `commit` that ends the attempt. -/
def commitNow (ctx : GuardCtx) (draft : Draft) (attempt : TurnAttempt) (outcome : TurnOutcome)
    (strength : CommitStrength) (reason : TurnReason) (text : Option CommitText) : Draft :=
  let held := text.getD (heldText ctx)
  let terminal := commitTerminal ctx attempt outcome strength reason text
  let ended := terminalAttempt attempt terminal
  let draft := { draft with attempt := some ended }.emit (.commit (commitEffect ended terminal))
  let draft := releaseHolds draft .all
  let draft := { draft with
    effects := draft.effects ++ commitQueueEffects ended outcome reason ++ [.bus {
      phase := .committed, sessionId := ended.sessionId, attemptId := ended.attemptId
      generation := ended.generation, outcome := some outcome, strength := some strength }] }
  let draft :=
    if attemptOnly ended reason then draft
    else notify draft (outcomeNotice outcome) {
      summary := terminal.summary, textEventId := held.textEventId }
  { draft.emit (.releaseAttemptRef ended.attemptId ended.sessionId) with committed := true }

def deferredTerminal (ctx : GuardCtx) (outcome : TurnOutcome) (strength : CommitStrength)
    (text : Option CommitText) : WriterStopTerminal where
  outcome := outcome
  strength := strength
  source := some ctx.evidence.source
  summary :=
    match text with
    | some text => text.summary
    | none => summaryOf ctx.evidence
  textEventId := some ((text.bind (·.textEventId)).getD ctx.evidence.eventId)

def commit (ctx : GuardCtx) (draft : Draft) (outcome : TurnOutcome)
    (strength : CommitStrength) (reason : TurnReason) (text : Option CommitText := none) :
    Draft :=
  draft.onAttempt fun attempt =>
    if commitAwaitsStop ctx attempt reason then
      setStopTerminal (beginWriterStop ctx draft reason)
        (deferredTerminal ctx outcome strength text)
    else commitNow ctx draft attempt outcome strength reason text

/-! ## Reclaim -/

/-- The addressed host refused before submitting input, and nothing was ever
observed of this exact direct attempt: a negative proof that no writer exists. -/
def dispatchNeverStarted (ctx : GuardCtx) (attempt : TurnAttempt) : Bool :=
  attempt.scope == .meshDirect && attempt.state == .accepted &&
    attempt.deliveredAt.isNone && attempt.consumedAt.isNone &&
    attempt.lastActivityAt.isNone && attempt.lastLiveness.isNone &&
    attempt.redriveCount == 0 && attempt.reclaimCount == 0 &&
    attempt.data.writerStop.isNone && attempt.data.report.isNone &&
    (match ctx.evidence.body with
      | .dispatchFailed body =>
        !body.workerAbsent && body.reason == .rejectedByWorker &&
          body.refusalCode == some "dispatch_not_started"
      | _ => false) &&
    ctx.evidence.source == .dispatch &&
    ctx.evidence.attemptRef == some ⟨attempt.attemptId, attempt.generation⟩ &&
    sessionIdsEquivalent ctx.evidence.sessionId attempt.sessionId

def awaitDeliveryHold (ctx : GuardCtx) (attempt : TurnAttempt) : TurnHold where
  holdId := holdId attempt.attemptId .awaitDelivery
  attemptId := attempt.attemptId
  generation := some attempt.generation
  reason := .awaitDelivery
  untilMs := some (ctx.nowMs + ctx.policy.awaitDeliveryMs)
  onExpire := .reclaim
  createdAt := ctx.nowMs

def nextGeneration (attempt : TurnAttempt) : TurnAttempt :=
  { attempt with
    prevGeneration := some ⟨attempt.sessionId, attempt.consumedAt.isSome⟩
    generation := attempt.generation + 1
    reclaimCount := attempt.reclaimCount + 1
    state := .accepted
    suspension := none
    deliveredAt := none
    consumedAt := none
    weakSince := none
    redriveCount := 0
    livenessFailStreak := 0
    lastLiveness := none
    data := { attempt.data with writerStop := none } }

/-- The part of `reclaim` that gives the task to a new generation. -/
def requeue (ctx : GuardCtx) (draft : Draft) (attempt : TurnAttempt) (reason : TurnReason) :
    Draft :=
  let next := nextGeneration attempt
  let draft := { draft with attempt := some next }.emit
    (.reclaim next.attemptId attempt.generation next.generation reason)
  let draft := releaseHolds draft .all [.hardCeiling]
  let draft :=
    match queueRow next with
    | some (meshId, taskId) =>
      if next.scope == .meshQueue then
        draft.emit (.queueStatus meshId taskId .pending reason)
      else draft
    | none => draft
  addHold draft (awaitDeliveryHold ctx next)

/-- A mesh reclaim first retains its exact writer in stopping; only a confirmed
settlement advances the generation. -/
def reclaim (ctx : GuardCtx) (draft : Draft) (reason : TurnReason) : Draft :=
  draft.onAttempt fun attempt =>
    if attempt.scope == .plain then commit ctx draft .failed .genuine reason
    else if dispatchNeverStarted ctx attempt then
      commit ctx draft .failed .genuine .dispatchFailed
    else if !attempt.data.writerStop.any (·.confirmed) then beginWriterStop ctx draft reason
    else if attempt.scope == .meshDirect then commit ctx draft .failed .genuine reason
    else if reclaimBudget ≤ attempt.reclaimCount then
      commit ctx draft .failed .genuine .reclaimBudgetExhausted
    else requeue ctx draft attempt reason

/-! ## Actions -/

def bindLivenessSession (ctx : GuardCtx) (sessionId : String) (rebound : Bool)
    (attempt : TurnAttempt) : TurnAttempt :=
  let cut :=
    if rebound || !sessionIdsEquivalent attempt.sessionId sessionId then
      { attempt with
        lastLiveness := none
        livenessFailStreak := 0
        data := { attempt.data with
          livenessObservation := none
          livenessSessionCut := some {
            generation := attempt.generation
            atMs := ctx.nowMs
            revision := (attempt.data.livenessSessionCut.map (·.revision)).getD 0 + 1 } } }
    else attempt
  { cut with sessionId := sessionId }

def resumeSuspension (evidence : TurnEvidence) (onlyUnresolved : Bool)
    (attempt : TurnAttempt) : TurnAttempt :=
  { attempt with
    suspension := none
    data := { attempt.data with
      providerSuspension := attempt.data.providerSuspension.map fun suspension =>
        if suspension.generation == attempt.generation &&
            (!onlyUnresolved || suspension.resolvedAt.isNone) then
          { suspension with resolvedAt := some evidence.atMs }
        else suspension } }

def observeLiveness (evidence : TurnEvidence) (result : LivenessResult)
    (probeStartedAtMs : Option Int) (attempt : TurnAttempt) : TurnAttempt :=
  { attempt with
    lastLiveness := some result
    data := { attempt.data with
      livenessObservation := some {
        generation := attempt.generation
        sessionId := some evidence.sessionId
        atMs := evidence.atMs
        probeStartedAt := probeStartedAtMs.getD evidence.atMs } } }

def consumeTurn (evidence : TurnEvidence) (attempt : TurnAttempt) : TurnAttempt :=
  { attempt with
    deliveredAt := attempt.deliveredAt.or (some evidence.atMs)
    consumedAt := attempt.consumedAt.or (some evidence.atMs)
    lastActivityAt := some evidence.atMs }

def observeActivity (evidence : TurnEvidence) (attempt : TurnAttempt) : TurnAttempt :=
  { attempt with
    lastActivityAt := some (max (attempt.lastActivityAt.getD 0) (activityAt evidence))
    livenessFailStreak := 0 }

def terminalNotifyKinds : List NotifyKind :=
  [.completed, .blocked, .failed, .cancelled, .stopped]

def heldProviderSuspension (attempt : TurnAttempt) (held : TurnHold) : ProviderSuspension where
  generation := attempt.generation
  modalKey := held.data.modalKey
  providerSetup := held.data.providerSetup == some true
  atMs := held.data.suspendedAt.getD (some held.createdAt)
  resolvedAt := none

def applyHeldSuspension (draft : Draft) : Draft :=
  draft.onAttempt fun attempt =>
    match draft.holds.entries.find?
        (·.holdId == holdId attempt.attemptId .suspensionBeforeConsumed) with
    | none => draft
    | some held =>
      let modal := if held.data.modal == some .choice then SuspensionModal.choice else .approval
      let suspended := { attempt with
        state := .suspended
        suspension := some modal
        data := { attempt.data with
          providerSuspension := some (heldProviderSuspension attempt held) } }
      let draft := releaseHolds { draft with attempt := some suspended }
        (.reasons [.suspensionBeforeConsumed])
      let draft := draft.emit (.bus {
        phase := .suspended, sessionId := attempt.sessionId
        attemptId := attempt.attemptId, generation := attempt.generation })
      notify draft (modalNotice modal)

/-- The expired hold is re-armed for a short liveness grace, its text pointer
kept. -/
def deferUnconfirmedEnd (ctx : GuardCtx) (draft : Draft) : Draft :=
  draft.onAttempt fun attempt =>
    match expiredHold ctx with
    | none => draft
    | some hold =>
      let prior := attempt.data.unconfirmedEndDeferral.filter fun prior =>
        prior.generation == attempt.generation && prior.requestedAt.isSome
      let deferral : UnconfirmedEndDeferral := {
        generation := attempt.generation
        count := (prior.map (·.count)).getD 0 + 1
        requestedAt := some ctx.nowMs }
      let deferred := { draft with
        attempt := some { attempt with
          data := { attempt.data with unconfirmedEndDeferral := some deferral } } }
      addHold deferred { hold with
        untilMs := some (ctx.nowMs + ctx.policy.endProbeGraceMs), createdAt := ctx.nowMs }

def openReportCorrection (ctx : GuardCtx) (draft : Draft) : Draft :=
  draft.onAttempt fun attempt =>
    if attempt.data.reportCorrection.any (·.generation == attempt.generation) ||
        reportedThisGeneration ctx then draft
    else
      let untilMs := ctx.nowMs + ctx.policy.reportCorrectionMs
      let correction : ReportCorrection := ⟨attempt.generation, untilMs⟩
      let opened := { draft with
        attempt := some { attempt with
          data := { attempt.data with reportCorrection := some correction } } }
      addHold opened {
        holdId := holdId attempt.attemptId .reportCorrection
        attemptId := attempt.attemptId
        generation := some attempt.generation
        reason := .reportCorrection
        untilMs := some untilMs
        onExpire := .commit
        createdAt := ctx.nowMs }

def openDispatch (evidence : TurnEvidence) (body : DispatchAccepted) : TurnAttempt :=
  let scopeName :=
    match body.scope with
    | .meshQueue => "mesh_queue"
    | .meshDirect => "mesh_direct"
    | .plain => "plain"
  let attemptId :=
    (evidence.attemptRef.map (·.attemptId)).getD (scopeName ++ ":" ++ evidence.eventId)
  { newAttempt evidence attemptId body.scope with
    meshId := body.meshId
    attemptNo := body.attemptNo.getD 0
    nodeId := body.nodeId
    providerType := body.providerType
    dispatchNonce := body.dispatchNonce
    messageId := some body.messageId
    consumeProfile := body.consumeProfile.getD .default
    maxTaskRetries := body.maxTaskRetries.getD defaultMaxTaskRetries
    coordinator := ⟨body.coordinator.map (·.daemonId), body.coordinator.bind (·.sessionId)⟩ }

def openPlain (evidence : TurnEvidence) : TurnAttempt :=
  newAttempt evidence ("plain:" ++ evidence.sessionId ++ ":" ++ evidence.eventId) .plain

def openDispatchAction (ctx : GuardCtx) (draft : Draft) : Draft :=
  match ctx.evidence.body with
  | .dispatchAccepted body => { draft with attempt := some (openDispatch ctx.evidence body) }
  | _ => draft

def rebindDispatch (ctx : GuardCtx) (draft : Draft) : Draft :=
  match ctx.evidence.body with
  | .dispatchAccepted body =>
    draft.update fun attempt =>
      let bound := bindLivenessSession ctx ctx.evidence.sessionId false attempt
      { bound with
        nodeId := (body.nodeId.filter (· != "")).or bound.nodeId
        providerType := (body.providerType.filter (· != "")).or bound.providerType
        dispatchNonce := body.dispatchNonce.or bound.dispatchNonce
        messageId := some body.messageId }
  | _ => draft

def markDelivered (ctx : GuardCtx) (draft : Draft) : Draft :=
  match ctx.evidence.body with
  | .delivered messageId _ _ =>
    draft.update fun attempt =>
      { bindLivenessSession ctx ctx.evidence.sessionId false attempt with
        deliveredAt := attempt.deliveredAt.or (some ctx.evidence.atMs)
        messageId := some messageId }
  | _ => draft

def suspend (ctx : GuardCtx) (draft : Draft) : Draft :=
  match ctx.evidence.body with
  | .suspension body =>
    draft.update fun attempt =>
      { attempt with
        suspension := some body.modal
        weakSince := none
        data := { attempt.data with
          providerSuspension := some {
            generation := attempt.generation
            modalKey := body.modalKey
            providerSetup := body.providerSetup == some true
            atMs := if body.clockUnknown == some true then none else some ctx.evidence.atMs
            resolvedAt := none } } }
  | _ => draft

def activity (ctx : GuardCtx) (draft : Draft) : Draft :=
  match ctx.evidence.body with
  | .liveness result probeStartedAtMs =>
    draft.update fun attempt =>
      observeLiveness ctx.evidence result probeStartedAtMs (observeActivity ctx.evidence attempt)
  | _ => draft.update (observeActivity ctx.evidence)

def livenessUnknown (ctx : GuardCtx) (draft : Draft) : Draft :=
  match ctx.evidence.body with
  | .liveness _ probeStartedAtMs =>
    draft.update (observeLiveness ctx.evidence .unknown probeStartedAtMs)
  | _ => draft

def livenessFailure (ctx : GuardCtx) (draft : Draft) : Draft :=
  match ctx.evidence.body with
  | .liveness result probeStartedAtMs =>
    draft.update fun attempt =>
      { observeLiveness ctx.evidence result probeStartedAtMs attempt with
        livenessFailStreak := attempt.livenessFailStreak + 1 }
  | _ => draft

def workerAbsent (ctx : GuardCtx) (draft : Draft) : Draft :=
  match ctx.evidence.body with
  | .dispatchFailed body =>
    if body.workerAbsent then
      draft.update fun attempt =>
        { attempt with livenessFailStreak := attempt.livenessFailStreak + 1 }
    else draft
  | _ => draft

def rebindToHolder (ctx : GuardCtx) (draft : Draft) : Draft :=
  match ctx.evidence.body with
  | .duplicateDispatchRefusal holderSessionId _ =>
    draft.update (bindLivenessSession ctx holderSessionId false)
  | _ => draft

def rebind (ctx : GuardCtx) (draft : Draft) : Draft :=
  match ctx.evidence.body with
  | .sessionRebound toSessionId _ => draft.update (bindLivenessSession ctx toSessionId true)
  | _ => draft

def markNotified (ctx : GuardCtx) (draft : Draft) : Draft :=
  match ctx.evidence.body with
  | .coordinatorAck notify _ =>
    draft.update fun attempt =>
      if terminalNotifyKinds.contains notify && attempt.state.isTerminal then
        { attempt with notifiedAt := attempt.notifiedAt.or (some ctx.evidence.atMs) }
      else attempt
  | _ => draft

def storeGit (ctx : GuardCtx) (draft : Draft) : Draft :=
  match ctx.evidence.body with
  | .gitSideEffect dirty commitsSinceDispatch attributable =>
    draft.update fun attempt =>
      { attempt with
        data := { attempt.data with
          gitSideEffect :=
            some ⟨dirty, commitsSinceDispatch, attributable, ctx.evidence.atMs⟩ } }
  | _ => draft

def stampNoProgressNotice (ctx : GuardCtx) (draft : Draft) : Draft :=
  draft.update fun attempt => { attempt with lastNoProgressNoticeAt := some ctx.nowMs }

def recordReport (ctx : GuardCtx) (draft : Draft) : Draft :=
  match ctx.evidence.body with
  | .workerReport body =>
    draft.update fun attempt =>
      { attempt with
        data := { attempt.data with
          report := some {
            generation := attempt.generation
            outcome := body.outcome
            eventId := ctx.evidence.eventId
            atMs := ctx.evidence.atMs
            summary := body.summary } } }
  | _ => draft

/-- `ACTIONS`. An action casts the evidence to the kinds its rules name; other
kinds leave the draft alone. -/
def actions (action : ActionId) (ctx : GuardCtx) (draft : Draft) : Draft :=
  match action with
  | .openDispatch => openDispatchAction ctx draft
  | .openPlain => { draft with attempt := some (openPlain ctx.evidence) }
  | .rebindDispatch => rebindDispatch ctx draft
  | .markDelivered => markDelivered ctx draft
  | .consume => draft.update (consumeTurn ctx.evidence)
  | .applyHeldSuspension => applyHeldSuspension draft
  | .suspend => suspend ctx draft
  | .resume => draft.update (resumeSuspension ctx.evidence false)
  | .resumeByActivity =>
    draft.update fun attempt =>
      { resumeSuspension ctx.evidence true attempt with
        lastActivityAt := some (activityAt ctx.evidence)
        livenessFailStreak := 0 }
  | .weakCandidate | .awaitReport =>
    draft.update fun attempt =>
      { attempt with
        weakSince := some ctx.evidence.atMs
        data := { attempt.data with unconfirmedEndDeferral := none } }
  | .clearWeak => draft.update fun attempt => { attempt with weakSince := none }
  | .falseIdle =>
    draft.update fun attempt =>
      { observeActivity ctx.evidence attempt with
        weakSince := none
        data := { attempt.data with
          unconfirmedEndDeferral := none
          falseIdleCount := some (attempt.data.falseIdleCount.getD 0 + 1) } }
  | .activity => activity ctx draft
  | .livenessUnknown => livenessUnknown ctx draft
  | .livenessFailure => livenessFailure ctx draft
  | .deferUnconfirmedEnd => deferUnconfirmedEnd ctx draft
  | .openReportCorrection => openReportCorrection ctx draft
  | .workerAbsent => workerAbsent ctx draft
  | .rebindToHolder => rebindToHolder ctx draft
  | .rebind => rebind ctx draft
  | .hollow => draft.update fun attempt => { attempt with hollowCount := attempt.hollowCount + 1 }
  | .markNotified => markNotified ctx draft
  | .storeGit => storeGit ctx draft
  | .redrive =>
    draft.update fun attempt => { attempt with redriveCount := attempt.redriveCount + 1 }
  | .stampNoProgressNotice => stampNoProgressNotice ctx draft
  | .recordReport => recordReport ctx draft

/-! ## Templates -/

def proposedOutcome (evidence : TurnEvidence) : Option TurnOutcome :=
  match evidence.body with
  | .turnEnd body =>
    if body.afterFinalizationTimeout == some true || isHollow body then some .failed
    else some .completed
  | .transcriptFinal _ | .noProgress _ => some .completed
  | .workerReport body => some (reportOutcome body.outcome)
  | .sessionError _ | .processExit .. => some .failed
  | .cancel _ => some .cancelled
  | .operatorStatus status _ => some (operatorOutcome status)
  | _ => none

def resolveNote (note : NoteExpr) (ctx : GuardCtx) (draft : Draft) : RecordNote :=
  match note with
  | .note note => note
  | .fromAdmission =>
    match admissionOf ctx with
    | some (.decline reason) => .admissionDeclined (some reason)
    | _ => .admissionDeclined none
  | .fromTerminalCompare =>
    match draft.attempt.bind (·.terminal) with
    | some terminal =>
      if proposedOutcome ctx.evidence == some terminal.outcome then .duplicate
      else .alreadyTerminal
    | none => .alreadyTerminal

def exitReclaimReason (state : TurnState) : TurnReason :=
  match state with
  | .accepted | .delivered => .sessionExitBeforeTurn
  | _ => .sessionExit

/-- A provider still showing one of these is working or waiting on a human. -/
def stallBusyStatuses : List NoProgressObservedStatus :=
  [.generating, .starting, .waitingApproval, .waitingChoice]

def holdTemplateReason (ctx : GuardCtx) : HoldReasonExpr → Option HoldReason
  | .reason reason => some reason
  | .fromAdmission =>
    match admissionOf ctx with
    | some (.hold _ holdReason) => some holdReason.reason
    | _ => none

def holdTemplateData (ctx : GuardCtx) (expr : HoldReasonExpr) (reason : HoldReason) : HoldData :=
  let evidence := ctx.evidence
  let admitted : HoldData :=
    match expr, admissionOf ctx with
    | .fromAdmission, some (.hold decline _) =>
      { evidenceId := some evidence.eventId, decline := some decline }
    | _, _ => {}
  let suspended : HoldData :=
    match reason, evidence.body with
    | .suspensionBeforeConsumed, .suspension body =>
      { admitted with
        modal := some body.modal
        modalKey := body.modalKey
        suspendedAt := some (if body.clockUnknown == some true then none else some evidence.atMs)
        providerSetup := some (body.providerSetup == some true) }
    | _, _ => admitted
  let probed : HoldData :=
    if reason == .awaitReport && ownerProbedQueueNativeCompletion ctx then
      { suspended with nativeProbeReportOnly := some true }
    else suspended
  if textCarryingHolds.contains reason then
    { probed with
      textEventId := some evidence.eventId
      summaryTopic := (summaryOf evidence).map (·.topic)
      summaryWriter := (summaryOf evidence).map (·.writer)
      summarySeq := (summaryOf evidence).map (·.seq) }
  else probed

def templateHold (template : HoldTemplate) (ctx : GuardCtx) (attempt : TurnAttempt)
    (reason : HoldReason) : TurnHold where
  holdId := holdId attempt.attemptId reason
  attemptId := attempt.attemptId
  generation := if template.generationAgnostic then none else some attempt.generation
  reason := reason
  untilMs := resolveUntil template.untilExpr ctx attempt
  onExpire := template.onExpire
  data := holdTemplateData ctx template.reason reason
  createdAt := ctx.nowMs

def applyHold (template : HoldTemplate) (ctx : GuardCtx) (draft : Draft) : Draft :=
  draft.onAttempt fun attempt =>
    if template.meshOnly && !isMeshScope attempt then draft
    else
      match holdTemplateReason ctx template.reason with
      | none => draft
      | some reason => addHold draft (templateHold template ctx attempt reason)

def applyRelease (reasons : ReleaseExpr) (ctx : GuardCtx) (draft : Draft) : Draft :=
  match reasons with
  | .all => releaseHolds draft .all
  | .reasons reasons => releaseHolds draft (.reasons reasons)
  | .expiredHold =>
    match ctx.evidence.body with
    | .holdExpired _ reason => releaseHolds draft (.reasons [reason])
    | _ => draft

def templateOutcome (expr : OutcomeExpr) (ctx : GuardCtx) (attempt : TurnAttempt) :
    Option TurnOutcome :=
  match expr with
  | .outcome outcome => some outcome
  | .fromReport =>
    match ctx.evidence.body with
    | .workerReport body => some (reportOutcome body.outcome)
    | _ => none
  | .fromRecordedReport => attempt.data.report.map fun report => reportOutcome report.outcome
  | .fromOperator =>
    match ctx.evidence.body with
    | .operatorStatus status _ => some (operatorOutcome status)
    | _ => none

def sessionErrorReason (evidence : TurnEvidence) (reason : SessionErrorReason) : TurnReason :=
  let trusted :=
    evidence.source == .fsmEdge || evidence.source == .sessionRegistry ||
      evidence.source == .dispatch
  match trusted, reason with
  | true, .authFailed => .providerAuthFailed
  | true, .billingFailed => .providerBillingFailed
  | _, _ => .sessionError

def templateReason (expr : CommitReasonExpr) (ctx : GuardCtx) : Option TurnReason :=
  match expr, ctx.evidence.body with
  | .reason reason, _ => some reason
  | .fromCancel, .cancel reason => some (cancelTurnReason reason)
  | .fromOperator, .operatorStatus _ reason => some (operatorTurnReason reason)
  | .fromProviderFailure, .processExit _ providerFailure =>
    some (providerFailureReason (providerFailure.getD .providerError))
  | .fromProviderFailure, .turnEnd body =>
    some (providerFailureReason (body.providerFailure.getD .providerError))
  | .fromSessionError, .sessionError reason => some (sessionErrorReason ctx.evidence reason)
  | _, _ => none

/-- A template whose outcome or reason is read from another kind of evidence, or
from a report that is not there, does nothing; no row of the table does that. -/
def applyCommit (template : CommitTemplate) (ctx : GuardCtx) (draft : Draft) : Draft :=
  draft.onAttempt fun attempt =>
    match templateOutcome template.outcome ctx attempt, templateReason template.reason ctx with
    | some outcome, some reason =>
      commit ctx draft outcome template.strength reason
        (if template.recordedReportText then some (recordedReportText attempt) else none)
    | _, _ => draft

def applyReclaim (reason : ReclaimReasonExpr) (ctx : GuardCtx) (draft : Draft) : Draft :=
  match reason with
  | .reason reason => reclaim ctx draft reason
  | .fromRefusal =>
    match ctx.evidence.body with
    | .deliveryRefused _ reason => reclaim ctx draft (.dispatchRefused reason)
    | _ => draft
  | .fromExitState =>
    draft.onAttempt fun attempt => reclaim ctx draft (exitReclaimReason attempt.state)

/-- At most `maxSuspensionReminders` reminders, `suspensionReminderMs` apart. -/
def remindSuspension (ctx : GuardCtx) (draft : Draft) (attempt : TurnAttempt) : Draft :=
  match attempt.data.providerSuspension, attempt.suspension with
  | some suspension, some modal =>
    let last := ((suspension.lastReminderAt.or suspension.atMs).or attempt.lastActivityAt).getD 0
    let reminders := suspension.reminders.getD 0
    if maxSuspensionReminders ≤ reminders || ctx.nowMs - last < suspensionReminderMs then
      draft.emit (.record .suspensionReminderNotDue)
    else
      notify { draft with
        attempt := some { attempt with
          data := { attempt.data with
            providerSuspension := some { suspension with
              reminders := some (reminders + 1), lastReminderAt := some ctx.nowMs } } } }
        (modalNotice modal)
  | _, _ => draft

def noticeKind (expr : NotifyExpr) (ctx : GuardCtx) (attempt : TurnAttempt) : NotifyKind :=
  match expr with
  | .notify kind => kind
  | .fromModal =>
    match ctx.evidence.body with
    | .suspension body => modalNotice body.modal
    | _ => .approval
  | .fromSuspension => modalNotice (attempt.suspension.getD .approval)

def sendNotice (template : NotifyTemplate) (ctx : GuardCtx) (draft : Draft) : Draft :=
  draft.onAttempt fun attempt =>
    notify draft (noticeKind template.kind ctx attempt) {
      generation := if template.evidenceGeneration then ctx.effectiveGeneration else none
      summary := summaryOf ctx.evidence }

/-- A stall pages the coordinator once per attempt, past the wake threshold and
never while the provider still shows a busy status. -/
def noticeStall (template : NotifyTemplate) (ctx : GuardCtx) (draft : Draft)
    (attempt : TurnAttempt) : Draft :=
  if attempt.lastNoProgressNoticeAt.isSome then draft.emit (.record .stallNoticeAlreadySent)
  else
    match ctx.evidence.body with
    | .noProgress body =>
      if body.stalledMs < ctx.policy.stallWakeMs ||
          stallBusyStatuses.contains body.observedStatus then
        draft.emit (.record .stallQuiet)
      else sendNotice template ctx (stampNoProgressNotice ctx draft)
    | _ => draft

def applyNotify (template : NotifyTemplate) (ctx : GuardCtx) (draft : Draft) : Draft :=
  draft.onAttempt fun attempt =>
    match template.due with
    | none => sendNotice template ctx draft
    | some .candidateOnce =>
      if attempt.candidateNotifiedGeneration == some attempt.generation then draft
      else
        sendNotice template ctx (draft.update fun attempt =>
          { attempt with candidateNotifiedGeneration := some attempt.generation })
    | some .suspensionReminderDue => remindSuspension ctx draft attempt
    | some .noProgressDue => noticeStall template ctx draft attempt

def adoptingTerminal (ctx : GuardCtx) (prev : PrevGeneration) : WriterStopTerminal where
  outcome := (adoptedTerminal ctx.evidence).outcome
  strength := (adoptedTerminal ctx.evidence).strength
  adoptSessionId := some prev.sessionId
  source := some ctx.evidence.source
  summary := summaryOf ctx.evidence
  textEventId := some ctx.evidence.eventId

/-- The current generation has not started: bind the attempt to the previous
session, whose completed work is committed. A current session that differs is
stopped first. -/
def adoptPrevGeneration (ctx : GuardCtx) (draft : Draft) : Draft :=
  draft.onAttempt fun attempt =>
    match attempt.prevGeneration with
    | none => draft
    | some prev =>
      let adopted := adoptedTerminal ctx.evidence
      if !sessionIdsEquivalent attempt.sessionId prev.sessionId then
        setStopTerminal (beginWriterStop ctx draft adopted.reason) (adoptingTerminal ctx prev)
      else
        let bound := draft.update fun attempt =>
          { attempt with
            sessionId := prev.sessionId
            consumedAt := attempt.consumedAt.or (some ctx.evidence.atMs) }
        commit ctx bound adopted.outcome adopted.strength adopted.reason

def cancelReasonOf (evidence : TurnEvidence) : Option CancelReason :=
  match evidence.body with
  | .cancel reason => some reason
  | _ => none

/-- A mesh cancel sends no stop of its own: the commit that follows records the
stop and owns its executor. -/
def applyCancelDispatch (target : CancelTarget) (notIntentionalCleanup : Bool) (ctx : GuardCtx)
    (draft : Draft) : Draft :=
  draft.onAttempt fun attempt =>
    let cancelReason := cancelReasonOf ctx.evidence
    if cancelReason.isSome && isMeshScope attempt then draft
    else if notIntentionalCleanup && cancelReason == some .intentionalCleanup then draft
    else
      match target with
      | .evidenceSession =>
        draft.emit (.cancelDispatch {
          attemptId := attempt.attemptId
          generation := ctx.effectiveGeneration.getD attempt.generation
          sessionId := ctx.evidence.sessionId })
      | .current =>
        draft.emit (.cancelDispatch {
          attemptId := attempt.attemptId
          generation := attempt.generation
          sessionId := attempt.sessionId })

def applyTemplate (ctx : GuardCtx) (draft : Draft) (template : EffectTemplate) : Draft :=
  if draft.committed then draft
  else
    match template with
    | .act action => actions action ctx draft
    | .hold template => applyHold template ctx draft
    | .release reasons => applyRelease reasons ctx draft
    | .commit template => applyCommit template ctx draft
    | .reclaim reason => applyReclaim reason ctx draft
    | .notify template => applyNotify template ctx draft
    | .adoptPrevGeneration => adoptPrevGeneration ctx draft
    | .bus phase =>
      draft.onAttempt fun attempt =>
        draft.emit (.bus {
          phase := phase, sessionId := attempt.sessionId
          attemptId := attempt.attemptId, generation := attempt.generation })
    | .record note => draft.emit (.record (resolveNote note ctx draft))
    | .cancelDispatch target notIntentionalCleanup =>
      applyCancelDispatch target notIntentionalCleanup ctx draft
    | .redeliver =>
      draft.onAttempt fun attempt =>
        draft.emit (.redeliver attempt.attemptId attempt.generation attempt.messageId
          attempt.sessionId)
    | .probe =>
      draft.onAttempt fun attempt => draft.emit (.probe attempt.attemptId attempt.sessionId)
    | .reevaluate =>
      draft.onAttempt fun attempt =>
        draft.emit (.reevaluate attempt.attemptId
          (((expiredHold ctx).bind (·.data.evidenceId)).getD "") true)

/-! ## Stopping -/

def reportHeldDuringStop (attempt : TurnAttempt) (stop : WriterStop) : Option RecordedReport :=
  attempt.data.report.filter fun report =>
    report.generation == attempt.generation && stop.requestedAt ≤ report.atMs

/-- A pending outcome that a report held during the stop does not replace. -/
def stopTerminalStands (stop : WriterStop) : Bool :=
  stop.terminal.any fun terminal =>
    truthy terminal.adoptSessionId || terminal.source != some .scheduler

def adoptReportHeldDuringStop (attempt : TurnAttempt) (stop : WriterStop) : WriterStop :=
  match reportHeldDuringStop attempt stop with
  | none => stop
  | some report =>
    if stopTerminalStands stop then stop
    else
      { stop with
        reason := .workerReported
        terminal := some {
          outcome := reportOutcome report.outcome, strength := .toolReport
          source := some .workerTool, summary := report.summary
          textEventId := some report.eventId } }

def ceilingTerminal : WriterStopTerminal where
  outcome := .failed
  strength := .genuine
  source := some .scheduler

def ceilingReached (input : ReduceInput) (attempt : TurnAttempt) : Bool :=
  attempt.acceptedAt + input.policy.hardCeilingMs ≤ input.nowMs

def stopAfterEvidence (input : ReduceInput) (attempt : TurnAttempt) (stop : WriterStop) :
    WriterStop :=
  let capped :=
    if ceilingReached input attempt then
      { stop with reason := .hardCeiling, terminal := some ceilingTerminal }
    else stop
  match cancelReasonOf input.evidence with
  | some reason =>
    { capped with
      reason := cancelTurnReason reason
      terminal := some {
        outcome := .cancelled, strength := .genuine, source := some input.evidence.source } }
  | none => capped

def withStop (attempt : TurnAttempt) (stop : WriterStop) : TurnAttempt :=
  { attempt with data := { attempt.data with writerStop := some stop } }

/-- The writer node cannot confirm quiescence: stop waiting. A terminal the
writer itself produced stands, a pending failure becomes `writer_unreachable`. -/
def settleUnreachableWriter (ctx : GuardCtx) (draft : Draft) (attempt : TurnAttempt)
    (stop : WriterStop) (settledBy : WriterUnreachable) : Draft :=
  let settled := { stop with confirmed := true, settledBy := some settledBy }
  match settled.terminal.filter (·.outcome != .failed) with
  | some terminal =>
    commit ctx { draft with attempt := some (withStop attempt settled) }
      terminal.outcome terminal.strength settled.reason (some terminal.text)
  | none =>
    let failed := { settled with terminal := some ceilingTerminal }
    commit ctx { draft with attempt := some (withStop attempt failed) }
      .failed .genuine .writerUnreachable (some ceilingTerminal.text)

def adoptStopSession (attempt : TurnAttempt) (stop : WriterStop)
    (terminal : WriterStopTerminal) : TurnAttempt :=
  match terminal.adoptSessionId.filter (· != "") with
  | some sessionId =>
    { attempt with
      sessionId := sessionId
      consumedAt := attempt.consumedAt.or (some stop.requestedAt) }
  | none => attempt

def settleConfirmedStop (ctx : GuardCtx) (draft : Draft) (attempt : TurnAttempt)
    (stop : WriterStop) : Draft :=
  match stop.terminal with
  | some terminal =>
    let bound := adoptStopSession (withStop attempt stop) stop terminal
    commit ctx { draft with attempt := some bound } terminal.outcome terminal.strength
      stop.reason (some terminal.text)
  | none =>
    let draft := { draft with attempt := some (withStop attempt stop) }
    if stop.reason == .hardCeiling then commit ctx draft .failed .genuine stop.reason
    else reclaim ctx draft stop.reason

def retryWriterStop (ctx : GuardCtx) (draft : Draft) (attempt : TurnAttempt)
    (stop : WriterStop) : Draft :=
  let draft := releaseHolds draft (.reasons [.liveness])
  if stop.tries < writerStopMaxTries then
    requestWriterStop ctx { draft with
      attempt := some (withStop attempt { stop with tries := stop.tries + 1 }) }
  else if !stop.escalated then
    (notify { draft with attempt := some (withStop attempt { stop with escalated := true }) }
      .noProgress).emit (.record .writerStopUnconfirmedCheckpointPending)
  else draft

def stopRetryDue (ctx : GuardCtx) : Bool :=
  holdIs ctx [.liveness] && (expiredHold ctx).any fun hold => hold.untilMs.any (· ≤ ctx.nowMs)

def unreachableSettlement (input : ReduceInput) : Option WriterUnreachable :=
  if input.stopConfirmed || input.evidence.kind == .cancel then none
  else input.writerUnreachable

def stoppingBase (input : ReduceInput) (attempt : TurnAttempt) (stop : WriterStop) : Draft :=
  let draft : Draft := {
    attempt := some (withStop attempt (stopAfterEvidence input attempt stop))
    holds := KeyedMap.ofList TurnHold.holdId input.holds
    effects := []
    committed := false }
  if ceilingReached input attempt then releaseHolds draft (.reasons [.hardCeiling]) else draft

def stoppingDraft (input : ReduceInput) (attempt : TurnAttempt) (stop : WriterStop) : Draft :=
  let ctx := input.guardCtx (some attempt.generation)
  let draft := stoppingBase input attempt stop
  let stop := stopAfterEvidence input attempt stop
  match unreachableSettlement input with
  | some settledBy =>
    settleUnreachableWriter ctx draft attempt (adoptReportHeldDuringStop attempt stop) settledBy
  | none =>
    if input.stopConfirmed then
      settleConfirmedStop ctx draft attempt
        (adoptReportHeldDuringStop attempt { stop with confirmed := true })
    else if stopRetryDue ctx then retryWriterStop ctx draft attempt stop
    else
      match input.evidence.body with
      | .workerReport _ => recordReport ctx draft
      | _ => draft.emit (.record .writerStopCheckpointPending)

/-- Stopping is exclusive: ordinary lifecycle proposals only leave a record. -/
def reduceStopping (input : ReduceInput) (attempt : TurnAttempt) (stop : WriterStop) :
    ReduceResult :=
  let draft := stoppingDraft input attempt stop
  let confirmed := draft.attempt.any fun attempt => attempt.data.writerStop.any (·.confirmed)
  { attempt := draft.attempt
    holds := draft.holds.entries
    effects := draft.effects
    verdict := .applied
    rule := some (
      if input.stopConfirmed then .writerSettled
      else if input.writerUnreachable.isSome && confirmed then .writerUnreachableSettled
      else .table .WR) }

/-! ## Reduce -/

def rejected (input : ReduceInput) (rejection : ReduceRejection) : ReduceResult where
  attempt := input.attempt
  holds := input.holds
  effects := [.record (.rejection rejection)]
  verdict := .rejected
  rejection := some rejection

def initialDraft (input : ReduceInput) : Draft where
  attempt := input.attempt
  holds := KeyedMap.ofList TurnHold.holdId input.holds
  effects := []
  committed := false

def applyEffects (ctx : GuardCtx) (templates : List EffectTemplate) (draft : Draft) : Draft :=
  templates.foldl (applyTemplate ctx) draft

def settleTarget (input : ReduceInput) (rule : TransitionRule) (draft : Draft) : Draft :=
  match rule.verdict, rule.target with
  | .applied, .state target =>
    if draft.committed then draft
    else
      draft.update fun attempt =>
        if attempt.state == (input.attempt.map (·.state)).getD attempt.state then
          { attempt with state := target }
        else attempt
  | _, _ => draft

def ruleDraft (input : ReduceInput) (effectiveGeneration : Option Int) (rule : TransitionRule) :
    Draft :=
  settleTarget input rule
    (applyEffects (input.guardCtx effectiveGeneration) rule.effects (initialDraft input))

def applyRule (input : ReduceInput) (effectiveGeneration : Option Int) (rule : TransitionRule) :
    ReduceResult :=
  let draft := ruleDraft input effectiveGeneration rule
  { attempt := draft.attempt
    holds := draft.holds.entries
    effects := draft.effects
    verdict := rule.verdict
    rule := some (.table rule.id) }

def stoppingStop (input : ReduceInput) (lane : RuleLane) : Option (TurnAttempt × WriterStop) :=
  match input.attempt, lane with
  | some attempt, .current =>
    if attempt.state == .stopping then attempt.data.writerStop.map (attempt, ·) else none
  | _, _ => none

def reduce (input : ReduceInput) : ReduceResult :=
  match classifyLane input.attempt input.evidence input.holds with
  | .error rejection => rejected input rejection
  | .ok lane =>
    match stoppingStop input lane.lane with
    | some (attempt, stop) => reduceStopping input attempt stop
    | none =>
      match (matchingRules input).head? with
      | none =>
        rejected input
          (if input.attempt.any (·.state.isTerminal) then .alreadyTerminal
          else .illegalTransition)
      | some rule => applyRule input lane.effectiveGeneration rule

/-! ## Hold expiry -/

structure ExpireHoldsContext where
  observedBy : String
  sessionIdFor : String → String

/-- `${value}` of an integer. -/
def numberText (value : Int) : String := toString value

def holdExpiredEvidence (ctx : ExpireHoldsContext) (nowMs : Int) (hold : TurnHold)
    (untilMs : Int) : TurnEvidence where
  eventId := "hold_expired:" ++ hold.holdId ++ ":" ++ numberText untilMs
  atMs := nowMs
  source := .scheduler
  sessionId := ctx.sessionIdFor hold.attemptId
  attemptRef := hold.generation.map fun generation => ⟨hold.attemptId, generation⟩
  observedBy := ctx.observedBy
  body := .holdExpired hold.holdId hold.reason

end Adhdev.TurnLedger
