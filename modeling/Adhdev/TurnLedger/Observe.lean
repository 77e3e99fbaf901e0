import Adhdev.Foundation.Machine
import Adhdev.MeshShared.DaemonIds
import Adhdev.TurnLedger.Store

/-! # Observing evidence

`observe` of `turn-ledger/ledger.ts`: resolve the attempt an evidence is about,
forward it when another daemon owns that attempt, otherwise reduce it and persist
the step in one transaction. A transaction that throws leaves the tables as they
were. A held evidence that an expired hold releases is observed next, as one more
call. -/

namespace Adhdev.TurnLedger

open MeshShared

/-! ## Inputs and answers -/

structure EvidenceOwner where
  daemonId : String
  meshId : String

structure EvidenceSrc where
  writer : String
  seq : Int

/-- `ObserveOptions`; of the local envelope and the stop receipt only their
presence is kept. -/
structure ObserveOptions where
  owner : Option EvidenceOwner := none
  src : Option EvidenceSrc := none
  hasEnvelope : Bool := false
  hasWriterStopReceipt : Bool := false

/-- One call: the evidence, its options, the clock, the capabilities the caller
holds for this event id, whether the session still shows background work, and
whether a host effect of the transaction throws. -/
structure ObserveInput where
  evidence : TurnEvidence
  options : ObserveOptions := {}
  nowMs : Int
  stopConfirmed : Bool := false
  writerUnreachable : Option WriterUnreachable := none
  backgroundWork : Bool := false
  hostThrows : Bool := false

inductive ObserveVerdict
  | applied | recorded | rejected | duplicate | forwarded
  deriving DecidableEq

inductive ObserveRejection
  | invalidEvidence
  | noAttempt
  | reduce (rejection : ReduceRejection)

structure ObserveResult where
  verdict : ObserveVerdict
  rule : Option ResultRule := none
  rejection : Option ObserveRejection := none
  attempt : Option TurnAttempt := none
  effects : List TurnEffect := []

/-- Why a transaction was rolled back. -/
inductive TxnFailure
  | duplicateEvidence
  | index (violation : IndexViolation)
  | secondCommit
  | host

/-- The answer, or the error that `observe` throws. -/
structure Observed where
  answer : Except TxnFailure ObserveResult
  tables : TurnTables

/-! ## Resolving -/

/-- `holdAttemptId`: the text before the last colon, unless that is empty. -/
def holdAttemptId (holdId : String) : String :=
  match (holdId.toList.reverse.dropWhile (· != ':')).tail.reverse with
  | [] => holdId
  | chars => String.ofList chars

def scopeName : TurnScope → String
  | .meshQueue => "mesh_queue"
  | .meshDirect => "mesh_direct"
  | .plain => "plain"

def resolveAttempt (tables : TurnTables) (evidence : TurnEvidence) : Option TurnAttempt :=
  match evidence.attemptRef, evidence.body, evidence.taskId.filter (· != "") with
  | some ref, _, _ => tables.getAttempt ref.attemptId
  | none, .dispatchAccepted body, _ =>
    tables.getAttempt (scopeName body.scope ++ ":" ++ evidence.eventId)
  | none, .holdExpired holdId _, _ => tables.getAttempt (holdAttemptId holdId)
  | none, _, some taskId => tables.findLatestAttemptForTask taskId
  | none, _, none => tables.findOpenAttemptForSession evidence.sessionId

/-! ## Rows -/

structure LedgerResult where
  attempt : Option TurnAttempt
  holds : List TurnHold
  effects : List TurnEffect
  notes : List RowNote
  verdict : ReduceVerdict
  rule : Option ResultRule
  rejection : Option ReduceRejection

def recordNotes (effects : List TurnEffect) : List RowNote :=
  effects.filterMap fun effect =>
    match effect with
    | .record note => some (.note note)
    | _ => none

def eventVerdict : ReduceVerdict → EventVerdict
  | .applied => .applied
  | .recorded => .recorded
  | .rejected => .rejected

def evidenceRow (evidence : TurnEvidence) (options : ObserveOptions) (nowMs : Int)
    (before : Option TurnAttempt) (result : LedgerResult) : EventRow :=
  let attempt := result.attempt.or before
  { eventId := evidence.eventId
    meshId := (attempt.bind (·.meshId)).or (options.owner.map (·.meshId))
    attemptId := (attempt.map (·.attemptId)).or (evidence.attemptRef.map (·.attemptId))
    generation := (attempt.map (·.generation)).or (evidence.attemptRef.map (·.generation))
    sessionId := evidence.sessionId
    kind := .evidence evidence.kind
    source := evidence.source
    verdict := eventVerdict result.verdict
    rule := result.rule
    rejection := result.rejection
    dedupeKey := evidence.eventId
    fromState := before.map (·.state)
    toState := result.attempt.map (·.state)
    payload := {
      evidence := some evidence, notes := result.notes
      otherKeys := options.hasEnvelope || options.hasWriterStopReceipt }
    observedBy := some evidence.observedBy
    srcWriter := options.src.map (·.writer)
    srcSeq := options.src.map (·.seq)
    publishState := .none
    atMs := evidence.atMs
    recordedAt := nowMs }

def forwardRow (evidence : TurnEvidence) (options : ObserveOptions) (nowMs : Int)
    (verdict : EventVerdict) (notes : List RowNote) (publishMesh : Option String) : EventRow where
  eventId := evidence.eventId
  meshId := publishMesh.or (options.owner.map (·.meshId))
  attemptId := evidence.attemptRef.map (·.attemptId)
  generation := evidence.attemptRef.map (·.generation)
  sessionId := evidence.sessionId
  kind := .evidence evidence.kind
  source := evidence.source
  verdict := verdict
  rejection := if verdict == .rejected then some .noAttempt else none
  dedupeKey := evidence.eventId
  payload := {
    evidence := some evidence, notes := notes
    otherKeys := options.hasEnvelope || options.hasWriterStopReceipt || publishMesh.isSome }
  observedBy := some evidence.observedBy
  srcWriter := options.src.map (·.writer)
  srcSeq := options.src.map (·.seq)
  publishState := if publishMesh.isSome then .pending else .none
  atMs := evidence.atMs
  recordedAt := nowMs

def isPublishableAttempt (attempt : TurnAttempt) : Bool :=
  attempt.scope != .plain && truthy attempt.meshId

def notifyName : NotifyKind → String
  | .completed => "completed"
  | .blocked => "blocked"
  | .failed => "failed"
  | .cancelled => "cancelled"
  | .stopped => "stopped"
  | .approval => "approval"
  | .choice => "choice"
  | .approvalResolved => "approval_resolved"
  | .candidate => "candidate"
  | .noProgress => "no_progress"
  | .progress => "progress"
  | .lateCompletion => "late_completion"
  | .meshEvent => "mesh_event"

def derivedRow (evidence : TurnEvidence) (attempt : TurnAttempt) (nowMs : Int)
    (suffix : String) (kind : EventKind) (generation : Int) (sessionId dedupeKey : String)
    (publishState : PublishState) : EventRow where
  eventId := evidence.eventId ++ suffix
  meshId := attempt.meshId
  attemptId := some attempt.attemptId
  generation := some generation
  sessionId := sessionId
  kind := kind
  source := evidence.source
  verdict := .applied
  dedupeKey := dedupeKey
  payload := { evidence := none, otherKeys := true }
  observedBy := some evidence.observedBy
  publishState := publishState
  atMs := evidence.atMs
  recordedAt := nowMs

/-- One terminal notice per generation; repeatable notices are keyed by their
cause. -/
def notifyDedupe (evidence : TurnEvidence) (kind : NotifyKind) : String :=
  if terminalNotifyKinds.contains kind then notifyName kind
  else notifyName kind ++ ":" ++ evidence.eventId

def effectEventRow (evidence : TurnEvidence) (attempt : TurnAttempt) (nowMs : Int)
    (effect : TurnEffect) : Option EventRow :=
  let derived := derivedRow evidence attempt nowMs
  match effect with
  | .commit effect =>
    some { derived "#committed" .committed effect.generation attempt.sessionId ""
        (if isPublishableAttempt attempt then .pending else .none) with
      toState := some (outcomeState effect.outcome) }
  | .notifyCoordinator effect =>
    if isPublishableAttempt attempt then
      some (derived ("#notify:" ++ notifyName effect.notify) .notify effect.generation
        attempt.sessionId (notifyDedupe evidence effect.notify) .pending)
    else none
  | .reclaim _ fromGeneration toGeneration _ =>
    some (derived "#reclaim" .reclaim toGeneration attempt.sessionId
      (numberText fromGeneration ++ "->" ++ numberText toGeneration) .none)
  | .cancelDispatch effect =>
    some (derived ("#cancel:" ++ numberText effect.generation ++ ":" ++ effect.sessionId)
      .cancelDispatch effect.generation effect.sessionId
      (effect.sessionId ++ ":" ++ evidence.eventId) .none)
  | .redeliver _ generation _ sessionId =>
    some (derived "#redeliver" .redeliver generation sessionId evidence.eventId .none)
  | _ => none

def effectEventRows (evidence : TurnEvidence) (attempt : TurnAttempt) (nowMs : Int)
    (effects : List TurnEffect) : List EventRow :=
  effects.filterMap (effectEventRow evidence attempt nowMs)

/-! ## One step -/

def gatesBackgroundWork (attempt : TurnAttempt) (evidence : TurnEvidence) : Bool :=
  attempt.scope != .plain &&
    match evidence.body with
    | .turnEnd body => !body.providerFailure.isSome && body.nativeOutcome != some .failed
    | .transcriptFinal body => !(body.nativeMarker.any (·.outcome == .failed))
    | _ => false

def withoutEnd (attempt : TurnAttempt) (evidence : TurnEvidence) : TurnEvidence :=
  if attempt.state == .finalizing then
    { evidence with
      atMs := max evidence.atMs (attempt.weakSince.getD 0 + 1)
      taskId := evidence.taskId.filter (· != "")
      body := .turnStarted true }
  else
    { evidence with
      taskId := evidence.taskId.filter (· != "")
      body := .liveness .alive (some evidence.atMs) }

def heldByBackgroundWork (attempt : Option TurnAttempt) (input : ObserveInput) : Bool :=
  input.backgroundWork && attempt.any (gatesBackgroundWork · input.evidence)

def gatedEvidence (attempt : Option TurnAttempt) (input : ObserveInput) : TurnEvidence :=
  match attempt with
  | some attempt =>
    if heldByBackgroundWork (some attempt) input then withoutEnd attempt input.evidence
    else input.evidence
  | none => input.evidence

def TurnTables.holdsOf (tables : TurnTables) (attempt : Option TurnAttempt) : List TurnHold :=
  match attempt with
  | some attempt => tables.activeHolds attempt.attemptId
  | none => []

def probeEffects (attempt : Option TurnAttempt) (input : ObserveInput) : List TurnEffect :=
  match attempt with
  | some attempt =>
    if heldByBackgroundWork (some attempt) input then
      [.probe attempt.attemptId attempt.sessionId]
    else []
  | none => []

def ownOpened (selfDaemonId : String) (before : Option TurnAttempt) (result : ReduceResult) :
    Option TurnAttempt :=
  if before.isNone && result.verdict == .applied then
    result.attempt.map fun attempt => { attempt with ownerDaemonId := selfDaemonId }
  else result.attempt

section Ledger

variable (selfDaemonId : String) (policy : TurnPolicy)

def stepInput (tables : TurnTables) (attempt : Option TurnAttempt) (input : ObserveInput) :
    ReduceInput where
  stopConfirmed := input.stopConfirmed
  writerUnreachable := input.writerUnreachable
  attempt := attempt
  holds := tables.holdsOf attempt
  evidence := gatedEvidence attempt input
  policy := policy
  nowMs := input.nowMs

def reduceStep (tables : TurnTables) (attempt : Option TurnAttempt) (input : ObserveInput) :
    LedgerResult :=
  let result := reduce (stepInput policy tables attempt input)
  let effects := result.effects ++ probeEffects attempt input
  { attempt := ownOpened selfDaemonId attempt result
    holds := result.holds
    effects := effects
    notes := recordNotes effects
    verdict := result.verdict
    rule := result.rule
    rejection := result.rejection }

def landsOn (before : Option TurnAttempt) (result : LedgerResult) : Option TurnAttempt :=
  result.attempt.filter fun attempt =>
    result.verdict == .applied &&
      match before with
      | none => true
      | some before => attempt.terminal.isNone && attempt.sessionId != before.sessionId

def conflicting (tables : TurnTables) (landing : Option TurnAttempt) : Option TurnAttempt :=
  landing.bind fun attempt =>
    (tables.findOpenAttemptForSession attempt.sessionId).filter (·.attemptId != attempt.attemptId)

def conflictRejection : LedgerResult where
  attempt := none
  holds := []
  effects := []
  notes := [.openAttemptConflict]
  verdict := .rejected
  rule := none
  rejection := some .illegalTransition

def insertDerived (tables : TurnTables) : List EventRow → Except TxnFailure TurnTables
  | [] => .ok tables
  | row :: rows =>
    match tables.insertEvent row with
    | some inserted => insertDerived inserted rows
    | none => if row.kind == .committed then .error .secondCommit else insertDerived tables rows

def TurnEffect.isHostEffect : TurnEffect → Bool
  | .queueStatus _ _ .pending _ | .taskTerminal .. => true
  | _ => false

def persistAttempt (tables : TurnTables) (result : LedgerResult) (nowMs : Int) :
    Except TxnFailure TurnTables :=
  match result.verdict, result.attempt with
  | .applied, some next =>
    match tables.upsertAttempt next nowMs with
    | .error violation => .error (.index violation)
    | .ok upserted => .ok (upserted.syncHolds next.attemptId result.holds nowMs)
  | _, _ => .ok tables

def persistStep (tables : TurnTables) (evidence : TurnEvidence) (options : ObserveOptions)
    (nowMs : Int) (hostThrows : Bool) (before : Option TurnAttempt) (result : LedgerResult) :
    Except TxnFailure TurnTables :=
  match persistAttempt tables result nowMs with
  | .error failure => .error failure
  | .ok persisted =>
    match persisted.recordEvidence (evidenceRow evidence options nowMs before result) with
    | none => .error .duplicateEvidence
    | some recorded =>
      match result.attempt.or before with
      | none => .ok recorded
      | some subject =>
        if result.verdict == .rejected then .ok recorded
        else
          match insertDerived recorded (effectEventRows evidence subject nowMs result.effects) with
          | .error failure => .error failure
          | .ok derived =>
            if hostThrows && result.verdict == .applied && result.attempt.isSome &&
                result.effects.any TurnEffect.isHostEffect then .error .host
            else .ok derived

/-- The evidence that closes the plain attempt of a session which receives a new
dispatch. -/
def supersedeInput (input : ObserveInput) (attempt : TurnAttempt) : ObserveInput where
  evidence := {
    eventId := input.evidence.eventId ++ "#supersede:" ++ attempt.attemptId
    atMs := input.evidence.atMs
    source := .dispatch
    sessionId := attempt.sessionId
    attemptRef := some ⟨attempt.attemptId, attempt.generation⟩
    observedBy := input.evidence.observedBy
    body := .cancel .superseded }
  nowMs := input.nowMs
  hostThrows := input.hostThrows

def supersede (tables : TurnTables) (input : ObserveInput) (attempt : TurnAttempt) :
    Except TxnFailure TurnTables :=
  let nested := supersedeInput input attempt
  let result := reduceStep selfDaemonId policy tables (some attempt) nested
  let kept := { result with
    effects := result.effects.filter fun effect =>
      match effect with
      | .cancelDispatch _ => false
      | _ => true }
  persistStep tables nested.evidence {} input.nowMs input.hostThrows (some attempt) kept

/-- At most one open attempt per session: a plain attempt yields to the landing
one, a mesh attempt refuses it. -/
def applyStep (tables : TurnTables) (attempt : Option TurnAttempt) (input : ObserveInput) :
    Except TxnFailure (TurnTables × LedgerResult) :=
  let evidence := gatedEvidence attempt input
  let persist := fun (tables : TurnTables) (result : LedgerResult) =>
    (persistStep tables evidence input.options input.nowMs input.hostThrows attempt result).map
      fun persisted => (persisted, result)
  let result := reduceStep selfDaemonId policy tables attempt input
  match conflicting tables (landsOn attempt result) with
  | none => persist tables result
  | some other =>
    if other.scope == .plain then
      match supersede selfDaemonId policy tables input other with
      | .error failure => .error failure
      | .ok superseded => persist superseded result
    else persist tables conflictRejection

/-! ## Observe -/

def observeVerdict : ReduceVerdict → ObserveVerdict
  | .applied => .applied
  | .recorded => .recorded
  | .rejected => .rejected

def observeResult (result : LedgerResult) : ObserveResult where
  verdict := observeVerdict result.verdict
  rule := result.rule
  rejection := result.rejection.map .reduce
  attempt := result.attempt
  effects := result.effects

/-- `INSERT OR IGNORE` whose outcome is not looked at. -/
def TurnTables.insertEventOrIgnore (tables : TurnTables) (row : EventRow) : TurnTables :=
  (tables.insertEvent row).getD tables

def forward (tables : TurnTables) (owner : EvidenceOwner) (input : ObserveInput) : Observed :=
  match input.evidence.attemptRef with
  | none =>
    { answer := .ok { verdict := .rejected, rejection := some .noAttempt }
      tables := tables.insertEventOrIgnore (forwardRow input.evidence input.options input.nowMs
        .rejected [.forwardWithoutAttemptRef] none) }
  | some _ =>
    { answer := .ok { verdict := .forwarded }
      tables := tables.insertEventOrIgnore (forwardRow input.evidence input.options input.nowMs
        .forwarded [] (some owner.meshId)) }

def foreignOwner (attempt : Option TurnAttempt) (options : ObserveOptions) : Option EvidenceOwner :=
  let daemonId :=
    match attempt with
    | some attempt => some attempt.ownerDaemonId
    | none => options.owner.map EvidenceOwner.daemonId
  let meshId := (attempt.bind (·.meshId)).or (options.owner.map (·.meshId))
  match daemonId.filter (· != ""), meshId.filter (· != "") with
  | some daemonId, some meshId =>
    if daemonIdsEquivalent daemonId selfDaemonId then none else some ⟨daemonId, meshId⟩
  | _, _ => none

def duplicateAnswer : ObserveResult where
  verdict := .duplicate

def observe (tables : TurnTables) (input : ObserveInput) : Observed :=
  if !isTurnEvidence input.evidence then
    ⟨.ok { verdict := .rejected, rejection := some .invalidEvidence }, tables⟩
  else if tables.hasEvent input.evidence.eventId then ⟨.ok duplicateAnswer, tables⟩
  else
    let attempt := resolveAttempt tables input.evidence
    match foreignOwner selfDaemonId attempt input.options with
    | some owner => forward tables owner input
    | none =>
      match applyStep selfDaemonId policy tables attempt input with
      | .ok (persisted, result) => ⟨.ok (observeResult result), persisted⟩
      | .error .duplicateEvidence => ⟨.ok duplicateAnswer, tables⟩
      | .error failure => ⟨.error failure, tables⟩

def turnLedger : Machine TurnTables ObserveInput Observed where
  initial := TurnTables.empty
  respond := observe selfDaemonId policy
  advance observed := observed.tables

end Ledger

end Adhdev.TurnLedger
