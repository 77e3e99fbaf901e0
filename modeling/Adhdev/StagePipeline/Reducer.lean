import Adhdev.MeshShared.TaskStages

/-! # The stage reducer

`daemon-core/src/mesh/stage-pipeline.ts` with the stage state of
`mesh-shared/src/task-stages.ts`. Times are epoch milliseconds. An optional counter
or list of the source that is absent reads as `0` or `[]` wherever it is used, and
is that here.
-/

namespace Adhdev.StagePipeline

open MeshShared

inductive SelfCheckStatus
  | passed | failed | skippedNotConfigured | skippedInfraError | unavailable

/-- A finding as the state keeps it: `slim` of the source. -/
structure OpenFinding where
  id : String
  severity : MeshFindingSeverity
  claim : String

structure MeshStageHead where
  round : Nat
  rootSha : String

structure StageArtifacts where
  diff : List String
  selfCheck : List String
  verdict : List String

structure MeshTaskStageState where
  phase : MeshStagePhase
  round : Nat
  selfCheckBounces : Nat
  startedAt : Int
  phaseSince : Int
  baseSha : String
  stageHeads : List MeshStageHead
  reviewTaskIds : List String
  lastVerdict : Option MeshReviewVerdict := none
  openFindingIds : List String
  artifacts : StageArtifacts
  reviewerSessionId : Option String := none
  independenceUsed : Option MeshStageIndependenceUsed := none
  handledAttemptIds : List String := []
  reviewerFailures : Nat := 0
  extraRevisions : Nat := 0
  blockedReason : Option MeshStageBlockedReason := none
  blockedDetail : Option String := none
  openFindings : List OpenFinding := []
  openNits : List OpenFinding := []
  selfCheck : Option SelfCheckStatus := none
  findingsFixed : Nat := 0
  originalMessage : Option String := none
  workerArtifactIds : List String := []
  reviewFingerprint : Option String := none
  reviewFingerprintUnavailable : Bool := false
  released : Bool := false

def initialStageState (now : Int) : MeshTaskStageState := {
  phase := .implementing, round := 0, selfCheckBounces := 0, startedAt := now, phaseSince := now
  baseSha := "", stageHeads := [], reviewTaskIds := [], openFindingIds := []
  artifacts := { diff := [], selfCheck := [], verdict := [] } }

inductive StageEvent
  | implCompleted (attemptId headSha : Option String) (hasDiff : Bool) (at_ : Int)
  | selfCheckDone (status : SelfCheckStatus) (at_ : Int)
  | reviewStarted (childTaskId : String) (reviewerSessionId : Option String) (at_ : Int)
  | reviewVerdict (childTaskId : String) (report : MeshReviewReport)
      (reviewerSessionId : Option String) (independenceUsed : Option MeshStageIndependenceUsed)
      (at_ : Int)
  | reviewerUnavailable (childTaskId : String) (at_ : Int)
  | reviewerMutatedSource (childTaskId : String) (at_ : Int)
  | reviewerIntegrityUnverifiable (childTaskId : String) (at_ : Int)
  | reviewInputFailed (detail : String) (at_ : Int)
  | ceiling (at_ : Int)
  | decideReviseOnce (at_ : Int)
  | decideRereview (at_ : Int)

inductive RevisionReason
  | selfCheck | review
  deriving DecidableEq

inductive ReleaseStatus
  | completed | blocked
  deriving DecidableEq

inductive StageEffect
  | runSelfCheck
  | createReviewChild (round : Nat) (reuseSessionId : Option String)
  | sendRevision (reason : RevisionReason) (round : Nat)
  | release (status : ReleaseStatus) (blockedReason : Option MeshStageBlockedReason)
  | cancelReviewChildren
  deriving DecidableEq

structure StageReduction where
  state : MeshTaskStageState
  effects : List StageEffect

def ifTruthy (text : Option String) : Option String := text.bind nonEmpty

/-- The characters whose code units all lie among the first `count`. -/
def takeUnits : Nat → List Char → List Char
  | _, [] => []
  | count, char :: rest =>
    let width := if char.toNat < 0x10000 then 1 else 2
    if width ≤ count then char :: takeUnits (count - width) rest else []

/-- `slice(0, count)`, without the half of a character that it may end with. -/
def firstUnits (count : Nat) (text : String) : String :=
  String.ofList (takeUnits count text.toList)

/-- `slice(-count)` -/
def lastItems {α : Type} (count : Nat) (items : List α) : List α :=
  items.drop (items.length - count)

def maxRounds (plan : MeshTaskStagePlan) (state : MeshTaskStageState) : Nat :=
  plan.maxRevisions + state.extraRevisions

def enter (state : MeshTaskStageState) (phase : MeshStagePhase) (at_ : Int) : MeshTaskStageState :=
  { state with phase, phaseSince := at_ }

def block (state : MeshTaskStageState) (reason : MeshStageBlockedReason) (at_ : Int) :
    StageReduction where
  state := enter { state with blockedReason := some reason } .done at_
  effects := [.cancelReviewChildren, .release .blocked (some reason)]

def slim (finding : MeshReviewFinding) : OpenFinding :=
  { id := finding.id, severity := finding.severity, claim := finding.claim }

def closedCount (report : MeshReviewReport) : Nat :=
  report.answers.countP fun answer => answer.status == .resolved ||
    answer.status == .disputeAccepted

def handleAttempt (state : MeshTaskStageState) : Option String → MeshTaskStageState
  | none => state
  | some attemptId => { state with
      handledAttemptIds := lastItems 16 (state.handledAttemptIds ++ [attemptId]) }

def addStageHead (state : MeshTaskStageState) : Option String → MeshTaskStageState
  | none => state
  | some rootSha => { state with
      stageHeads := state.stageHeads ++ [{ round := state.round + 1, rootSha }] }

def reduceImplCompleted (state : MeshTaskStageState) (attemptId headSha : Option String)
    (hasDiff : Bool) (at_ : Int) : Option StageReduction :=
  if state.phase != .implementing && state.phase != .revising then none
  else if (ifTruthy attemptId).any state.handledAttemptIds.contains then none
  else
    let state := handleAttempt state (ifTruthy attemptId)
    if !hasDiff && state.round == 0 then some {
      state := enter { state with selfCheck := none } .done at_
      effects := [.release .completed none] }
    else some {
      state := enter (addStageHead state (ifTruthy headSha)) .selfChecking at_
      effects := [.runSelfCheck] }

def reduceSelfCheckDone (state : MeshTaskStageState) (status : SelfCheckStatus) (at_ : Int) :
    Option StageReduction :=
  if state.phase != .selfChecking then none
  else match status with
    | .failed =>
      if state.selfCheckBounces ≥ stageSelfCheckMaxBounces then
        some (block { state with selfCheck := some .failed } .selfCheckFailed at_)
      else some {
        state := enter { state with
          selfCheckBounces := state.selfCheckBounces + 1
          selfCheck := some .failed } .revising at_
        effects := [.sendRevision .selfCheck state.round] }
    | status => some {
        state := enter { state with selfCheck := some status, round := state.round + 1 }
          .awaitingReview at_
        effects := [.createReviewChild (state.round + 1) state.reviewerSessionId] }

def reduceReviewVerdict (plan : MeshTaskStagePlan) (state : MeshTaskStageState)
    (report : MeshReviewReport) (reviewerSessionId : Option String)
    (independenceUsed : Option MeshStageIndependenceUsed) (at_ : Int) : Option StageReduction :=
  if !state.phase.isReview then none
  else
    let state := { state with
      reviewerSessionId := (ifTruthy reviewerSessionId).or state.reviewerSessionId
      independenceUsed := independenceUsed.or state.independenceUsed
      lastVerdict := some report.verdict
      reviewerFailures := 0 }
    let blocking := report.blocking
    if report.verdict == .rejectApproach then
      some (block { state with openFindings := blocking.map slim } .reviewRejectedApproach at_)
    else if report.verdict == .approve || report.verdict == .approveWithNits ||
        blocking.isEmpty then some {
      state := enter { state with
        openFindingIds := []
        openFindings := []
        openNits := (report.findings.filter (!isBlockingSeverity ·.severity)).map slim
        findingsFixed := state.findingsFixed + closedCount report } .done at_
      effects := [.release .completed none] }
    else
      let state := { state with
        findingsFixed := state.findingsFixed + closedCount report
        openFindingIds := blocking.map (·.id)
        openFindings := blocking.map slim }
      if state.round > maxRounds plan state then some (block state .reviewUnresolved at_)
      else some {
        state := enter state .revising at_
        effects := [.sendRevision .review state.round] }

def reduceReviewerUnavailable (state : MeshTaskStageState) (at_ : Int) : Option StageReduction :=
  if !state.phase.isReview then none
  else if state.reviewerFailures + 1 ≥ 2 then
    some (block { state with reviewerFailures := state.reviewerFailures + 1 }
      .reviewUnavailable at_)
  else some {
    state := enter { state with
      reviewerFailures := state.reviewerFailures + 1
      reviewerSessionId := none } .awaitingReview at_
    effects := [.createReviewChild state.round none] }

def reduceVoidReview (state : MeshTaskStageState) (reason : MeshStageBlockedReason)
    (at_ : Int) : Option StageReduction :=
  if !state.phase.isReview then none else some (block state reason at_)

def MeshTaskStageState.decidable (state : MeshTaskStageState) : Bool :=
  state.phase == .done && state.blockedReason.isSome

/-- A decided block opens a fresh ceiling window. -/
def reopen (state : MeshTaskStageState) (at_ : Int) : MeshTaskStageState :=
  { state with
    startedAt := at_, blockedReason := none, blockedDetail := none, released := false }

def reduceReviseOnce (state : MeshTaskStageState) (at_ : Int) : Option StageReduction :=
  if !state.decidable then none
  else some {
    state := enter (reopen { state with extraRevisions := state.extraRevisions + 1 } at_)
      .revising at_
    effects := [.sendRevision .review state.round] }

def reduceRereview (state : MeshTaskStageState) (at_ : Int) : Option StageReduction :=
  if !state.decidable then none
  else some {
    state := enter (reopen { state with
      reviewerSessionId := none, reviewerFailures := 0, round := state.round + 1 } at_)
      .awaitingReview at_
    effects := [.createReviewChild (state.round + 1) none] }

def StageEvent.isDecide : StageEvent → Bool
  | .decideReviseOnce _ | .decideRereview _ => true
  | _ => false

/-- Pure transition. `none` is the no-op of the source: the previous state object
and no effects. -/
def reduceStage (plan : MeshTaskStagePlan) (prev : MeshTaskStageState) (event : StageEvent) :
    Option StageReduction :=
  if prev.phase == .done && !event.isDecide then none
  else match event with
    | .implCompleted attemptId headSha hasDiff at_ =>
      reduceImplCompleted prev attemptId headSha hasDiff at_
    | .selfCheckDone status at_ => reduceSelfCheckDone prev status at_
    | .reviewStarted _ reviewerSessionId at_ =>
      if prev.phase != .awaitingReview then none
      else some {
        state := enter { prev with
          reviewerSessionId := (ifTruthy reviewerSessionId).or prev.reviewerSessionId }
          .reviewing at_
        effects := [] }
    | .reviewVerdict _ report reviewerSessionId independenceUsed at_ =>
      reduceReviewVerdict plan prev report reviewerSessionId independenceUsed at_
    | .reviewerUnavailable _ at_ => reduceReviewerUnavailable prev at_
    | .reviewerMutatedSource _ at_ => reduceVoidReview prev .reviewerMutatedSource at_
    | .reviewerIntegrityUnverifiable _ at_ =>
      reduceVoidReview prev .reviewerIntegrityUnverifiable at_
    | .reviewInputFailed detail at_ =>
      (reduceVoidReview prev .reviewUnavailable at_).map fun reduction =>
        { reduction with state := { reduction.state with
            blockedDetail := some (firstUnits 300 detail) } }
    | .ceiling at_ => some (block prev .stagePipelineCeiling at_)
    | .decideReviseOnce at_ => reduceReviseOnce prev at_
    | .decideRereview at_ => reduceRereview prev at_

end Adhdev.StagePipeline
