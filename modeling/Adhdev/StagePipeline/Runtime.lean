import Adhdev.Foundation.Machine
import Adhdev.StagePipeline.Moves
import Adhdev.TaskQueue.Queue

/-! # The stage pipeline

The effect executor of `daemon-core/src/mesh/stage-pipeline-runtime.ts` for one
stage parent, with the queue writes of `stage-ports-default.ts`. The work of a
parent is serialised: a task runs from one await to the next, and between two
segments only the rows around it change. The awaits of one effect are one
suspension; what they bring is `Answers`.
-/

namespace Adhdev.StagePipeline

open MeshShared TaskQueue

/-- A report that passed the validator. -/
structure StashedReview where
  raw : Json
  context : ReviewValidationContext
  report : MeshReviewReport
  accepted : validateReviewReport raw context = .ok report

/-- What changes of a review child. `launched` says that an attempt or a launched
session has it. -/
structure ChildState where
  status : TaskStatus
  freshSession : Bool := false
  assignedSessionId : Option String := none
  launched : Bool := false
  cancelReason : Option String := none

/-- What a review child is created with. `ownWorkspace` is the presence of
`reviewerWorkspace`, and `baseline` the fingerprint taken before the row was written. -/
structure ReviewTask where
  id : String
  stageRound : Nat
  ownWorkspace : Bool
  baseline : Option String

structure ReviewChild extends ReviewTask, ChildState

namespace ReviewChild

def isOpen (child : ReviewChild) : Bool :=
  child.status == .pending || child.status == .assigned

def isStarted (child : ReviewChild) : Bool :=
  child.status == .assigned || (ifTruthy child.assignedSessionId).isSome || child.launched

end ReviewChild

inductive StageTask
  | idle
  | reporting (attemptId : Option String)
  | releasing (childId : String) (status : TaskStatus) (captured : MeshTaskStageState)
  | fingerprinting (captured : MeshTaskStageState) (fresh : ReviewChild)
      (report : Option StashedReview)
  | running (effect : StageEffect) (rest : List StageEffect)

/-- The stage parent, its review children and the reports stashed for them. `stopping`
is the state of the latest attempt of the parent. -/
structure Pipeline where
  stagePlan : MeshTaskStagePlan
  light : Bool
  status : TaskStatus
  stopping : Bool
  assignedSessionId : Option String
  stageState : MeshTaskStageState
  children : List ReviewChild
  reports : List (String × StashedReview)
  workerArtifactIds : List String
  task : StageTask

inductive DecideAction
  | accept | reviseOnce | rereview | abandon

inductive EntryPoint
  | implCompleted (attemptId : Option String)
  | childTerminal (childId : String)
  | childClaimed (childId : String) (assignedSessionId : Option String)
  | tick (pipelineCeilingMs : Int)
  | decide (action : DecideAction)

/-- What others do between two segments. -/
inductive Event
  | childChanged (childId : String) (state : ChildState)
  | childReported (childId : String) (report : StashedReview)
  | reportForgotten (childId : String)
  | workerReported (artifactIds : List String)
  | parentChanged (status : TaskStatus) (stopping : Bool) (assignedSessionId : Option String)
  | restarted

/-- What the awaits of one segment bring, with the clock. `escalates` is the length of a
streak of failures that is not waited out any longer. -/
structure Answers where
  now : Int
  workspace : Bool
  baseSha : Option String
  headSha : Option String
  diffArtifact : Option String
  fingerprint : Option String
  inputValid : Bool
  verdictArtifact : Option String
  isClean : Bool
  selfCheck : SelfCheckStatus
  selfCheckArtifact : Option String
  prepared : Bool
  inserted : Except String String
  escalates : Option Nat

inductive PipelineInput
  | happen (event : Event)
  | start (entry : EntryPoint) (now : Int)
  | proceed (answers : Answers)

inductive CommitReason
  | stage | accept
  deriving DecidableEq

inductive Emission
  | judged (childId : String)
  | committed (status : ReleaseStatus) (reason : CommitReason)
  deriving DecidableEq

def stageParentEnded (status : TaskStatus) : Bool :=
  status == .completed || status == .failed || status == .blocked || status == .cancelled

namespace Pipeline

def child? (pipeline : Pipeline) (childId : String) : Option ReviewChild :=
  pipeline.children.find? (·.id == childId)

def changeChild (pipeline : Pipeline) (childId : String) (change : ChildState → ChildState) :
    Pipeline :=
  { pipeline with children := pipeline.children.map fun child =>
      if child.id == childId then { child with toChildState := change child.toChildState }
      else child }

def dropReport (pipeline : Pipeline) (childId : String) : Pipeline :=
  { pipeline with reports := pipeline.reports.filter (·.1 != childId) }

def happens (pipeline : Pipeline) : Event → Pipeline
  | .childChanged childId state => pipeline.changeChild childId fun _ => state
  | .childReported childId report =>
    { pipeline.dropReport childId with
      reports := (childId, report) :: (pipeline.dropReport childId).reports }
  | .reportForgotten childId => pipeline.dropReport childId
  | .workerReported artifactIds => { pipeline with workerArtifactIds := artifactIds }
  | .parentChanged status stopping assignedSessionId =>
    { pipeline with status, stopping, assignedSessionId }
  | .restarted => { pipeline with reports := [], workerArtifactIds := [], task := .idle }

/-! ## Effects -/

/-- `commitTaskTerminal` for a row of the pipeline. -/
def commitParent (pipeline : Pipeline) (status : ReleaseStatus) (reason : CommitReason) :
    Pipeline × List Emission :=
  let held := status == .completed && !pipeline.stageState.released &&
    pipeline.stageState.phase != .done
  if pipeline.stopping || held then (pipeline, [])
  else
    ({ pipeline with status := match status with
        | .completed => .completed
        | .blocked => .blocked }, [.committed status reason])

def lifted (pipeline : Pipeline) : Pipeline :=
  { pipeline with stageState := { pipeline.stageState with released := true } }

/-- A refused write leaves the row as it is. -/
def requeueForRevision (pipeline : Pipeline) : Pipeline :=
  if pipeline.stopping then pipeline
  else { pipeline with status := .pending, assignedSessionId := none }

def hasOpenChild (pipeline : Pipeline) (round : Nat) : Bool :=
  pipeline.stageState.reviewTaskIds.any fun childId =>
    (pipeline.child? childId).any fun child => child.stageRound == round && child.isOpen

def runEffects (pipeline : Pipeline) : List StageEffect → Pipeline × List Emission
  | [] => ({ pipeline with task := .idle }, [])
  | .sendRevision _ _ :: rest => runEffects pipeline.requeueForRevision rest
  | .release status _ :: rest =>
    let (committed, emitted) := pipeline.lifted.commitParent status .stage
    let (later, more) := runEffects committed rest
    (later, emitted ++ more)
  | .createReviewChild round reuse :: rest =>
    if pipeline.hasOpenChild round then runEffects pipeline rest
    else ({ pipeline with task := .running (.createReviewChild round reuse) rest }, [])
  | effect :: rest => ({ pipeline with task := .running effect rest }, [])

/-- Reduce, write the state with `pre` and run the effects before `rest`. -/
def apply (pipeline : Pipeline) (event : StageEvent)
    (pre : MeshTaskStageState → MeshTaskStageState) (rest : List StageEffect) :
    Pipeline × List Emission :=
  match reduceStage pipeline.stagePlan pipeline.stageState event with
  | none => runEffects pipeline rest
  | some reduction =>
    runEffects { pipeline with stageState := pre reduction.state } (reduction.effects ++ rest)

/-! ## Segments -/

def reportedShas (pipeline : Pipeline) (answers : Answers) : Option String × Option String :=
  let base := nonEmpty pipeline.stageState.baseSha
  if answers.workspace then (base.or (ifTruthy answers.baseSha), ifTruthy answers.headSha)
  else (base, none)

def hasDiff : Option String × Option String → Bool
  | (some base, some head) => base != head
  | _ => true

def addDiff (state : MeshTaskStageState) (artifactId : Option String) : MeshTaskStageState :=
  { state with artifacts := { state.artifacts with
      diff := state.artifacts.diff ++ (ifTruthy artifactId).toList } }

def noteReport (base : Option String) (artifactIds : List String)
    (state : MeshTaskStageState) : MeshTaskStageState :=
  { state with
    baseSha := if state.baseSha == "" then base.getD "" else state.baseSha
    workerArtifactIds :=
      if artifactIds.isEmpty then state.workerArtifactIds
      else lastItems 8 (state.workerArtifactIds ++ artifactIds).eraseDups }

def implCompleted (pipeline : Pipeline) (attemptId : Option String) (answers : Answers) :
    Pipeline × List Emission :=
  let shas := pipeline.reportedShas answers
  let noted :=
    if shas.1.isSome && shas.2.isSome && hasDiff shas then
      { pipeline with stageState := addDiff pipeline.stageState answers.diffArtifact }
    else pipeline
  noted.apply (.implCompleted attemptId shas.2 (hasDiff shas) answers.now)
    (noteReport shas.1 pipeline.workerArtifactIds) []

def noteVerdict (artifactId : Option String) (state : MeshTaskStageState) : MeshTaskStageState :=
  { state with artifacts := { state.artifacts with
      verdict := state.artifacts.verdict ++ (ifTruthy artifactId).toList } }

def verdictEvent (fresh : ReviewChild) (review : StashedReview) (now : Int) : StageEvent :=
  .reviewVerdict fresh.id review.report (ifTruthy fresh.assignedSessionId)
    (some (if fresh.freshSession then .freshSessionFallback else .differentProvider)) now

def settleChild (pipeline : Pipeline) (captured : MeshTaskStageState) (fresh : ReviewChild)
    (report : Option StashedReview) (answers : Answers) : Pipeline × List Emission :=
  match if fresh.status == .completed then report else none with
  | some review =>
    let event := verdictEvent fresh review answers.now
    let judged := (reduceStage pipeline.stagePlan pipeline.stageState event).isSome
    let (later, emitted) := (pipeline.dropReport fresh.id).apply event
      (noteVerdict answers.verdictArtifact) []
    (later, (if judged then [.judged fresh.id] else []) ++ emitted)
  | none =>
    if fresh.status == .cancelled && captured.phase == .awaitingReview &&
        (fresh.cancelReason.getD "").startsWith "stage_" then
      ({ pipeline with task := .idle }, [])
    else pipeline.apply (.reviewerUnavailable fresh.id answers.now) id []

def decisive (captured : MeshTaskStageState) (fresh : ReviewChild) : Bool :=
  captured.phase.isReview && captured.reviewTaskIds.getLast? == some fresh.id &&
    fresh.stageRound == captured.round

def childReleased (pipeline : Pipeline) (childId : String) (status : TaskStatus)
    (captured : MeshTaskStageState) (answers : Answers) : Pipeline × List Emission :=
  let refused := ({ pipeline with task := .idle }, [])
  if stageParentEnded status || captured.released then refused
  else match pipeline.child? childId with
    | none => refused
    | some fresh =>
      let report := pipeline.reports.lookup childId
      if !decisive captured fresh then refused
      else if !fresh.ownWorkspace && fresh.status == .completed then
        ({ pipeline with task := .fingerprinting captured fresh report }, [])
      else pipeline.settleChild captured fresh report answers

def childFingerprinted (pipeline : Pipeline) (captured : MeshTaskStageState)
    (fresh : ReviewChild) (report : Option StashedReview) (answers : Answers) :
    Pipeline × List Emission :=
  let current := if answers.workspace then ifTruthy answers.fingerprint else none
  match ifTruthy captured.reviewFingerprint, current with
  | some baseline, some current =>
    if captured.reviewFingerprintUnavailable || !answers.inputValid then
      (pipeline.dropReport fresh.id).apply
        (.reviewerIntegrityUnverifiable fresh.id answers.now) id []
    else if current != baseline then
      (pipeline.dropReport fresh.id).apply (.reviewerMutatedSource fresh.id answers.now) id []
    else pipeline.settleChild captured fresh report answers
  | _, _ =>
    (pipeline.dropReport fresh.id).apply (.reviewerIntegrityUnverifiable fresh.id answers.now) id []

def selfCheckStatus (answers : Answers) : SelfCheckStatus :=
  if !answers.workspace then .unavailable
  else if !answers.isClean then .failed
  else answers.selfCheck

def noteSelfCheck (artifactId : Option String) (state : MeshTaskStageState) : MeshTaskStageState :=
  { state with artifacts := { state.artifacts with
      selfCheck := state.artifacts.selfCheck ++ (ifTruthy artifactId).toList } }

def selfChecked (pipeline : Pipeline) (answers : Answers) (rest : List StageEffect) :
    Pipeline × List Emission :=
  let state := pipeline.stageState
  let unregistered := answers.workspace && state.baseSha != "" &&
    (state.stageHeads.getLast?.any (·.rootSha != "")) && state.artifacts.diff.isEmpty
  let noted :=
    if unregistered then
      { pipeline with stageState := addDiff state answers.diffArtifact }
    else pipeline
  noted.apply (.selfCheckDone (selfCheckStatus answers) answers.now)
    (noteSelfCheck answers.selfCheckArtifact) rest

/-- What `cancel` leaves of a child of a closed parent. -/
def closeChild (state : ChildState) : ChildState :=
  if state.status == .pending || state.status == .assigned then
    { state with status := .cancelled, cancelReason := some "stage_parent_closed" }
  else state

def cancelReviewChildren (pipeline : Pipeline) : Pipeline :=
  pipeline.stageState.reviewTaskIds.foldl (fun pipeline childId =>
    pipeline.changeChild childId closeChild) pipeline

def linkChild (state : MeshTaskStageState) (child : ReviewChild) : MeshTaskStageState :=
  { state with
    reviewTaskIds := state.reviewTaskIds ++ [child.id]
    reviewFingerprint := child.baseline
    reviewFingerprintUnavailable := !child.ownWorkspace && child.baseline.isNone }

/-- `enqueueReviewChild`. An id that a row has cannot be inserted again. -/
def enqueueReviewChild (pipeline : Pipeline) (round : Nat) (answers : Answers) :
    Except String Pipeline :=
  let state := pipeline.stageState
  if pipeline.status != .assigned || state.released || !state.phase.isReview ||
      state.round != round then
    .error "stage_review_stale_parent"
  else
    let existing := state.reviewTaskIds.filterMap pipeline.child? |>.find? fun child =>
      child.stageRound == round && child.isOpen
    match existing with
    | some child =>
      if child.isStarted then .error "stage_review_already_started" else .ok pipeline
    | none =>
      match answers.inserted with
      | .error detail => .error detail
      | .ok id =>
        if (pipeline.child? id).isSome then .error "UNIQUE constraint failed: mesh_queue.id"
        else
          let ownWorkspace := answers.prepared && answers.workspace &&
            state.stageHeads.getLast?.any (·.rootSha != "")
          let child : ReviewChild := {
            status := .pending, id, stageRound := round, ownWorkspace
            baseline := if !ownWorkspace && answers.workspace then
              ifTruthy answers.fingerprint else none }
          .ok { pipeline with
            children := pipeline.children ++ [child]
            stageState := linkChild state child }

def createReviewChild (pipeline : Pipeline) (round : Nat) (answers : Answers) :
    Except String Pipeline :=
  if pipeline.light then .error "review_unsupported_for_light_task"
  else pipeline.enqueueReviewChild round answers

def lastingReviewInputErrors : List String :=
  ["review_input_artifacts_missing", "review_input_artifact_unauthorized",
    "review_input_artifact_path", "review_input_artifact_hash",
    "review_unsupported_for_light_task"]

def startsWithWord (word text : String) : Bool :=
  text.startsWith word && (text.toList.drop word.length).head?.all fun char =>
    !(char.isAlphanum || char == '_')

def isLastingReviewInputError (detail : String) : Bool :=
  lastingReviewInputErrors.any (startsWithWord · detail)

def childCreated (pipeline : Pipeline) (round : Nat) (answers : Answers)
    (rest : List StageEffect) : Pipeline × List Emission :=
  match pipeline.createReviewChild round answers with
  | .ok created => created.runEffects rest
  | .error detail =>
    if isLastingReviewInputError detail then
      pipeline.apply (.reviewInputFailed detail answers.now) id rest
    else match answers.escalates with
      | some count => pipeline.apply (.reviewInputFailed
          s!"create_review_child failed {count}x in a row: {detail}" answers.now) id rest
      | none => pipeline.runEffects rest

def finishEffect (pipeline : Pipeline) (effect : StageEffect) (rest : List StageEffect)
    (answers : Answers) : Pipeline × List Emission :=
  match effect with
  | .runSelfCheck => pipeline.selfChecked answers rest
  | .createReviewChild round _ => pipeline.childCreated round answers rest
  | .cancelReviewChildren => pipeline.cancelReviewChildren.runEffects rest
  | _ => pipeline.runEffects rest

def proceeds (pipeline : Pipeline) (answers : Answers) : Pipeline × List Emission :=
  match pipeline.task with
  | .idle => (pipeline, [])
  | .reporting attemptId => pipeline.implCompleted attemptId answers
  | .releasing childId status captured => pipeline.childReleased childId status captured answers
  | .fingerprinting captured fresh report =>
    pipeline.childFingerprinted captured fresh report answers
  | .running effect rest => pipeline.finishEffect effect rest answers

/-! ## Entry points -/

def resumeOne (pipeline : Pipeline) : Pipeline × List Emission :=
  let state := pipeline.stageState
  if stageParentEnded pipeline.status then (pipeline, [])
  else if state.phase == .selfChecking then pipeline.runEffects [.runSelfCheck]
  else if state.phase.isReview then
    let last := state.reviewTaskIds.getLast?.bind pipeline.child?
    if last.all (·.stageRound != state.round) then
      pipeline.runEffects [.createReviewChild state.round none]
    else (pipeline, [])
  else (pipeline, [])

def tick (pipeline : Pipeline) (pipelineCeilingMs now : Int) : Pipeline × List Emission :=
  let state := pipeline.stageState
  let listed := pipeline.status == .assigned || pipeline.status == .pending
  if !listed || state.released || state.phase == .done then (pipeline, [])
  else if now - state.startedAt > pipelineCeilingMs then pipeline.apply (.ceiling now) id []
  else pipeline.resumeOne

def isStageBlockOverwritten (pipeline : Pipeline) : Bool :=
  (pipeline.status == .completed || pipeline.status == .failed) &&
    pipeline.stageState.released && pipeline.stageState.blockedReason.isSome

def writeStatus (pipeline : Pipeline) (status : TaskStatus) : Option Pipeline :=
  if pipeline.stopping && pipeline.status != status then none
  else some { pipeline with status }

def decideBlocked (pipeline : Pipeline) (now : Int) : DecideAction → Pipeline × List Emission
  | .accept =>
    let decided := { pipeline with stageState := { pipeline.stageState with
      blockedReason := none, blockedDetail := none } }
    decided.commitParent .completed .accept
  | .abandon => ((pipeline.writeStatus .cancelled).getD pipeline, [])
  | .reviseOnce =>
    match pipeline.writeStatus .assigned with
    | none => (pipeline, [])
    | some reopened => reopened.apply (.decideReviseOnce now) id []
  | .rereview =>
    match pipeline.writeStatus .assigned with
    | none => (pipeline, [])
    | some reopened => reopened.apply (.decideRereview now) id []

def decide (pipeline : Pipeline) (action : DecideAction) (now : Int) : Pipeline × List Emission :=
  let restored :=
    if pipeline.isStageBlockOverwritten then pipeline.writeStatus .blocked else some pipeline
  match restored with
  | none => (pipeline, [])
  | some restored =>
    if restored.status != .blocked || restored.stageState.blockedReason.isNone then
      (restored, [])
    else restored.decideBlocked now action

/-- The first segment of a call, where no task is in flight. -/
def starts (pipeline : Pipeline) (entry : EntryPoint) (now : Int) : Pipeline × List Emission :=
  match entry with
  | .implCompleted attemptId =>
    let phase := pipeline.stageState.phase
    if pipeline.stageState.released || (phase != .implementing && phase != .revising) then
      (pipeline, [])
    else ({ pipeline with task := .reporting attemptId }, [])
  | .childTerminal childId =>
    if (pipeline.child? childId).isNone then (pipeline, [])
    else ({ pipeline with
      task := .releasing childId pipeline.status pipeline.stageState }, [])
  | .childClaimed childId assignedSessionId =>
    if (pipeline.child? childId).isNone then (pipeline, [])
    else pipeline.apply (.reviewStarted childId (ifTruthy assignedSessionId) now) id []
  | .tick pipelineCeilingMs => pipeline.tick pipelineCeilingMs now
  | .decide action => pipeline.decide action now

/-- A call that arrives while a task is in flight waits: it starts in a later step. -/
def respond (pipeline : Pipeline) : PipelineInput → Pipeline × List Emission
  | .happen event => (pipeline.happens event, [])
  | .start entry now =>
    match pipeline.task with
    | .idle => pipeline.starts entry now
    | _ => (pipeline, [])
  | .proceed answers => pipeline.proceeds answers

end Pipeline

def enqueued (stagePlan : MeshTaskStagePlan) (light : Bool) (createdAt : Int) : Pipeline where
  stagePlan
  light
  status := .pending
  stopping := false
  assignedSessionId := none
  stageState := initialStageState createdAt
  children := []
  reports := []
  workerArtifactIds := []
  task := .idle

def pipelineMachine (stagePlan : MeshTaskStagePlan) (light : Bool) (createdAt : Int) :
    Machine Pipeline PipelineInput (Pipeline × List Emission) where
  initial := enqueued stagePlan light createdAt
  respond := Pipeline.respond
  advance := Prod.fst

end Adhdev.StagePipeline
