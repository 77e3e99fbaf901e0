import Adhdev.TaskQueue.Revision

/-! # Claims, terminal commits and runs of the queue

A claim walks the pending rows a session may take through its gates, in order, and
assigns the first row that passes all of them. The gates that do not read the
dependency graph or the physical proof are answered by `ClaimServices`.
-/

namespace Adhdev.TaskQueue

open Call MeshShared

inductive ClaimGate
  | requiredTagsUnsatisfied | dependenciesUnsatisfied | notBeforeDelayed | taskParked
  | attemptInjectionClosed | convergenceTargetIsWorktree | targetPinUnmatched
  | physicalContextChanged | ownershipUnproven | reviewIndependenceRequired
  | reviewInputUnavailable | reviewInputBusy | difficultyFloorUnmet | parallelCapReached
  | nodeBusyWithActiveAssignment | ownedPathsConflict | dirtyWorkspace
  | nodeStaleBehindUpstream
  deriving DecidableEq

def ClaimGate.reason : ClaimGate → String
  | requiredTagsUnsatisfied => "required_tags_unsatisfied"
  | dependenciesUnsatisfied => "dependencies_unsatisfied"
  | notBeforeDelayed => "not_before_delayed"
  | taskParked => "task_parked"
  | attemptInjectionClosed => "attempt_injection_closed"
  | convergenceTargetIsWorktree => "convergence_target_is_worktree"
  | targetPinUnmatched => "target_pin_unmatched"
  | physicalContextChanged => "physical_context_changed"
  | ownershipUnproven => "ownership_unproven"
  | reviewIndependenceRequired => "review_independence_required"
  | reviewInputUnavailable => "review_input_unavailable"
  | reviewInputBusy => "review_input_busy"
  | difficultyFloorUnmet => "difficulty_floor_unmet"
  | parallelCapReached => "parallel_cap_reached"
  | nodeBusyWithActiveAssignment => "node_busy_with_active_assignment"
  | ownedPathsConflict => "owned_paths_conflict"
  | dirtyWorkspace => "dirty_workspace"
  | nodeStaleBehindUpstream => "node_stale_behind_upstream"

def claimGates : List ClaimGate :=
  [.requiredTagsUnsatisfied, .dependenciesUnsatisfied, .notBeforeDelayed, .taskParked,
    .attemptInjectionClosed, .convergenceTargetIsWorktree, .targetPinUnmatched,
    .physicalContextChanged, .ownershipUnproven, .reviewIndependenceRequired,
    .reviewInputUnavailable, .reviewInputBusy, .difficultyFloorUnmet, .parallelCapReached,
    .nodeBusyWithActiveAssignment, .ownedPathsConflict, .dirtyWorkspace,
    .nodeStaleBehindUpstream]

structure ReviewRoutingContext where
  workspace : String
  machineId : String
  repoIdentity : String

structure ClaimRequest where
  nodeId : String
  sessionId : String
  physicalContext : Option ReviewRoutingContext := none
  providerType : Option String := none
  lightWorkspaceId : Option String := none
  onlyQuotaOverridden : Bool := false

structure ClaimServices where
  /-- The bridge is frozen, the session is stopping or new work is held. -/
  newWorkRefused : Bool
  expandDaemonIdForms : String → List String
  dependencyUsable : String → Bool
  passes : ClaimGate → List MeshWorkQueueEntry → MeshWorkQueueEntry → Bool
  /-- The scope that the checkout's machine proves for the row in a phase. -/
  attestOwnership : ReviewRoutingContext → String → MeshWorkQueueEntry → TaskPhase →
    Except String PhysicalOwnershipScope
  currentPhysicalScope : PhysicalOwnershipScope → List OwnedPathEntry →
    Option PhysicalOwnershipScope

section Candidates

def priorityRank : Option TaskPriority → Nat
  | some .high => 2
  | some .low => 0
  | _ => 1

/-- Higher priority first, older first within a priority. -/
def tier (rows : List MeshWorkQueueEntry) (offered : MeshWorkQueueEntry → Bool) :
    List MeshWorkQueueEntry :=
  (rows.filter fun row => row.status = .pending && offered row).insertionSort fun left right =>
    priorityRank right.priority ≤ priorityRank left.priority

def lightClaimAllows (request : ClaimRequest) (candidate : MeshWorkQueueEntry) : Bool :=
  match request.lightWorkspaceId.filter (· ≠ "") with
  | none => !candidate.light
  | some workspace =>
    candidate.light && candidate.lightWorkspaceId = some workspace &&
      candidate.targetSessionId.any fun target =>
        target ≠ "" && sessionIdsEquivalent target request.sessionId

def claimCandidates (services : ClaimServices) (request : ClaimRequest)
    (rows : List MeshWorkQueueEntry) : List MeshWorkQueueEntry :=
  let forms := services.expandDaemonIdForms request.nodeId
  let tiers :=
    tier rows (fun row => row.targetSessionId = some request.sessionId) ++
      tier rows (fun row => row.targetSessionId.isNone && row.targetNodeId.any
        (forms.contains ·)) ++
      tier rows (fun row => row.targetSessionId.isNone && row.targetNodeId.isNone)
  tiers.filter fun row =>
    lightClaimAllows request row && (!request.onlyQuotaOverridden || row.quotaOverriddenByOwner)

end Candidates

section Dependencies

/-- One round of `getQueueSchedulingGraph` per unit of fuel: the rows of the frontier,
then the rows they wait for. -/
def schedulingRounds (rows : List MeshWorkQueueEntry) : Nat → List String → List String →
    List MeshWorkQueueEntry
  | 0, _, _ => []
  | fuel + 1, frontier, seen =>
    let batch := frontier.eraseDups.filter fun id => !seen.contains id
    if batch = [] then []
    else
      let found := rows.filter fun row => batch.contains row.id
      found ++ schedulingRounds rows fuel (found.flatMap (·.dependsOn)) (batch ++ seen)

def getQueueSchedulingGraph (rows : List MeshWorkQueueEntry) : List MeshWorkQueueEntry :=
  schedulingRounds rows (rows.length + 2)
    ((rows.filter fun row => row.status = .pending).map (·.id)) []

def schedulingGraph (rows : List MeshWorkQueueEntry) : PhaseGraph :=
  KeyedMap.ofList PhaseEntry.id ((getQueueSchedulingGraph rows).map (·.toPhaseEntry))

def completedIn (rows : List MeshWorkQueueEntry) (id : String) : Bool :=
  rows.any fun row => row.id == id && row.status = .completed

def taskDependenciesSatisfied (services : ClaimServices) (rows : List MeshWorkQueueEntry)
    (entry : MeshWorkQueueEntry) : Bool :=
  (sourceDependencyViolation entry.toPhaseEntry (schedulingGraph rows)).isNone &&
    entry.dependsOn.all fun id => completedIn rows id && services.dependencyUsable id

end Dependencies

section Proof

def attestedPhase (entry : MeshWorkQueueEntry) : TaskPhase :=
  if entry.phase = some .integration then .integration else .source

def proofFor (services : ClaimServices) (request : ClaimRequest)
    (candidate : MeshWorkQueueEntry) : Option (Except String PhysicalOwnershipScope) :=
  match request.physicalContext with
  | none => none
  | some context =>
    if context.workspace = "" ∨ context.machineId = "" ∨ isTaskReadonly candidate then none
    else if candidate.ownedPaths = [] then some (.error "ownership_unproven: ownedPaths")
    else
      match candidate.ownershipScope with
      | some scope =>
        match services.currentPhysicalScope scope candidate.ownedPaths with
        | some current => some (.ok current)
        | none => some (.error "ownership_unproven: unproven_active_physical_resource")
      | none =>
        match services.attestOwnership context request.nodeId candidate
            (attestedPhase candidate) with
        | .error problem => some (.error problem)
        | .ok attested =>
          match services.currentPhysicalScope attested candidate.ownedPaths with
          | some reproduced => some (.ok reproduced)
          | none => some (.error "ownership_unproven: unproven_active_physical_resource")

def admitProven (services : ClaimServices) (request : ClaimRequest) (entry : MeshWorkQueueEntry) :
    Option MeshWorkQueueEntry :=
  match proofFor services request entry with
  | none => some entry
  | some (.error _) => none
  | some (.ok scope) =>
    match services.currentPhysicalScope scope entry.ownedPaths with
    | none => none
    | some reproduced =>
      some { entry with
        ownershipScope := some reproduced
        phase := some (attestedPhase entry) }

end Proof

section Claim

def clearsGate (services : ClaimServices) (request : ClaimRequest)
    (rows : List MeshWorkQueueEntry) (candidate : MeshWorkQueueEntry) : ClaimGate → Bool
  | .dependenciesUnsatisfied => taskDependenciesSatisfied services rows candidate
  | .ownershipUnproven =>
    match proofFor services request candidate with
    | some (.error _) => false
    | _ => true
  | gate => services.passes gate rows candidate

def refusingGate (services : ClaimServices) (request : ClaimRequest)
    (rows : List MeshWorkQueueEntry) (candidate : MeshWorkQueueEntry) : Option ClaimGate :=
  claimGates.find? fun gate => !clearsGate services request rows candidate gate

def selectClaimCandidate (refusal : MeshWorkQueueEntry → Option ClaimGate) :
    List MeshWorkQueueEntry → List (String × ClaimGate) × Option MeshWorkQueueEntry
  | [] => ([], none)
  | candidate :: candidates =>
    match refusal candidate with
    | none => ([], some candidate)
    | some gate =>
      let rest := selectClaimCandidate refusal candidates
      ((candidate.id, gate) :: rest.1, rest.2)

def claimSelection (services : ClaimServices) (request : ClaimRequest)
    (rows : List MeshWorkQueueEntry) : List (String × ClaimGate) × Option MeshWorkQueueEntry :=
  selectClaimCandidate (refusingGate services request rows) (claimCandidates services request rows)

def holdRow (refusals : List (String × ClaimGate)) (row : MeshWorkQueueEntry) :
    MeshWorkQueueEntry :=
  match refusals.lookup row.id with
  | some gate => if row.status = .pending then { row with hold := some gate.reason } else row
  | none => row

def hasActiveSessionAssignment (services : Services) (rows : List MeshWorkQueueEntry)
    (sessionId : String) : Bool :=
  rows.any fun row =>
    (row.status = .assigned || services.latestAttemptStopping row.id) &&
      row.assignedSessionId = some sessionId

def assignTo (request : ClaimRequest) (entry : MeshWorkQueueEntry) : MeshWorkQueueEntry :=
  { entry with
    status := .assigned
    revision := entry.revision + 1
    hold := none
    assignedNodeId := some request.nodeId
    assignedSessionId := some request.sessionId
    assignedProviderType :=
      ((request.providerType.map trim).filter (· ≠ "")).or entry.assignedProviderType
    dispatchNonce := entry.dispatchNonce + 1 }

def claimNextQueueTask (services : Services) (claiming : ClaimServices) (request : ClaimRequest) :
    Call QueueStore String (Option MeshWorkQueueEntry) :=
  transaction do
    let rows ← inspect QueueStore.rows
    if claiming.newWorkRefused || hasActiveSessionAssignment services rows request.sessionId then
      answer none
    else do
      let selection := claimSelection claiming request rows
      modify fun store => ⟨store.rows.map (holdRow selection.1)⟩
      match selection.2.bind (admitProven claiming request) with
      | none => answer none
      | some admitted => do
          let assigned := assignTo request admitted
          modify (·.replace assigned)
          pure (some assigned)

end Claim

section Terminal

/-- What review-in-task says of a terminal status for a row. -/
structure StageServices where
  isStageBlockLocked : MeshWorkQueueEntry → TaskStatus → Bool
  shouldHoldStageTerminal : MeshWorkQueueEntry → TaskStatus → Bool
  persistOutputVersion : Except String Unit

structure MeshTerminalCommitInput where
  taskId : String
  status : TaskStatus
  fromQueuePolicy : Bool

def commitTaskTerminal (services : Services) (stage : StageServices)
    (terminal : MeshTerminalCommitInput) : Call QueueStore String Unit :=
  transaction do
    let found ← inspect (·.findQueueEntryById terminal.taskId)
    match found with
    | none => answer ()
    | some entry =>
      if services.latestAttemptStopping terminal.taskId || entry.status = terminal.status ||
          (!terminal.fromQueuePolicy && stage.isStageBlockLocked entry terminal.status) ||
          stage.shouldHoldStageTerminal entry terminal.status then
        answer ()
      else do
        ofExcept stage.persistOutputVersion
        updateQueueEntry services { entry with status := terminal.status }

end Terminal

end Adhdev.TaskQueue
