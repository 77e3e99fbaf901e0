import Adhdev.TaskQueue.Queue

/-! # Revisions of pending tasks

`mesh-task-revision.ts`: the row as the patch would leave it is computed from the
stored rows, and one update stores it.
-/

namespace Adhdev.TaskQueue

open Call MeshShared

structure PendingTaskRevisionPatch where
  message : Option String := none
  ownedPaths : Option (List String) := none
  phase : Option TaskPhase := none
  dependsOn : Option (List String) := none
  review : Option ReviewConstraint := none
  difficulty : Option String := none
  deriving DecidableEq

structure TaskRevisionHostContext where
  actor : String
  repoIdentity : String
  machineId : String
  nodeId : Option String := none
  workspace : Option String := none
  dryRun : Bool := false
  deferScheduling : Bool := false

section Patch

variable (services : Services) (store : QueueStore) (before : MeshWorkQueueEntry)

def reviseMessage (patch : Option String) (next : MeshWorkQueueEntry) :
    Except String MeshWorkQueueEntry :=
  match patch with
  | none => .ok next
  | some message =>
    if trim message = "" then .error "invalid_revision_message"
    else if before.multipart then .error "multipart_message_revision_requires_input_contract"
    else
      match services.validateMeshTaskModeRequest next.taskMode (trim message) next.isReadonly with
      | .error violation => .error violation
      | .ok _ => .ok { next with message := trim message }

def reviseOwnedPaths (patch : Option (List String)) (next : MeshWorkQueueEntry) :
    Except String MeshWorkQueueEntry :=
  match patch with
  | none => .ok next
  | some paths =>
    let normalized := services.normalizeOwnedPaths paths
    if paths = [] then .error "empty_revision_ownership"
    else if normalized.2 ≠ [] ∨ normalized.1 = [] then
      .error ("invalid_revision_paths: " ++ String.intercalate ", " normalized.2)
    else .ok { next with ownedPaths := normalized.1 }

def revisePhase (patch : Option TaskPhase) (next : MeshWorkQueueEntry) :
    Except String MeshWorkQueueEntry :=
  match patch with
  | none => .ok next
  | some phase =>
    if isTaskReadonly next then .error "write_phase_required"
    else .ok { next with phase := some phase }

def reviseDifficulty (patch : Option String) (next : MeshWorkQueueEntry) :
    Except String MeshWorkQueueEntry :=
  match patch with
  | none => .ok next
  | some difficulty =>
    if difficulty ∉ meshTaskDifficulties then .error "invalid_revision_difficulty"
    else if before.staged then .error "difficulty_revision_unsupported_for_stage_task"
    else .ok { next with difficulty }

def reviseReview (patch : Option ReviewConstraint) (next : MeshWorkQueueEntry) :
    Except String MeshWorkQueueEntry :=
  match patch with
  | none => .ok next
  | some review =>
    if review.differentProvider = false ∨
        (store.findQueueEntryById review.sourceTaskId).isNone ∨
        review.sourceTaskId = before.id ∨ isTaskReadonly next = false then
      .error "invalid_review_contract"
    else .ok { next with review := some review }

def revisePhysicalContext (host : TaskRevisionHostContext) (next : MeshWorkQueueEntry) :
    Except String MeshWorkQueueEntry :=
  match next.phase with
  | none => .ok next
  | some phase =>
    match host.nodeId, host.workspace with
    | some nodeId, some workspace =>
      if trim nodeId = "" ∨ workspace = "" ∨ before.targetNodeId ≠ some nodeId ∨
          next.ownedPaths = [] then
        .error "local_pinned_physical_context_required"
      else
        match services.attestLocalOwnership host.repoIdentity host.machineId nodeId workspace
            phase next.ownedPaths with
        | .error problem => .error problem
        | .ok scope => .ok { next with ownershipScope := some scope }
    | _, _ => .error "local_pinned_physical_context_required"

def revisedAdjacency (dependsOn : List String) (id : String) : List String :=
  if id = before.id then dependsOn
  else ((store.findQueueEntryById id).map (·.dependsOn)).getD []

def reviseDependsOn (patch : Option (List String)) (next : MeshWorkQueueEntry) :
    Except String MeshWorkQueueEntry :=
  match patch with
  | none => .ok next
  | some ids =>
    let dependsOn := (ids.map trim).eraseDups
    if ids.any fun id => trim id = "" then .error "invalid_revision_dependencies"
    else if dependsOn.any fun id => (store.findQueueEntryById id).isNone then
      .error "unknown_dependency"
    else if reachesTask (revisedAdjacency store before dependsOn) store.graph before.id
        dependsOn then
      .error "dependency_cycle_detected"
    else .ok { next with dependsOn }

def ownsPath (old : List OwnedPathEntry) (entry : OwnedPathEntry) : Bool :=
  old.any fun owned =>
    (owned.path = entry.path && (owned.subtree || !entry.subtree)) ||
      (owned.subtree && (owned.path ++ "/").isPrefixOf entry.path)

def expandsOwnership (patch : PendingTaskRevisionPatch) (next : MeshWorkQueueEntry) : Bool :=
  (patch.ownedPaths.isSome && next.ownedPaths.any fun entry => !ownsPath before.ownedPaths entry) ||
    (patch.phase = some .integration && before.phase ≠ some .integration) ||
    (next.ownershipScope.isSome && before.ownershipScope.isNone)

def revisedEntry (patch : PendingTaskRevisionPatch) (host : TaskRevisionHostContext) :
    Except String MeshWorkQueueEntry := do
  let next ← reviseMessage services before patch.message before
  let next ← reviseOwnedPaths services patch.ownedPaths next
  let next ← revisePhase patch.phase next
  let next ← reviseDifficulty before patch.difficulty next
  let next ← reviseReview store before patch.review next
  let next ← revisePhysicalContext services before host next
  let next ← reviseDependsOn store before patch.dependsOn next
  assertSourceDependencyGraph (store.replace next).graph
  if expandsOwnership before patch next then
    match services.ownedPathsConflict next with
    | some detail => throw s!"ownership_collision: {detail}"
    | none => pure ()
  return if host.dryRun || host.deferScheduling then next else { next with hold := none }

end Patch

def revisionRefusal (services : Services) (found : Option MeshWorkQueueEntry)
    (expectedRevision : Nat) : Except String MeshWorkQueueEntry :=
  match found with
  | none => .error "task_not_found"
  | some before =>
    if before.status ≠ .pending then
      .error "pending_required: active edits require a future versioned quiescent handoff"
    else if before.revision ≠ expectedRevision then .error "stale_revision"
    else if services.dispatchOpen before.id then .error "open_attempt_revision_refused"
    else .ok before

def revisePendingTask (services : Services) (taskId : String) (expectedRevision : Nat)
    (patch : PendingTaskRevisionPatch) (host : TaskRevisionHostContext) :
    Call QueueStore String MeshWorkQueueEntry := do
  failIf (host.actor = "" ∨ host.repoIdentity = "" ∨ host.machineId = "")
    "authenticated_host_required"
  failIf (patch = {}) "unsupported_revision_patch"
  transaction do
    let found ← inspect (·.findQueueEntryById taskId)
    let before ← ofExcept (revisionRefusal services found expectedRevision)
    let revised ← inspect fun store => revisedEntry services store before patch host
    let next ← ofExcept revised
    if host.dryRun then pure next
    else do
      updateQueueEntry services next
      pure next

end Adhdev.TaskQueue
