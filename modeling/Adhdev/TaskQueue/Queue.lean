import Adhdev.Foundation.Transaction
import Adhdev.MeshShared.TurnEvidence
import Adhdev.TaskQueue.PhaseRule

/-! # The mesh work queue

The rows of one mesh and the calls that create and revise them. What the calls ask
of other components (the task-mode guardrail, contract versioning, the turn ledger,
path ownership) is answered by `Services`, which may differ from call to call.
-/

namespace Adhdev.TaskQueue

open Call MeshShared

inductive TaskStatus
  | pending | assigned | completed | blocked | failed | cancelled
  deriving DecidableEq

inductive TaskPriority
  | low | normal | high
  deriving DecidableEq

structure OwnedPathEntry where
  path : String
  subtree : Bool
  deriving DecidableEq

structure GitResources where
  index : String := ""
  refs : String := ""
  hooks : String := ""
  config : String := ""
  deriving DecidableEq

structure OwnedResource where
  path : String
  identity : Option String
  subtree : Bool
  deriving DecidableEq

structure PhysicalOwnershipScope where
  repoIdentity : String
  machineId : String
  nodeId : String
  worktree : String
  phase : TaskPhase
  declaration : List OwnedPathEntry
  worktreeIdentity : String := ""
  gitDir : String := ""
  commonGitDir : String := ""
  gitResources : GitResources := {}
  resources : List OwnedResource := []
  deriving DecidableEq

structure ReviewConstraint where
  sourceTaskId : String
  differentProvider : Bool
  deriving DecidableEq

/-- A queue row. Absent lists are empty; `staged` says that the row has a stage plan,
a stage state or is a stage child. -/
structure MeshWorkQueueEntry extends PhaseEntry where
  message : String
  status : TaskStatus
  revision : Nat := 0
  taskMode : Option String := none
  isReadonly : Bool := false
  light : Bool := false
  lightWorkspaceId : Option String := none
  targetNodeId : Option String := none
  targetSessionId : Option String := none
  requiredTags : List String := []
  ownedPaths : List OwnedPathEntry := []
  ownershipScope : Option PhysicalOwnershipScope := none
  priority : Option TaskPriority := none
  missionId : Option String := none
  difficulty : String
  review : Option ReviewConstraint := none
  staged : Bool := false
  multipart : Bool := false
  quotaOverriddenByOwner : Bool := false
  hold : Option String := none
  attemptId : Option String := none
  assignedNodeId : Option String := none
  assignedSessionId : Option String := none
  assignedProviderType : Option String := none
  dispatchNonce : Nat := 0
  deriving DecidableEq

def isTaskReadonly (entry : MeshWorkQueueEntry) : Bool :=
  entry.isReadonly || entry.taskMode = some "live_debug_readonly"

/-- The rows of the mesh, oldest first. -/
structure QueueStore where
  rows : List MeshWorkQueueEntry

namespace QueueStore

def graph (store : QueueStore) : List PhaseEntry :=
  store.rows.map MeshWorkQueueEntry.toPhaseEntry

def findQueueEntryById (store : QueueStore) (id : String) : Option MeshWorkQueueEntry :=
  store.rows.find? fun row => row.id == id

def append (store : QueueStore) (entry : MeshWorkQueueEntry) : QueueStore :=
  ⟨store.rows ++ [entry]⟩

def replace (store : QueueStore) (entry : MeshWorkQueueEntry) : QueueStore :=
  ⟨store.rows.map fun row => if row.id = entry.id then entry else row⟩

end QueueStore

structure Services where
  validateMeshTaskModeRequest : Option String → String → Bool → Except String (Option String)
  /-- Whether the task gets a review plan. -/
  resolveStagePlan : Option String → String → Bool → Except String Bool
  /-- The accepted paths and the rejected ones. -/
  normalizeOwnedPaths : List String → List OwnedPathEntry × List String
  contractRequiredTagsForNewTask : String → List String → Except String (List String)
  /-- The primary key is the id alone, for the rows of all meshes. -/
  rowOfOtherMesh : String → Bool
  latestAttemptStopping : String → Bool
  /-- A dispatch of the task is in flight, or its queue attempt is open. -/
  dispatchOpen : String → Bool
  attestLocalOwnership : String → String → String → String → TaskPhase → List OwnedPathEntry →
    Except String PhysicalOwnershipScope
  /-- What stands against the admission of the row's paths. -/
  ownedPathsConflict : MeshWorkQueueEntry → Option String

section Store

def insertQueueEntry (services : Services) (entry : MeshWorkQueueEntry) :
    Call QueueStore String Unit :=
  transaction do
    let rows ← inspect QueueStore.graph
    ofExcept (assertSourceDependencyGraph (rows ++ [entry.toPhaseEntry]))
    let stored ← inspect (·.findQueueEntryById entry.id)
    failIf (stored.isSome ∨ services.rowOfOtherMesh entry.id)
      "UNIQUE constraint failed: mesh_queue.id"
    modify (·.append entry)

def rebinds (persisted entry : MeshWorkQueueEntry) : Bool :=
  entry.status ≠ persisted.status || entry.assignedSessionId ≠ persisted.assignedSessionId ||
    entry.assignedNodeId ≠ persisted.assignedNodeId || entry.attemptId ≠ persisted.attemptId ||
    entry.dispatchNonce ≠ persisted.dispatchNonce ||
    entry.assignedProviderType ≠ persisted.assignedProviderType

def movesInGraph (persisted : Option MeshWorkQueueEntry) (entry : MeshWorkQueueEntry) : Bool :=
  persisted.bind (·.phase) ≠ entry.phase || (persisted.map (·.dependsOn)).getD [] ≠ entry.dependsOn

def updateQueueEntry (services : Services) (entry : MeshWorkQueueEntry) :
    Call QueueStore String Unit :=
  transaction do
    let persisted ← inspect (·.findQueueEntryById entry.id)
    failIf (services.latestAttemptStopping entry.id ∧ persisted.any (rebinds · entry))
      "writer_checkpoint_pending: the physical writer claim cannot be released or rebound"
    let replaced ← inspect fun store => (store.replace entry).graph
    ofExcept (if movesInGraph persisted entry then assertSourceDependencyGraph replaced
      else .ok ())
    modify (·.replace { entry with revision := (persisted.map (·.revision)).getD 0 + 1 })

end Store

section Enqueue

def normalizeDependsOn (ids : List String) : List String :=
  ((ids.map trim).filter (· ≠ "")).eraseDups

def adjacency (rows : List PhaseEntry) (newTaskId : String) (dependsOn : List String)
    (id : String) : List String :=
  if id = newTaskId then dependsOn
  else ((rows.find? fun row => row.id == id).map (normalizeDependsOn ·.dependsOn)).getD []

def searchBudget (next : String → List String) (rows : List PhaseEntry) (start : List String)
    (newTaskId : String) : Nat :=
  start.length + ((newTaskId :: rows.map (·.id)).map fun id => (next id).length).sum

def reachesTask (next : String → List String) (rows : List PhaseEntry) (newTaskId : String)
    (start : List String) : Bool :=
  DepthFirst.meets next newTaskId (searchBudget next rows start newTaskId) start.reverse []

def assertNoDependencyCycle (rows : List PhaseEntry) (newTaskId : String)
    (dependsOn : List String) : Except String Unit :=
  if dependsOn = [] then .ok ()
  else if newTaskId ∈ dependsOn then
    .error s!"dependency_cycle_detected: task '{newTaskId}' cannot depend on itself"
  else if reachesTask (adjacency rows newTaskId dependsOn) rows newTaskId dependsOn then
    .error (s!"dependency_cycle_detected: task '{newTaskId}' is part of a dependency cycle via '" ++
      String.intercalate ", " dependsOn ++ "'")
  else .ok ()

def meshTaskDifficulties : List String := ["easy", "medium", "difficult", "freeform"]

def assertMeshTaskDifficulty (value : Option String) (callerLabel : String) :
    Except String String :=
  let allowed := String.intercalate " | " meshTaskDifficulties
  match value with
  | none => .error (s!"missing_task_difficulty: {callerLabel} requires a 'difficulty'. " ++
      s!"Allowed values: {allowed}. Classify the task by how hard the work actually is.")
  | some difficulty =>
    if trim difficulty = "" then
      .error (s!"missing_task_difficulty: {callerLabel} requires a 'difficulty'. " ++
        s!"Allowed values: {allowed}. Classify the task by how hard the work actually is.")
    else if difficulty ∈ meshTaskDifficulties then .ok difficulty
    else .error (s!"invalid_task_difficulty: {callerLabel} received an unrecognized " ++
      s!"'difficulty' value \"{difficulty}\". Allowed values: {allowed}.")

def assertLightEnqueueShape (taskMode : Option String) (isReadonly : Bool)
    (ownedPaths : List String) : Except String Unit :=
  if isReadonly || taskMode.any (· ≠ "code_change") then
    .error ("light_mode_conflict: a light task must be a code_change (not readonly / " ++
      taskMode.getD "unknown" ++ " mode).")
  else if ownedPaths = [] then
    .error ("light_requires_owned_paths: light tasks must declare owned_paths " ++
      "(repo-relative files/dirs).")
  else .ok ()

/-- `MeshHostQueueOwner`: the role the caller acts in. -/
structure QueueOwner where
  handedOff : Bool := false
  isMember : Bool := false

def requireMeshHostQueueOwner (owner : QueueOwner) : Except String Unit :=
  if owner.handedOff then
    .error ("mesh_host_handed_off: this daemon handed the mesh host role to another daemon; " ++
      "its host-owned data is read-only.")
  else if owner.isMember then
    .error ("Mesh Host daemon required to mutate mesh queue; member daemons must use the " ++
      "host-owned queue.")
  else .ok ()

/-- `fresh` is the UUID drawn for the task. -/
structure EnqueueOptions where
  id : Option String := none
  fresh : String
  taskMode : Option String := none
  isReadonly : Bool := false
  light : Bool := false
  stageChild : Bool := false
  targetNodeId : Option String := none
  targetSessionId : Option String := none
  requiredTags : List String := []
  ownedPaths : List String := []
  dependsOn : List String := []
  missionId : Option String := none
  priority : Option TaskPriority := none
  difficulty : Option String := none
  multipart : Bool := false

def optionalText (value : Option String) : Option String := value.bind readString

/-- The row that `enqueueTask` prepares before it touches the queue. -/
def newQueueEntry (services : Services) (message : String) (options : EnqueueOptions) :
    Except String MeshWorkQueueEntry := do
  let message := trim message
  if message = "" then throw "mesh task message must be a non-empty string"
  let isReadonly := options.stageChild || options.isReadonly
  let taskMode ←
    if options.stageChild then pure (some "validation")
    else services.validateMeshTaskModeRequest options.taskMode message isReadonly
  if options.light then assertLightEnqueueShape taskMode isReadonly options.ownedPaths
  let difficulty ← assertMeshTaskDifficulty options.difficulty "enqueueTask"
  let planned ←
    if options.stageChild then pure false
    else services.resolveStagePlan taskMode difficulty isReadonly
  if planned && options.light then
    throw ("light_review_unsupported: in-task review is not supported for light tasks yet; " ++
      "enqueue a normal worktree task to get a review, or omit review.")
  return {
    id := (optionalText options.id).getD options.fresh
    phase := none
    dependsOn := normalizeDependsOn options.dependsOn
    message
    status := .pending
    taskMode
    isReadonly
    light := options.light
    targetNodeId := options.targetNodeId
    targetSessionId := options.targetSessionId
    requiredTags := options.requiredTags
    ownedPaths := (services.normalizeOwnedPaths options.ownedPaths).1
    priority := options.priority.filter (· ≠ .normal)
    missionId := optionalText options.missionId
    difficulty
    staged := planned || options.stageChild
    multipart := options.multipart }

def storeNewTask (services : Services) (entry : MeshWorkQueueEntry) :
    Call QueueStore String MeshWorkQueueEntry :=
  transaction do
    let stored ← inspect (·.findQueueEntryById entry.id)
    failIf stored.isSome s!"duplicate_task_id: task '{entry.id}' already exists"
    let rows ← inspect QueueStore.graph
    ofExcept (assertNoDependencyCycle rows entry.id entry.dependsOn)
    let contractTags ← ofExcept (services.contractRequiredTagsForNewTask entry.id entry.dependsOn)
    let tagged := { entry with requiredTags := (entry.requiredTags ++ contractTags).eraseDups }
    insertQueueEntry services tagged
    pure tagged

def enqueueTask (services : Services) (owner : QueueOwner) (message : String)
    (options : EnqueueOptions) : Call QueueStore String MeshWorkQueueEntry := do
  ofExcept (requireMeshHostQueueOwner owner)
  let entry ← ofExcept (newQueueEntry services message options)
  storeNewTask services entry

structure MeshTaskBatchEntrySpec where
  ref : Option String := none
  message : String
  options : EnqueueOptions

def meshTaskBatchMaxTasks : Nat := 50

def idsByRef : List MeshTaskBatchEntrySpec → List (String × String) →
    Except String (List (String × String))
  | [], refs => .ok refs
  | spec :: specs, refs =>
    match optionalText spec.ref with
    | none => idsByRef specs refs
    | some ref =>
      if (refs.lookup ref).isSome then
        .error s!"duplicate_task_ref: ref '{ref}' is used by more than one task in this batch"
      else idsByRef specs (refs ++ [(ref, spec.options.fresh)])

def resolveDependencies (refs : List (String × String)) (store : QueueStore) (label : String) :
    List String → Except String (List String)
  | [] => .ok []
  | dep :: deps =>
    match refs.lookup dep with
    | some id => (id :: ·) <$> resolveDependencies refs store label deps
    | none =>
      if (store.findQueueEntryById dep).isSome then
        (dep :: ·) <$> resolveDependencies refs store label deps
      else
        .error (s!"unknown_dependency: task {label} depends on '{dep}', which is neither " ++
          "a ref in this batch nor an existing task id" ++
          if refs = [] then ""
          else " (batch refs: " ++ String.intercalate ", " (refs.map (·.1)) ++ ")")

def enqueueBatchTask (services : Services) (owner : QueueOwner) (refs : List (String × String))
    (task : MeshTaskBatchEntrySpec × Nat) : Call QueueStore String MeshWorkQueueEntry := do
  let label := ((task.1.ref.filter (· ≠ "")).map fun ref => "'" ++ ref ++ "'").getD
    ("#" ++ toString task.2)
  let resolved ← inspect fun store =>
    resolveDependencies refs store label (normalizeDependsOn task.1.options.dependsOn)
  let dependsOn ← ofExcept resolved
  enqueueTask services { owner with handedOff := false } task.1.message
    { task.1.options with dependsOn, id := some task.1.options.fresh }

def enqueueTaskBatch (services : Services) (owner : QueueOwner)
    (specs : List MeshTaskBatchEntrySpec) : Call QueueStore String (List MeshWorkQueueEntry) := do
  ofExcept (requireMeshHostQueueOwner owner)
  failIf (specs = []) "empty_task_batch: enqueueTaskBatch requires at least one task spec"
  failIf (meshTaskBatchMaxTasks < specs.length)
    (s!"task_batch_too_large: {specs.length} tasks exceeds the {meshTaskBatchMaxTasks}" ++
      "-task cap for one atomic enqueue")
  let refs ← ofExcept (idsByRef specs [])
  transaction (each (enqueueBatchTask services owner refs) specs.zipIdx)

end Enqueue

section DirectDispatch

structure DirectDispatchOptions where
  id : String
  missionId : Option String := none
  assignedNodeId : Option String := none
  assignedSessionId : Option String := none
  taskMode : Option String := none
  isReadonly : Bool := false
  difficulty : Option String := none
  ownedPaths : List String := []
  attemptId : Option String := none

/-- `attested` is the scope the host proved, with its phase. -/
def directDispatchEntry (services : Services) (message : String)
    (options : DirectDispatchOptions) (attested : Option (PhysicalOwnershipScope × TaskPhase)) :
    Except String MeshWorkQueueEntry := do
  let message := trim message
  if message = "" then throw "mesh task message must be a non-empty string"
  let difficulty ← assertMeshTaskDifficulty options.difficulty "recordDirectDispatchTask"
  let taskMode ← services.validateMeshTaskModeRequest options.taskMode message options.isReadonly
  return {
    id := trim options.id
    phase := attested.map (·.2)
    dependsOn := []
    message
    status := .assigned
    taskMode
    isReadonly := options.isReadonly
    targetNodeId := options.assignedNodeId
    targetSessionId := options.assignedSessionId
    ownedPaths := (services.normalizeOwnedPaths options.ownedPaths).1
    ownershipScope := attested.map (·.1)
    missionId := optionalText options.missionId
    difficulty
    assignedNodeId := options.assignedNodeId
    assignedSessionId := options.assignedSessionId }

def recordDirectDispatchTask (services : Services) (message : String)
    (options : DirectDispatchOptions) (attested : Option (PhysicalOwnershipScope × TaskPhase)) :
    Call QueueStore String (Option MeshWorkQueueEntry) :=
  if trim options.id = "" then answer none
  else do
    let entry ← ofExcept (directDispatchEntry services message options attested)
    transaction do
      let stored ← inspect (·.findQueueEntryById entry.id)
      if stored.isSome then answer none
      else do
        let _ ← ofExcept (services.contractRequiredTagsForNewTask entry.id [])
        insertQueueEntry services entry
        let stamped := { entry with attemptId := options.attemptId.filter (· ≠ "") }
        if stamped.attemptId.isSome then updateQueueEntry services stamped
        pure (some stamped)

end DirectDispatch

end Adhdev.TaskQueue
