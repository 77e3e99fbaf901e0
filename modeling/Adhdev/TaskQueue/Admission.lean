import Adhdev.TaskQueue.PhysicalOwnership
import Adhdev.TaskQueue.QueueRuns
import Adhdev.MeshShared.DaemonIds

/-! # Admission of a claim

The gates of a claim that read what other rows hold: the cap of the provider on the
daemon, the one writer of a node and the physical ownership of the mesh. The answers to
the other gates stay with `ClaimServices`.
-/

namespace Adhdev.TaskQueue

open Call MeshShared

structure ClaimOptions where
  providerMaxParallel : Option ℚ := none
  daemonNodeIds : List String := []

structure AdmissionServices extends ClaimServices where
  /-- The scope that a claim recorded on a review row. -/
  reviewInputScope : MeshWorkQueueEntry → Option PhysicalOwnershipScope
  pendingLaunchReservation : MeshWorkQueueEntry → Bool
  /-- Absent where the path does not resolve. -/
  realpath : String → Option String

section ActiveRows

variable (services : Services)

def activeWriterClaim (row : MeshWorkQueueEntry) : Bool :=
  row.status = .assigned || services.latestAttemptStopping row.id

def assignedRowsMeshWide (rows : List MeshWorkQueueEntry) : List MeshWorkQueueEntry :=
  rows.filter (activeWriterClaim services)

def assignedRowsForDaemon (rows : List MeshWorkQueueEntry) (nodeId : String)
    (daemonNodeIds : List String) : List MeshWorkQueueEntry :=
  let scope := if daemonNodeIds = [] then [nodeId] else daemonNodeIds
  (assignedRowsMeshWide services rows).filter fun row =>
    row.assignedNodeId.any ((expandDaemonIdForms scope).contains ·)

def activeProviderAssignmentCount (rows : List MeshWorkQueueEntry) (nodeId providerType : String)
    (daemonNodeIds : List String) : Nat :=
  (assignedRowsForDaemon services rows nodeId daemonNodeIds).countP
    (·.assignedProviderType == some providerType)

def writesOnNode (row : MeshWorkQueueEntry) : Bool := !isTaskReadonly row && !row.light

def hasActiveNodeWriteAssignment (rows : List MeshWorkQueueEntry) (nodeId : String) : Bool :=
  (assignedRowsMeshWide services rows).any fun row =>
    row.assignedNodeId.any ((expandDaemonIdForms [nodeId]).contains ·) && writesOnNode row

end ActiveRows

section Caps

def readonlySlotBudget (cap : ℚ) : Int :=
  if cap ≤ 1 then max 0 cap.floor else cap.floor - 1

def effectiveSlotCap (cap : ℚ) (isReadonly : Bool) : Int :=
  if isReadonly then readonlySlotBudget cap else cap.floor

def namedProvider (request : ClaimRequest) : Option String :=
  (request.providerType.map trim).filter (· ≠ "")

def providerCapAllows (services : Services) (options : ClaimOptions) (request : ClaimRequest)
    (rows : List MeshWorkQueueEntry) (candidate : MeshWorkQueueEntry) : Bool :=
  match namedProvider request, options.providerMaxParallel.filter (0 ≤ ·) with
  | some providerType, some cap =>
    activeProviderAssignmentCount services rows request.nodeId providerType
      options.daemonNodeIds < effectiveSlotCap cap (isTaskReadonly candidate)
  | _, _ => true

end Caps

section Ownership

def meshNodeIdMatches (nodeId candidateId : String) : Bool :=
  match readString candidateId with
  | none => false
  | some candidate => readString nodeId == some candidate

structure InFlightOwnership where
  taskId : String
  paths : List OwnedPathEntry
  ownershipScope : Option PhysicalOwnershipScope
  readLease : Bool

def unknownWriterPaths : List OwnedPathEntry := [⟨"", true⟩]

def declaredPaths (row : MeshWorkQueueEntry) : List OwnedPathEntry :=
  if row.ownedPaths = [] then unknownWriterPaths else row.ownedPaths

variable (admission : AdmissionServices)

def reproducedScope (row : MeshWorkQueueEntry) : Option PhysicalOwnershipScope :=
  row.ownershipScope.bind (admission.currentPhysicalScope · (declaredPaths row))

def inFlightOwnership (row : MeshWorkQueueEntry) : Option InFlightOwnership :=
  if isTaskReadonly row then
    (admission.reviewInputScope row).map fun scope =>
      { taskId := row.id, paths := scope.declaration, ownershipScope := some scope
        readLease := true }
  else
    some {
      taskId := row.id, paths := declaredPaths row, ownershipScope := row.ownershipScope
      readLease := false }

def readInFlightOwnershipMeshWide (services : Services) (rows : List MeshWorkQueueEntry) :
    List InFlightOwnership :=
  (assignedRowsMeshWide services rows ++ rows.filter fun row =>
    row.status = .pending && admission.pendingLaunchReservation row).filterMap
      (inFlightOwnership admission)

def heldScope (other : InFlightOwnership) : Option PhysicalOwnershipScope :=
  other.ownershipScope.bind fun scope =>
    (admission.currentPhysicalScope scope other.paths).map fun current =>
      if other.readLease then { current with resources := current.resources ++ scope.resources }
      else current

def findTaskOwnedPathsConflicts (candidate : MeshWorkQueueEntry) (inFlight : List InFlightOwnership)
    (prospectiveScope : Option PhysicalOwnershipScope) : List String :=
  if isTaskReadonly candidate then []
  else
    let scope := prospectiveScope.or (reproducedScope admission candidate)
    (inFlight.filter fun other =>
      other.taskId ≠ candidate.id &&
        ((other.ownershipScope.isSome && (heldScope admission other).isNone) ||
          physicalConflict scope (heldScope admission other))).map (·.taskId)

def provenScope (request : ClaimRequest) (candidate : MeshWorkQueueEntry) :
    Option PhysicalOwnershipScope :=
  (proofFor admission.toClaimServices request candidate).bind (·.toOption)

def ownedPathsAllows (services : Services) (request : ClaimRequest)
    (rows : List MeshWorkQueueEntry) (candidate : MeshWorkQueueEntry) : Bool :=
  (findTaskOwnedPathsConflicts admission candidate
    (readInFlightOwnershipMeshWide admission services rows)
    (provenScope admission request candidate)).isEmpty

/-- A review row reads the worktree that the session would write in. -/
def leasesCheckout (request : ClaimRequest) (reader : MeshWorkQueueEntry) : Bool :=
  (admission.reviewInputScope reader).any fun scope =>
    meshNodeIdMatches scope.nodeId request.nodeId ||
      request.physicalContext.any fun context =>
        match admission.realpath context.workspace with
        | some worktree => worktree == scope.worktree
        | none => true

def nodeConflictAllows (services : Services) (request : ClaimRequest)
    (rows : List MeshWorkQueueEntry) (candidate : MeshWorkQueueEntry) : Bool :=
  isTaskReadonly candidate || candidate.light ||
    (!hasActiveNodeWriteAssignment services rows request.nodeId &&
      !(assignedRowsMeshWide services rows).any (leasesCheckout admission request))

def claimServices (services : Services) (options : ClaimOptions) (request : ClaimRequest) :
    ClaimServices :=
  { admission.toClaimServices with
    expandDaemonIdForms := fun nodeId => MeshShared.expandDaemonIdForms [nodeId]
    passes := fun gate rows candidate =>
      match gate with
      | .parallelCapReached =>
        providerCapAllows services options request rows candidate &&
          admission.passes .parallelCapReached rows candidate
      | .nodeBusyWithActiveAssignment =>
        nodeConflictAllows admission services request rows candidate
      | .ownedPathsConflict => ownedPathsAllows admission services request rows candidate
      | gate => admission.passes gate rows candidate }

end Ownership

end Adhdev.TaskQueue
