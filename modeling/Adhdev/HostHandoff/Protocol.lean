import Adhdev.Foundation.KeyedMap
import Adhdev.HostHandoff.Certificate

/-! # What the two sides of a host handoff exchange and journal

`host-handoff/types.ts` and `host-handoff/ports.ts`, for one project. Daemon ids
are in canonical form, so that equivalent ids are equal. -/

namespace Adhdev.HostHandoff

abbrev HandoffId := String
abbrev DaemonId := String

inductive SourcePhase
  | preflight | freezing | frozen | exporting | exported | awaitingAck | acked
  | activating | committed | aborted | uncertain
  deriving DecidableEq

inductive TargetPhase
  | importing | staged | verified | acked | activating | active | discarded
  deriving DecidableEq

inductive ErrorCode
  | handoffInProgress | notHost | targetNotMember | targetOffline | targetIsSelf
  | peerCapabilityUnconfirmed | insufficientDisk | targetNotLaunchable
  | writerCheckpointPending | coordinatorNotQuiescent
  | chunkHashMismatch | manifestMismatch | ackMismatch | verifyFailed
  | handoffAborted | handoffUnknown | wrongPeer | staleEpoch | abortRequiresTargetConfirmation
  | alreadyCommitted | notStaged | activateFailed | invalidArgs | holdFailed
  | statePreservationUnverified | hostKeyUnpinned | hostKeyMismatch
  | memberProtocolUnsupported | snapshotConflict | certificateInvalid
  deriving DecidableEq

/-- Why a record ended. A refusal of the peer keeps its code. -/
inductive AbortReason
  | holdFailed | writerCheckpointPending | freezeTimeout | certificateUnavailable
  | meshUnreadable | exportFailed | refused (code : ErrorCode) | transferInterrupted
  | ackMismatch | ackTimeout | targetDiscarded | sourceRestarted | ownerAbort
  | verify (code : ErrorCode) | reverify (code : ErrorCode) | snapshotConflict
  | ackRefused (code : Option ErrorCode) | targetReadinessFailed | applyRolledBack
  | sourceDiscard | stageTtl

structure HandoffLaunchPlan where
  provider : String
  model : Option String := none
  thinkingLevel : Option String := none
  targetNodeId : Option String := none
  deriving DecidableEq

/-- `contents` is the state of the host-owned tables the snapshot was cut from,
as the number of writes admitted to them. A digest determines the manifest it is
taken of, so that the manifest stands for its digest. -/
structure HandoffManifest where
  handoffId : HandoffId
  fromDaemonId : DaemonId
  toDaemonId : DaemonId
  hostEpoch : Int
  nextEpoch : Int
  launchPlan : Option HandoffLaunchPlan := none
  contents : Nat
  rowCounts : List (String × Nat) := []
  chunks : List Nat := []
  deriving DecidableEq

structure HandoffAck where
  handoffId : HandoffId
  epoch : Int
  manifestDigest : HandoffManifest
  rowCounts : List (String × Nat)
  targetDaemonId : DaemonId
  coordinatorLaunchable : Bool
  deriving DecidableEq

/-- The verbs the source sends. The sender and the project are the same in all of
them. The hash of a chunk is given by its place and the contents it is cut from. -/
inductive Request
  | manifest (handoffId : HandoffId) (manifest : HandoffManifest)
  | chunk (handoffId : HandoffId) (seq contents : Nat)
  | seal (handoffId : HandoffId)
  | activate (handoffId : HandoffId) (epoch : Int) (certificate : HostTransferCertificate)
  | status (handoffId : HandoffId)
  | discard (handoffId : HandoffId)
  deriving DecidableEq

structure PeerResult where
  success : Bool
  code : Option ErrorCode := none
  applied : Option Bool := none
  discarded : Bool := false
  duplicate : Bool := false
  unknown : Bool := false
  phase : Option TargetPhase := none
  epoch : Option Int := none
  have_ : List Nat := []
  coordinatorReady : Bool := false
  deriving DecidableEq

def fail (code : ErrorCode) : PeerResult := { success := false, code := some code }

/-! ## Durable marks of a project -/

inductive HostRole
  | host | member
  deriving DecidableEq

/-- `handoffFence` of the project's host metadata. -/
structure HandoffFence where
  handoffId : HandoffId
  epoch : Int

/-- A row of `mesh_host_write_fences`; `history` is its mode after a commit. -/
structure WriteFence where
  handoffId : HandoffId
  epoch : Int
  history : Bool := false

/-- What the ports and the journal throw. -/
inductive Fault
  | notJournalled | fenceStorageUnavailable | anotherHandoffHoldsFence | fenceIdentityChanged
  | writeFenceBelongsToAnother | writeFenceIdentityChanged | lost | unavailable

/-- `acquireHandoffWriteFence`. -/
def acquireWriteFence (current : Option WriteFence) (handoffId : HandoffId) (epoch : Int) :
    Except Fault (Option WriteFence) :=
  match current with
  | some held =>
    if held.handoffId ≠ handoffId ∧ ¬ (held.history = true ∧ epoch > held.epoch) then
      .error .writeFenceBelongsToAnother
    else .ok (some { handoffId, epoch })
  | none => .ok (some { handoffId, epoch })

/-- `releaseHandoffWriteFence`. -/
def releaseWriteFence (current : Option WriteFence) (handoffId : HandoffId) (history : Bool) :
    Except Fault (Option WriteFence) :=
  match current with
  | none => .ok none
  | some held =>
    if held.handoffId ≠ handoffId then .error .writeFenceIdentityChanged
    else if history then .ok (some { held with history := true })
    else .ok none

/-- The fence that `setFence` leaves, before the write fence is released. -/
def exchangeFence (prior fence : Option HandoffFence) (expectedHandoffId : HandoffId) :
    Except Fault (Option HandoffFence) :=
  match fence, prior with
  | some new, some held =>
    if held.handoffId ≠ new.handoffId then .error .anotherHandoffHoldsFence else .ok (some new)
  | none, some held =>
    if held.handoffId ≠ expectedHandoffId then .error .fenceIdentityChanged else .ok none
  | fence, none => .ok fence

section FenceLemmas

variable {handoffId : HandoffId} {epoch : Int}

variable {current next : Option WriteFence}

theorem acquireWriteFence_ok (result : acquireWriteFence current handoffId epoch = .ok next) :
    (current.map (·.handoffId) = none ∨ current.map (·.handoffId) = some handoffId ∨
      current.any (·.history) = true) ∧ next = some { handoffId, epoch } := by
  cases current with
  | none => simpa [acquireWriteFence] using result.symm
  | some held =>
    simp only [acquireWriteFence] at result
    split_ifs at result with other
    refine ⟨?_, by simpa using result.symm⟩
    by_cases same : held.handoffId = handoffId
    · exact .inr (.inl (congrArg some same))
    have history : held.history = true := by
      by_contra notHistory
      exact other ⟨same, fun both => notHistory both.1⟩
    exact .inr (.inr (by simpa using history))

theorem releaseWriteFence_ok {history : Bool}
    (result : releaseWriteFence current handoffId history = .ok next) :
    (current.map (·.handoffId) = none ∨ current.map (·.handoffId) = some handoffId) ∧
      next.map (·.handoffId) = (if history then current.map (·.handoffId) else none) ∧
      next.any (·.history) = (if history then current.isSome else false) := by
  cases current with
  | none =>
    simp only [releaseWriteFence, Except.ok.injEq] at result
    subst result
    simp
  | some held =>
    simp only [releaseWriteFence] at result
    split_ifs at result with other keeps
    all_goals
      simp only [Except.ok.injEq] at result
      subst result
      rw [not_not] at other
      simp [other, keeps]

theorem exchangeFence_none {prior next : Option HandoffFence}
    (result : exchangeFence prior none handoffId = .ok next) :
    (prior.map (·.handoffId) = none ∨ prior.map (·.handoffId) = some handoffId) ∧ next = none := by
  cases prior with
  | none => simpa [exchangeFence] using result.symm
  | some held =>
    simp only [exchangeFence] at result
    split_ifs at result with other
    rw [not_not] at other
    exact ⟨.inr (congrArg some other), by simpa using result.symm⟩

theorem exchangeFence_some {fence : HandoffFence} {prior next : Option HandoffFence}
    (result : exchangeFence prior (some fence) handoffId = .ok next) :
    (prior.map (·.handoffId) = none ∨ prior.map (·.handoffId) = some fence.handoffId) ∧
      next = some fence := by
  cases prior with
  | none => simpa [exchangeFence] using result.symm
  | some held =>
    simp only [exchangeFence] at result
    split_ifs at result with other
    rw [not_not] at other
    exact ⟨.inr (congrArg some other), by simpa using result.symm⟩

end FenceLemmas

/-- The keys and the identities of one project's daemons. -/
structure Setting where
  meshId : String
  source : DaemonId
  keys : KeyScheme
  sign : HostTransferCertificate → String
  publicKey : DaemonId → String

end Adhdev.HostHandoff
