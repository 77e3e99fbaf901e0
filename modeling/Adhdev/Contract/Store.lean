import Adhdev.Foundation.Transaction
import Adhdev.MeshShared.DaemonIds

/-! # The contract store

The tables of the private contract database, the fence file beside it and what a call of
the contract modules finds around it. Times are epoch milliseconds.
-/

namespace Adhdev.Contract

open Call MeshShared

inductive AuthorityStatus
  | active | pausedTransfer | requiresOwnerRecovery | transferredAway
  deriving DecidableEq

inductive ContractImpact
  | nonbreaking | breaking
  deriving DecidableEq

inductive ContractGrantOp
  | propose | review | accept | assign | assess | revoke
  deriving DecidableEq

inductive LateReportMode
  | preparedProvenanceQuarantine | refusalLocalOnly
  deriving DecidableEq

structure ContractPolicy where
  delegateNonbreaking : Bool := true
  delegateBreaking : Bool := false
  reviewerQuorum : ℚ := 1
  requireIndependentReviewer : Bool := true
  rotationOverlapMs : Int := 0
  lateReportMode : LateReportMode := .preparedProvenanceQuarantine
  deriving DecidableEq

/-- The fields that a call changes. -/
structure PolicyPatch where
  delegateNonbreaking : Option Bool := none
  delegateBreaking : Option Bool := none
  reviewerQuorum : Option ℚ := none
  requireIndependentReviewer : Option Bool := none
  rotationOverlapMs : Option Int := none
  lateReportMode : Option LateReportMode := none

def ContractPolicy.patched (policy : ContractPolicy) (patch : PolicyPatch) : ContractPolicy where
  delegateNonbreaking := patch.delegateNonbreaking.getD policy.delegateNonbreaking
  delegateBreaking := patch.delegateBreaking.getD policy.delegateBreaking
  reviewerQuorum := patch.reviewerQuorum.getD policy.reviewerQuorum
  requireIndependentReviewer :=
    patch.requireIndependentReviewer.getD policy.requireIndependentReviewer
  rotationOverlapMs := patch.rotationOverlapMs.getD policy.rotationOverlapMs
  lateReportMode := patch.lateReportMode.getD policy.lateReportMode

section Rows

structure AuthorityRow where
  namespaceId : String
  meshId : String
  ownerPrincipal : String
  authorityDaemonId : String
  authorityEpoch : Nat
  processIncarnation : Nat
  policyRevision : Nat
  policy : ContractPolicy
  revocationGeneration : Nat
  status : AuthorityStatus
  deriving DecidableEq

structure HeadRow where
  namespaceId : String
  authorityEpoch : Nat
  headGeneration : Nat
  revisionId : Option String
  policyRevision : Nat
  deriving DecidableEq

structure HeadLogRow where
  namespaceId : String
  headGeneration : Nat
  authorityEpoch : Nat
  revisionId : Option String
  priorRevisionId : Option String
  policyRevision : Nat
  acceptanceId : String
  deriving DecidableEq

inductive NormativeType
  | contract | apiSchema | guide
  deriving DecidableEq

structure Gitlink where
  path : String
  childRepoBindingId : String
  childCommitOid : String
  deriving DecidableEq

structure ContractSourceEntry where
  repoBindingId : String
  hashAlgorithm : String
  commitOid : String
  gitlinks : List Gitlink
  path : String
  blobOid : String
  mode : String
  byteLength : Nat
  sha256 : String
  deriving DecidableEq

structure ContractUnit where
  unitId : String
  digest : String
  byteLength : Nat
  mediaType : String
  normativeType : NormativeType
  applicationApiVersion : Option String
  dependsOn : List String
  roles : List String
  sources : List ContractSourceEntry
  deriving DecidableEq

structure ContractRevisionManifest where
  namespaceId : String
  predecessorRevisionId : Option String
  impact : ContractImpact
  units : List ContractUnit
  deriving DecidableEq

structure RevisionRow where
  revisionId : String
  namespaceId : String
  manifest : ContractRevisionManifest
  deriving DecidableEq

structure UnitRow where
  revisionId : String
  unitId : String
  unitDigest : String
  deriving DecidableEq

structure SpoolRow where
  digest : String
  byteLength : Nat
  /-- Absent once purged. -/
  body : Option (List UInt8)
  gcGeneration : Nat
  deriving DecidableEq

inductive ProposalStatus
  | opened | superseded | accepted | rejected | withdrawn
  deriving DecidableEq

structure ProposalRow where
  proposalId : String
  proposalVersion : Nat
  namespaceId : String
  baseEpoch : Nat
  baseHeadGeneration : Nat
  baseRevisionId : Option String
  basePolicyRevision : Nat
  candidateRevisionId : String
  impact : ContractImpact
  authorPrincipal : String
  status : ProposalStatus
  closedAt : Option Int
  deriving DecidableEq

inductive ReviewVerdict
  | approve | reject
  deriving DecidableEq

structure ReviewRow where
  reviewId : String
  proposalId : String
  proposalVersion : Nat
  candidateRevisionId : String
  baseHeadGeneration : Nat
  baseRevisionId : Option String
  policyRevision : Nat
  reviewerPrincipal : String
  verdict : ReviewVerdict
  deriving DecidableEq

structure ContractHeadVector where
  namespaceId : String
  authorityEpoch : Nat
  headGeneration : Nat
  revisionId : Option String
  policyRevision : Nat
  revocationGeneration : Nat
  deriving DecidableEq

structure IdempotencyRow where
  namespaceId : String
  idemKey : String
  requestDigest : String
  acceptanceId : String
  vector : ContractHeadVector
  createdAt : Int
  deriving DecidableEq

inductive NoticeClass
  | headAdvanced | revisionRevoked
  deriving DecidableEq

structure OutboxRow where
  acceptanceId : String
  namespaceId : String
  authorityEpoch : Nat
  headGeneration : Nat
  revisionId : Option String
  noticeClass : NoticeClass
  deriving DecidableEq

structure GrantRow where
  grantId : String
  namespaceId : String
  verifier : String
  coordinatorSessionId : String
  authorityDaemonId : String
  authorityEpoch : Nat
  processIncarnation : Nat
  grantGeneration : Nat
  ops : List ContractGrantOp
  maxImpact : ContractImpact
  expiresAt : Int
  overlapUntil : Option Int
  revokedAt : Option Int
  revokeReason : Option String
  deriving DecidableEq

inductive GuardState
  | active | finished | released | unknown
  deriving DecidableEq

structure UseGuardRow where
  guardId : String
  namespaceId : String
  units : List String
  state : GuardState
  processIncarnation : Nat
  deriving DecidableEq

structure PinEntry where
  revisionId : String
  unitId : String
  unitDigest : String
  byteLength : Nat
  deriving DecidableEq

structure PinSetRow where
  pinSetId : String
  namespaceId : String
  vector : ContractHeadVector
  pins : List PinEntry
  deriving DecidableEq

inductive BindingState
  | active | superseded | revoked
  deriving DecidableEq

structure BindingRow where
  bindingId : String
  meshId : String
  taskId : String
  attemptId : String
  generation : Int
  namespaceId : String
  recipientSessionId : String
  pinSetId : String
  blockDigest : String
  state : BindingState
  linkedFromBindingId : Option String
  admittedAt : Int
  deriving DecidableEq

structure MissionScopeRow where
  meshId : String
  missionId : String
  namespaceId : String
  units : List String
  strict : Bool
  deriving DecidableEq

structure TaskScopeRow where
  meshId : String
  taskId : String
  namespaceId : String
  units : List String
  strict : Bool
  deriving DecidableEq

structure QuarantineRow where
  quarantineId : String
  deliveryId : String
  payloadDigest : String
  bodyDigest : String
  deriving DecidableEq

end Rows

structure ContractDb where
  protocolVersion : Nat := 1
  gcGeneration : Nat := 0
  authorities : List AuthorityRow := []
  heads : List HeadRow := []
  headLog : List HeadLogRow := []
  revisions : List RevisionRow := []
  units : List UnitRow := []
  /-- The namespace and the revision. -/
  revokedRevisions : List (String × String) := []
  spool : List SpoolRow := []
  tombstones : List String := []
  proposals : List ProposalRow := []
  reviews : List ReviewRow := []
  idempotency : List IdempotencyRow := []
  outbox : List OutboxRow := []
  grants : List GrantRow := []
  useGuards : List UseGuardRow := []
  pinSets : List PinSetRow := []
  bindings : List BindingRow := []
  missionScopes : List MissionScopeRow := []
  taskScopes : List TaskScopeRow := []
  quarantine : List QuarantineRow := []
  deriving DecidableEq

/-- The database and the fence file. -/
structure ContractStore where
  db : ContractDb := {}
  fence : List (String × Nat) := []

inductive ContractRefusal
  | unauthenticated | notOwner | notAuthorized
  | capabilityInvalid | capabilityExpired | capabilityRevoked | scopeMismatch
  | notEnrolled | authorityPaused | authorityRequiresRecovery
  | headConflict (current : Option ContractHeadVector)
  | idempotencyConflict | reviewMissing | reviewStale | reviewNotIndependent
  | impactRequiresOwner | proposalNotOpen | proposalNotFound
  | sourceUnavailable | budgetExceeded | quotaExceeded | useGuardConflict
  | pinBlockOverBudget | strictParticipantUnsupported | storeVersionUnsupported
  | invalidInput | notFound | unavailable
  /-- A row with this key exists. -/
  | uniqueConstraint
  /-- The fence file cannot be written, or the process ends before it is. -/
  | fenceNotWritten
  | sourceReader (message : String)
  /-- A property of a head that is not there is read. -/
  | noHead
  deriving DecidableEq

inductive ContractPrincipal
  | owner (principalId : String)
  | coordinator (grantId namespaceId sessionId : String) (ops : List ContractGrantOp)
      (maxImpact : ContractImpact)
  | worker (meshId taskId attemptId : String) (generation : Int) (sessionId : String)
  deriving DecidableEq

structure Presented where
  principal : ContractPrincipal
  issued : Bool := true

structure ContractExpectedHead where
  authorityEpoch : Nat
  headGeneration : Nat
  revisionId : Option String
  policyRevision : Nat

structure AcceptRequest where
  proposalId : String
  proposalVersion : Nat
  candidate : String
  expected : ContractExpectedHead

structure ContractBudgets where
  maxUnitsPerRevision : Nat := 32
  maxRevisionBytes : Nat := 256 * 1024
  maxDirectTaskPins : Nat := 8
  maxPinBlockBytes : Nat := 1024
  maxSpoolBytes : Nat := 64 * 1024 * 1024
  maxQuarantineBodyBytes : Nat := 64 * 1024
  maxQuarantineBytes : Nat := 16 * 1024 * 1024
  closedProposalRetentionMs : Int := 90 * 24 * 60 * 60 * 1000
  tombstoneRetentionMs : Int := 30 * 24 * 60 * 60 * 1000
  capabilityTtlMs : Int := 24 * 60 * 60 * 1000

/-- What one daemon gives to every call. -/
structure ContractCtx where
  localDaemonId : String
  budgets : ContractBudgets := {}
  sha256Bytes : List UInt8 → String
  hashCapability : String → String
  computeRevisionId : ContractRevisionManifest → String
  digestOfRequest : AcceptRequest → String
  computePinSetDigest : ContractHeadVector → List PinEntry → String

/-- What a call finds at its time: the clock, the ids that it draws for each prefix, and
the first of its fence writes that fails. -/
structure CallEnv where
  now : Int
  newId : String → String
  fenceFails : Option Nat := none

def contractProtocolVersion : Nat := 1

variable {α : Type}

def refuseIf (condition : Prop) [Decidable condition] (refusal : ContractRefusal) :
    Call ContractStore ContractRefusal Unit :=
  if condition then throwing refusal else answer ()

def changeDb (change : ContractDb → ContractDb) : Call ContractStore ContractRefusal Unit :=
  Call.modify fun store => { store with db := change store.db }

/-- `INSERT` into a table that has no row with the same key. -/
def insertUnless (taken : ContractDb → Bool) (change : ContractDb → ContractDb) :
    Call ContractStore ContractRefusal Unit := do
  let found ← inspect fun store => taken store.db
  refuseIf (found = true) .uniqueConstraint
  changeDb change

namespace ContractStore

def readFence (store : ContractStore) (namespaceId : String) : Option Nat :=
  store.fence.lookup namespaceId

def writeFence (store : ContractStore) (namespaceId : String) (authorityEpoch : Nat) :
    ContractStore :=
  if authorityEpoch ≤ (store.readFence namespaceId).getD 0 then store
  else
    { store with
      fence := (namespaceId, authorityEpoch) :: store.fence.filter (·.1 ≠ namespaceId) }

end ContractStore

def fenceWrite (env : CallEnv) (number : Nat) (namespaceId : String) (authorityEpoch : Nat) :
    Call ContractStore ContractRefusal Unit := do
  refuseIf (env.fenceFails = some number) .fenceNotWritten
  Call.modify (·.writeFence namespaceId authorityEpoch)

section Answers

variable {store later : ContractStore}

variable {refusal : ContractRefusal} {done : Unit}

@[simp] theorem refuseIf_ok_iff {condition : Prop} [Decidable condition] :
    refuseIf condition refusal store = (.ok done, later) ↔ ¬ condition ∧ later = store := by
  by_cases holds : condition <;> simp [refuseIf, holds]

variable {change : ContractDb → ContractDb}

@[simp] theorem changeDb_ok_iff :
    changeDb change store = (.ok done, later) ↔ later = { store with db := change store.db } := by
  simp [changeDb]

variable {taken : ContractDb → Bool}

@[simp] theorem insertUnless_ok_iff : insertUnless taken change store = (.ok done, later) ↔
      taken store.db = false ∧ later = { store with db := change store.db } := by
  simp [insertUnless, bind_eq]

theorem readOnly_refuseIf (condition : Prop) [Decidable condition] (refusal : ContractRefusal) :
    ReadOnly (refuseIf condition refusal) := by
  intro store
  by_cases holds : condition <;> simp [refuseIf, holds, throwing, answer]

section Ends

variable {α : Type} {Post : Except ContractRefusal α → ContractStore → Prop}

variable {next : Unit → Call ContractStore ContractRefusal α}

theorem ends_bind_refuseIf {condition : Prop} [Decidable condition]
    (throws : condition → Post (.error refusal) store)
    (rest : ¬ condition → Ends (next ()) store Post) :
    Ends ((refuseIf condition refusal).andThen next) store Post := by
  by_cases holds : condition
  · rw [refuseIf, if_pos holds]
    exact throws holds
  · rw [refuseIf, if_neg holds]
    exact rest holds

theorem ends_bind_changeDb (rest : Ends (next ()) { store with db := change store.db } Post) :
    Ends ((changeDb change).andThen next) store Post := rest

theorem ends_insertUnless {Post : Except ContractRefusal Unit → ContractStore → Prop}
    (throws : taken store.db = true → Post (.error .uniqueConstraint) store)
    (rest : taken store.db = false → Post (.ok ()) { store with db := change store.db }) :
    Ends (insertUnless taken change) store Post := by
  refine ends_bind_inspect (ends_bind_refuseIf throws fun free => ?_)
  exact rest (Bool.eq_false_iff.mpr free)

theorem ends_bind_insertUnless
    (throws : taken store.db = true → Post (.error .uniqueConstraint) store)
    (rest : taken store.db = false → Ends (next ()) { store with db := change store.db } Post) :
    Ends ((insertUnless taken change).andThen next) store Post := by
  have inserts : Ends (insertUnless taken change) store fun result later =>
      (result = .error .uniqueConstraint ∧ taken store.db = true ∧ later = store) ∨
        (result = .ok () ∧ taken store.db = false ∧
          later = { store with db := change store.db }) :=
    ends_insertUnless (fun found => .inl ⟨rfl, found, rfl⟩) fun free => .inr ⟨rfl, free, rfl⟩
  refine ends_andThen inserts ?_ ?_
  · rintro refusal later (⟨refused, found, rfl⟩ | ⟨answered, -⟩)
    · cases refused
      exact throws found
    · cases answered
  rintro value later (⟨refused, -⟩ | ⟨-, free, rfl⟩)
  · cases refused
  · exact rest free

end Ends

theorem fenceWrite_failed {env : CallEnv} {number : Nat} (fails : env.fenceFails = some number)
    (namespaceId : String) (epoch : Nat) :
    fenceWrite env number namespaceId epoch store = (.error .fenceNotWritten, store) := by
  simp [fenceWrite, bind_eq, refuseIf, fails, throwing, andThen]

end Answers

def assertIssued (presented : Presented) : Except ContractRefusal ContractPrincipal :=
  if presented.issued then .ok presented.principal else .error .unauthenticated

def assertOwner (presented : Presented) : Except ContractRefusal String :=
  match assertIssued presented with
  | .error refusal => .error refusal
  | .ok (.owner principalId) => .ok principalId
  | .ok _ => .error .notOwner

end Adhdev.Contract
