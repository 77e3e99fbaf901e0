import Adhdev.Contract.BindingMoves

/-! # Result eligibility and use guards

`contract-assessment.ts` and `contract-use-guards.ts`: the evidence that is frozen for a result,
whether the result may be used, and the guards that a consumer opens for its units. The tables of
the evidence and the revalidations, and the columns of a guard that an acceptance does not read,
are kept beside the contract tables.
-/

namespace Adhdev.Contract

open Call MeshShared

inductive ContractUsePurpose
  | dependency | handoff | context | integrationAdmission | integrationLanding | missionClose
  deriving DecidableEq

inductive EvidenceMode
  | e2c1 | e2
  deriving DecidableEq

structure ContractResultRef where
  meshId : String
  taskId : String
  attemptId : String
  generation : Int
  outputVersion : Nat
  payloadDigest : String
  deriving DecidableEq

structure UnitEvidence where
  e2Full : Bool
  e2ReadIds : List String
  c1ClaimIds : List String
  deriving DecidableEq

structure EvidenceUnit where
  unitId : String
  unitDigest : String
  proof : UnitEvidence
  deriving DecidableEq

structure EvidenceRow where
  resultKey : String
  ref : ContractResultRef
  namespaceId : String
  bindingId : Option String
  pinSetId : Option String
  units : List EvidenceUnit
  quarantined : Bool
  createdAt : Int
  deriving DecidableEq

structure RevalidationRow where
  revalidationId : String
  resultKey : String
  purpose : ContractUsePurpose
  vector : ContractHeadVector
  waiver : Bool
  assessorPrincipal : String
  reason : String
  expiresAt : Option Int
  createdAt : Int

structure GuardDetail where
  guardId : String
  resultKeys : List String
  purpose : ContractUsePurpose
  vector : ContractHeadVector
  externalRef : Option (List (String × String))

/-- What the assessment finds in its context: the key of a result, and of a policy what no
other call reads. -/
structure GuardCtx where
  contract : ContractCtx
  resultKeyOf : ContractResultRef → String
  evidenceMode : AuthorityRow → EvidenceMode
  allowWaivers : AuthorityRow → Bool
  maxWaiverTtlMs : AuthorityRow → Int

structure GuardWorld where
  state : RetentionState := {}
  evidence : List EvidenceRow := []
  revalidations : List RevalidationRow := []
  details : List GuardDetail := []

def GuardWorld.db (world : GuardWorld) : ContractDb := world.state.store.db

def GuardWorld.withDb (world : GuardWorld) (change : ContractDb → ContractDb) : GuardWorld :=
  { world with
    state := { world.state with store := { world.state.store with db := change world.db } } }

section Evidence

variable (ctx : GuardCtx) (world : GuardWorld)

def getResultEvidence (resultKey : String) : Option EvidenceRow :=
  world.evidence.find? (·.resultKey = resultKey)

def snapshotBinding (db : ContractDb) (ref : ContractResultRef) (sessionId : Option String) :
    Option BindingRow :=
  ((listBindingsForTask db ref.meshId ref.taskId).filter fun row =>
    row.attemptId = ref.attemptId && row.generation = ref.generation &&
      (sessionId.filter (· ≠ "")).all (row.recipientSessionId = ·) &&
      row.state = .active).getLast?

def snapshotUnits (db : ContractDb) (observed : BindingRow → PinEntry → UnitEvidence)
    (binding : BindingRow) : List EvidenceUnit :=
  (((getPinSet db binding.pinSetId).map (·.pins)).getD []).map fun pin =>
    { unitId := pin.unitId, unitDigest := pin.unitDigest, proof := observed binding pin }

/-- `observed` is what the tables of the reads and the claims hold. -/
def recordResultEvidence (now : Int) (ref : ContractResultRef) (sessionId : Option String)
    (quarantined : Bool) (observed : BindingRow → PinEntry → UnitEvidence) : GuardWorld :=
  match getTaskScope world.db ref.meshId ref.taskId with
  | none => world
  | some scope =>
    let resultKey := ctx.resultKeyOf ref
    if (getResultEvidence world resultKey).isSome then world
    else
      let binding := if quarantined then none else snapshotBinding world.db ref sessionId
      let row : EvidenceRow :=
        { resultKey
          ref
          namespaceId := scope.namespaceId
          bindingId := binding.map (·.bindingId)
          pinSetId := binding.map (·.pinSetId)
          units := (binding.map (snapshotUnits world.db observed)).getD []
          quarantined
          createdAt := now }
      { world with evidence := world.evidence ++ [row] }

end Evidence

section Assessment

inductive ContractEligibilityState
  | compatOpen | eligible | waived | heldMissingEvidence | needsRevalidation | rejectedRevoked
  | rejectedIneligibleOrigin | unavailable
  deriving DecidableEq

def usable : ContractEligibilityState → Bool
  | .eligible | .waived | .compatOpen => true
  | _ => false

structure ContractEligibility where
  state : ContractEligibilityState
  reasons : List String
  resultKey : String
  namespaceId : Option String
  vector : Option ContractHeadVector
  deriving DecidableEq

variable (ctx : GuardCtx) (world : GuardWorld) (now : Int)

def vectorsEqual (one two : ContractHeadVector) : Bool :=
  one.namespaceId = two.namespaceId && one.authorityEpoch = two.authorityEpoch &&
    one.headGeneration = two.headGeneration && one.revisionId = two.revisionId &&
    one.policyRevision = two.policyRevision

def matchingRevalidation (resultKey : String) (purpose : ContractUsePurpose)
    (vector : ContractHeadVector) : Option RevalidationRow :=
  ((world.revalidations.filter fun row =>
    row.resultKey = resultKey && row.purpose = purpose).insertionSort
      fun one two => two.createdAt ≤ one.createdAt).find? fun row =>
    row.vector.authorityEpoch = vector.authorityEpoch &&
      row.vector.headGeneration = vector.headGeneration &&
      row.vector.revisionId = vector.revisionId &&
      row.vector.policyRevision = vector.policyRevision &&
      row.vector.revocationGeneration = vector.revocationGeneration &&
      row.expiresAt.all (now < ·)

def isRevisionRevoked (db : ContractDb) (namespaceId : String) (revisionId : Option String) :
    Bool :=
  (revisionId.filter (· ≠ "")).any fun revisionId =>
    db.revokedRevisions.any (· = (namespaceId, revisionId))

def missingEvidence (mode : EvidenceMode) (units : List EvidenceUnit) : List String :=
  let missing := units.flatMap fun unit =>
    (if unit.proof.e2Full then [] else ["missing_e2:" ++ unit.unitId]) ++
      if mode = .e2c1 ∧ unit.proof.c1ClaimIds = [] then ["missing_c1:" ++ unit.unitId] else []
  if units = [] then missing ++ ["no_pinned_units"] else missing

def assessEvidence (evidence : EvidenceRow) (authority : AuthorityRow)
    (vector : ContractHeadVector) (purpose : ContractUsePurpose) : ContractEligibility :=
  let out (state : ContractEligibilityState) (reasons : List String) : ContractEligibility :=
    { state
      reasons
      resultKey := evidence.resultKey
      namespaceId := some evidence.namespaceId
      vector := some vector }
  match evidence.pinSetId.bind (getPinSet world.db) with
  | none => out .heldMissingEvidence ["binding_missing"]
  | some pinSet =>
    let mode := ctx.evidenceMode authority
    let revalidation := matchingRevalidation world now evidence.resultKey purpose vector
    let missing := missingEvidence mode evidence.units
    if isRevisionRevoked world.db evidence.namespaceId pinSet.vector.revisionId then
      out .rejectedRevoked ["pinned_revision_revoked"]
    else if pinSet.pins.any fun pin => pin.unitDigest ∈ world.db.tombstones then
      out .unavailable ["unit_purged"]
    else if revalidation.any (·.waiver) then out .waived ["scoped_waiver"]
    else if missing ≠ [] then out .heldMissingEvidence missing
    else if vectorsEqual pinSet.vector vector then
      out .eligible (if mode = .e2 then ["served_bytes_only"] else [])
    else if revalidation.any (!·.waiver) then out .eligible ["revalidated"]
    else out .needsRevalidation ["head_changed"]

def assessResultEligibility (resultKey : String) (purpose : ContractUsePurpose) :
    Except ContractRefusal ContractEligibility :=
  let out (state : ContractEligibilityState) (reasons : List String)
      (namespaceId : Option String) : ContractEligibility :=
    { state, reasons, resultKey, namespaceId, vector := none }
  match getResultEvidence world resultKey with
  | none => .ok (out .heldMissingEvidence ["evidence_pending"] none)
  | some evidence =>
    if evidence.quarantined then
      .ok (out .rejectedIneligibleOrigin ["quarantine_origin"] (some evidence.namespaceId))
    else
      match authorityReadable ctx.contract world.db evidence.namespaceId with
      | none => .ok (out .unavailable ["authority_unavailable"] (some evidence.namespaceId))
      | some authority =>
        match currentHeadVector world.db evidence.namespaceId with
        | none => .error .noHead
        | some vector => .ok (assessEvidence ctx world now evidence authority vector purpose)

inductive RevalidationRefusal
  | contract (refusal : ContractRefusal)
  | ineligibleOrigin | revoked | waiverNotAllowed
  | vectorMismatch (current : ContractHeadVector)

structure RevalidateInput where
  resultKey : String
  purpose : ContractUsePurpose
  expectedVector : ContractHeadVector
  waiver : Bool
  reason : String
  expiresAt : Option Int

def ContractPrincipal.principalId : ContractPrincipal → String
  | .owner principalId => principalId
  | .coordinator grantId _ sessionId _ _ => "coordinator:" ++ sessionId ++ "#" ++ grantId
  | .worker _ _ _ _ sessionId => "worker:" ++ sessionId

def checkRevalidation (env : CallEnv) (presented : Presented) (input : RevalidateInput) :
    Except RevalidationRefusal RevalidationRow :=
  match assertIssued presented with
  | .error refusal => .error (.contract refusal)
  | .ok principal =>
    if isWorker principal then .error (.contract .notAuthorized)
    else
      match getResultEvidence world input.resultKey with
      | none => .error (.contract .notFound)
      | some evidence =>
        match recheckPrincipal ctx.contract env world.db presented evidence.namespaceId .assess with
        | .error refusal => .error (.contract refusal)
        | .ok authority =>
          if evidence.quarantined then .error .ineligibleOrigin
          else if ((evidence.pinSetId.bind (getPinSet world.db)).any fun pinSet =>
              isRevisionRevoked world.db evidence.namespaceId pinSet.vector.revisionId) then
            .error .revoked
          else
            match currentHeadVector world.db evidence.namespaceId with
            | none => .error (.contract .noHead)
            | some vector =>
              if ¬ vectorsEqual vector input.expectedVector ∨
                  input.expectedVector.revocationGeneration ≠ vector.revocationGeneration then
                .error (.vectorMismatch vector)
              else if trim input.reason = "" ∨ 512 < utf16Length input.reason then
                .error (.contract .invalidInput)
              else if input.waiver ∧ ¬ ctx.allowWaivers authority then .error .waiverNotAllowed
              else if input.waiver ∧ ¬ input.expiresAt.any (fun expiresAt =>
                  expiresAt ≤ maxSafeInteger ∧ env.now < expiresAt ∧
                    expiresAt ≤ env.now + ctx.maxWaiverTtlMs authority) then
                .error (.contract .invalidInput)
              else
                .ok
                  { revalidationId := env.newId "rvl"
                    resultKey := input.resultKey
                    purpose := input.purpose
                    vector
                    waiver := input.waiver
                    assessorPrincipal := principal.principalId
                    reason := trim input.reason
                    expiresAt := if input.waiver then input.expiresAt else none
                    createdAt := env.now }

def revalidateResult (env : CallEnv) (presented : Presented) (input : RevalidateInput) :
    GuardWorld :=
  match checkRevalidation ctx world env presented input with
  | .error _ => world
  | .ok row =>
    if row.revalidationId ∈ world.revalidations.map (·.revalidationId) then world
    else { world with revalidations := world.revalidations ++ [row] }

end Assessment

section Guards

variable (ctx : GuardCtx) (world : GuardWorld)

structure GuardedUse where
  namespaceId : String
  resultKeys : List String
  purpose : ContractUsePurpose

def guardedUnits (resultKeys : List String) : List String :=
  let units := resultKeys.flatMap fun resultKey =>
    (((getResultEvidence world resultKey).map (·.units)).getD []).map (·.unitId)
  sortTexts units.eraseDups

def guardRowOf (env : CallEnv) (input : GuardedUse) (authority : AuthorityRow) : UseGuardRow where
  guardId := env.newId "guard"
  namespaceId := input.namespaceId
  units := guardedUnits world input.resultKeys
  state := .active
  processIncarnation := authority.processIncarnation

def decisionsOf (now : Int) (input : GuardedUse) :
    Except ContractRefusal (List ContractEligibility) :=
  input.resultKeys.mapM fun resultKey =>
    assessResultEligibility ctx world now resultKey input.purpose

def allUsable (decisions : List ContractEligibility) : Bool :=
  decisions.all fun decision => usable decision.state

def openedGuard (env : CallEnv) (input : GuardedUse) : Option (UseGuardRow × GuardDetail) :=
  match decisionsOf ctx world env.now input with
  | .error _ => none
  | .ok decisions =>
    if ¬ allUsable decisions then none
    else
      match getAuthority world.db input.namespaceId,
          currentHeadVector world.db input.namespaceId with
      | some authority, some vector =>
        if world.db.useGuards.any (·.guardId = env.newId "guard") then none
        else
          some (guardRowOf world env input authority,
            { guardId := env.newId "guard"
              resultKeys := input.resultKeys
              purpose := input.purpose
              vector
              externalRef := none })
      | _, _ => none

def beginGuardedUse (env : CallEnv) (input : GuardedUse) : GuardWorld :=
  match openedGuard ctx world env input with
  | none => world
  | some (guardRow, detail) =>
    { world.withDb fun db => { db with useGuards := db.useGuards ++ [guardRow] } with
      details := world.details ++ [detail] }

def getUseGuard (db : ContractDb) (guardId : String) : Option UseGuardRow :=
  db.useGuards.find? (·.guardId = guardId)

def mergedRef (held given : Option (List (String × String))) : Option (List (String × String)) :=
  match given with
  | none => held
  | some entries =>
    some ((held.getD []).filter (fun entry => entry.1 ∉ entries.map (·.1)) ++ entries)

/-- `setState`. -/
def setGuardState (guardId : String) (sources : List GuardState) (target : GuardState)
    (externalRef : Option (List (String × String))) : GuardWorld :=
  match getUseGuard world.db guardId with
  | none => world
  | some row =>
    if row.state ∉ sources then world
    else
      { world.withDb fun db =>
          { db with useGuards := db.useGuards.map fun row =>
              if row.guardId = guardId then { row with state := target } else row } with
        details := world.details.map fun detail =>
          if detail.guardId = guardId then
            { detail with externalRef := mergedRef detail.externalRef externalRef }
          else detail }

def recordGuardIntent (guardId : String) (externalRef : List (String × String)) : GuardWorld :=
  setGuardState world guardId [.active] .active (some externalRef)

inductive GuardOutcome
  | published | aborted
  deriving DecidableEq

def finishUseGuard (guardId : String) (outcome : GuardOutcome)
    (externalRef : Option (List (String × String))) : GuardWorld :=
  setGuardState world guardId [.active]
    (if outcome = .published then .finished else .released) externalRef

def markUseGuardUnknown (guardId : String) (externalRef : Option (List (String × String))) :
    GuardWorld :=
  setGuardState world guardId [.active, .unknown] .unknown externalRef

inductive ProbeVerdict
  | landed | notLanded | indeterminate

/-- A probe that throws is indeterminate. -/
def reconcileUnknownUseGuard (guardId : String)
    (probe : Option (List (String × String)) → ProbeVerdict) : GuardWorld :=
  match getUseGuard world.db guardId with
  | none => world
  | some row =>
    if row.state ≠ .unknown then world
    else
      match probe ((world.details.find? (·.guardId = guardId)).bind (·.externalRef)) with
      | .landed => setGuardState world guardId [.unknown] .finished none
      | .notLanded => setGuardState world guardId [.unknown] .released none
      | .indeterminate => world

end Guards

/-! ## Steps -/

inductive GuardEvent
  | call (env : CallEnv) (call : RetentionCall)
  | recordResultEvidence (now : Int) (ref : ContractResultRef) (sessionId : Option String)
      (quarantined : Bool) (observed : BindingRow → PinEntry → UnitEvidence)
  | revalidateResult (env : CallEnv) (presented : Presented) (input : RevalidateInput)
  | beginGuardedUse (env : CallEnv) (input : GuardedUse)
  | recordGuardIntent (guardId : String) (externalRef : List (String × String))
  | finishUseGuard (guardId : String) (outcome : GuardOutcome)
      (externalRef : Option (List (String × String)))
  | markUseGuardUnknown (guardId : String) (externalRef : Option (List (String × String)))
  | reconcileUnknownUseGuard (guardId : String)
      (probe : Option (List (String × String)) → ProbeVerdict)

def GuardWorld.perform (ctx : ContractCtx) (world : GuardWorld) (env : CallEnv)
    (call : RetentionCall) : GuardWorld :=
  { world with state := (retentionMachine ctx).respond world.state { env, call } }

def GuardWorld.step (ctx : GuardCtx) (world : GuardWorld) : GuardEvent → GuardWorld
  | .call env call => world.perform ctx.contract env call
  | .recordResultEvidence now ref sessionId quarantined observed =>
    Contract.recordResultEvidence ctx world now ref sessionId quarantined observed
  | .revalidateResult env presented input => Contract.revalidateResult ctx world env presented input
  | .beginGuardedUse env input => Contract.beginGuardedUse ctx world env input
  | .recordGuardIntent guardId externalRef => Contract.recordGuardIntent world guardId externalRef
  | .finishUseGuard guardId outcome externalRef =>
    Contract.finishUseGuard world guardId outcome externalRef
  | .markUseGuardUnknown guardId externalRef =>
    Contract.markUseGuardUnknown world guardId externalRef
  | .reconcileUnknownUseGuard guardId probe => Contract.reconcileUnknownUseGuard world guardId probe

def GuardWorld.run (ctx : GuardCtx) (world : GuardWorld) (events : List GuardEvent) : GuardWorld :=
  events.foldl (GuardWorld.step ctx) world

end Adhdev.Contract
