import Adhdev.Contract.Pins
import Adhdev.Contract.ProposalRuns
import Adhdev.Foundation.MarkSweep
import Adhdev.Foundation.Octets

/-! # Garbage collection and quarantine

`contract-retention.ts`: bodies are marked from the retention roots and swept behind a
generation barrier, and late historical reports are kept as audit-only evidence.
-/

namespace Adhdev.Contract

open Call MeshShared

section Collection

variable (ctx : ContractCtx) (env : CallEnv)

abbrev ContractGcPlan := Barrier String

def rootedRevisionIds (db : ContractDb) : List String :=
  let cutoff := env.now - ctx.budgets.closedProposalRetentionMs
  db.heads.filterMap (·.revisionId) ++ db.headLog.filterMap (·.revisionId) ++
    db.pinSets.filterMap (·.vector.revisionId) ++
    (db.proposals.filter fun row => row.status = .opened || row.status = .accepted ||
      row.closedAt.any (cutoff < ·)).map (·.candidateRevisionId) ++
    (db.proposals.filter (·.status = .opened)).filterMap (·.baseRevisionId)

def markedDigests (db : ContractDb) : List String :=
  let rooted := rootedRevisionIds ctx env db
  (db.units.filter (rooted.contains ·.revisionId)).map (·.unitDigest) ++
    db.pinSets.flatMap (fun row => row.pins.map (·.unitDigest)) ++
    db.quarantine.map (·.bodyDigest)

/-- Raise the barrier and mark. -/
def beginContractGc : Call ContractStore ContractRefusal ContractGcPlan := do
  let generation ← inspect (·.db.gcGeneration + 1)
  changeDb fun db => { db with gcGeneration := generation }
  let marked ← inspect fun store => markedDigests ctx env store.db
  pure { generation, marked }

def isSwept (plan : ContractGcPlan) (row : SpoolRow) : Bool :=
  row.live && plan.Swept SpoolRow.digest SpoolRow.gcGeneration row

def sweepContractGc (plan : ContractGcPlan) : Call ContractStore ContractRefusal Nat :=
  transaction do
    let reclaimed ← inspect fun store => store.db.spool.countP (isSwept plan)
    changeDb fun db => { db with spool := db.spool.filter fun row => !isSwept plan row }
    let cutoff := env.now - ctx.budgets.tombstoneRetentionMs
    changeDb fun db => { db with idempotency := db.idempotency.filter fun row =>
      !(row.createdAt < cutoff && !db.authorities.any (·.namespaceId = row.namespaceId)) }
    pure reclaimed

end Collection

section Purging

/-- `/^[0-9a-f]{64}$/` -/
def isDigest (text : String) : Bool := text.length = 64 && text.toList.all Octets.isHexDigit

def purgeBody (digest : String) (db : ContractDb) : ContractDb :=
  { db with
    spool := db.spool.map fun row => if row.digest = digest then { row with body := none } else row
    tombstones := db.tombstones.filter (· ≠ digest) ++ [digest] }

/-- The body is removed and the digest kept: its dependents become unavailable. -/
def legalPurgeBody (owner : Presented) (digest : String) :
    Call ContractStore ContractRefusal Bool := do
  let _ ← ofExcept (assertOwner owner)
  refuseIf (¬isDigest digest) .invalidInput
  transaction do
    let changed ← inspect fun store => store.db.spool.any (·.digest = digest)
    changeDb (purgeBody digest)
    pure changed

theorem legalPurgeBody_leaves (owner : Presented) (digest : String) (store : ContractStore) :
    (legalPurgeBody owner digest store).2 = store ∨
      (legalPurgeBody owner digest store).2 = { store with db := purgeBody digest store.db } := by
  simp only [legalPurgeBody, bind_eq, andThen, Call.ofExcept]
  cases assertOwner owner with
  | error refusal => exact .inl rfl
  | ok principalId =>
    by_cases isHash : isDigest digest = true
    · exact .inr (by rw [refuseIf, if_neg (not_not_intro isHash)]; rfl)
    · exact .inl (by rw [refuseIf, if_pos isHash]; rfl)

end Purging

section Quarantine

variable (ctx : ContractCtx) (env : CallEnv)

structure HistoricalReport where
  deliveryId : String
  meshId : String
  taskId : String
  body : List UInt8
  payloadDigest : String
  provenanceVerified : Bool

inductive QuarantineDisposition
  | auditOnly (quarantineId : String) (duplicate : Bool)
  | refusedNoProvenance | refusedLocalOnly | digestConflict | unscoped
  | pendingQuota | pendingStorage

def isDeliveryId (text : String) : Bool := isIdempotencyKey text

def quarantineUsed (db : ContractDb) : Nat :=
  (db.quarantine.map fun row =>
    ((db.spool.filter (·.digest = row.bodyDigest)).map (·.byteLength)).sum).sum

/-- The transaction; `evidence` is what `recordResultEvidence` does with its own table. -/
def quarantineBody (input : HistoricalReport) (evidence : Except ContractRefusal Unit) :
    Call ContractStore ContractRefusal QuarantineDisposition :=
  transaction do
    let bodyDigest ← stageSpoolBody ctx input.body
    let quarantineId := env.newId "qtn"
    insertUnless (fun db => db.quarantine.any fun row =>
        row.quarantineId = quarantineId || row.deliveryId = input.deliveryId)
      fun db => { db with quarantine := db.quarantine ++ [{
        quarantineId, deliveryId := input.deliveryId, payloadDigest := input.payloadDigest
        bodyDigest }] }
    ofExcept evidence
    pure (.auditOnly quarantineId false)

def pendingFor (refusal : ContractRefusal) : QuarantineDisposition :=
  if refusal = .quotaExceeded then .pendingQuota else .pendingStorage

def quarantineHistoricalReport (input : HistoricalReport) (evidence : Except ContractRefusal Unit) :
    Call ContractStore ContractRefusal QuarantineDisposition := do
  let db ← inspect (·.db)
  match getTaskScope db input.meshId input.taskId with
  | none => pure .unscoped
  | some scope =>
    if ((getAuthority db scope.namespaceId).map (·.policy.lateReportMode)) =
        some .refusalLocalOnly then
      pure .refusedLocalOnly
    else if input.provenanceVerified = false then pure .refusedNoProvenance
    else do
      refuseIf (isDeliveryId input.deliveryId = false) .invalidInput
      refuseIf (ctx.sha256Bytes input.body ≠ input.payloadDigest) .invalidInput
      match db.quarantine.find? (·.deliveryId = input.deliveryId) with
      | some prior =>
        if prior.payloadDigest ≠ input.payloadDigest then pure .digestConflict
        else pure (.auditOnly prior.quarantineId true)
      | none =>
        if ctx.budgets.maxQuarantineBodyBytes < input.body.length then pure .pendingQuota
        else if ctx.budgets.maxQuarantineBytes < quarantineUsed db + input.body.length then
          pure .pendingQuota
        else
          catching (quarantineBody ctx env input evidence) fun refusal =>
            pure (pendingFor refusal)

end Quarantine

end Adhdev.Contract
