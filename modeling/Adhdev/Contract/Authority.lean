import Adhdev.Contract.Store

/-! # Authority of a contract namespace

`contract-authority.ts`: enrollment, the fenced tenure of the authority and the
capabilities of coordinators. A bearer secret appears as the text that the caller shows.
-/

namespace Adhdev.Contract

open Call MeshShared

section Reads

variable (ctx : ContractCtx) (db : ContractDb)

def getAuthority (namespaceId : String) : Option AuthorityRow :=
  db.authorities.find? (·.namespaceId = namespaceId)

def getHead (namespaceId : String) : Option HeadRow :=
  db.heads.find? (·.namespaceId = namespaceId)

def currentHeadVector (namespaceId : String) : Option ContractHeadVector :=
  match getAuthority db namespaceId, getHead db namespaceId with
  | some authority, some head => some {
      namespaceId
      authorityEpoch := head.authorityEpoch
      headGeneration := head.headGeneration
      revisionId := head.revisionId
      policyRevision := head.policyRevision
      revocationGeneration := authority.revocationGeneration }
  | _, _ => none

def assertAuthorityWritable (namespaceId : String) : Except ContractRefusal AuthorityRow :=
  if contractProtocolVersion < db.protocolVersion then .error .storeVersionUnsupported
  else
    match getAuthority db namespaceId with
    | none => .error .notEnrolled
    | some authority =>
      if authority.status = .requiresOwnerRecovery then .error .authorityRequiresRecovery
      else if authority.status = .pausedTransfer then .error .authorityPaused
      else if authority.status ≠ .active ∨
          daemonIdsEquivalent authority.authorityDaemonId ctx.localDaemonId = false then
        .error .notAuthorized
      else .ok authority

/-- The read side: without it consumers hold. -/
def authorityReadable (namespaceId : String) : Option AuthorityRow :=
  if contractProtocolVersion < db.protocolVersion then none
  else (getAuthority db namespaceId).filter fun authority =>
    authority.status = .active && daemonIdsEquivalent authority.authorityDaemonId ctx.localDaemonId

end Reads

def changeAuthority (namespaceId : String) (change : AuthorityRow → AuthorityRow)
    (db : ContractDb) :
    ContractDb :=
  { db with authorities := db.authorities.map fun row =>
      if row.namespaceId = namespaceId then change row else row }

def changeHead (namespaceId : String) (change : HeadRow → HeadRow) (db : ContractDb) : ContractDb :=
  { db with heads := db.heads.map fun row =>
      if row.namespaceId = namespaceId then change row else row }

def changeGrants (affected : GrantRow → Bool) (change : GrantRow → GrantRow) (db : ContractDb) :
    ContractDb :=
  { db with grants := db.grants.map fun row => if affected row then change row else row }

def revokeAll (namespaceId reason : String) (now : Int) : ContractDb → ContractDb :=
  changeGrants (fun row => row.namespaceId = namespaceId && row.revokedAt.isNone) fun row =>
    { row with revokedAt := some now, revokeReason := some reason }

section Enrollment

structure EnrollInput where
  meshId : String
  policy : PolicyPatch := {}
  /-- How many repositories are named, and whether all of them can be described. -/
  repositories : Nat := 1
  described : Except String Unit := .ok ()

variable (ctx : ContractCtx) (env : CallEnv)

def enrollNamespace (owner : Presented) (input : EnrollInput) :
    Call ContractStore ContractRefusal (String × Option ContractHeadVector) := do
  let ownerPrincipal ← ofExcept (assertOwner owner)
  refuseIf (trim input.meshId = "" ∨ input.repositories = 0 ∨ 8 < input.repositories) .invalidInput
  let protocolVersion ← inspect (·.db.protocolVersion)
  refuseIf (contractProtocolVersion < protocolVersion) .storeVersionUnsupported
  ofExcept (input.described.mapError .sourceReader)
  let namespaceId := env.newId "ns"
  transaction do
    insertUnless (fun db => db.authorities.any (·.namespaceId = namespaceId)) fun db =>
      { db with authorities := db.authorities ++ [{
          namespaceId, meshId := trim input.meshId, ownerPrincipal
          authorityDaemonId := ctx.localDaemonId, authorityEpoch := 1, processIncarnation := 1
          policyRevision := 1, policy := ({} : ContractPolicy).patched input.policy
          revocationGeneration := 0, status := .active }] }
    insertUnless (fun db => db.heads.any (·.namespaceId = namespaceId)) fun db =>
      { db with heads := db.heads ++ [{
          namespaceId, authorityEpoch := 1, headGeneration := 0, revisionId := none
          policyRevision := 1 }] }
  fenceWrite env 0 namespaceId 1
  let vector ← inspect fun store => currentHeadVector store.db namespaceId
  pure (namespaceId, vector)

def updatePolicy (owner : Presented) (namespaceId : String) (patch : PolicyPatch) :
    Call ContractStore ContractRefusal (Option ContractHeadVector) := do
  let _ ← ofExcept (assertOwner owner)
  transaction do
    let authority ← andThen (inspect (·.db)) fun db =>
      ofExcept (assertAuthorityWritable ctx db namespaceId)
    let policyRevision := authority.policyRevision + 1
    changeDb fun db =>
      changeHead namespaceId (fun head => { head with policyRevision })
        (changeAuthority namespaceId (fun row =>
          { row with policy := authority.policy.patched patch, policyRevision }) db)
    inspect fun store => currentHeadVector store.db namespaceId

end Enrollment

section Tenure

variable (ctx : ContractCtx) (env : CallEnv)

def isBehindFence (store : ContractStore) (row : AuthorityRow) : Bool :=
  (store.readFence row.namespaceId).any (row.authorityEpoch < ·)

def rotatesAtBoot (store : ContractStore) (row : AuthorityRow) : Bool :=
  row.authorityDaemonId = ctx.localDaemonId && !isBehindFence store row

def bootedAuthority (store : ContractStore) (row : AuthorityRow) : AuthorityRow :=
  if row.authorityDaemonId = ctx.localDaemonId then
    if isBehindFence store row then { row with status := .requiresOwnerRecovery }
    else { row with processIncarnation := row.processIncarnation + 1 }
  else row

def bootedGrant (store : ContractStore) (row : GrantRow) : GrantRow :=
  if row.revokedAt.isNone &&
      store.db.authorities.any fun authority =>
        authority.namespaceId = row.namespaceId && rotatesAtBoot ctx store authority then
    { row with revokedAt := some env.now, revokeReason := some "process_restart" }
  else row

def bootedGuard (authorities : List AuthorityRow) (row : UseGuardRow) : UseGuardRow :=
  if row.state = .active ∧ row.processIncarnation <
      ((authorities.find? (·.namespaceId = row.namespaceId)).map (·.processIncarnation)).getD 0 then
    { row with state := .unknown }
  else row

def bootTransaction (store : ContractStore) : ContractDb :=
  let authorities := store.db.authorities.map (bootedAuthority ctx store)
  { store.db with
    authorities
    grants := store.db.grants.map (bootedGrant ctx env store)
    useGuards := store.db.useGuards.map (bootedGuard authorities) }

def writeMissingFences : Nat → List AuthorityRow → Call ContractStore ContractRefusal Unit
  | _, [] => answer ()
  | number, row :: rows => do
      let fenced ← inspect (·.readFence row.namespaceId)
      match fenced with
      | some _ => writeMissingFences number rows
      | none => do
          fenceWrite env number row.namespaceId row.authorityEpoch
          writeMissingFences (number + 1) rows

structure BootReport where
  rotatedNamespaces : Nat
  requiresRecovery : Nat

def beginContractProcessIncarnation : Call ContractStore ContractRefusal BootReport := do
  let held ← inspect fun store =>
    store.db.authorities.filter (·.authorityDaemonId = ctx.localDaemonId)
  let recovery ← inspect fun store => held.countP (isBehindFence store)
  transaction (Call.modify fun store => { store with db := bootTransaction ctx env store })
  let active ← inspect fun store => store.db.authorities.filter fun row =>
    row.authorityDaemonId = ctx.localDaemonId && row.status = .active
  writeMissingFences env 0 active
  pure ⟨held.length - recovery, recovery⟩

def nextEpoch (store : ContractStore) (authority : AuthorityRow) : Nat :=
  max authority.authorityEpoch ((store.readFence authority.namespaceId).getD 0) + 1

def enterEpoch (namespaceId reason : String) (epoch : Nat)
    (change : AuthorityRow → AuthorityRow) (now : Int) (db : ContractDb) : ContractDb :=
  revokeAll namespaceId reason now
    (changeHead namespaceId (fun head => { head with authorityEpoch := epoch })
      (changeAuthority namespaceId (fun row => { change row with authorityEpoch := epoch }) db))

theorem enterEpoch_authorities (namespaceId reason : String) (epoch : Nat)
    (change : AuthorityRow → AuthorityRow) (now : Int) (db : ContractDb) :
    (enterEpoch namespaceId reason epoch change now db).authorities =
      db.authorities.map fun row =>
        if row.namespaceId = namespaceId then { change row with authorityEpoch := epoch }
        else row := rfl

def recoverAuthority (owner : Presented) (namespaceId : String) :
    Call ContractStore ContractRefusal (Option ContractHeadVector) := do
  let _ ← ofExcept (assertOwner owner)
  let found ← inspect fun store => getAuthority store.db namespaceId
  let authority ← ofExcept (found.elim (.error .notEnrolled) .ok)
  let epoch ← inspect (nextEpoch · authority)
  transaction (changeDb (enterEpoch namespaceId "owner_recovery" epoch (fun row =>
    { row with
      authorityDaemonId := ctx.localDaemonId
      status := .active
      processIncarnation := row.processIncarnation + 1 }) env.now))
  fenceWrite env 0 namespaceId epoch
  inspect fun store => currentHeadVector store.db namespaceId

structure TransferInput where
  namespaceId : String
  newDaemonId : String
  oldWriterFenced : Bool

def storedDaemonId (daemonId : String) : String :=
  (canonicalDaemonId (trim daemonId)).getD (trim daemonId)

def transferAuthority (owner : Presented) (input : TransferInput) :
    Call ContractStore ContractRefusal (Option AuthorityRow) := do
  let _ ← ofExcept (assertOwner owner)
  let found ← inspect fun store => getAuthority store.db input.namespaceId
  let authority ← ofExcept (found.elim (.error .notEnrolled) .ok)
  refuseIf (trim input.newDaemonId = "") .invalidInput
  if input.oldWriterFenced then do
    let epoch ← inspect (nextEpoch · authority)
    let newDaemonId := storedDaemonId input.newDaemonId
    transaction (changeDb (enterEpoch input.namespaceId "authority_transfer" epoch (fun row =>
      { row with
        authorityDaemonId := newDaemonId
        status := if daemonIdsEquivalent newDaemonId ctx.localDaemonId then .active
          else .transferredAway }) env.now))
    fenceWrite env 0 input.namespaceId epoch
    inspect fun store => getAuthority store.db input.namespaceId
  else do
    changeDb (changeAuthority input.namespaceId fun row => { row with status := .pausedTransfer })
    inspect fun store => getAuthority store.db input.namespaceId

end Tenure

section Capabilities

variable (ctx : ContractCtx) (env : CallEnv)

structure MintGrantInput where
  namespaceId : String
  coordinatorSessionId : String
  ops : List ContractGrantOp
  maxImpact : ContractImpact := .nonbreaking
  ttlMs : Option Int := none
  overlapPrevious : Bool := false

def lastGeneration (db : ContractDb) (namespaceId sessionId : String) : Nat :=
  ((db.grants.filter fun row =>
    row.namespaceId = namespaceId && row.coordinatorSessionId = sessionId).map
      (·.grantGeneration)).foldr max 0

def grantTtl (input : MintGrantInput) : Int :=
  min ((input.ttlMs.filter (0 < ·)).getD ctx.budgets.capabilityTtlMs) ctx.budgets.capabilityTtlMs

def overlapOf (authority : AuthorityRow) (input : MintGrantInput) : Option Int :=
  if input.overlapPrevious ∧ 0 < authority.policy.rotationOverlapMs then
    some (env.now + authority.policy.rotationOverlapMs)
  else none

def rotates (input : MintGrantInput) (row : GrantRow) : Bool :=
  row.namespaceId = input.namespaceId && row.coordinatorSessionId = input.coordinatorSessionId &&
    row.revokedAt.isNone

def rotatedGrant (authority : AuthorityRow) (input : MintGrantInput) (row : GrantRow) : GrantRow :=
  { row with
    revokedAt := some env.now, revokeReason := some "rotated"
    overlapUntil := overlapOf env authority input }

def rotateGrants (authority : AuthorityRow) (input : MintGrantInput) : ContractDb → ContractDb :=
  changeGrants (rotates input) (rotatedGrant env authority input)

structure MintedGrant where
  grantId : String
  capability : String
  grantGeneration : Nat
  expiresAt : Int

/-- `secret` is the random part of the new capability. -/
def mintCoordinatorGrant (owner : Presented) (input : MintGrantInput) (secret : String) :
    Call ContractStore ContractRefusal MintedGrant := do
  let _ ← ofExcept (assertOwner owner)
  refuseIf (input.ops = [] ∨ trim input.coordinatorSessionId = "") .invalidInput
  transaction do
    let authority ← andThen (inspect (·.db)) fun db =>
      ofExcept (assertAuthorityWritable ctx db input.namespaceId)
    refuseIf (input.maxImpact = .breaking ∧ authority.policy.delegateBreaking = false)
      .impactRequiresOwner
    let last ← inspect fun store =>
      lastGeneration store.db input.namespaceId input.coordinatorSessionId
    changeDb (rotateGrants env authority input)
    let capability := "csb_" ++ secret
    let grantId := env.newId "grant"
    let expiresAt := env.now + grantTtl ctx input
    insertUnless (fun db => db.grants.any fun row =>
        row.grantId = grantId || row.verifier = ctx.hashCapability capability) fun db =>
      { db with grants := db.grants ++ [{
          grantId, namespaceId := input.namespaceId, verifier := ctx.hashCapability capability
          coordinatorSessionId := input.coordinatorSessionId
          authorityDaemonId := ctx.localDaemonId, authorityEpoch := authority.authorityEpoch
          processIncarnation := authority.processIncarnation, grantGeneration := last + 1
          ops := input.ops.eraseDups, maxImpact := input.maxImpact, expiresAt, overlapUntil := none
          revokedAt := none, revokeReason := none }] }
    pure { grantId, capability, grantGeneration := last + 1, expiresAt }

def revocable (row : GrantRow) : Bool := row.revokedAt.isNone || row.overlapUntil.isSome

def revokedGrant (now : Int) (reason : String) (row : GrantRow) : GrantRow :=
  { row with revokedAt := some now, revokeReason := some reason, overlapUntil := none }

def revokeGrant (owner : Presented) (grantId reason : String) :
    Call ContractStore ContractRefusal Bool := do
  let _ ← ofExcept (assertOwner owner)
  let touched := fun row : GrantRow => row.grantId = grantId && revocable row
  let revokes ← inspect fun store => store.db.grants.any touched
  changeDb (changeGrants touched (revokedGrant env.now reason))
  pure revokes

def revokeGrantsForSession (coordinatorSessionId : String) :
    Call ContractStore ContractRefusal Nat := do
  let touched := fun row : GrantRow =>
    row.coordinatorSessionId = coordinatorSessionId && revocable row
  let revokes ← inspect fun store => store.db.grants.countP touched
  changeDb (changeGrants touched (revokedGrant env.now "session_ended"))
  pure revokes

def inOverlap (now : Int) (grant : GrantRow) : Bool :=
  grant.revokeReason = some "rotated" && grant.overlapUntil.any (now < ·)

def grantUsable (now : Int) (grant : GrantRow) (authority : AuthorityRow) :
    Except ContractRefusal Unit :=
  if grant.revokedAt.isSome ∧ inOverlap now grant = false then .error .capabilityRevoked
  else if grant.expiresAt ≤ now then .error .capabilityExpired
  else if daemonIdsEquivalent grant.authorityDaemonId authority.authorityDaemonId = false ∨
      grant.authorityEpoch ≠ authority.authorityEpoch ∨
      grant.processIncarnation ≠ authority.processIncarnation then
    .error .capabilityRevoked
  else .ok ()

structure CapabilityRequest where
  namespaceId : String
  sessionId : String
  op : ContractGrantOp

def verifyCoordinatorCapability (db : ContractDb) (secret : String) (request : CapabilityRequest) :
    Except ContractRefusal ContractPrincipal :=
  if "csb_".toList.isPrefixOf secret.toList = false ∨ utf16Length secret < 20 then
    .error .capabilityInvalid
  else
    match db.grants.find? (·.verifier = ctx.hashCapability secret) with
    | none => .error .capabilityInvalid
    | some grant =>
      if grant.namespaceId ≠ request.namespaceId ∨
          grant.coordinatorSessionId ≠ request.sessionId then .error .scopeMismatch
      else
        match assertAuthorityWritable ctx db request.namespaceId with
        | .error refusal => .error refusal
        | .ok authority =>
          match grantUsable env.now grant authority with
          | .error refusal => .error refusal
          | .ok () =>
            if request.op ∉ grant.ops then .error .notAuthorized
            else .ok (.coordinator grant.grantId grant.namespaceId
              grant.coordinatorSessionId grant.ops grant.maxImpact)

def recheckPrincipal (db : ContractDb) (presented : Presented) (namespaceId : String)
    (op : ContractGrantOp) : Except ContractRefusal AuthorityRow :=
  match assertIssued presented with
  | .error refusal => .error refusal
  | .ok principal =>
    match assertAuthorityWritable ctx db namespaceId with
    | .error refusal => .error refusal
    | .ok authority =>
      match principal with
      | .owner _ => .ok authority
      | .worker .. => if op ≠ .propose then .error .notAuthorized else .ok authority
      | .coordinator grantId grantNamespace _ ops _ =>
        if grantNamespace ≠ namespaceId then .error .scopeMismatch
        else if op ∉ ops then .error .notAuthorized
        else
          match db.grants.find? (·.grantId = grantId) with
          | none => .error .capabilityInvalid
          | some grant =>
            match grantUsable env.now grant authority with
            | .error refusal => .error refusal
            | .ok () => .ok authority

end Capabilities

end Adhdev.Contract
