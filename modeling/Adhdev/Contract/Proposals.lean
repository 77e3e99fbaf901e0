import Adhdev.Contract.Authority

/-! # Proposals, reviews and acceptance

`contract-proposals.ts`: the spool of unit bodies, the proposals with their reviews and
the one transaction that accepts a revision.
-/

namespace Adhdev.Contract

open Call MeshShared

def demand (condition : Prop) [Decidable condition] (refusal : ContractRefusal) :
    Except ContractRefusal Unit :=
  if condition then .ok () else .error refusal

variable {refusal : ContractRefusal}

@[simp] theorem demand_ok_iff {condition : Prop} [Decidable condition] {done : Unit} :
    demand condition refusal = .ok done ↔ condition := by
  by_cases holds : condition <;> simp [demand, holds]

theorem except_bind_ok_iff {α β : Type} {checked : Except ContractRefusal α}
    {next : α → Except ContractRefusal β} {value : β} :
    (checked >>= next) = .ok value ↔ ∃ first, checked = .ok first ∧ next first = .ok value := by
  cases checked with
  | error refusal =>
    refine iff_of_false nofun ?_
    rintro ⟨_, refused, -⟩
    cases refused
  | ok first =>
    constructor
    · exact fun answered => ⟨first, rfl, answered⟩
    rintro ⟨_, same, answered⟩
    cases same
    exact answered

theorem demand_bind_ok_iff {β : Type} {condition : Prop} [Decidable condition]
    {next : Unit → Except ContractRefusal β} {value : β} :
    (demand condition refusal >>= next) = .ok value ↔ condition ∧ next () = .ok value := by
  rw [except_bind_ok_iff]
  constructor
  · rintro ⟨_, passed, answered⟩
    exact ⟨demand_ok_iff.mp passed, answered⟩
  · rintro ⟨holds, answered⟩
    exact ⟨(), demand_ok_iff.mpr holds, answered⟩

def principalActor : ContractPrincipal → String
  | .owner _ => "owner"
  | .coordinator _ _ sessionId _ _ => "coordinator:" ++ sessionId
  | .worker _ _ _ _ sessionId => "worker:" ++ sessionId

def isWorker : ContractPrincipal → Bool
  | .worker .. => true
  | _ => false

def isOwner : ContractPrincipal → Bool
  | .owner _ => true
  | _ => false

section Spool

variable (ctx : ContractCtx)

def SpoolRow.live (row : SpoolRow) : Bool := row.body.isSome

def spoolUsed (db : ContractDb) : Nat := ((db.spool.filter (·.live)).map (·.byteLength)).sum

def putSpoolRow (row : SpoolRow) (db : ContractDb) : ContractDb :=
  { db with spool := db.spool.filter (·.digest ≠ row.digest) ++ [row] }

/-- A new reference to a body that is there moves it past the barrier. -/
def restampSpoolRow (digest : String) (db : ContractDb) : ContractDb :=
  { db with spool := db.spool.map fun row =>
      if row.digest = digest then { row with gcGeneration := db.gcGeneration } else row }

def stageSpoolBody (bytes : List UInt8) : Call ContractStore ContractRefusal String := do
  let digest := ctx.sha256Bytes bytes
  let existing ← inspect fun store => store.db.spool.find? (·.digest = digest)
  if existing.any (·.live) then do
    changeDb (restampSpoolRow digest)
    pure digest
  else do
    let tombstones ← inspect (·.db.tombstones)
    refuseIf (digest ∈ tombstones) .unavailable
    let used ← inspect fun store => spoolUsed store.db
    refuseIf (ctx.budgets.maxSpoolBytes < used + bytes.length) .quotaExceeded
    changeDb fun db => putSpoolRow
      { digest, byteLength := bytes.length, body := some bytes, gcGeneration := db.gcGeneration } db
    pure digest

def readSpoolBody (db : ContractDb) (digest : String) : Option (List UInt8) :=
  ((db.spool.find? (·.digest = digest)).bind (·.body)).filter fun bytes =>
    ctx.sha256Bytes bytes = digest

end Spool

def getRevisionManifest (db : ContractDb) (revisionId : String) : Option ContractRevisionManifest :=
  (db.revisions.find? (·.revisionId = revisionId)).map (·.manifest)

def sameHead (vector : ContractHeadVector) (expected : ContractExpectedHead) : Bool :=
  vector.authorityEpoch = expected.authorityEpoch &&
    vector.headGeneration = expected.headGeneration &&
    vector.revisionId = expected.revisionId && vector.policyRevision = expected.policyRevision

section Proposing

def isWordCharacter (others : List Char) (character : Char) : Bool :=
  character.isAlphanum || others.contains character

def isUnitId (text : String) : Bool :=
  1 ≤ text.length && text.length ≤ 64 && text.toList.all (isWordCharacter ['.', '_', '-'])

def isProposalId (text : String) : Bool :=
  1 ≤ text.length && text.length ≤ 64 && text.toList.all (isWordCharacter ['_', '-'])

def isIdempotencyKey (text : String) : Bool :=
  8 ≤ text.length && text.length ≤ 128 && text.toList.all (isWordCharacter ['_', '.', ':', '-'])

structure ResolvedBlob where
  entry : ContractSourceEntry
  bytes : List UInt8

/-- What `resolveBlob` returns: it hashes the bytes that it read. -/
def ResolvedBlob.sourceEntry (ctx : ContractCtx) (blob : ResolvedBlob) : ContractSourceEntry :=
  { blob.entry with byteLength := blob.bytes.length, sha256 := ctx.sha256Bytes blob.bytes }

inductive ProposedUnit
  | fresh (unitId : String) (source : Except String ResolvedBlob) (mediaType : Option String)
      (normativeType : Option NormativeType) (applicationApiVersion : Option String)
      (dependsOn roles : List String)
  | carryForward (unitId : String)

structure ProposeInput where
  namespaceId : String
  proposalId : Option String
  baseHead : ContractExpectedHead
  impact : ContractImpact
  units : List ProposedUnit

def strList (texts : List String) (most : Nat) : Except ContractRefusal (List String) := do
  demand (texts.length ≤ most ∧ texts.all isUnitId = true) .invalidInput
  pure texts.eraseDups

structure Collected where
  units : List ContractUnit := []
  bodies : List (List UInt8) := []
  total : Nat := 0

variable (ctx : ContractCtx) (db : ContractDb)

def collectUnit (baseManifest : Option ContractRevisionManifest) (collected : Collected) :
    ProposedUnit → Except ContractRefusal Collected
  | .carryForward unitId => do
      demand (isUnitId unitId = true ∧ unitId ∉ collected.units.map (·.unitId)) .invalidInput
      match baseManifest.bind (·.units.find? (·.unitId = unitId)) with
      | none => .error .sourceUnavailable
      | some prior => do
          demand ((readSpoolBody ctx db prior.digest).isSome = true) .sourceUnavailable
          pure { collected with
            units := collected.units ++ [prior], total := collected.total + prior.byteLength }
  | .fresh unitId source mediaType normativeType applicationApiVersion dependsOn roles => do
      demand (isUnitId unitId = true ∧ unitId ∉ collected.units.map (·.unitId)) .invalidInput
      let blob ← source.mapError .sourceReader
      let total := collected.total + blob.bytes.length
      demand (total ≤ ctx.budgets.maxRevisionBytes) .budgetExceeded
      let dependsOn ← strList dependsOn 32
      let roles ← strList roles 16
      let unit : ContractUnit := {
        unitId
        digest := ctx.sha256Bytes blob.bytes
        byteLength := blob.bytes.length
        mediaType := (mediaType.filter (utf16Length · ≤ 128)).getD "text/markdown"
        normativeType := normativeType.getD .contract
        applicationApiVersion := applicationApiVersion.filter (utf16Length · ≤ 64)
        dependsOn, roles
        sources := [blob.sourceEntry ctx] }
      pure { units := collected.units ++ [unit], bodies := collected.bodies ++ [blob.bytes], total }

def collectUnits (baseManifest : Option ContractRevisionManifest) :
    Collected → List ProposedUnit → Except ContractRefusal Collected
  | collected, [] => .ok collected
  | collected, unit :: units => do
      let next ← collectUnit ctx db baseManifest collected unit
      collectUnits baseManifest next units

def sortTexts (texts : List String) : List String := texts.insertionSort (· ≤ ·)

def normalizeManifest (manifest : ContractRevisionManifest) : ContractRevisionManifest :=
  { manifest with
    units := (manifest.units.map fun unit =>
      { unit with
        dependsOn := sortTexts unit.dependsOn, roles := sortTexts unit.roles }).insertionSort
        (·.unitId ≤ ·.unitId) }

/-- Everything that a proposal checks before its transaction. -/
structure Candidate where
  manifest : ContractRevisionManifest
  bodies : List (List UInt8)

variable (env : CallEnv)

def prepareCandidate (presented : Presented) (input : ProposeInput) :
    Except ContractRefusal Candidate := do
  let _ ← assertIssued presented
  let _ ← recheckPrincipal ctx env db presented input.namespaceId .propose
  match currentHeadVector db input.namespaceId with
  | none => .error .noHead
  | some current => do
      demand (sameHead current input.baseHead = true) (.headConflict (some current))
      demand (input.units ≠ []) .invalidInput
      demand (input.units.length ≤ ctx.budgets.maxUnitsPerRevision) .budgetExceeded
      let baseManifest := input.baseHead.revisionId.bind (getRevisionManifest db)
      let collected ← collectUnits ctx db baseManifest {} input.units
      demand (collected.total ≤ ctx.budgets.maxRevisionBytes) .budgetExceeded
      demand (∀ unit ∈ collected.units, ∀ other ∈ unit.dependsOn,
        other ∈ collected.units.map (·.unitId)) .invalidInput
      pure {
        manifest := normalizeManifest {
          namespaceId := input.namespaceId
          predecessorRevisionId := input.baseHead.revisionId
          impact := input.impact
          units := collected.units }
        bodies := collected.bodies }

def insertRevision (revisionId : String) (manifest : ContractRevisionManifest) (db : ContractDb) :
    ContractDb :=
  if db.revisions.any (·.revisionId = revisionId) then db
  else
    { db with revisions := db.revisions ++ [{
        revisionId, namespaceId := manifest.namespaceId, manifest }] }

def insertUnit (revisionId : String) (unit : ContractUnit) (db : ContractDb) : ContractDb :=
  if db.units.any fun row => row.revisionId = revisionId && row.unitId = unit.unitId then db
  else
    { db with units := db.units ++ [{
        revisionId, unitId := unit.unitId, unitDigest := unit.digest }] }

def lastVersion (db : ContractDb) (proposalId : String) : Nat :=
  ((db.proposals.filter (·.proposalId = proposalId)).map (·.proposalVersion)).foldr max 0

def changeProposals (affected : ProposalRow → Bool) (change : ProposalRow → ProposalRow)
    (db : ContractDb) : ContractDb :=
  { db with proposals := db.proposals.map fun row => if affected row then change row else row }

def namespaceOfProposal (db : ContractDb) (proposalId : String) : String :=
  (sortTexts ((db.proposals.filter (·.proposalId = proposalId)).map (·.namespaceId))).head?.getD ""

structure ProposeResult where
  proposalId : String
  proposalVersion : Nat
  candidateRevisionId : String

def proposalIdOf (input : ProposeInput) : String :=
  (input.proposalId.filter isProposalId).getD (env.newId "prop")

def supersede (now : Int) (row : ProposalRow) : ProposalRow :=
  { row with status := .superseded, closedAt := some now }

def proposalRowOf (presented : Presented) (input : ProposeInput) (revisionId : String)
    (proposalVersion : Nat) : ProposalRow where
  proposalId := proposalIdOf env input
  proposalVersion := proposalVersion
  namespaceId := input.namespaceId
  baseEpoch := input.baseHead.authorityEpoch
  baseHeadGeneration := input.baseHead.headGeneration
  baseRevisionId := input.baseHead.revisionId
  basePolicyRevision := input.baseHead.policyRevision
  candidateRevisionId := revisionId
  impact := input.impact
  authorPrincipal := principalActor presented.principal
  status := .opened
  closedAt := none

def proposeRevision (presented : Presented) (input : ProposeInput) :
    Call ContractStore ContractRefusal ProposeResult := do
  let candidate ← andThen (inspect (·.db)) fun db =>
    ofExcept (prepareCandidate ctx db env presented input)
  let revisionId := ctx.computeRevisionId candidate.manifest
  transaction do
    let _ ← andThen (inspect (·.db)) fun db =>
      ofExcept (recheckPrincipal ctx env db presented input.namespaceId .propose)
    let _ ← each (stageSpoolBody ctx) candidate.bodies
    changeDb (insertRevision revisionId candidate.manifest)
    changeDb fun db =>
      candidate.manifest.units.foldl (fun db unit => insertUnit revisionId unit db) db
    let proposalId := proposalIdOf env input
    let known ← inspect fun store => namespaceOfProposal store.db proposalId
    refuseIf (known ≠ "" ∧ known ≠ input.namespaceId) .scopeMismatch
    let last ← inspect fun store => lastVersion store.db proposalId
    changeDb (changeProposals (fun row => row.proposalId = proposalId && row.status = .opened)
      (supersede env.now))
    changeDb fun db => { db with
      proposals := db.proposals ++ [proposalRowOf env presented input revisionId (last + 1)] }
    pure { proposalId, proposalVersion := last + 1, candidateRevisionId := revisionId }

end Proposing

section Reviewing

variable (ctx : ContractCtx) (env : CallEnv)

def getProposal (db : ContractDb) (proposalId : String) (proposalVersion : Nat) :
    Option ProposalRow :=
  db.proposals.find? fun row => row.proposalId = proposalId && row.proposalVersion = proposalVersion

structure ReviewInput where
  proposalId : String
  proposalVersion : Nat
  candidateRevisionId : String
  verdict : ReviewVerdict

def checkReview (db : ContractDb) (presented : Presented) (proposal : ProposalRow)
    (input : ReviewInput) : Except ContractRefusal AuthorityRow := do
  let authority ← recheckPrincipal ctx env db presented proposal.namespaceId .review
  demand (isWorker presented.principal = false) .notAuthorized
  demand (proposal.status = .opened) .proposalNotOpen
  demand (input.candidateRevisionId = proposal.candidateRevisionId) .reviewStale
  demand (¬ (authority.policy.requireIndependentReviewer = true ∧
    principalActor presented.principal = proposal.authorPrincipal)) .reviewNotIndependent
  pure authority

def reviewOf (reviewId : String) (presented : Presented) (proposal : ProposalRow)
    (authority : AuthorityRow) (verdict : ReviewVerdict) : ReviewRow where
  reviewId := reviewId
  proposalId := proposal.proposalId
  proposalVersion := proposal.proposalVersion
  candidateRevisionId := proposal.candidateRevisionId
  baseHeadGeneration := proposal.baseHeadGeneration
  baseRevisionId := proposal.baseRevisionId
  policyRevision := authority.policyRevision
  reviewerPrincipal := principalActor presented.principal
  verdict := verdict

def findProposal (presented : Presented) (proposalId : String) (proposalVersion : Nat) :
    Call ContractStore ContractRefusal ProposalRow :=
  andThen (inspect (·.db)) fun db => ofExcept do
    let _ ← assertIssued presented
    (getProposal db proposalId proposalVersion).elim (.error .proposalNotFound) .ok

def reviewProposal (presented : Presented) (input : ReviewInput) :
    Call ContractStore ContractRefusal String := do
  let proposal ← findProposal presented input.proposalId input.proposalVersion
  transaction do
    let authority ← andThen (inspect (·.db)) fun db =>
      ofExcept (checkReview ctx env db presented proposal input)
    let reviewId := env.newId "rvw"
    insertUnless (fun db => db.reviews.any (·.reviewId = reviewId)) fun db =>
      { db with
        reviews := db.reviews ++ [reviewOf reviewId presented proposal authority input.verdict] }
    pure reviewId

end Reviewing

section Accepting

variable (ctx : ContractCtx) (env : CallEnv)

def changedUnits (db : ContractDb) (baseRevisionId : Option String) (candidateRevisionId : String) :
    List String :=
  let candidate := ((getRevisionManifest db candidateRevisionId).map (·.units)).getD []
  let base := ((baseRevisionId.bind (getRevisionManifest db)).map (·.units)).getD []
  let changed := candidate.filter fun unit =>
    (base.find? (·.unitId = unit.unitId)).map (·.digest) ≠ some unit.digest
  let removed := base.filter fun unit => ¬ candidate.any (·.unitId = unit.unitId)
  sortTexts ((changed ++ removed).map (·.unitId)).eraseDups

def overlappingOpenGuards (db : ContractDb) (namespaceId : String) (changed : List String) :
    List UseGuardRow :=
  if changed = [] then []
  else
    db.useGuards.filter fun row =>
      row.namespaceId = namespaceId && (row.state = .active || row.state = .unknown) &&
        (row.units.isEmpty || row.units.any (changed.contains ·))

structure AcceptInput where
  proposalId : String
  proposalVersion : Nat
  expectedHead : ContractExpectedHead
  idempotencyKey : String

structure AcceptResult where
  acceptanceId : String
  vector : ContractHeadVector
  duplicate : Bool
  deriving DecidableEq

def ProposalRow.base (proposal : ProposalRow) : ContractExpectedHead where
  authorityEpoch := proposal.baseEpoch
  headGeneration := proposal.baseHeadGeneration
  revisionId := proposal.baseRevisionId
  policyRevision := proposal.basePolicyRevision

def validReviews (db : ContractDb) (proposal : ProposalRow) (current : ContractHeadVector)
    (independent : Bool) : List ReviewRow :=
  db.reviews.filter fun review =>
    review.proposalId = proposal.proposalId && review.proposalVersion = proposal.proposalVersion &&
      review.candidateRevisionId = proposal.candidateRevisionId &&
      review.baseHeadGeneration = current.headGeneration &&
      review.baseRevisionId = current.revisionId &&
      review.policyRevision = current.policyRevision &&
      (!independent || review.reviewerPrincipal ≠ proposal.authorPrincipal)

def approvers (reviews : List ReviewRow) : List String :=
  ((reviews.filter (·.verdict = .approve)).map (·.reviewerPrincipal)).dedup

def mayDelegate (authority : AuthorityRow) (impact : ContractImpact) : ContractPrincipal → Bool
  | .coordinator _ _ _ _ maxImpact =>
    if impact = .breaking then authority.policy.delegateBreaking && maxImpact = .breaking
    else authority.policy.delegateNonbreaking
  | _ => true

def lacking (db : ContractDb) (proposal : ProposalRow) (valid : List ReviewRow) : ContractRefusal :=
  if valid.length < db.reviews.countP fun review =>
      review.proposalId = proposal.proposalId && review.proposalVersion = proposal.proposalVersion
  then .reviewStale else .reviewMissing

def checkAcceptance (db : ContractDb) (presented : Presented) (proposal : ProposalRow)
    (expected : ContractExpectedHead) : Except ContractRefusal ContractHeadVector := do
  let authority ← recheckPrincipal ctx env db presented proposal.namespaceId .accept
  demand (isWorker presented.principal = false) .notAuthorized
  demand (proposal.status = .opened) .proposalNotOpen
  demand (mayDelegate authority proposal.impact presented.principal = true) .impactRequiresOwner
  match currentHeadVector db proposal.namespaceId with
  | none => .error .noHead
  | some current => do
      demand (sameHead current expected = true) (.headConflict (some current))
      demand (sameHead current proposal.base = true) (.headConflict (some current))
      let valid := validReviews db proposal current authority.policy.requireIndependentReviewer
      demand (¬ ∃ review ∈ valid, review.verdict = .reject) .reviewMissing
      demand (max 0 authority.policy.reviewerQuorum ≤ ((approvers valid).length : ℚ))
        (lacking db proposal valid)
      let affected := changedUnits db proposal.baseRevisionId proposal.candidateRevisionId
      demand (overlappingOpenGuards db proposal.namespaceId affected = []) .useGuardConflict
      pure current

def isProposal (proposal : ProposalRow) (row : ProposalRow) : Bool :=
  row.proposalId = proposal.proposalId && row.proposalVersion = proposal.proposalVersion

def headLogRowOf (acceptanceId : String) (proposal : ProposalRow) (current : ContractHeadVector) :
    HeadLogRow where
  namespaceId := proposal.namespaceId
  headGeneration := current.headGeneration + 1
  authorityEpoch := current.authorityEpoch
  revisionId := some proposal.candidateRevisionId
  priorRevisionId := current.revisionId
  policyRevision := current.policyRevision
  acceptanceId := acceptanceId

def advanceHead (proposal : ProposalRow) (current : ContractHeadVector) (db : ContractDb) :
    ContractDb :=
  { db with heads := db.heads.map fun row =>
      if row.namespaceId = proposal.namespaceId ∧ row.headGeneration = current.headGeneration then
        { row with
          headGeneration := current.headGeneration + 1
          revisionId := some proposal.candidateRevisionId }
      else row }

def outboxRowOf (acceptanceId : String) (proposal : ProposalRow) (current : ContractHeadVector) :
    OutboxRow where
  acceptanceId := acceptanceId
  namespaceId := proposal.namespaceId
  authorityEpoch := current.authorityEpoch
  headGeneration := current.headGeneration + 1
  revisionId := some proposal.candidateRevisionId
  noticeClass := .headAdvanced

def requestOf (proposal : ProposalRow) (expected : ContractExpectedHead) : AcceptRequest where
  proposalId := proposal.proposalId
  proposalVersion := proposal.proposalVersion
  candidate := proposal.candidateRevisionId
  expected := expected

def recordedAcceptance (db : ContractDb) (namespaceId idempotencyKey : String) :
    Option IdempotencyRow :=
  db.idempotency.find? fun row => row.namespaceId = namespaceId && row.idemKey = idempotencyKey

def acceptAnew (presented : Presented) (input : AcceptInput) (proposal : ProposalRow) :
    Call ContractStore ContractRefusal AcceptResult := do
  let current ← andThen (inspect (·.db)) fun db =>
    ofExcept (checkAcceptance ctx env db presented proposal input.expectedHead)
  let acceptanceId := env.newId "acc"
  changeDb (advanceHead proposal current)
  insertUnless (fun db => db.headLog.any fun row =>
      row.namespaceId = proposal.namespaceId && row.headGeneration = current.headGeneration + 1)
    fun db => { db with headLog := db.headLog ++ [headLogRowOf acceptanceId proposal current] }
  changeDb (changeProposals (isProposal proposal) fun row =>
    { row with status := .accepted, closedAt := some env.now })
  changeDb (changeProposals (fun row => row.namespaceId = proposal.namespaceId &&
    row.status = .opened && row.baseHeadGeneration < current.headGeneration + 1)
      (supersede env.now))
  insertUnless (fun db => db.outbox.any (·.acceptanceId = acceptanceId)) fun db =>
    { db with outbox := db.outbox ++ [outboxRowOf acceptanceId proposal current] }
  let found ← inspect fun store => currentHeadVector store.db proposal.namespaceId
  let vector ← ofExcept (found.elim (.error .noHead) .ok)
  changeDb fun db => { db with idempotency := db.idempotency ++ [{
    namespaceId := proposal.namespaceId, idemKey := input.idempotencyKey
    requestDigest := ctx.digestOfRequest (requestOf proposal input.expectedHead)
    acceptanceId, vector, createdAt := env.now }] }
  pure { acceptanceId, vector, duplicate := false }

def acceptProposal (presented : Presented) (input : AcceptInput) :
    Call ContractStore ContractRefusal AcceptResult := do
  let _ ← ofExcept (assertIssued presented)
  refuseIf (isIdempotencyKey input.idempotencyKey = false) .invalidInput
  let proposal ← findProposal presented input.proposalId input.proposalVersion
  transaction do
    let prior ← inspect fun store =>
      recordedAcceptance store.db proposal.namespaceId input.idempotencyKey
    match prior with
    | some row => do
        refuseIf (row.requestDigest ≠ ctx.digestOfRequest (requestOf proposal input.expectedHead))
          .idempotencyConflict
        pure { acceptanceId := row.acceptanceId, vector := row.vector, duplicate := true }
    | none => acceptAnew ctx env presented input proposal

end Accepting

section Closing

variable (ctx : ContractCtx) (env : CallEnv)

inductive ClosingStatus
  | rejected | withdrawn

def ClosingStatus.toStatus : ClosingStatus → ProposalStatus
  | .rejected => .rejected
  | .withdrawn => .withdrawn

def checkClosing (db : ContractDb) (presented : Presented) (proposal : ProposalRow) :
    ClosingStatus → Except ContractRefusal Unit
  | .withdrawn => do
      let _ ← recheckPrincipal ctx env db presented proposal.namespaceId .propose
      demand (principalActor presented.principal = proposal.authorPrincipal ∨
        isOwner presented.principal = true) .notAuthorized
      demand (proposal.status = .opened) .proposalNotOpen
  | .rejected => do
      let _ ← recheckPrincipal ctx env db presented proposal.namespaceId .review
      demand (isWorker presented.principal = false) .notAuthorized
      demand (proposal.status = .opened) .proposalNotOpen

def closeProposal (presented : Presented) (proposalId : String) (proposalVersion : Nat)
    (status : ClosingStatus) : Call ContractStore ContractRefusal Unit := do
  let proposal ← findProposal presented proposalId proposalVersion
  transaction do
    andThen (inspect (·.db)) fun db => ofExcept (checkClosing ctx env db presented proposal status)
    changeDb (changeProposals (isProposal proposal) fun row =>
      { row with status := status.toStatus, closedAt := some env.now })

structure RevokeInput where
  namespaceId : String
  revisionId : String

def checkRevocation (db : ContractDb) (presented : Presented) (input : RevokeInput) :
    Except ContractRefusal AuthorityRow := do
  let authority ← recheckPrincipal ctx env db presented input.namespaceId .revoke
  demand (isWorker presented.principal = false) .notAuthorized
  demand (db.revisions.any (fun row => row.revisionId = input.revisionId &&
    row.namespaceId = input.namespaceId) = true) .notFound
  pure authority

def insertRevoked (input : RevokeInput) (db : ContractDb) : ContractDb :=
  if (input.namespaceId, input.revisionId) ∈ db.revokedRevisions then db
  else { db with revokedRevisions := db.revokedRevisions ++
    [(input.namespaceId, input.revisionId)] }

def revokeRevision (presented : Presented) (input : RevokeInput) :
    Call ContractStore ContractRefusal ContractHeadVector := do
  let _ ← ofExcept (assertIssued presented)
  transaction do
    let authority ← andThen (inspect (·.db)) fun db =>
      ofExcept (checkRevocation ctx env db presented input)
    let revocationGeneration := authority.revocationGeneration + 1
    changeDb (changeAuthority input.namespaceId fun row => { row with revocationGeneration })
    changeDb (insertRevoked input)
    let found ← inspect fun store => currentHeadVector store.db input.namespaceId
    let head ← ofExcept (found.elim (.error .noHead) .ok)
    let noticeId := env.newId "rvk"
    insertUnless (fun db => db.outbox.any (·.acceptanceId = noticeId)) fun db =>
      { db with outbox := db.outbox ++ [{
          acceptanceId := noticeId, namespaceId := input.namespaceId
          authorityEpoch := head.authorityEpoch, headGeneration := head.headGeneration
          revisionId := some input.revisionId, noticeClass := .revisionRevoked }] }
    pure head

end Closing

end Adhdev.Contract
