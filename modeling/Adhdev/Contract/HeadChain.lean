import Adhdev.Contract.Grants
import Adhdev.Contract.ProposalRuns

/-! # The chain of accepted heads

Every namespace has one log of heads, each entry is an acceptance of a reviewed proposal,
and an acceptance is recorded once.
-/

namespace Adhdev.Contract

open Call MeshShared List

section Chains

def logOf (db : ContractDb) (namespaceId : String) : List HeadLogRow :=
  db.headLog.filter (·.namespaceId = namespaceId)

/-- The entries follow each other from this generation and revision on. -/
def LinkedFrom : Nat → Option String → List HeadLogRow → Prop
  | _, _, [] => True
  | generation, prior, row :: rows =>
    row.headGeneration = generation + 1 ∧ row.priorRevisionId = prior ∧
      LinkedFrom (generation + 1) row.revisionId rows

def lastRevision (prior : Option String) (rows : List HeadLogRow) : Option String :=
  (rows.getLast?.map (·.revisionId)).getD prior

theorem linkedFrom_append_one {generation : Nat} {prior : Option String} {rows : List HeadLogRow}
    {row : HeadLogRow} : LinkedFrom generation prior (rows ++ [row]) ↔
      LinkedFrom generation prior rows ∧ row.headGeneration = generation + rows.length + 1 ∧
        row.priorRevisionId = lastRevision prior rows := by
  induction rows generalizing generation prior with
  | nil => simp [LinkedFrom, lastRevision]
  | cons first rows induction =>
    have last : lastRevision first.revisionId rows = lastRevision prior (first :: rows) := by
      rw [lastRevision, lastRevision, getLast?_cons]
      cases rows.getLast? <;> rfl
    simp only [cons_append, LinkedFrom, induction, last, length_cons, and_assoc]
    have shift : generation + 1 + rows.length + 1 = generation + (rows.length + 1) + 1 := by omega
    rw [shift]

theorem lastRevision_append_one {prior : Option String} {rows : List HeadLogRow}
    {row : HeadLogRow} : lastRevision prior (rows ++ [row]) = row.revisionId := by
  simp [lastRevision]

/-- The log of every namespace has the generations from 1 on, each entry starts from the
revision of the one before it, and the head is the last entry. -/
def HeadsAreChains (db : ContractDb) : Prop :=
  ∀ head ∈ db.heads, LinkedFrom 0 none (logOf db head.namespaceId) ∧
    head.headGeneration = (logOf db head.namespaceId).length ∧
    head.revisionId = lastRevision none (logOf db head.namespaceId)

structure HeadsSound (db : ContractDb) : Prop where
  namespaces : (db.heads.map (·.namespaceId)).Nodup
  logged : ∀ row ∈ db.headLog, ∃ head ∈ db.heads, head.namespaceId = row.namespaceId
  chains : HeadsAreChains db

theorem HeadsSound.empty : HeadsSound {} where
  namespaces := nodup_nil
  logged := fun _ member => absurd member not_mem_nil
  chains := fun _ member => absurd member not_mem_nil

variable {db later : ContractDb}

theorem HeadsSound.map (sound : HeadsSound db) {change : HeadRow → HeadRow}
    (heads : later.heads = db.heads.map change) (headLog : later.headLog = db.headLog)
    (keeps : ∀ row, (change row).namespaceId = row.namespaceId ∧
      (change row).headGeneration = row.headGeneration ∧ (change row).revisionId = row.revisionId) :
    HeadsSound later := by
  have sameLog (namespaceId : String) : logOf later namespaceId = logOf db namespaceId := by
    rw [logOf, headLog, logOf]
  refine ⟨?_, ?_, ?_⟩
  · have same : later.heads.map (·.namespaceId) = db.heads.map (·.namespaceId) := by
      rw [heads, map_map]
      exact map_congr_left fun row _ => (keeps row).1
    rw [same]
    exact sound.namespaces
  · intro row member
    obtain ⟨head, isHead, same⟩ := sound.logged row (headLog ▸ member)
    exact ⟨change head, heads ▸ mem_map_of_mem isHead, (keeps head).1.trans same⟩
  intro head member
  obtain ⟨before, isBefore, rfl⟩ := mem_map.mp (heads ▸ member)
  rw [(keeps before).1, (keeps before).2.1, (keeps before).2.2, sameLog]
  exact sound.chains before isBefore

theorem HeadsSound.of_eq (sound : HeadsSound db) (heads : later.heads = db.heads)
    (headLog : later.headLog = db.headLog) : HeadsSound later :=
  sound.map (heads.trans (map_id _).symm) headLog fun _ => ⟨rfl, rfl, rfl⟩

theorem HeadsSound.enroll (sound : HeadsSound db) {head : HeadRow}
    (heads : later.heads = db.heads ++ [head]) (headLog : later.headLog = db.headLog)
    (fresh : ∀ row ∈ db.heads, row.namespaceId ≠ head.namespaceId)
    (starts : head.headGeneration = 0 ∧ head.revisionId = none) : HeadsSound later := by
  have sameLog (namespaceId : String) : logOf later namespaceId = logOf db namespaceId := by
    rw [logOf, headLog, logOf]
  have emptyLog : logOf db head.namespaceId = [] := by
    refine filter_eq_nil_iff.mpr fun row member named => ?_
    obtain ⟨other, isOther, same⟩ := sound.logged row member
    exact fresh other isOther (same.trans (of_decide_eq_true named))
  refine ⟨?_, ?_, ?_⟩
  · rw [heads, map_append]
    refine nodup_append.mpr ⟨sound.namespaces, nodup_singleton _,
      fun name isName other isOther => ?_⟩
    obtain ⟨row, member, rfl⟩ := mem_map.mp isName
    rw [mem_singleton.mp isOther]
    exact fresh row member
  · intro row member
    obtain ⟨other, isOther, same⟩ := sound.logged row (headLog ▸ member)
    exact ⟨other, heads ▸ mem_append_left _ isOther, same⟩
  intro other member
  rw [sameLog]
  rcases mem_append.mp (heads ▸ member) with old | new
  · exact sound.chains other old
  · rw [mem_singleton.mp new, emptyLog, starts.1, starts.2]
    exact ⟨trivial, rfl, rfl⟩

variable {current : ContractHeadVector}

theorem currentHeadVector_some {namespaceId : String}
    (found : currentHeadVector db namespaceId = some current) :
    ∃ head ∈ db.heads, head.namespaceId = namespaceId ∧
      head.headGeneration = current.headGeneration ∧ head.revisionId = current.revisionId := by
  rw [currentHeadVector] at found
  cases isAuthority : getAuthority db namespaceId with
  | none =>
    rw [isAuthority] at found
    cases found
  | some authority =>
    cases isHead : getHead db namespaceId with
    | none =>
      rw [isAuthority, isHead] at found
      cases found
    | some head =>
      rw [isAuthority, isHead] at found
      cases found
      refine ⟨head, mem_of_find?_eq_some isHead, ?_, rfl, rfl⟩
      simpa using find?_some isHead

theorem HeadsSound.advance (sound : HeadsSound db) {proposal : ProposalRow}
    {acceptanceId : String} (replaced : currentHeadVector db proposal.namespaceId = some current)
    (heads : later.heads = (advanceHead proposal current db).heads)
    (headLog : later.headLog = db.headLog ++ [headLogRowOf acceptanceId proposal current]) :
    HeadsSound later := by
  obtain ⟨head, isHead, named, generation, revision⟩ := currentHeadVector_some replaced
  have keepsName (row : HeadRow) :
      (if row.namespaceId = proposal.namespaceId ∧ row.headGeneration = current.headGeneration then
        { row with
          headGeneration := current.headGeneration + 1
          revisionId := some proposal.candidateRevisionId }
      else row).namespaceId = row.namespaceId := by
    split_ifs <;> rfl
  have log (namespaceId : String) : logOf later namespaceId = logOf db namespaceId ++
      if proposal.namespaceId = namespaceId then [headLogRowOf acceptanceId proposal current]
      else [] := by
    rw [logOf, headLog, filter_append, logOf]
    congr 1
    by_cases same : proposal.namespaceId = namespaceId <;> simp [headLogRowOf, same]
  refine ⟨?_, ?_, ?_⟩
  · have same : later.heads.map (·.namespaceId) = db.heads.map (·.namespaceId) := by
      rw [heads, advanceHead, map_map]
      exact map_congr_left fun row _ => keepsName row
    rw [same]
    exact sound.namespaces
  · intro row member
    have logged : ∃ other ∈ db.heads, other.namespaceId = row.namespaceId := by
      rcases mem_append.mp (headLog ▸ member) with old | new
      · exact sound.logged row old
      · rw [mem_singleton.mp new]
        exact ⟨head, isHead, named⟩
    obtain ⟨other, isOther, same⟩ := logged
    exact ⟨_, heads ▸ mem_map_of_mem isOther, (keepsName other).trans same⟩
  intro other member
  rw [heads] at member
  obtain ⟨before, isBefore, rfl⟩ := mem_map.mp member
  obtain ⟨linked, length, last⟩ := sound.chains before isBefore
  by_cases same : before.namespaceId = proposal.namespaceId
  · have isTheHead : before = head :=
      inj_on_of_nodup_map sound.namespaces isBefore isHead (same.trans named.symm)
    subst isTheHead
    rw [if_pos ⟨same, generation⟩]
    dsimp only
    rw [log, if_pos same.symm, linkedFrom_append_one, lastRevision_append_one, length_append,
      ← length, ← last, generation, revision]
    exact ⟨⟨linked, by rw [Nat.zero_add]; rfl, rfl⟩, rfl, rfl⟩
  · rw [if_neg fun both => same both.1, log, if_neg fun held => same held.symm, append_nil]
    exact ⟨linked, length, last⟩

end Chains

section Steps

variable {ctx : ContractCtx} {env : CallEnv} {presented : Presented}

variable {store later : ContractStore}

theorem Effect.heads {call : AuthorityCall} {result : Except ContractRefusal Unit}
    (effect : Effect ctx env store call result later) (sound : HeadsSound store.db) :
    HeadsSound later.db := by
  cases effect with
  | refused => exact sound
  | enrolled ownerPrincipal performs fresh headless =>
    rw [fencedStore_db]
    refine sound.enroll rfl rfl (fun row member same => ?_) ⟨rfl, rfl⟩
    exact any_eq_false.mp headless row member (decide_eq_true same)
  | policed => exact sound.map rfl rfl fun row => by split_ifs <;> exact ⟨rfl, rfl, rfl⟩
  | booted | paused | minted | revoked | sessionRevoked => exact sound.of_eq rfl rfl
  | recovered | transferred =>
    rw [fencedStore_db]
    exact sound.map rfl rfl fun row => by split_ifs <;> exact ⟨rfl, rfl, rfl⟩

def ReviewMatches (review : ReviewRow) (proposal : ProposalRow) (current : ContractHeadVector) :
    Prop :=
  review.proposalId = proposal.proposalId ∧ review.proposalVersion = proposal.proposalVersion ∧
    review.candidateRevisionId = proposal.candidateRevisionId ∧
    review.baseHeadGeneration = current.headGeneration ∧
    review.baseRevisionId = current.revisionId ∧ review.policyRevision = current.policyRevision

/-- The acceptance of an open proposal, based on exactly the head that it replaces, with enough
distinct approvals of its candidate, base and policy and no valid rejection. -/
structure SoundAcceptance (db later : ContractDb) (proposal : ProposalRow)
    (current : ContractHeadVector) (authority : AuthorityRow) : Prop where
  proposed : proposal ∈ db.proposals
  opened : proposal.status = .opened
  governed : getAuthority db proposal.namespaceId = some authority
  replaced : currentHeadVector db proposal.namespaceId = some current
  based : proposal.base = ⟨current.authorityEpoch, current.headGeneration, current.revisionId,
    current.policyRevision⟩
  approved : ∃ reviewers : List String, reviewers.Nodup ∧
    max 0 authority.policy.reviewerQuorum ≤ (reviewers.length : ℚ) ∧
    ∀ reviewer ∈ reviewers,
      (authority.policy.requireIndependentReviewer = true →
        reviewer ≠ proposal.authorPrincipal) ∧
      ∃ review ∈ db.reviews, ReviewMatches review proposal current ∧
        review.reviewerPrincipal = reviewer ∧ review.verdict = .approve
  unrejected : ∀ review ∈ db.reviews, ReviewMatches review proposal current →
    (authority.policy.requireIndependentReviewer = true →
      review.reviewerPrincipal ≠ proposal.authorPrincipal) → review.verdict ≠ .reject
  logged : ∃ acceptanceId,
    later.headLog = db.headLog ++ [headLogRowOf acceptanceId proposal current]

variable {current : ContractHeadVector} {proposal : ProposalRow} {db : ContractDb}

theorem mem_validReviews {independent : Bool} {review : ReviewRow} :
    review ∈ validReviews db proposal current independent ↔
      review ∈ db.reviews ∧ ReviewMatches review proposal current ∧
        (independent = true → review.reviewerPrincipal ≠ proposal.authorPrincipal) := by
  cases independent <;> simp [validReviews, ReviewMatches, and_assoc]

theorem recheck_authority {namespaceId : String} {op : ContractGrantOp} {authority : AuthorityRow}
    (checked : recheckPrincipal ctx env db presented namespaceId op = .ok authority) :
    assertAuthorityWritable ctx db namespaceId = .ok authority := by
  rw [recheckPrincipal] at checked
  split at checked
  · cases checked
  split at checked
  · cases checked
  rename_i held writable
  have same : held = authority := by
    split at checked
    · injection checked
    · split_ifs at checked
      injection checked
    split_ifs at checked
    split at checked
    · cases checked
    split at checked
    · cases checked
    · injection checked
  exact same ▸ writable

variable {expected : ContractExpectedHead}

theorem sameHead_iff : sameHead current expected = true ↔
      expected = ⟨current.authorityEpoch, current.headGeneration, current.revisionId,
        current.policyRevision⟩ := by
  cases expected
  simp only [sameHead, Bool.and_eq_true, decide_eq_true_eq, and_assoc,
    ContractExpectedHead.mk.injEq]
  constructor
  · rintro ⟨epoch, generation, revision, policy⟩
    exact ⟨epoch.symm, generation.symm, revision.symm, policy.symm⟩
  · rintro ⟨epoch, generation, revision, policy⟩
    exact ⟨epoch.symm, generation.symm, revision.symm, policy.symm⟩

theorem checkAcceptance_sound {acceptanceId : String} (later : ContractDb)
    (checked : checkAcceptance ctx env db presented proposal expected = .ok current)
    (proposed : proposal ∈ db.proposals)
    (logged : later.headLog = db.headLog ++ [headLogRowOf acceptanceId proposal current]) :
    ∃ authority, SoundAcceptance db later proposal current authority := by
  rw [checkAcceptance] at checked
  obtain ⟨authority, rechecked, checked⟩ := except_bind_ok_iff.mp checked
  obtain ⟨-, checked⟩ := demand_bind_ok_iff.mp checked
  obtain ⟨opened, checked⟩ := demand_bind_ok_iff.mp checked
  obtain ⟨-, checked⟩ := demand_bind_ok_iff.mp checked
  split at checked
  · cases checked
  rename_i held isHeld
  obtain ⟨-, checked⟩ := demand_bind_ok_iff.mp checked
  obtain ⟨based, checked⟩ := demand_bind_ok_iff.mp checked
  obtain ⟨unrejected, checked⟩ := demand_bind_ok_iff.mp checked
  obtain ⟨approved, checked⟩ := demand_bind_ok_iff.mp checked
  obtain ⟨-, same⟩ := demand_bind_ok_iff.mp checked
  cases same
  have governed := (writable_ok_iff.mp (recheck_authority rechecked)).2.1
  refine ⟨authority, ⟨proposed, opened, governed, isHeld, sameHead_iff.mp based, ?_, ?_, _, logged⟩⟩
  · refine ⟨_, nodup_dedup _, approved, fun reviewer isReviewer => ?_⟩
    obtain ⟨review, kept, rfl⟩ := mem_map.mp (mem_dedup.mp isReviewer)
    obtain ⟨valid, approves⟩ := mem_filter.mp kept
    obtain ⟨isReview, matching, independent⟩ := mem_validReviews.mp valid
    exact ⟨independent, review, isReview, matching, rfl, of_decide_eq_true approves⟩
  · intro review isReview matching independent rejects
    exact unrejected ⟨review, mem_validReviews.mpr ⟨isReview, matching, independent⟩, rejects⟩

theorem perform_heads {call : ContractCall} {result : Except ContractRefusal (Option AcceptResult)}
    (performed : call.perform ctx env store = (result, later)) (sound : HeadsSound store.db) :
    HeadsSound later.db ∧ (later.db.headLog = store.db.headLog ∨
      ∃ presented input proposal current authority, call = .acceptProposal presented input ∧
          SoundAcceptance store.db later.db proposal current authority) := by
  cases contract_effect performed with
  | unchanged => exact ⟨sound, .inl rfl⟩
  | proposed presented input candidate _ stages =>
    obtain ⟨spool, rfl⟩ := stageAll_ok stages
    obtain ⟨revisions, units, same⟩ := proposedDb_frame ctx env presented input
      candidate.manifest { store.db with spool }
    dsimp only
    rw [same]
    exact ⟨sound.of_eq rfl rfl, .inl rfl⟩
  | reviewed | closed => exact ⟨sound.of_eq rfl rfl, .inl rfl⟩
  | @accepted presented input proposal result _ proposed anew =>
    obtain ⟨current, checked, -, -, rfl⟩ := acceptAnew_ok anew
    obtain ⟨authority, acceptance⟩ := checkAcceptance_sound
      (acceptedDb ctx env input proposal current result.vector store.db) checked proposed rfl
    exact ⟨sound.advance acceptance.replaced rfl rfl,
      .inr ⟨presented, input, proposal, current, authority, rfl, acceptance⟩⟩
  | revoked revoked =>
    obtain ⟨_, _, _, rfl⟩ := revokeRevision_frame revoked
    exact ⟨sound.of_eq rfl rfl, .inl rfl⟩
  | authority effect => exact ⟨effect.heads sound, .inl effect.proposals.2.2⟩

end Steps

section Recording

variable {ctx : ContractCtx} {env : CallEnv}

/-- Proposals keep what a request names, and recorded acceptances stay. -/
structure Grows (db later : ContractDb) : Prop where
  proposals : ∃ change added, later.proposals = db.proposals.map change ++ added ∧
    ∀ row : ProposalRow, (change row).proposalId = row.proposalId ∧
      (change row).proposalVersion = row.proposalVersion ∧
      (change row).namespaceId = row.namespaceId ∧
      (change row).candidateRevisionId = row.candidateRevisionId
  idempotency : ∃ added, later.idempotency = db.idempotency ++ added

variable {db later : ContractDb}

theorem Grows.of_eq (proposals : later.proposals = db.proposals)
    (idempotency : later.idempotency = db.idempotency) : Grows db later where
  proposals := ⟨id, [], by rw [proposals, map_id, append_nil],
    fun _ => ⟨rfl, rfl, rfl, rfl⟩⟩
  idempotency := ⟨[], by rw [idempotency, append_nil]⟩

theorem Grows.changed {affected : ProposalRow → Bool} {change : ProposalRow → ProposalRow}
    (proposals : later.proposals = (changeProposals affected change db).proposals)
    (idempotency : later.idempotency = db.idempotency)
    (keeps : ∀ row : ProposalRow, (change row).proposalId = row.proposalId ∧ (change
      row).proposalVersion = row.proposalVersion ∧ (change row).namespaceId = row.namespaceId ∧
      (change row).candidateRevisionId = row.candidateRevisionId) : Grows db later where
  proposals := by
    refine ⟨_, [], proposals.trans (append_nil _).symm, fun row => ?_⟩
    split_ifs
    · exact keeps row
    · exact ⟨rfl, rfl, rfl, rfl⟩
  idempotency := ⟨[], by rw [idempotency, append_nil]⟩

theorem Grows.trans {db middle later : ContractDb} (first : Grows db middle)
    (second : Grows middle later) : Grows db later := by
  obtain ⟨change, added, proposals, keeps⟩ := first.proposals
  obtain ⟨change', added', proposals', keeps'⟩ := second.proposals
  obtain ⟨records, idempotency⟩ := first.idempotency
  obtain ⟨records', idempotency'⟩ := second.idempotency
  refine ⟨⟨change' ∘ change, added.map change' ++ added', ?_, fun row => ?_⟩,
    ⟨records ++ records', ?_⟩⟩
  · rw [proposals', proposals, map_append, map_map, append_assoc]
  · obtain ⟨id, version, name, candidate⟩ := keeps' (change row)
    obtain ⟨id', version', name', candidate'⟩ := keeps row
    exact ⟨id.trans id', version.trans version', name.trans name', candidate.trans candidate'⟩
  · rw [idempotency', idempotency, append_assoc]

theorem Grows.accepted (env : CallEnv) (input : AcceptInput) (proposal : ProposalRow)
    (current vector : ContractHeadVector) (db : ContractDb) :
    Grows db (acceptedDb ctx env input proposal current vector db) := by
  have closes : Grows db (changeProposals (isProposal proposal) (fun row =>
      { row with status := .accepted, closedAt := some env.now })
        (advanceHead proposal current db)) :=
    .changed rfl rfl fun _ => ⟨rfl, rfl, rfl, rfl⟩
  have supersedes := closes.trans (.changed rfl rfl fun row => ⟨rfl, rfl, rfl, rfl⟩ :
    Grows _ (changeProposals (fun row => row.namespaceId = proposal.namespaceId &&
      row.status = .opened && row.baseHeadGeneration < current.headGeneration + 1)
      (supersede env.now) _))
  exact ⟨supersedes.proposals, ⟨_, rfl⟩⟩

theorem perform_grows {store later : ContractStore} {call : ContractCall}
    {result : Except ContractRefusal (Option AcceptResult)}
    (performed : call.perform ctx env store = (result, later)) : Grows store.db later.db := by
  cases contract_effect performed with
  | unchanged | reviewed => exact .of_eq rfl rfl
  | proposed presented input candidate _ stages =>
    obtain ⟨spool, rfl⟩ := stageAll_ok stages
    obtain ⟨revisions, units, same⟩ := proposedDb_frame ctx env presented input
      candidate.manifest { store.db with spool }
    dsimp only
    rw [same]
    refine ⟨⟨_, _, rfl, fun row => ?_⟩, [], (append_nil _).symm⟩
    split_ifs <;> exact ⟨rfl, rfl, rfl, rfl⟩
  | @accepted _ input proposal result _ _ anew =>
    obtain ⟨current, checked, -, -, rfl⟩ := acceptAnew_ok anew
    exact .accepted env input proposal current result.vector store.db
  | closed => exact .changed rfl rfl fun _ => ⟨rfl, rfl, rfl, rfl⟩
  | revoked revoked =>
    obtain ⟨_, _, _, rfl⟩ := revokeRevision_frame revoked
    exact .of_eq rfl rfl
  | authority effect => exact .of_eq effect.proposals.1 effect.proposals.2.1

def Recorded (ctx : ContractCtx) (input : AcceptInput) (result : AcceptResult)
    (db : ContractDb) : Prop :=
  ∃ proposal row, getProposal db input.proposalId input.proposalVersion = some proposal ∧
    recordedAcceptance db proposal.namespaceId input.idempotencyKey = some row ∧
    row.requestDigest = ctx.digestOfRequest (requestOf proposal input.expectedHead) ∧
    row.acceptanceId = result.acceptanceId ∧ row.vector = result.vector

theorem getProposal_grows (grows : Grows db later) {proposalId : String} {proposalVersion : Nat}
    {proposal : ProposalRow} (found : getProposal db proposalId proposalVersion = some proposal) :
    ∃ kept, getProposal later proposalId proposalVersion = some kept ∧
      kept.proposalId = proposal.proposalId ∧ kept.proposalVersion = proposal.proposalVersion ∧
      kept.namespaceId = proposal.namespaceId ∧
      kept.candidateRevisionId = proposal.candidateRevisionId := by
  obtain ⟨change, added, proposals, keeps⟩ := grows.proposals
  refine ⟨change proposal, ?_, keeps proposal⟩
  have sameKey : ((fun row : ProposalRow => decide (row.proposalId = proposalId) &&
      decide (row.proposalVersion = proposalVersion)) ∘ change) =
      fun row => decide (row.proposalId = proposalId) &&
        decide (row.proposalVersion = proposalVersion) := by
    funext row
    rw [Function.comp_apply, (keeps row).1, (keeps row).2.1]
  rw [getProposal] at found
  rw [getProposal, proposals, find?_append, find?_map, sameKey, found]
  rfl

theorem recordedAcceptance_grows (grows : Grows db later) {namespaceId idempotencyKey : String}
    {row : IdempotencyRow}
    (recorded : recordedAcceptance db namespaceId idempotencyKey = some row) :
    recordedAcceptance later namespaceId idempotencyKey = some row := by
  obtain ⟨added, idempotency⟩ := grows.idempotency
  rw [recordedAcceptance] at recorded
  rw [recordedAcceptance, idempotency, find?_append, recorded]
  rfl

variable {result : AcceptResult} {input : AcceptInput}

theorem Recorded.grows (recorded : Recorded ctx input result db) (grows : Grows db later) :
    Recorded ctx input result later := by
  obtain ⟨proposal, row, found, isRow, same, answers⟩ := recorded
  obtain ⟨kept, isKept, id, version, name, candidate⟩ := getProposal_grows grows found
  refine ⟨kept, row, isKept, name ▸ recordedAcceptance_grows grows isRow, ?_, answers⟩
  rw [same, requestOf, requestOf, id, version, candidate]

theorem acceptProposal_records {store later : ContractStore} {presented : Presented}
    (accepted : acceptProposal ctx env presented input store = (.ok result, later)) :
    Recorded ctx input result later.db := by
  obtain ⟨-, -, proposal, found, outcome⟩ := acceptProposal_ok_iff.mp accepted
  rcases outcome with ⟨row, recorded, same, rfl, rfl⟩ | ⟨unrecorded, anew⟩
  · exact ⟨proposal, row, found, recorded, same, rfl, rfl⟩
  obtain ⟨current, -, isId, -, rfl⟩ := acceptAnew_ok anew
  have grows : Grows store.db (acceptedDb ctx env input proposal current result.vector store.db) :=
    .accepted env input proposal current result.vector store.db
  obtain ⟨kept, isKept, id, version, name, candidate⟩ := getProposal_grows grows found
  refine ⟨kept, {
    namespaceId := proposal.namespaceId, idemKey := input.idempotencyKey
    requestDigest := ctx.digestOfRequest (requestOf proposal input.expectedHead)
    acceptanceId := env.newId "acc", vector := result.vector, createdAt := env.now },
    isKept, ?_, ?_, isId.symm, rfl⟩
  · rw [recordedAcceptance] at unrecorded
    rw [recordedAcceptance, name]
    dsimp only [acceptedDb, changeProposals, advanceHead]
    rw [find?_append, unrecorded]
    simp
  · rw [requestOf, requestOf, id, version, candidate]

theorem Recorded.answers {store : ContractStore} {presented : Presented}
    (recorded : Recorded ctx input result store.db) (issued : presented.issued = true)
    (isKey : isIdempotencyKey input.idempotencyKey = true) :
    acceptProposal ctx env presented input store =
      (.ok { result with duplicate := true }, store) := by
  obtain ⟨proposal, row, found, isRow, same, isId, isVector⟩ := recorded
  refine acceptProposal_ok_iff.mpr ⟨issued, isKey, proposal, found,
    .inl ⟨row, isRow, same, ?_, rfl⟩⟩
  rw [isId, isVector]

end Recording

/-- The heads of every run form one reviewed chain: a call that moves a head is the acceptance of
an open and approved proposal that is based on it, a call that throws, other than at the fence
file, leaves the store as it is, and an acceptance that is asked for again is answered from its
record. -/
theorem heads_form_reviewed_chains (ctx : ContractCtx) (inputs : List ContractInput) :
    HeadsSound ((contractMachine ctx).run inputs).db ∧ ∀ step ∈ (contractMachine ctx).steps inputs,
        (step.after.db.headLog = step.before.db.headLog ∨
          ∃ presented input proposal current authority,
            step.input.call = .acceptProposal presented input ∧
              SoundAcceptance step.before.db step.after.db proposal current authority) ∧
        (∀ refusal, step.output.1 = .error refusal → refusal ≠ .fenceNotWritten →
          step.after = step.before) ∧
        ∀ presented input result, step.input.call = .acceptProposal presented input →
          step.output.1 = .ok (some result) → ∀ later env other, other.issued = true →
              acceptProposal ctx env other input ((contractMachine ctx).runFrom step.after later) =
                (.ok { result with duplicate := true },
                  (contractMachine ctx).runFrom step.after later) := by
  have kept (store : ContractStore) (input : ContractInput) (sound : HeadsSound store.db) :
      HeadsSound ((contractMachine ctx).next store input).db := (perform_heads rfl sound).1
  refine ⟨Machine.runFrom_induction kept inputs HeadsSound.empty, fun step member => ?_⟩
  have sound : HeadsSound step.before.db :=
    Machine.before_of_mem_stepsFrom kept HeadsSound.empty member
  refine ⟨(perform_heads rfl sound).2, fun refusal threw fenced => ?_, ?_⟩
  · exact perform_throws (Prod.ext threw rfl) fenced
  intro presented input result isAccept answered later env other issued
  have performed : step.input.call.perform ctx step.input.env step.before =
      (.ok (some result), step.after) := Prod.ext answered rfl
  rw [isAccept] at performed
  obtain ⟨accepted, middle, isAccepted, isResult⟩ := andThen_ok_iff.mp performed
  cases isResult
  have remembers (store : ContractStore) (input' : ContractInput)
      (held : Recorded ctx input result store.db) :
      Recorded ctx input result ((contractMachine ctx).next store input').db :=
    held.grows (perform_grows rfl)
  have recorded := Machine.runFrom_induction remembers later (acceptProposal_records isAccepted)
  exact recorded.answers issued (acceptProposal_ok_iff.mp isAccepted).2.1

section Uncommitted

def recoveredUnfenced : List ContractInput :=
  [⟨quietEnv, .authority .beginContractProcessIncarnation⟩,
    ⟨quietEnv, .authority (.enrollNamespace plainOwner { meshId := "mesh" })⟩]

/-- A recovery that throws at the fence file has changed the tables. -/
theorem recovery_throws_after_commit :
    ¬ ∀ env call, (∃ refusal, (ContractCall.perform plainCtx env call
          ((contractMachine plainCtx).run recoveredUnfenced)).1 = .error refusal) →
        (ContractCall.perform plainCtx env call
          ((contractMachine plainCtx).run recoveredUnfenced)).2.db =
            ((contractMachine plainCtx).run recoveredUnfenced).db := by
  intro keeps
  have same := keeps { quietEnv with fenceFails := some 0 }
    (.authority (.recoverAuthority plainOwner "ns_1")) ⟨.fenceNotWritten, by decide⟩
  exact absurd same (by decide)

end Uncommitted

end Adhdev.Contract
