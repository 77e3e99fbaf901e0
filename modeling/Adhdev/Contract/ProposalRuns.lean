import Adhdev.Contract.AuthorityRuns
import Adhdev.Contract.Proposals

/-! # Calls of the contract modules

The calls of the authority and of the proposals together, and what each of them leaves in
the store when it answers.
-/

namespace Adhdev.Contract

open Call MeshShared

inductive ContractCall
  | authority (call : AuthorityCall)
  | proposeRevision (presented : Presented) (input : ProposeInput)
  | reviewProposal (presented : Presented) (input : ReviewInput)
  | acceptProposal (presented : Presented) (input : AcceptInput)
  | closeProposal (presented : Presented) (proposalId : String) (proposalVersion : Nat)
      (status : ClosingStatus)
  | revokeRevision (presented : Presented) (input : RevokeInput)

def ContractCall.perform (ctx : ContractCtx) (env : CallEnv) :
    ContractCall → Call ContractStore ContractRefusal (Option AcceptResult)
  | .authority call => andThen (call.perform ctx env) fun _ => answer none
  | .proposeRevision presented input =>
    andThen (Contract.proposeRevision ctx env presented input) fun _ => answer none
  | .reviewProposal presented input =>
    andThen (Contract.reviewProposal ctx env presented input) fun _ => answer none
  | .acceptProposal presented input =>
    andThen (Contract.acceptProposal ctx env presented input) fun result => answer (some result)
  | .closeProposal presented proposalId proposalVersion status =>
    andThen (Contract.closeProposal ctx env presented proposalId proposalVersion status)
      fun _ => answer none
  | .revokeRevision presented input =>
    andThen (Contract.revokeRevision ctx env presented input) fun _ => answer none

section Traceless

variable (ctx : ContractCtx) (env : CallEnv) (presented : Presented)

theorem readOnly_checked {α β : Type} (view : ContractStore → β)
    (check : β → Except ContractRefusal α) :
    ReadOnly ((inspect view).andThen fun viewed => Call.ofExcept (check viewed)) :=
  (readOnly_inspect _).andThen fun _ => readOnly_ofExcept _

theorem traceless_proposeRevision (input : ProposeInput) :
    Traceless (proposeRevision ctx env presented input) :=
  .after (readOnly_checked _ _) fun _ => traceless_transaction _

theorem traceless_reviewProposal (input : ReviewInput) :
    Traceless (reviewProposal ctx env presented input) :=
  .after (readOnly_checked _ _) fun _ => traceless_transaction _

theorem traceless_acceptProposal (input : AcceptInput) :
    Traceless (acceptProposal ctx env presented input) :=
  .after (readOnly_ofExcept _) fun _ => .after (readOnly_refuseIf _ _) fun _ =>
    .after (readOnly_checked _ _) fun _ => traceless_transaction _

theorem traceless_closeProposal (proposalId : String) (proposalVersion : Nat)
    (status : ClosingStatus) :
    Traceless (closeProposal ctx env presented proposalId proposalVersion status) :=
  .after (readOnly_checked _ _) fun _ => traceless_transaction _

theorem traceless_revokeRevision (input : RevokeInput) :
    Traceless (revokeRevision ctx env presented input) :=
  .after (readOnly_ofExcept _) fun _ => traceless_transaction _

theorem traceless_perform {call : ContractCall} (proposes : ∀ other, call ≠ .authority other) :
    Traceless (call.perform ctx env) := by
  cases call with
  | authority other => exact absurd rfl (proposes other)
  | proposeRevision presented input =>
    exact (traceless_proposeRevision ctx env presented input).answering _
  | reviewProposal presented input =>
    exact (traceless_reviewProposal ctx env presented input).answering _
  | acceptProposal presented input =>
    exact (traceless_acceptProposal ctx env presented input).answering _
  | closeProposal presented proposalId proposalVersion status =>
    exact (traceless_closeProposal ctx env presented proposalId proposalVersion status).answering _
  | revokeRevision presented input =>
    exact (traceless_revokeRevision ctx env presented input).answering _

end Traceless

section Answers

variable {ctx : ContractCtx} {env : CallEnv} {presented : Presented} {store later : ContractStore}

theorem stageSpoolBody_ok {bytes : List UInt8} {digest : String}
    (staged : stageSpoolBody ctx bytes store = (.ok digest, later)) :
    digest = ctx.sha256Bytes bytes ∧
      ∃ spool, later = { store with db := { store.db with spool } } := by
  rw [stageSpoolBody] at staged
  simp only [bind_eq, pure_eq, andThen_ok_iff, inspect_ok_iff] at staged
  obtain ⟨existing, middle, ⟨rfl, rfl⟩, staged⟩ := staged
  split at staged
  · simp only [andThen_ok_iff, changeDb_ok_iff, answer_ok_iff] at staged
    obtain ⟨-, -, rfl, rfl, rfl⟩ := staged
    exact ⟨rfl, _, rfl⟩
  simp only [andThen_ok_iff, inspect_ok_iff, refuseIf_ok_iff, changeDb_ok_iff,
    answer_ok_iff] at staged
  obtain ⟨-, -, ⟨rfl, rfl⟩, -, -, ⟨-, rfl⟩, -, -, ⟨rfl, rfl⟩, -, -, ⟨-, rfl⟩, -, -, rfl, rfl,
    rfl⟩ :=
    staged
  exact ⟨rfl, _, rfl⟩

theorem stageAll_ok {bodies : List (List UInt8)} {digests : List String}
    (staged : each (stageSpoolBody ctx) bodies store = (.ok digests, later)) :
    ∃ spool, later = { store with db := { store.db with spool } } := by
  induction bodies generalizing store digests with
  | nil =>
    rw [each, answer_ok_iff] at staged
    exact ⟨store.db.spool, staged.2⟩
  | cons bytes bodies induction =>
    simp only [each, andThen_ok_iff, answer_ok_iff] at staged
    obtain ⟨digest, middle, first, rest, last, staged, -, rfl⟩ := staged
    obtain ⟨-, spool, rfl⟩ := stageSpoolBody_ok first
    obtain ⟨lastSpool, rfl⟩ := induction staged
    exact ⟨lastSpool, rfl⟩

theorem ofExcept_view_ok_iff {α β : Type} {view : ContractStore → β}
    {check : β → Except ContractRefusal α} {value : α} :
    (inspect view).andThen (fun viewed => Call.ofExcept (check viewed)) store = (.ok value, later) ↔
      check (view store) = .ok value ∧ later = store := by
  simp [and_comm]

theorem findProposal_ok_iff {proposalId : String} {proposalVersion : Nat} {proposal : ProposalRow} :
    findProposal presented proposalId proposalVersion store = (.ok proposal, later) ↔
      presented.issued = true ∧
        getProposal store.db proposalId proposalVersion = some proposal ∧ later = store := by
  rw [findProposal, ofExcept_view_ok_iff, assertIssued]
  cases issued : presented.issued with
  | false =>
    refine iff_of_false ?_ fun held => absurd held.1 Bool.false_ne_true
    rintro ⟨refused, -⟩
    cases refused
  | true =>
    cases found : getProposal store.db proposalId proposalVersion with
    | none =>
      refine iff_of_false ?_ fun held => by cases held.2.1
      rintro ⟨refused, -⟩
      cases refused
    | some row =>
      constructor
      · rintro ⟨answered, rfl⟩
        cases answered
        exact ⟨rfl, rfl, rfl⟩
      rintro ⟨-, same, rfl⟩
      cases same
      exact ⟨rfl, rfl⟩

def proposedDb (ctx : ContractCtx) (env : CallEnv) (presented : Presented) (input : ProposeInput)
    (manifest : ContractRevisionManifest) (db : ContractDb) : ContractDb :=
  let revisionId := ctx.computeRevisionId manifest
  let inserted := manifest.units.foldl (fun db unit => insertUnit revisionId unit db)
    (insertRevision revisionId manifest db)
  let proposalId := proposalIdOf env input
  { inserted with
    proposals := inserted.proposals.map (fun row =>
        if row.proposalId = proposalId && row.status =
          .opened then supersede env.now row else row) ++
      [proposalRowOf env presented input revisionId (lastVersion inserted proposalId + 1)] }

theorem proposeRevision_ok {input : ProposeInput} {result : ProposeResult}
    (proposed : proposeRevision ctx env presented input store = (.ok result, later)) :
    ∃ candidate digests staged, prepareCandidate ctx store.db env presented input = .ok candidate ∧
        each (stageSpoolBody ctx) candidate.bodies store = (.ok digests, staged) ∧
        later = { staged with
          db := proposedDb ctx env presented input candidate.manifest staged.db } := by
  rw [proposeRevision] at proposed
  simp only [bind_eq, pure_eq, andThen_ok_iff, inspect_ok_iff, ofExcept_ok_iff,
    transaction_ok_iff, changeDb_ok_iff, refuseIf_ok_iff, answer_ok_iff] at proposed
  obtain ⟨candidate, _, ⟨_, _, ⟨rfl, rfl⟩, prepared, rfl⟩, _, _, ⟨_, _, ⟨rfl, rfl⟩, -, rfl⟩,
    digests,
    staged, stages, rest⟩ := proposed
  refine ⟨candidate, digests, staged, prepared, stages, ?_⟩
  obtain ⟨-, -, rfl, -, -, rfl, -, -, ⟨rfl, rfl⟩, -, -, ⟨-, rfl⟩, -, -, ⟨rfl, rfl⟩, -, -, rfl, -, -,
    rfl,
    -, rfl⟩ := rest
  rfl

theorem reviewProposal_ok {input : ReviewInput} {reviewId : String}
    (reviewed : reviewProposal ctx env presented input store = (.ok reviewId, later)) :
    ∃ proposal authority,
      later = { store with db := { store.db with reviews := store.db.reviews ++
        [reviewOf (env.newId "rvw") presented proposal authority input.verdict] } } := by
  rw [reviewProposal] at reviewed
  simp only [bind_eq, pure_eq, andThen_ok_iff, findProposal_ok_iff, inspect_ok_iff,
    ofExcept_ok_iff, transaction_ok_iff, insertUnless_ok_iff, answer_ok_iff] at reviewed
  obtain ⟨proposal, -, ⟨-, -, rfl⟩, authority, -, ⟨-, -, ⟨rfl, rfl⟩, -, rfl⟩, -, -, ⟨-, rfl⟩, -,
    rfl⟩ :=
    reviewed
  exact ⟨proposal, authority, rfl⟩

def acceptedDb (ctx : ContractCtx) (env : CallEnv) (input : AcceptInput) (proposal : ProposalRow)
    (current vector : ContractHeadVector) (db : ContractDb) : ContractDb :=
  let acceptanceId := env.newId "acc"
  let closed := changeProposals (fun row => row.namespaceId = proposal.namespaceId &&
      row.status = .opened && row.baseHeadGeneration < current.headGeneration + 1)
    (supersede env.now) (changeProposals (isProposal proposal) (fun row =>
      { row with status := .accepted, closedAt := some env.now }) (advanceHead proposal current db))
  { closed with
    headLog := closed.headLog ++ [headLogRowOf acceptanceId proposal current]
    outbox := closed.outbox ++ [outboxRowOf acceptanceId proposal current]
    idempotency := closed.idempotency ++ [{
      namespaceId := proposal.namespaceId, idemKey := input.idempotencyKey
      requestDigest := ctx.digestOfRequest (requestOf proposal input.expectedHead)
      acceptanceId, vector, createdAt := env.now }] }

theorem acceptAnew_ok {input : AcceptInput} {proposal : ProposalRow} {result : AcceptResult}
    (accepted : acceptAnew ctx env presented input proposal store = (.ok result, later)) :
    ∃ current, checkAcceptance ctx env store.db presented proposal input.expectedHead =
      .ok current ∧
      result.acceptanceId = env.newId "acc" ∧ result.duplicate = false ∧
      later = { store with
        db := acceptedDb ctx env input proposal current result.vector store.db } := by
  rw [acceptAnew] at accepted
  simp only [bind_eq, pure_eq, andThen_ok_iff, inspect_ok_iff, ofExcept_ok_iff, changeDb_ok_iff,
    insertUnless_ok_iff, answer_ok_iff] at accepted
  obtain ⟨current, _, ⟨_, _, ⟨rfl, rfl⟩, checked, rfl⟩, _, _, rfl, _, _, ⟨-, rfl⟩, _, _, rfl, _, _,
    rfl,
    _, _, ⟨-, rfl⟩, _, _, ⟨rfl, rfl⟩, vector, _, ⟨-, rfl⟩, _, _, rfl, rfl, rfl⟩ := accepted
  exact ⟨current, checked, rfl, rfl, rfl⟩

theorem acceptProposal_ok_iff {input : AcceptInput} {result : AcceptResult} :
    acceptProposal ctx env presented input store = (.ok result, later) ↔
      presented.issued = true ∧ isIdempotencyKey input.idempotencyKey = true ∧
        ∃ proposal, getProposal store.db input.proposalId input.proposalVersion = some proposal ∧
          ((∃ row, recordedAcceptance store.db proposal.namespaceId input.idempotencyKey =
            some row ∧
              row.requestDigest = ctx.digestOfRequest (requestOf proposal input.expectedHead) ∧
              result = ⟨row.acceptanceId, row.vector, true⟩ ∧
              later = store) ∨
            (recordedAcceptance store.db proposal.namespaceId input.idempotencyKey = none ∧
              acceptAnew ctx env presented input proposal store = (.ok result, later))) := by
  have issues : assertIssued presented = .ok presented.principal ↔ presented.issued = true := by
    rw [assertIssued]
    cases presented.issued <;> simp
  rw [acceptProposal]
  simp only [bind_eq, pure_eq, andThen_ok_iff, ofExcept_ok_iff, refuseIf_ok_iff,
    findProposal_ok_iff,
    transaction_ok_iff, inspect_ok_iff]
  constructor
  · rintro ⟨_, _, ⟨issued, rfl⟩, _, _, ⟨key, rfl⟩, proposal, _, ⟨isIssued, found, rfl⟩, prior, _,
      ⟨isPrior, rfl⟩, rest⟩
    refine ⟨isIssued, by simpa using key, proposal, found, ?_⟩
    cases prior with
    | some row =>
      simp only [andThen_ok_iff, refuseIf_ok_iff, answer_ok_iff, not_not] at rest
      obtain ⟨_, _, ⟨same, rfl⟩, rfl, rfl⟩ := rest
      exact .inl ⟨row, isPrior.symm, same, rfl, rfl⟩
    | none => exact .inr ⟨isPrior.symm, rest⟩
  rintro ⟨issued, key, proposal, found, recorded⟩
  refine ⟨_, _, ⟨issues.mpr issued, rfl⟩, (), _, ⟨by simpa using key, rfl⟩, proposal, _,
    ⟨issued, found, rfl⟩, _, _, ⟨rfl, rfl⟩, ?_⟩
  rcases recorded with ⟨row, recorded, same, rfl, rfl⟩ | ⟨unrecorded, accepted⟩
  · rw [recorded]
    simpa using same
  · rw [unrecorded]
    exact accepted

theorem closeProposal_ok {proposalId : String} {proposalVersion : Nat} {status : ClosingStatus}
    {done : Unit}
    (closed : closeProposal ctx env presented proposalId proposalVersion status store =
      (.ok done, later)) :
    ∃ proposal, later = { store with db := changeProposals (isProposal proposal) (fun row =>
      { row with status := status.toStatus, closedAt := some env.now }) store.db } := by
  rw [closeProposal] at closed
  simp only [bind_eq, andThen_ok_iff, findProposal_ok_iff, inspect_ok_iff, ofExcept_ok_iff,
    transaction_ok_iff, changeDb_ok_iff] at closed
  obtain ⟨proposal, -, ⟨-, -, rfl⟩, -, -, ⟨-, -, ⟨rfl, rfl⟩, -, rfl⟩, rfl⟩ := closed
  exact ⟨proposal, rfl⟩

def revisionRevokedDb (input : RevokeInput) (revocationGeneration : Nat) (notice : OutboxRow)
    (db : ContractDb) : ContractDb :=
  let revoked := insertRevoked input
    (changeAuthority input.namespaceId (fun row => { row with revocationGeneration }) db)
  { revoked with outbox := revoked.outbox ++ [notice] }

theorem revokeRevision_ok {input : RevokeInput} {head : ContractHeadVector}
    (revoked : revokeRevision ctx env presented input store = (.ok head, later)) :
    ∃ revocationGeneration notice, later = { store with
      db := revisionRevokedDb input revocationGeneration notice store.db } := by
  rw [revokeRevision] at revoked
  simp only [bind_eq, pure_eq, andThen_ok_iff, inspect_ok_iff, ofExcept_ok_iff,
    transaction_ok_iff, changeDb_ok_iff, insertUnless_ok_iff, answer_ok_iff] at revoked
  obtain ⟨-, -, ⟨-, rfl⟩, authority, -, ⟨-, -, ⟨rfl, rfl⟩, -, rfl⟩, -, -, rfl, -, -, rfl, -, -,
    ⟨rfl, rfl⟩,
    -, -, ⟨-, rfl⟩, -, -, ⟨-, rfl⟩, -, rfl⟩ := revoked
  exact ⟨authority.revocationGeneration + 1, _, rfl⟩

end Answers

section Frames

variable {ctx : ContractCtx} {env : CallEnv}

theorem insertUnits_frame (revisionId : String) (units : List ContractUnit) (db : ContractDb) :
    ∃ rows, units.foldl (fun db unit => insertUnit revisionId unit db) db =
      { db with units := rows } := by
  induction units generalizing db with
  | nil => exact ⟨db.units, rfl⟩
  | cons unit units induction =>
    have one : ∃ rows, insertUnit revisionId unit db = { db with units := rows } := by
      rw [insertUnit]
      split_ifs
      · exact ⟨db.units, rfl⟩
      · exact ⟨_, rfl⟩
    obtain ⟨rows, inserted⟩ := one
    obtain ⟨last, rest⟩ := induction (insertUnit revisionId unit db)
    exact ⟨last, by rw [List.foldl_cons, rest, inserted]⟩

theorem insertRevision_frame (revisionId : String) (manifest : ContractRevisionManifest)
    (db : ContractDb) :
    ∃ revisions, insertRevision revisionId manifest db = { db with revisions } := by
  rw [insertRevision]
  split_ifs
  · exact ⟨db.revisions, rfl⟩
  · exact ⟨_, rfl⟩

theorem proposedDb_frame (ctx : ContractCtx) (env : CallEnv) (presented : Presented)
    (input : ProposeInput) (manifest : ContractRevisionManifest) (db : ContractDb) :
    ∃ revisions units, proposedDb ctx env presented input manifest db = { db with
      revisions, units
      proposals := db.proposals.map (fun row =>
          if row.proposalId = proposalIdOf env input && row.status = .opened then
            supersede env.now row else row) ++
        [proposalRowOf env presented input (ctx.computeRevisionId manifest)
          (lastVersion db (proposalIdOf env input) + 1)] } := by
  obtain ⟨revisions, inserted⟩ := insertRevision_frame (ctx.computeRevisionId manifest) manifest db
  obtain ⟨units, added⟩ := insertUnits_frame (ctx.computeRevisionId manifest) manifest.units
    { db with revisions }
  refine ⟨revisions, units, ?_⟩
  rw [proposedDb, inserted, added]
  rfl

theorem insertRevoked_frame (input : RevokeInput) (db : ContractDb) :
    ∃ revokedRevisions, insertRevoked input db = { db with revokedRevisions } := by
  rw [insertRevoked]
  split_ifs
  · exact ⟨db.revokedRevisions, rfl⟩
  · exact ⟨_, rfl⟩

variable {store later : ContractStore}

theorem Effect.proposals {call : AuthorityCall} {result : Except ContractRefusal Unit}
    (effect : Effect ctx env store call result later) :
    later.db.proposals = store.db.proposals ∧ later.db.idempotency = store.db.idempotency ∧
      later.db.headLog = store.db.headLog := by
  cases effect with
  | enrolled | recovered | transferred => rw [fencedStore_db]; exact ⟨rfl, rfl, rfl⟩
  | _ => exact ⟨rfl, rfl, rfl⟩

variable {refusal : ContractRefusal}

theorem Effect.throws {call : AuthorityCall}
    (effect : Effect ctx env store call (.error refusal) later)
    (fenced : refusal ≠ .fenceNotWritten) : later = store := by
  have refuses : performed (.error refusal : Except ContractRefusal Unit) ≠ true := by
    cases refusal <;> first | exact Bool.false_ne_true | exact absurd rfl fenced
  cases effect with
  | refused => rfl
  | enrolled _ performs | _ performs => exact absurd performs refuses

theorem perform_throws {call : ContractCall}
    (threw : call.perform ctx env store = (.error refusal, later))
    (fenced : refusal ≠ .fenceNotWritten) : later = store := by
  by_cases proposes : ∀ other, call ≠ .authority other
  · exact traceless_perform ctx env proposes store refusal later threw
  rw [not_forall] at proposes
  obtain ⟨other, isOther⟩ := proposes
  cases not_not.mp isOther
  rw [ContractCall.perform, andThen_answer, Prod.mk.injEq] at threw
  obtain ⟨failed, rfl⟩ := threw
  have effect := perform_effect ctx env store other
  cases called : (other.perform ctx env store).1 with
  | ok =>
    rw [called] at failed
    cases failed
  | error inner =>
    rw [called] at failed effect
    cases failed
    exact effect.throws fenced

theorem revokeRevision_frame {presented : Presented} {input : RevokeInput}
    {head : ContractHeadVector}
    (revoked : revokeRevision ctx env presented input store = (.ok head, later)) :
    ∃ revocationGeneration revokedRevisions notice, later = { store with db :=
      { changeAuthority input.namespaceId (fun row => { row with revocationGeneration })
        store.db with
        revokedRevisions, outbox := store.db.outbox ++ [notice] } } := by
  obtain ⟨revocationGeneration, notice, rfl⟩ := revokeRevision_ok revoked
  obtain ⟨revokedRevisions, same⟩ := insertRevoked_frame input
    (changeAuthority input.namespaceId (fun row => { row with revocationGeneration }) store.db)
  refine ⟨revocationGeneration, revokedRevisions, notice, ?_⟩
  rw [revisionRevokedDb, same]
  rfl

/-- What a call does to the store, however it ends. -/
inductive ContractEffect (ctx : ContractCtx) (env : CallEnv) (store : ContractStore) :
    ContractCall → ContractStore → Prop
  | unchanged {call : ContractCall} : ContractEffect ctx env store call store
  | proposed (presented : Presented) (input : ProposeInput) (candidate : Candidate)
      {digests : List String} {staged : ContractStore}
      (prepared : prepareCandidate ctx store.db env presented input = .ok candidate)
      (stages : each (stageSpoolBody ctx) candidate.bodies store = (.ok digests, staged)) :
      ContractEffect ctx env store (.proposeRevision presented input) { staged with
        db := proposedDb ctx env presented input candidate.manifest staged.db }
  | reviewed {presented : Presented} {input : ReviewInput} (row : ReviewRow) :
      ContractEffect ctx env store (.reviewProposal presented input)
        { store with db := { store.db with reviews := store.db.reviews ++ [row] } }
  | accepted {presented : Presented} {input : AcceptInput} {proposal : ProposalRow}
      {result : AcceptResult} {later : ContractStore} (proposed : proposal ∈ store.db.proposals)
      (anew : acceptAnew ctx env presented input proposal store = (.ok result, later)) :
      ContractEffect ctx env store (.acceptProposal presented input) later
  | closed {presented : Presented} {proposalId : String} {proposalVersion : Nat}
      (status : ClosingStatus) (proposal : ProposalRow) :
      ContractEffect ctx env store (.closeProposal presented proposalId proposalVersion status)
        { store with db := changeProposals (isProposal proposal) (fun row =>
          { row with status := status.toStatus, closedAt := some env.now }) store.db }
  | revoked {presented : Presented} {input : RevokeInput} {head : ContractHeadVector}
      {later : ContractStore}
      (revoked : revokeRevision ctx env presented input store = (.ok head, later)) :
      ContractEffect ctx env store (.revokeRevision presented input) later
  | authority {call : AuthorityCall} {result : Except ContractRefusal Unit} {later : ContractStore}
      (effect : Effect ctx env store call result later) :
      ContractEffect ctx env store (.authority call) later

theorem contract_effect {call : ContractCall}
    {result : Except ContractRefusal (Option AcceptResult)}
    (performed : call.perform ctx env store = (result, later)) :
    ContractEffect ctx env store call later := by
  by_cases proposes : ∀ other, call ≠ .authority other
  · cases result with
    | error refusal =>
      rw [traceless_perform ctx env proposes store refusal later performed]
      exact .unchanged
    | ok answered =>
      cases call with
      | authority other => exact absurd rfl (proposes other)
      | proposeRevision presented input =>
        obtain ⟨result, _, proposed, -, rfl⟩ := andThen_ok_iff.mp performed
        obtain ⟨candidate, digests, staged, prepared, stages, rfl⟩ := proposeRevision_ok proposed
        exact .proposed presented input candidate prepared stages
      | reviewProposal presented input =>
        obtain ⟨result, _, reviewed, -, rfl⟩ := andThen_ok_iff.mp performed
        obtain ⟨proposal, authority, rfl⟩ := reviewProposal_ok reviewed
        exact .reviewed _
      | acceptProposal presented input =>
        obtain ⟨result, _, accepted, -, rfl⟩ := andThen_ok_iff.mp performed
        obtain ⟨-, -, proposal, found, outcome⟩ := acceptProposal_ok_iff.mp accepted
        rcases outcome with ⟨row, -, -, -, rfl⟩ | ⟨-, anew⟩
        · exact .unchanged
        · exact .accepted (List.mem_of_find?_eq_some found) anew
      | closeProposal presented proposalId proposalVersion status =>
        obtain ⟨result, _, closed, -, rfl⟩ := andThen_ok_iff.mp performed
        obtain ⟨proposal, rfl⟩ := closeProposal_ok closed
        exact .closed status proposal
      | revokeRevision presented input =>
        obtain ⟨result, _, revoked, -, rfl⟩ := andThen_ok_iff.mp performed
        exact .revoked revoked
  · rw [not_forall] at proposes
    obtain ⟨other, isOther⟩ := proposes
    cases not_not.mp isOther
    rw [ContractCall.perform, andThen_answer, Prod.mk.injEq] at performed
    rw [← performed.2]
    exact .authority (perform_effect ctx env store other)

end Frames

section Runs

structure ContractInput where
  env : CallEnv
  call : ContractCall

def contractMachine (ctx : ContractCtx) : Machine ContractStore ContractInput
      (Except ContractRefusal (Option AcceptResult) × ContractStore) where
  initial := {}
  respond := fun store input => input.call.perform ctx input.env store
  advance := Prod.snd

end Runs

end Adhdev.Contract
