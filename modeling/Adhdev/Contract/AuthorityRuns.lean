import Adhdev.Contract.Authority
import Adhdev.Foundation.Machine

/-! # Calls of the contract authority

What every call can do to the store, said once.
-/

namespace Adhdev.Contract

open Call MeshShared

inductive AuthorityCall
  | enrollNamespace (owner : Presented) (input : EnrollInput)
  | updatePolicy (owner : Presented) (namespaceId : String) (patch : PolicyPatch)
  | beginContractProcessIncarnation
  | recoverAuthority (owner : Presented) (namespaceId : String)
  | transferAuthority (owner : Presented) (input : TransferInput)
  | mintCoordinatorGrant (owner : Presented) (input : MintGrantInput) (secret : String)
  | revokeGrant (owner : Presented) (grantId reason : String)
  | revokeGrantsForSession (coordinatorSessionId : String)

def ignoring {α : Type} (call : Call ContractStore ContractRefusal α) :
    Call ContractStore ContractRefusal Unit :=
  andThen call fun _ => answer ()

def AuthorityCall.perform (ctx : ContractCtx) (env : CallEnv) :
    AuthorityCall → Call ContractStore ContractRefusal Unit
  | .enrollNamespace owner input => ignoring (Contract.enrollNamespace ctx env owner input)
  | .updatePolicy owner namespaceId patch =>
    ignoring (Contract.updatePolicy ctx owner namespaceId patch)
  | .beginContractProcessIncarnation => ignoring (Contract.beginContractProcessIncarnation ctx env)
  | .recoverAuthority owner namespaceId =>
    ignoring (Contract.recoverAuthority ctx env owner namespaceId)
  | .transferAuthority owner input => ignoring (Contract.transferAuthority ctx env owner input)
  | .mintCoordinatorGrant owner input secret =>
    ignoring (Contract.mintCoordinatorGrant ctx env owner input secret)
  | .revokeGrant owner grantId reason => ignoring (Contract.revokeGrant env owner grantId reason)
  | .revokeGrantsForSession coordinatorSessionId =>
    ignoring (Contract.revokeGrantsForSession env coordinatorSessionId)

section Effects

variable (ctx : ContractCtx) (env : CallEnv)

def fencedStore (store : ContractStore) (namespaceId : String) (epoch : Nat) : ContractStore :=
  if env.fenceFails = some 0 then store else store.writeFence namespaceId epoch

def enrolledRow (ownerPrincipal : String) (input : EnrollInput) : AuthorityRow where
  namespaceId := env.newId "ns"
  meshId := trim input.meshId
  ownerPrincipal := ownerPrincipal
  authorityDaemonId := ctx.localDaemonId
  authorityEpoch := 1
  processIncarnation := 1
  policyRevision := 1
  policy := ({} : ContractPolicy).patched input.policy
  revocationGeneration := 0
  status := .active

def enrolledDb (ownerPrincipal : String) (input : EnrollInput) (db : ContractDb) : ContractDb :=
  { db with
    authorities := db.authorities ++ [enrolledRow ctx env ownerPrincipal input]
    heads := db.heads ++ [{
      namespaceId := env.newId "ns", authorityEpoch := 1, headGeneration := 0, revisionId := none
      policyRevision := 1 }] }

def policedDb (namespaceId : String) (authority : AuthorityRow) (patch : PolicyPatch)
    (db : ContractDb) : ContractDb :=
  changeHead namespaceId (fun head => { head with policyRevision := authority.policyRevision + 1 })
    (changeAuthority namespaceId (fun row => { row with
      policy := authority.policy.patched patch
      policyRevision := authority.policyRevision + 1 }) db)

def recoveredRow (row : AuthorityRow) : AuthorityRow :=
  { row with
    authorityDaemonId := ctx.localDaemonId
    status := .active
    processIncarnation := row.processIncarnation + 1 }

def recoveredDb (namespaceId : String) (epoch : Nat) (db : ContractDb) : ContractDb :=
  enterEpoch namespaceId "owner_recovery" epoch (recoveredRow ctx) env.now db

def pausedDb (namespaceId : String) (db : ContractDb) : ContractDb :=
  changeAuthority namespaceId (fun row => { row with status := .pausedTransfer }) db

def transferredStatus (input : TransferInput) : AuthorityStatus :=
  if daemonIdsEquivalent (storedDaemonId input.newDaemonId) ctx.localDaemonId then .active
  else .transferredAway

def transferredRow (input : TransferInput) (row : AuthorityRow) : AuthorityRow :=
  { row with
    authorityDaemonId := storedDaemonId input.newDaemonId
    status := transferredStatus ctx input }

def transferredDb (input : TransferInput) (epoch : Nat) (db : ContractDb) : ContractDb :=
  enterEpoch input.namespaceId "authority_transfer" epoch (transferredRow ctx input) env.now db

def mintedRow (authority : AuthorityRow) (input : MintGrantInput) (secret : String)
    (db : ContractDb) : GrantRow where
  grantId := env.newId "grant"
  namespaceId := input.namespaceId
  verifier := ctx.hashCapability ("csb_" ++ secret)
  coordinatorSessionId := input.coordinatorSessionId
  authorityDaemonId := ctx.localDaemonId
  authorityEpoch := authority.authorityEpoch
  processIncarnation := authority.processIncarnation
  grantGeneration := lastGeneration db input.namespaceId input.coordinatorSessionId + 1
  ops := input.ops.eraseDups
  maxImpact := input.maxImpact
  expiresAt := env.now + grantTtl ctx input
  overlapUntil := none
  revokedAt := none
  revokeReason := none

def mintedDb (authority : AuthorityRow) (input : MintGrantInput) (secret : String)
    (db : ContractDb) : ContractDb :=
  let rotated := rotateGrants env authority input db
  { rotated with grants := rotated.grants ++ [mintedRow ctx env authority input secret db] }

def ofSession (coordinatorSessionId : String) (row : GrantRow) : Bool :=
  row.coordinatorSessionId = coordinatorSessionId

def revokedDb (chosen : GrantRow → Bool) (reason : String) (db : ContractDb) : ContractDb :=
  changeGrants (fun row => chosen row && revocable row) (revokedGrant env.now reason) db

/-- The call has done its work, whether or not it could write the fence. -/
def performed {α : Type} : Except ContractRefusal α → Bool
  | .ok _ => true
  | .error .fenceNotWritten => true
  | .error _ => false

def MintPasses (store : ContractStore) (owner : Presented) (input : MintGrantInput)
    (secret : String) : Prop :=
  (assertOwner owner).isOk = true ∧ ¬ (input.ops = [] ∨ trim input.coordinatorSessionId = "") ∧
    (∃ authority, assertAuthorityWritable ctx store.db input.namespaceId = .ok authority ∧
      ¬ (input.maxImpact = .breaking ∧ authority.policy.delegateBreaking = false)) ∧
    ∀ row ∈ store.db.grants, row.grantId ≠ env.newId "grant" ∧
      row.verifier ≠ ctx.hashCapability ("csb_" ++ secret)

def RefusedOn (store : ContractStore) : AuthorityCall → Prop
  | .beginContractProcessIncarnation => False
  | .recoverAuthority owner namespaceId =>
    (assertOwner owner).isOk = true → getAuthority store.db namespaceId = none
  | .transferAuthority owner input =>
    (assertOwner owner).isOk = true → trim input.newDaemonId ≠ "" →
      getAuthority store.db input.namespaceId = none
  | .mintCoordinatorGrant owner input secret => ¬ MintPasses ctx env store owner input secret
  | .revokeGrant owner _ _ => (assertOwner owner).isOk = false
  | _ => True

inductive Effect (store : ContractStore) :
    AuthorityCall → Except ContractRefusal Unit → ContractStore → Prop
  | refused {call : AuthorityCall} {result : Except ContractRefusal Unit}
      (refuses : performed result = false) (grounds : RefusedOn ctx env store call) :
      Effect store call result store
  | enrolled {owner : Presented} {input : EnrollInput} (ownerPrincipal : String)
      {result : Except ContractRefusal Unit} (performs : performed result = true)
      (fresh : store.db.authorities.any (·.namespaceId = env.newId "ns") = false)
      (headless : store.db.heads.any (·.namespaceId = env.newId "ns") = false) :
      Effect store (.enrollNamespace owner input) result
        (fencedStore env { store with db := enrolledDb ctx env ownerPrincipal input store.db }
          (env.newId "ns") 1)
  | policed {owner : Presented} {namespaceId : String} {patch : PolicyPatch}
      {authority : AuthorityRow} {result : Except ContractRefusal Unit}
      (performs : performed result = true)
      (writable : assertAuthorityWritable ctx store.db namespaceId = .ok authority) :
      Effect store (.updatePolicy owner namespaceId patch) result
        { store with db := policedDb namespaceId authority patch store.db }
  | booted {result : Except ContractRefusal Unit} (performs : performed result = true)
      (fence : List (String × Nat)) :
      Effect store .beginContractProcessIncarnation result
        { db := bootTransaction ctx env store, fence }
  | recovered {owner : Presented} {namespaceId : String} {authority : AuthorityRow}
      {result : Except ContractRefusal Unit} (performs : performed result = true)
      (owns : (assertOwner owner).isOk = true)
      (found : getAuthority store.db namespaceId = some authority) :
      Effect store (.recoverAuthority owner namespaceId) result
        (fencedStore env
          { store with db := recoveredDb ctx env namespaceId (nextEpoch store authority) store.db }
          namespaceId (nextEpoch store authority))
  | paused {owner : Presented} {input : TransferInput} {result : Except ContractRefusal Unit}
      (performs : performed result = true) (unfenced : input.oldWriterFenced = false) :
      Effect store (.transferAuthority owner input) result
        { store with db := pausedDb input.namespaceId store.db }
  | transferred {owner : Presented} {input : TransferInput} {authority : AuthorityRow}
      {result : Except ContractRefusal Unit} (performs : performed result = true)
      (owns : (assertOwner owner).isOk = true) (named : trim input.newDaemonId ≠ "")
      (fenced : input.oldWriterFenced = true)
      (found : getAuthority store.db input.namespaceId = some authority) :
      Effect store (.transferAuthority owner input) result
        (fencedStore env
          { store with db := transferredDb ctx env input (nextEpoch store authority) store.db }
          input.namespaceId (nextEpoch store authority))
  | minted {owner : Presented} {input : MintGrantInput} {secret : String}
      {authority : AuthorityRow} {result : Except ContractRefusal Unit}
      (performs : performed result = true) (passes : MintPasses ctx env store owner input secret)
      (writable : assertAuthorityWritable ctx store.db input.namespaceId = .ok authority) :
      Effect store (.mintCoordinatorGrant owner input secret) result
        { store with db := mintedDb ctx env authority input secret store.db }
  | revoked {owner : Presented} {grantId reason : String} {result : Except ContractRefusal Unit}
      (performs : performed result = true) (owns : (assertOwner owner).isOk = true) :
      Effect store (.revokeGrant owner grantId reason) result
        { store with db := revokedDb env (·.grantId = grantId) reason store.db }
  | sessionRevoked {coordinatorSessionId : String} {result : Except ContractRefusal Unit}
      (performs : performed result = true) :
      Effect store (.revokeGrantsForSession coordinatorSessionId) result
        { store with db := revokedDb env (ofSession coordinatorSessionId) "session_ended" store.db }

end Effects

section Inversion

variable {ctx : ContractCtx} {env : CallEnv} {store : ContractStore}

variable {α : Type}

theorem ends_ignoring {call : Call ContractStore ContractRefusal α}
    {Post : Except ContractRefusal Unit → ContractStore → Prop}
    (ends : Ends call store fun result later => Post (result.map fun _ => ()) later) :
    Ends (ignoring call) store Post :=
  ends_andThen ends (fun _ _ holds => holds) fun _ _ holds => ends_answer holds

variable {Post : Except ContractRefusal α → ContractStore → Prop} {namespaceId : String}

theorem ends_bind_fenceWrite {epoch : Nat} {next : Unit → Call ContractStore ContractRefusal α}
    (throws : env.fenceFails = some 0 → Post (.error .fenceNotWritten) store)
    (rest : env.fenceFails ≠ some 0 → Ends (next ()) (store.writeFence namespaceId epoch) Post) :
    Ends ((fenceWrite env 0 namespaceId epoch).andThen next) store Post := by
  by_cases fails : env.fenceFails = some 0
  · have failed : Ends (fenceWrite env 0 namespaceId epoch) store fun result later =>
        result = .error .fenceNotWritten ∧ later = store := by
      rw [Ends, fenceWrite_failed fails]
      exact ⟨rfl, rfl⟩
    refine ends_andThen failed ?_ ?_
    · rintro refusal later ⟨refused, rfl⟩
      cases refused
      exact throws fails
    · rintro value later ⟨answered, -⟩
      cases answered
  have written : Ends (fenceWrite env 0 namespaceId epoch) store fun result later =>
      result = .ok () ∧ later = store.writeFence namespaceId epoch := by
    simp [Ends, fenceWrite, bind_eq, andThen, refuseIf, fails, answer, Call.modify]
  refine ends_andThen written ?_ ?_
  · rintro refusal later ⟨refused, -⟩
    cases refused
  · rintro value later ⟨-, rfl⟩
    exact rest fails

@[simp] theorem performed_map (result : Except ContractRefusal α) :
    performed (result.map fun _ => ()) = performed result := by
  cases result with
  | ok => rfl
  | error refusal => cases refusal <;> rfl

variable {owner : Presented} {refusal : ContractRefusal}

theorem performed_assertOwner (refuses : assertOwner owner = .error refusal) :
    performed (.error refusal : Except ContractRefusal Unit) = false := by
  rw [assertOwner, assertIssued] at refuses
  cases issued : owner.issued with
  | false =>
    rw [issued] at refuses
    cases refuses
    rfl
  | true =>
    rw [issued, if_pos rfl] at refuses
    cases principal : owner.principal with
    | owner =>
      rw [principal] at refuses
      cases refuses
    | coordinator | worker =>
      rw [principal] at refuses
      cases refuses
      rfl

variable {db : ContractDb}

theorem performed_assertAuthorityWritable
    (refuses : assertAuthorityWritable ctx db namespaceId = .error refusal) :
    performed (.error refusal : Except ContractRefusal Unit) = false := by
  rw [assertAuthorityWritable] at refuses
  split at refuses
  · cases refuses
    rfl
  split at refuses
  · cases refuses
    rfl
  split_ifs at refuses
  all_goals
    cases refuses
    rfl

theorem enrolled_ends (ctx : ContractCtx) (ownerPrincipal : String) (input : EnrollInput) :
    Ends (transaction do
      insertUnless (fun db => db.authorities.any (·.namespaceId = env.newId "ns")) fun db =>
        { db with authorities := db.authorities ++ [enrolledRow ctx env ownerPrincipal input] }
      insertUnless (fun db => db.heads.any (·.namespaceId = env.newId "ns")) fun db =>
        { db with heads := db.heads ++ [{
            namespaceId := env.newId "ns", authorityEpoch := 1, headGeneration := 0
            revisionId := none, policyRevision := 1 }] }) store fun result later =>
      (result = .error .uniqueConstraint ∧ later = store) ∨
        (result = .ok () ∧ store.db.authorities.any (·.namespaceId = env.newId "ns") = false ∧
          store.db.heads.any (·.namespaceId = env.newId "ns") = false ∧
          later = { store with db := enrolledDb ctx env ownerPrincipal input store.db }) := by
  refine ends_transaction (ends_bind_insertUnless (fun _ => .inl ⟨rfl, rfl⟩) fun fresh => ?_)
  refine ends_insertUnless (fun _ => .inl ⟨rfl, rfl⟩) fun headless => ?_
  exact .inr ⟨rfl, fresh, headless, rfl⟩

theorem enrollNamespace_ends {input : EnrollInput} :
    Ends (enrollNamespace ctx env owner input) store fun result later =>
      Effect ctx env store (.enrollNamespace owner input) (result.map fun _ => ()) later := by
  refine ends_bind_ofExcept (fun refusal refuses => .refused ?_ trivial) fun ownerPrincipal _ => ?_
  · exact performed_assertOwner refuses
  refine ends_bind_refuseIf (fun _ => .refused rfl trivial) fun _ => ?_
  refine ends_bind_inspect (ends_bind_refuseIf (fun _ => .refused rfl trivial) fun _ => ?_)
  refine ends_bind_ofExcept (fun refusal refuses => .refused ?_ trivial) fun _ _ => ?_
  · cases described : input.described with
    | ok =>
      rw [described] at refuses
      cases refuses
    | error =>
      rw [described] at refuses
      cases refuses
      rfl
  refine ends_andThen (enrolled_ends ctx ownerPrincipal input) ?_ ?_
  · rintro refusal later (⟨refused, rfl⟩ | ⟨answered, -⟩)
    · cases refused
      exact .refused rfl trivial
    · cases answered
  rintro done later (⟨refused, -⟩ | ⟨-, fresh, headless, rfl⟩)
  · cases refused
  have effect : ∀ result : Except ContractRefusal Unit, performed result = true →
      Effect ctx env store (.enrollNamespace owner input) result
        (fencedStore env { store with db := enrolledDb ctx env ownerPrincipal input store.db }
          (env.newId "ns") 1) :=
    fun _ performs => .enrolled ownerPrincipal performs fresh headless
  refine ends_bind_fenceWrite (fun fails => ?_) fun written => ends_bind_inspect (ends_answer ?_)
  · rw [fencedStore, if_pos fails] at effect
    exact effect _ rfl
  · rw [fencedStore, if_neg written] at effect
    exact effect _ rfl

theorem updatePolicy_ends {patch : PolicyPatch} :
    Ends (updatePolicy ctx owner namespaceId patch) store fun result later =>
      Effect ctx env store (.updatePolicy owner namespaceId patch) (result.map fun _ => ())
        later := by
  refine ends_bind_ofExcept (fun refusal refuses => .refused (performed_assertOwner refuses)
    trivial)
    fun _ _ => ?_
  refine ends_transaction (ends_bind_check
    (fun refusal refuses => .refused (performed_assertAuthorityWritable refuses) trivial)
    fun authority writable => ?_)
  refine ends_bind_changeDb (ends_inspect ?_)
  exact .policed rfl writable

theorem writeFence_db (namespaceId : String) (epoch : Nat) :
    (store.writeFence namespaceId epoch).db = store.db := by
  rw [ContractStore.writeFence]
  split_ifs <;> rfl

theorem fenceWrite_ends (number : Nat) (namespaceId : String) (epoch : Nat) :
    Ends (fenceWrite env number namespaceId epoch) store fun result later =>
      performed result = true ∧ later.db = store.db :=
  ends_bind_refuseIf (fun _ => ⟨rfl, rfl⟩) fun _ => ⟨rfl, writeFence_db namespaceId epoch⟩

theorem writeMissingFences_ends (rows : List AuthorityRow) (number : Nat) :
    Ends (writeMissingFences env number rows) store fun result later =>
      performed result = true ∧ later.db = store.db := by
  induction rows generalizing number store with
  | nil => exact ⟨rfl, rfl⟩
  | cons row rows induction =>
    have writes : Ends (andThen (fenceWrite env number row.namespaceId row.authorityEpoch)
        fun _ => writeMissingFences env (number + 1) rows) store fun result later =>
          performed result = true ∧ later.db = store.db := by
      refine ends_andThen (fenceWrite_ends number row.namespaceId row.authorityEpoch)
        (fun _ _ ended => ended) fun _ later wrote => ?_
      refine Ends.weaken (induction (number + 1)) fun result last ended => ?_
      exact ⟨ended.1, ended.2.trans wrote.2⟩
    unfold writeMissingFences
    refine ends_bind_inspect ?_
    split
    · exact induction number
    · exact writes

theorem beginContractProcessIncarnation_ends :
    Ends (beginContractProcessIncarnation ctx env) store fun result later =>
      Effect ctx env store .beginContractProcessIncarnation (result.map fun _ => ()) later := by
  unfold beginContractProcessIncarnation
  refine ends_bind_inspect ?_
  refine ends_bind_inspect ?_
  have commits : Ends (transaction (Call.modify fun store =>
      { store with db := bootTransaction ctx env store })) store
        fun result (later : ContractStore) =>
          result = (.ok () : Except ContractRefusal Unit) ∧
            later = { store with db := bootTransaction ctx env store } := ⟨rfl, rfl⟩
  refine ends_andThen commits ?_ ?_
  · rintro refusal later ⟨answered, -⟩
    cases answered
  rintro done later ⟨-, rfl⟩
  refine ends_bind_inspect (ends_andThen (writeMissingFences_ends _ _) ?_ ?_)
  · rintro refusal ⟨db, fence⟩ ⟨performs, rfl⟩
    exact .booted performs fence
  · rintro done ⟨db, fence⟩ ⟨-, rfl⟩
    exact .booted rfl fence

theorem found_ends_bind {next : AuthorityRow → Call ContractStore ContractRefusal α}
    (throws : getAuthority store.db namespaceId = none → Post (.error .notEnrolled) store)
    (rest : ∀ authority, getAuthority store.db namespaceId = some authority → Ends (next
      authority) store Post) :
    Ends ((inspect fun store => getAuthority store.db namespaceId).andThen fun found =>
      (Call.ofExcept (found.elim (.error .notEnrolled) .ok)).andThen next) store Post := by
  refine ends_bind_inspect ?_
  cases found : getAuthority store.db namespaceId with
  | none => exact throws found
  | some authority => exact rest authority found

theorem entered_ends {epoch : Nat} {change : ContractDb → ContractDb} {view : ContractStore → α}
    (entered : change store.db = db)
    (holds : ∀ result, performed result = true → Post result (fencedStore env { store with db }
      namespaceId epoch)) :
    Ends (do
      transaction (changeDb change)
      fenceWrite env 0 namespaceId epoch
      inspect view) store Post := by
  have commits : Ends (transaction (changeDb change)) store fun result later =>
      result = .ok () ∧ later = { store with db } := entered ▸ ⟨rfl, rfl⟩
  refine ends_andThen commits ?_ ?_
  · rintro refusal later ⟨answered, -⟩
    cases answered
  rintro value later ⟨-, rfl⟩
  refine ends_bind_fenceWrite (fun fails => ?_) fun written => ends_inspect ?_
  · rw [fencedStore, if_pos fails] at holds
    exact holds _ rfl
  · rw [fencedStore, if_neg written] at holds
    exact holds _ rfl

theorem isOk_of_assertOwner {ownerPrincipal : String}
    (owns : assertOwner owner = .ok ownerPrincipal) : (assertOwner owner).isOk = true := by
  rw [owns]
  rfl

theorem refused_of_assertOwner {held : Prop} (refuses : assertOwner owner = .error refusal) :
    (assertOwner owner).isOk = true → held := by
  rw [refuses]
  exact fun owns => absurd owns Bool.false_ne_true

theorem recoverAuthority_ends :
    Ends (recoverAuthority ctx env owner namespaceId) store fun result later =>
      Effect ctx env store (.recoverAuthority owner namespaceId) (result.map fun _ => ())
        later := by
  refine ends_bind_ofExcept
    (fun refusal refuses => .refused (performed_assertOwner refuses)
      (refused_of_assertOwner refuses))
    fun _ owns => ?_
  refine found_ends_bind (fun missing => .refused rfl fun _ => missing) fun authority found => ?_
  refine ends_bind_inspect (entered_ends rfl fun result performs => ?_)
  exact .recovered (by rwa [performed_map]) (isOk_of_assertOwner owns) found

theorem transferAuthority_ends {input : TransferInput} :
    Ends (transferAuthority ctx env owner input) store fun result later =>
      Effect ctx env store (.transferAuthority owner input) (result.map fun _ => ()) later := by
  refine ends_bind_ofExcept
    (fun refusal refuses => .refused (performed_assertOwner refuses)
      (refused_of_assertOwner refuses))
    fun _ owns => ?_
  refine found_ends_bind (fun missing => .refused rfl fun _ _ => missing) fun authority found => ?_
  refine ends_bind_refuseIf (fun unnamed => .refused rfl fun _ named => absurd unnamed named)
    fun named => ?_
  split
  · rename_i fenced
    refine ends_bind_inspect (entered_ends rfl fun result performs => ?_)
    exact .transferred (by rwa [performed_map]) (isOk_of_assertOwner owns) named fenced found
  rename_i unfenced
  refine ends_bind_changeDb (ends_inspect ?_)
  exact .paused rfl (Bool.eq_false_iff.mpr unfenced)

theorem mintCoordinatorGrant_ends {input : MintGrantInput} {secret : String} :
    Ends (mintCoordinatorGrant ctx env owner input secret) store fun result later =>
      Effect ctx env store (.mintCoordinatorGrant owner input secret) (result.map fun _ => ())
        later := by
  refine ends_bind_ofExcept (fun refusal refuses => .refused (performed_assertOwner refuses) ?_)
    fun _ owns => ?_
  · exact fun passes => refused_of_assertOwner refuses passes.1
  refine ends_bind_refuseIf (fun invalid => .refused rfl fun passes => passes.2.1 invalid)
    fun valid => ?_
  refine ends_transaction (ends_bind_check
    (fun refusal refuses => .refused (performed_assertAuthorityWritable refuses) ?_)
    fun authority writable => ?_)
  · rintro ⟨-, -, ⟨authority, writable, -⟩, -⟩
    cases refuses.symm.trans writable
  refine ends_bind_refuseIf (fun beyond => .refused rfl ?_) fun within => ?_
  · rintro ⟨-, -, ⟨other, isOther, within⟩, -⟩
    cases writable.symm.trans isOther
    exact within beyond
  refine ends_bind_inspect (ends_bind_changeDb ?_)
  refine ends_bind_insertUnless (fun taken => .refused rfl ?_) fun free => ends_answer ?_
  · rintro ⟨-, -, -, fresh⟩
    rw [List.any_eq_true] at taken
    obtain ⟨row, member, same⟩ := taken
    obtain ⟨before, isBefore, rotated⟩ := List.mem_map.mp member
    have unlike := fresh before isBefore
    rw [Bool.or_eq_true, decide_eq_true_eq, decide_eq_true_eq, ← rotated] at same
    split at same <;> exact same.elim unlike.1 unlike.2
  refine .minted rfl ⟨isOk_of_assertOwner owns, valid, ⟨authority, writable, within⟩,
    fun row member => ?_⟩ writable
  have unlike := List.any_eq_false.mp free _ (List.mem_map_of_mem member)
  rw [Bool.or_eq_true, not_or, decide_eq_true_eq, decide_eq_true_eq] at unlike
  split at unlike <;> exact unlike

theorem revokeGrant_ends {grantId reason : String} :
    Ends (revokeGrant env owner grantId reason) store fun result later =>
      Effect ctx env store (.revokeGrant owner grantId reason) (result.map fun _ => ()) later := by
  refine ends_bind_ofExcept (fun refusal refuses => .refused (performed_assertOwner refuses) ?_)
    fun _ owns => ?_
  · exact Bool.eq_false_iff.mpr (refused_of_assertOwner refuses)
  refine ends_bind_inspect (ends_bind_changeDb (ends_answer ?_))
  exact .revoked rfl (isOk_of_assertOwner owns)

theorem revokeGrantsForSession_ends {coordinatorSessionId : String} :
    Ends (revokeGrantsForSession env coordinatorSessionId) store fun result later =>
      Effect ctx env store (.revokeGrantsForSession coordinatorSessionId) (result.map fun _ => ())
        later := by
  refine ends_bind_inspect (ends_bind_changeDb (ends_answer ?_))
  exact .sessionRevoked rfl

theorem perform_effect (ctx : ContractCtx) (env : CallEnv) (store : ContractStore)
    (call : AuthorityCall) :
    Effect ctx env store call (call.perform ctx env store).1 (call.perform ctx env store).2 := by
  cases call with
  | enrollNamespace => exact ends_ignoring enrollNamespace_ends
  | updatePolicy => exact ends_ignoring updatePolicy_ends
  | beginContractProcessIncarnation => exact ends_ignoring beginContractProcessIncarnation_ends
  | recoverAuthority => exact ends_ignoring recoverAuthority_ends
  | transferAuthority => exact ends_ignoring transferAuthority_ends
  | mintCoordinatorGrant => exact ends_ignoring mintCoordinatorGrant_ends
  | revokeGrant => exact ends_ignoring revokeGrant_ends
  | revokeGrantsForSession => exact ends_ignoring revokeGrantsForSession_ends

theorem mem_of_getAuthority {authority : AuthorityRow}
    (found : getAuthority db namespaceId = some authority) :
    authority ∈ db.authorities ∧ authority.namespaceId = namespaceId :=
  ⟨List.mem_of_find?_eq_some found, by simpa using List.find?_some found⟩

theorem booted_namespaceId (store : ContractStore) (row : AuthorityRow) :
    (bootedAuthority ctx store row).namespaceId = row.namespaceId := by
  rw [bootedAuthority]
  split_ifs <;> rfl

theorem booted_authorityEpoch (store : ContractStore) (row : AuthorityRow) :
    (bootedAuthority ctx store row).authorityEpoch = row.authorityEpoch := by
  rw [bootedAuthority]
  split_ifs <;> rfl

theorem fencedStore_db (store : ContractStore) (namespaceId : String) (epoch : Nat) :
    (fencedStore env store namespaceId epoch).db = store.db := by
  rw [fencedStore]
  split_ifs
  · rfl
  · exact writeFence_db namespaceId epoch

@[simp] theorem transferredRow_namespaceId (input : TransferInput) (row : AuthorityRow) :
    (transferredRow ctx input row).namespaceId = row.namespaceId := by
  dsimp only [transferredRow]

@[simp] theorem transferredRow_processIncarnation (input : TransferInput) (row : AuthorityRow) :
    (transferredRow ctx input row).processIncarnation = row.processIncarnation := by
  dsimp only [transferredRow]

end Inversion

section Plain

def plainCtx : ContractCtx where
  localDaemonId := "daemon_mach_a"
  sha256Bytes := fun _ => ""
  hashCapability := id
  computeRevisionId := fun _ => ""
  digestOfRequest := fun _ => ""
  computePinSetDigest := fun _ _ => ""

def quietEnv : CallEnv where
  now := 0
  newId := fun kind => kind ++ "_1"

def plainOwner : Presented := { principal := .owner "owner" }

end Plain

end Adhdev.Contract
