import Adhdev.Contract.Grants

/-! # Rotation and revocation of capabilities

Which grants a daemon accepts while capabilities are minted, rotated and revoked and the
authority restarts, recovers and moves.
-/

namespace Adhdev.Contract

open Call MeshShared List

structure GrantState where
  store : ContractStore := {}
  now : Int := 0
  /-- The grants that a call was to end. -/
  ended : List String := []

structure GrantInput where
  elapsed : Nat
  newId : String → String
  fenceFails : Option Nat := none
  call : AuthorityCall

def GrantInput.env (input : GrantInput) (now : Int) : CallEnv where
  now := now + input.elapsed
  newId := input.newId
  fenceFails := input.fenceFails

def endsBy (env : CallEnv) (db : ContractDb) : AuthorityCall → GrantRow → Bool
  | .beginContractProcessIncarnation, _ => true
  | .recoverAuthority _ namespaceId, row => row.namespaceId = namespaceId
  | .transferAuthority _ input, row => row.namespaceId = input.namespaceId
  | .mintCoordinatorGrant _ input _, row =>
    row.namespaceId = input.namespaceId &&
      row.coordinatorSessionId = input.coordinatorSessionId &&
      (getAuthority db input.namespaceId).all fun authority =>
        (overlapOf env authority input).isNone
  | .revokeGrant _ grantId _, row => row.grantId = grantId
  | .revokeGrantsForSession coordinatorSessionId, row => ofSession coordinatorSessionId row
  | .enrollNamespace .., _ => false
  | .updatePolicy .., _ => false

def endedIds (env : CallEnv) (db : ContractDb) (call : AuthorityCall) : List String :=
  (db.grants.filter (endsBy env db call)).map (·.grantId)

def grantMachine (ctx : ContractCtx) : Machine GrantState GrantInput GrantState where
  initial := {}
  respond := fun state input =>
    let env := input.env state.now
    let called := input.call.perform ctx env state.store
    { store := called.2
      now := env.now
      ended :=
        if performed called.1 then state.ended ++ endedIds env state.store.db input.call
        else state.ended }
  advance := id

section Property

variable (ctx : ContractCtx) (db : ContractDb) (now : Int)

def principalOf (row : GrantRow) : ContractPrincipal :=
  .coordinator row.grantId row.namespaceId row.coordinatorSessionId row.ops row.maxImpact

/-- The capability of the grant is verified, or the principal issued for it is checked again
with success. -/
def Accepted (row : GrantRow) : Prop :=
  ∃ env : CallEnv, env.now = now ∧
    ((∃ secret request, verifyCoordinatorCapability ctx env db secret request =
      .ok (principalOf row)) ∨
      ∃ op authority, recheckPrincipal ctx env db { principal := principalOf row }
        row.namespaceId op = .ok authority)

def Newest (row : GrantRow) : Prop :=
  row.revokedAt = none ∧
    ∀ other ∈ db.grants, SameSession row other → other.grantGeneration ≤ row.grantGeneration

/-- The newest unrevoked grant of its session, or the one immediately before it until its
deadline. -/
def Current (row : GrantRow) : Prop :=
  Newest db row ∨
    ∃ newest ∈ db.grants, SameSession row newest ∧ Newest db newest ∧
      newest.grantGeneration = row.grantGeneration + 1 ∧
      ∃ deadline, row.overlapUntil = some deadline ∧ now < deadline

/-- From now on only current grants are accepted, and none that a call was to end. -/
def RotationEffective (state : GrantState) : Prop :=
  ∀ now, state.now ≤ now → ∀ row ∈ state.store.db.grants,
    Accepted ctx state.store.db now row → Current state.store.db now row ∧ row.grantId ∉ state.ended

def CallMeetsNoOverlap (env : CallEnv) (store : ContractStore) : AuthorityCall → Prop
  | .mintCoordinatorGrant owner input secret =>
    MintPasses ctx env store owner input secret →
      ∀ row ∈ store.db.grants, row.namespaceId = input.namespaceId →
        row.coordinatorSessionId = input.coordinatorSessionId →
          Usable ctx store.db env.now row → row.revokedAt = none
  | .revokeGrant owner grantId _ =>
    (assertOwner owner).isOk = true →
      ∀ row ∈ store.db.grants, row.grantId = grantId → row.revokedAt = none →
        ∀ other ∈ store.db.grants, SameSession row other → Usable ctx store.db env.now other →
          other.grantId = grantId
  | .beginContractProcessIncarnation =>
    ∀ row ∈ store.db.grants, Usable ctx store.db env.now row →
      ∀ authority, getAuthority store.db row.namespaceId = some authority →
        authority.authorityDaemonId = ctx.localDaemonId
  | _ => True

def MeetsNoOverlap {ctx : ContractCtx} (step : Machine.Step (grantMachine ctx)) : Prop :=
  CallMeetsNoOverlap ctx (step.input.env step.before.now) step.before.store step.input.call

end Property

section Acceptance

variable {ctx : ContractCtx} {db : ContractDb} {now : Int} {row : GrantRow}

section

variable (sound : GrantsSound db)
include sound

theorem usable_of_verified {env : CallEnv} {secret : String} {request : CapabilityRequest}
    (member : row ∈ db.grants) (verified : verifyCoordinatorCapability ctx env db secret request =
      .ok (principalOf row)) : Usable ctx db env.now row := by
  rw [verifyCoordinatorCapability] at verified
  split at verified
  · cases verified
  split at verified
  · cases verified
  rename_i grant found
  split at verified
  · cases verified
  rename_i inScope
  split at verified
  · cases verified
  rename_i authority writable
  split at verified
  · cases verified
  rename_i usable
  split at verified
  · cases verified
  have same : grant.grantId = row.grantId := by
    injection verified with principal
    injection principal
  cases sound.eq_of_grantId (mem_of_find?_eq_some found) member same
  rw [not_or, not_not, not_not] at inScope
  exact ⟨authority, inScope.1 ▸ writable, usable⟩

theorem find_grant (member : row ∈ db.grants) : db.grants.find? (·.grantId = row.grantId) = some
    row := by
  cases found : db.grants.find? (·.grantId = row.grantId) with
  | none => exact absurd (find?_eq_none.mp found row member) (by simp)
  | some other =>
    have same : other.grantId = row.grantId := by simpa using find?_some found
    rw [sound.eq_of_grantId (mem_of_find?_eq_some found) member same]

theorem recheck_ok_iff {env : CallEnv} {op : ContractGrantOp} {authority : AuthorityRow}
    (member : row ∈ db.grants) : recheckPrincipal ctx env db { principal := principalOf row }
    row.namespaceId op = .ok authority ↔ assertAuthorityWritable ctx db row.namespaceId = .ok
    authority ∧ op ∈ row.ops ∧ grantUsable env.now row authority = .ok () := by
  rw [recheckPrincipal, assertIssued]
  dsimp only [principalOf]
  cases writable : assertAuthorityWritable ctx db row.namespaceId with
  | error refusal => exact iff_of_false (by simp) fun held => by cases held.1
  | ok held =>
    simp only [if_true, ne_eq, not_true_eq_false, if_false, find_grant sound member]
    by_cases operates : op ∈ row.ops
    · rw [if_neg (not_not.mpr operates)]
      cases usable : grantUsable env.now row held with
      | error refusal =>
        refine iff_of_false (by simp) ?_
        rintro ⟨same, -, answered⟩
        cases same
        cases usable.symm.trans answered
      | ok done =>
        constructor
        · intro answered
          cases answered
          exact ⟨rfl, operates, usable⟩
        rintro ⟨same, -⟩
        cases same
        rfl
    · rw [if_pos operates]
      exact iff_of_false (by simp) fun held => operates held.2.1

theorem accepted_iff_usable (member : row ∈ db.grants) : Accepted ctx db now row ↔ Usable ctx db
    now row := by
  constructor
  · rintro ⟨env, rfl, ⟨secret, request, verified⟩ | ⟨op, authority, checked⟩⟩
    · exact usable_of_verified sound member verified
    · obtain ⟨writable, -, usable⟩ := (recheck_ok_iff sound member).mp checked
      exact ⟨authority, writable, usable⟩
  rintro ⟨authority, writable, usable⟩
  obtain ⟨op, operates⟩ := exists_mem_of_ne_nil _ (sound.operates row member)
  refine ⟨{ now, newId := id }, rfl, .inr ⟨op, authority, ?_⟩⟩
  exact (recheck_ok_iff sound member).mpr ⟨writable, operates, usable⟩

end

end Acceptance

section Steps

variable {ctx : ContractCtx} {db later : ContractDb} {now : Int} {row : GrantRow}

theorem Current.of_map {change : GrantRow → GrantRow} (mapped : later.grants = db.grants.map change)
    (changes : ∀ row, GrantChange row (change row))
    (newestKept : ∀ newest ∈ db.grants, SameSession row newest → newest.revokedAt = none →
      row.grantGeneration < newest.grantGeneration → change newest = newest)
    (current : Current db now row) : Current later now row := by
  have newestStays {newest : GrantRow} (isNewest : Newest db newest) : Newest later newest := by
    refine ⟨isNewest.1, fun other isOther session => ?_⟩
    obtain ⟨source, isSource, rfl⟩ := mem_map.mp (mapped ▸ isOther)
    rw [(changes source).generation]
    exact isNewest.2 source isSource ((GrantChange.kept.sameSession (changes source)).mp session)
  rcases current with newest | ⟨newest, isRow, session, isNewest, next, overlaps⟩
  · exact .inl (newestStays newest)
  refine .inr ⟨newest, ?_, session, newestStays isNewest, next, overlaps⟩
  have kept := newestKept newest isRow session isNewest.1 (next ▸ Nat.lt_succ_self _)
  rw [mapped, ← kept]
  exact mem_map_of_mem isRow

theorem not_mem_endedIds {env : CallEnv} {call : AuthorityCall} (sound : GrantsSound db)
    (member : row ∈ db.grants) (spared : endsBy env db call row = false) :
    row.grantId ∉ endedIds env db call := by
  intro ended
  obtain ⟨other, kept, same⟩ := mem_map.mp ended
  obtain ⟨isOther, ends⟩ := mem_filter.mp kept
  cases sound.eq_of_grantId isOther member same
  exact absurd (spared.symm.trans ends) Bool.false_ne_true

theorem mem_endedIds {env : CallEnv} {call : AuthorityCall} (member : row ∈ db.grants)
    (ends : endsBy env db call row = true) : row.grantId ∈ endedIds env db call :=
  mem_map_of_mem (mem_filter.mpr ⟨member, ends⟩)

variable {namespaceId : String}

theorem not_usable_entered {epoch : Nat} {authority : AuthorityRow}
    (change : AuthorityRow → AuthorityRow)
    (entered : later.authorities = db.authorities.map fun row => if row.namespaceId = namespaceId
      then { change row with authorityEpoch := epoch } else row)
    (named : ∀ row, (change row).namespaceId = row.namespaceId) (sound : GrantsSound db)
    (found : getAuthority db namespaceId = some authority)
    (above : authority.authorityEpoch < epoch) (member : row ∈ db.grants)
    (usable : Usable ctx later now row) : row.namespaceId ≠ namespaceId := by
  intro same
  obtain ⟨held, isHeld, lower, -⟩ := sound.bound row member
  obtain ⟨-, after, writable, -, sameEpoch, -⟩ := usable_iff.mp usable
  have isAfter := (writable_ok_iff.mp writable).2.1
  rw [getAuthority_map entered, isHeld] at isAfter
  · cases found.symm.trans (same ▸ isHeld)
    cases isAfter
    dsimp only at sameEpoch
    rw [if_pos ((mem_of_getAuthority found).2)] at sameEpoch
    have equal : row.authorityEpoch = epoch := sameEpoch
    omega
  intro other
  dsimp only
  split_ifs
  · exact named other
  · rfl

def Settled (ctx : ContractCtx) (db : ContractDb) (time : Int) (ended : List String) : Prop :=
  ∀ now, time ≤ now → ∀ row ∈ db.grants, Usable ctx db now row →
    Current db now row ∧ row.grantId ∉ ended

variable {env : CallEnv} {store after : ContractStore} {call : AuthorityCall}
  {result : Except ContractRefusal Unit} {ended : List String} {time : Int}

theorem settled_of_map (affected : GrantRow → Bool) (change : GrantRow → GrantRow)
    (sound : GrantsSound store.db) (settled : Settled ctx store.db time ended)
    (order : time ≤ env.now) (effect : Effect ctx env store call result after)
    (mapped : after.db.grants = store.db.grants.map fun row =>
      if affected row then change row else row)
    (changes : ∀ row, GrantChange row (change row)) (ends : ∀ now row, ¬ Live now (change row))
    (spares : ∀ now, env.now ≤ now → ∀ row ∈ store.db.grants, affected row = false →
      Usable ctx after.db now row → Usable ctx store.db now row →
        endsBy env store.db call row = false ∧
          ∀ newest ∈ store.db.grants, SameSession row newest → newest.revokedAt = none →
            row.grantGeneration < newest.grantGeneration → affected newest = false) :
    Settled ctx after.db env.now (ended ++ endedIds env store.db call) := by
  have changed (row : GrantRow) : GrantChange row (if affected row then change row else row) := by
    split_ifs
    · exact changes row
    · exact .kept
  have keep {row : GrantRow} (unaffected : affected row = false) :
      (if affected row then change row else row) = row :=
    if_neg (Bool.eq_false_iff.mp unaffected)
  intro now reached row member usable
  obtain ⟨before, isBefore, rfl⟩ := mem_map.mp (mapped ▸ member)
  have was := effect.usable sound isBefore (changed before) usable
  have unaffected : affected before = false := by
    by_contra isAffected
    rw [Bool.not_eq_false] at isAffected
    rw [if_pos isAffected] at usable
    exact ends now before (usable_iff.mp usable).1
  rw [keep unaffected] at usable ⊢
  obtain ⟨current, notEnded⟩ := settled now (order.trans reached) before isBefore was
  obtain ⟨spared, newestKept⟩ := spares now reached before isBefore unaffected usable was
  refine ⟨current.of_map mapped changed fun newest isNewest session unrevoked above => ?_, ?_⟩
  · exact keep (newestKept newest isNewest session unrevoked above)
  · rw [mem_append, not_or]
    exact ⟨notEnded, not_mem_endedIds sound isBefore spared⟩

theorem settled_of_grants (sound : GrantsSound store.db) (settled : Settled ctx store.db time ended)
    (order : time ≤ env.now) (effect : Effect ctx env store call result after)
    (same : after.db.grants = store.db.grants)
    (spares : ∀ now, ∀ row ∈ store.db.grants, Usable ctx after.db now row →
      endsBy env store.db call row = false) :
    Settled ctx after.db env.now (ended ++ endedIds env store.db call) := by
  refine settled_of_map (fun _ => false) (revokedGrant env.now "") sound settled order effect
    ?_ (fun row => .ended _ _ _ (.inl rfl))
    (fun now row => not_live_of_ended (.inl rfl)) ?_
  · simpa using same
  · exact fun now _ row member _ usable _ => ⟨spares now row member usable, fun _ _ _ _ _ => rfl⟩

theorem bootedGrant_change (row : GrantRow) : GrantChange row (bootedGrant ctx env store row) := by
  rw [bootedGrant]
  split_ifs
  · exact .ended env.now "process_restart" row.overlapUntil (.inr ⟨rfl, by decide⟩)
  · exact .kept

theorem not_usable_booted (sound : GrantsSound store.db) {before : GrantRow}
    (member : before ∈ store.db.grants) (change : GrantChange before row)
    (here : ∀ authority, getAuthority store.db before.namespaceId = some authority →
      authority.authorityDaemonId = ctx.localDaemonId) :
    ¬ Usable ctx (bootTransaction ctx env store) now row := by
  intro usable
  obtain ⟨authority, found, -, incarnation⟩ := sound.bound before member
  obtain ⟨-, booted, writable, bound⟩ := usable_iff.mp usable
  rw [change.namespaceId, writable_ok_iff, getAuthority_map rfl (booted_namespaceId store), found]
    at writable
  obtain ⟨-, isBooted, active, -⟩ := writable
  cases isBooted
  obtain ⟨-, -, sameIncarnation⟩ := change.boundTo.mp bound
  rw [bootedAuthority, if_pos (here authority found)] at active sameIncarnation
  split_ifs at active sameIncarnation
  have next : before.processIncarnation = authority.processIncarnation + 1 := sameIncarnation
  omega

theorem settled_boot (sound : GrantsSound store.db)
    (effect : Effect ctx env store .beginContractProcessIncarnation result after)
    (booted : after.db = bootTransaction ctx env store)
    (here : ∀ row ∈ store.db.grants, Usable ctx store.db env.now row →
      ∀ authority, getAuthority store.db row.namespaceId = some authority →
        authority.authorityDaemonId = ctx.localDaemonId) (given : List String) :
    Settled ctx after.db env.now given := by
  intro now reached row member usable
  rw [booted] at member
  obtain ⟨before, isBefore, rfl⟩ := mem_map.mp member
  have was := effect.usable sound isBefore (bootedGrant_change before) usable
  rw [booted] at usable
  exact absurd usable (not_usable_booted sound isBefore (bootedGrant_change before)
    (here before isBefore (was.earlier reached)))

theorem settled_entered {namespaceId reason : String} {epoch : Nat} {authority : AuthorityRow}
    (change : AuthorityRow → AuthorityRow) (sound : GrantsSound store.db)
    (settled : Settled ctx store.db time ended) (order : time ≤ env.now)
    (effect : Effect ctx env store call result after)
    (entered : after.db = enterEpoch namespaceId reason epoch change env.now store.db)
    (named : ∀ row, (change row).namespaceId = row.namespaceId) (other : reason ≠ "rotated")
    (found : getAuthority store.db namespaceId = some authority)
    (above : authority.authorityEpoch < epoch)
    (endsNamespace : ∀ row, endsBy env store.db call row = decide (row.namespaceId = namespaceId)) :
    Settled ctx after.db env.now (ended ++ endedIds env store.db call) := by
  have mapped : after.db.grants = store.db.grants.map fun row =>
      if row.namespaceId = namespaceId && row.revokedAt.isNone then
        { row with revokedAt := some env.now, revokeReason := some reason } else row := by
    rw [entered]
    rfl
  refine settled_of_map _ _ sound settled order effect mapped
    (fun row => .ended _ _ _ (.inr ⟨rfl, other⟩))
    (fun now row => not_live_of_ended (.inr ⟨rfl, other⟩))
    fun now _ row member _ usable _ => ?_
  rw [entered] at usable
  have elsewhere := not_usable_entered change (enterEpoch_authorities _ _ _ _ _ _) named sound found
    above member usable
  rw [endsNamespace]
  refine ⟨decide_eq_false elsewhere, fun newest _ session _ _ => ?_⟩
  rw [session.1, decide_eq_false elsewhere, Bool.false_and]

theorem settled_revoked {chosen : GrantRow → Bool} {reason : String} (sound : GrantsSound store.db)
    (settled : Settled ctx store.db time ended) (order : time ≤ env.now)
    (effect : Effect ctx env store call result after)
    (revoked : after.db = revokedDb env chosen reason store.db)
    (endsChosen : ∀ row, endsBy env store.db call row = chosen row)
    (alone : ∀ row ∈ store.db.grants, chosen row = true → row.revokedAt = none →
      ∀ other ∈ store.db.grants, SameSession row other → Usable ctx store.db env.now other →
        chosen other = true) :
    Settled ctx after.db env.now (ended ++ endedIds env store.db call) := by
  refine settled_of_map (fun row => chosen row && revocable row) (revokedGrant env.now reason)
    sound settled order effect (by rw [revoked]; rfl)
    (fun row => .ended _ _ _ (.inl rfl)) (fun now row => not_live_of_ended (.inl rfl))
    fun now reached row member spared _ was => ?_
  have notChosen : chosen row = false := by
    by_contra isChosen
    rw [Bool.not_eq_false] at isChosen
    rw [isChosen, Bool.true_and, revocable, Bool.or_eq_false_iff,
      Option.isNone_eq_false_iff] at spared
    obtain ⟨⟨unrevoked | overlaps, -⟩, -⟩ := usable_iff.mp was
    · rw [unrevoked] at spared
      exact absurd spared.1 Bool.false_ne_true
    obtain ⟨-, deadline, held, -⟩ := inOverlap_iff.mp overlaps
    rw [held] at spared
    exact absurd spared.2 Bool.noConfusion
  refine ⟨(endsChosen row).trans notChosen, fun newest isNewest session unrevoked _ => ?_⟩
  by_contra affected
  rw [Bool.not_eq_false, Bool.and_eq_true] at affected
  have taken := alone newest isNewest affected.1 unrevoked row member
    ⟨session.1.symm, session.2.symm⟩ (was.earlier reached)
  exact absurd (notChosen.symm.trans taken) Bool.false_ne_true

variable {input : MintGrantInput} {secret : String} {authority : AuthorityRow}

theorem minted_newest : Newest (mintedDb ctx env authority input secret db)
      (mintedRow ctx env authority input secret db) := by
  refine ⟨rfl, fun other isOther session => ?_⟩
  rcases mem_mintedDb.mp isOther with ⟨source, isSource, rfl⟩ | rfl
  · have change := rotation_change env authority input source
    rw [change.generation]
    refine (le_lastGeneration isSource ?_ ?_).trans (Nat.le_succ _)
    · exact change.namespaceId.symm.trans session.1
    · exact change.session.symm.trans session.2
  · exact le_rfl

theorem lastGeneration_of_unrevoked (sound : GrantsSound db) (member : row ∈ db.grants)
    (unrevoked : row.revokedAt = none) :
    lastGeneration db row.namespaceId row.coordinatorSessionId = row.grantGeneration := by
  refine le_antisymm (lastGeneration_le fun other isOther named session => ?_)
    (le_lastGeneration member rfl rfl)
  by_cases same : other.grantId = row.grantId
  · rw [sound.eq_of_grantId isOther member same]
  · exact (sound.newest row member unrevoked other isOther ⟨named, session⟩ same).le

theorem Current.minted_elsewhere
    (elsewhere : ¬ (row.namespaceId = input.namespaceId ∧
      row.coordinatorSessionId = input.coordinatorSessionId)) (current : Current db now row) :
    Current (mintedDb ctx env authority input secret db) now row := by
  have newestStays {newest : GrantRow} (session : SameSession row newest)
      (isNewest : Newest db newest) : Newest (mintedDb ctx env authority input secret db)
        newest := by
    refine ⟨isNewest.1, fun other isOther same => ?_⟩
    rcases mem_mintedDb.mp isOther with ⟨source, isSource, rfl⟩ | rfl
    · have change := rotation_change env authority input source
      rw [change.generation]
      exact isNewest.2 source isSource ((GrantChange.kept.sameSession change).mp same)
    · exact absurd ⟨(same.1.trans session.1).symm, (same.2.trans session.2).symm⟩ elsewhere
  rcases current with newest | ⟨newest, isRow, session, isNewest, next⟩
  · exact .inl (newestStays ⟨rfl, rfl⟩ newest)
  refine .inr ⟨newest, mem_mintedDb.mpr (.inl ⟨newest, isRow, if_neg fun rotated => ?_⟩), session,
    newestStays session isNewest, next⟩
  obtain ⟨named, held, -⟩ := rotates_iff.mp rotated
  exact elsewhere ⟨session.1.symm.trans named, session.2.symm.trans held⟩

theorem settled_minted (sound : GrantsSound db) (settled : Settled ctx db time ended)
    (order : time ≤ env.now) (ids : ∀ id ∈ ended, ∃ row ∈ db.grants, row.grantId = id)
    (fresh : ∀ row ∈ db.grants, row.grantId ≠ env.newId "grant")
    (found : getAuthority db input.namespaceId = some authority)
    (unrotated : ∀ row ∈ db.grants, row.namespaceId = input.namespaceId →
      row.coordinatorSessionId = input.coordinatorSessionId → Usable ctx db env.now row →
        row.revokedAt = none) (owner : Presented) :
    Settled ctx (mintedDb ctx env authority input secret db) env.now
      (ended ++ endedIds env db (.mintCoordinatorGrant owner input secret)) := by
  intro now reached row member usable
  rcases mem_mintedDb.mp member with ⟨before, isBefore, rfl⟩ | rfl
  · have change := rotation_change env authority input before
    have was : Usable ctx db now before := by
      obtain ⟨held, isHeld, epoch, incarnation⟩ := sound.bound before isBefore
      exact usable_of_moves (.of_eq rfl rfl) change isHeld epoch incarnation usable
    obtain ⟨current, notEnded⟩ := settled now (order.trans reached) before isBefore was
    rw [change.grantId, mem_append, not_or]
    by_cases session : before.namespaceId = input.namespaceId ∧
        before.coordinatorSessionId = input.coordinatorSessionId
    · have unrevoked := unrotated before isBefore session.1 session.2 (was.earlier reached)
      have rotated : rotates input before = true :=
        rotates_iff.mpr ⟨session.1, session.2, unrevoked⟩
      rw [if_pos rotated] at usable ⊢
      obtain ⟨⟨unrevokedNow | overlaps, -⟩, -⟩ := usable_iff.mp usable
      · cases unrevokedNow
      obtain ⟨-, deadline, held, ahead⟩ := inOverlap_iff.mp overlaps
      have isOverlap : overlapOf env authority input = some deadline := held
      refine ⟨.inr ⟨_, mem_mintedDb.mpr (.inr rfl), ⟨session.1.symm, session.2.symm⟩,
        minted_newest, ?_, deadline, held, ahead⟩, notEnded, ?_⟩
      · have last := lastGeneration_of_unrevoked sound isBefore unrevoked
        rw [session.1, session.2] at last
        exact congrArg (· + 1) last
      · refine not_mem_endedIds sound isBefore ?_
        rw [endsBy, found, Option.all_some, isOverlap]
        exact Bool.and_false _
    · have unrotatedHere : ¬ rotates input before = true := fun rotated =>
        session ⟨(rotates_iff.mp rotated).1, (rotates_iff.mp rotated).2.1⟩
      rw [if_neg unrotatedHere]
      refine ⟨current.minted_elsewhere session, notEnded, ?_⟩
      · refine not_mem_endedIds sound isBefore ?_
        rw [endsBy, Bool.and_eq_false_iff, Bool.and_eq_false_iff]
        rw [not_and_or] at session
        exact .inl (session.imp decide_eq_false decide_eq_false)
  · refine ⟨.inl (minted_newest), ?_⟩
    rw [mem_append, not_or]
    constructor
    · intro isEnded
      obtain ⟨other, isOther, same⟩ := ids _ isEnded
      exact fresh other isOther same
    intro isEnded
    obtain ⟨other, kept, same⟩ := mem_map.mp isEnded
    exact fresh other (mem_filter.mp kept).1 same

theorem not_usable_paused (usable : Usable ctx (pausedDb namespaceId db) now row) :
    row.namespaceId ≠ namespaceId := by
  intro named
  obtain ⟨-, authority, writable, -⟩ := usable_iff.mp usable
  obtain ⟨-, found, active, -⟩ := writable_ok_iff.mp writable
  obtain ⟨isRow, same⟩ := mem_of_getAuthority found
  obtain ⟨source, -, rfl⟩ := mem_map.mp isRow
  split_ifs at same active with paused
  exact paused (same.trans named)

theorem settled_of_effect (sound : GrantsSound store.db) (settled : Settled ctx store.db time ended)
    (order : time ≤ env.now) (ids : ∀ id ∈ ended, ∃ row ∈ store.db.grants, row.grantId = id)
    (effect : Effect ctx env store call result after)
    (meets : CallMeetsNoOverlap ctx env store call) : Settled ctx after.db env.now
      (if performed result then ended ++ endedIds env store.db call else ended) := by
  have whole := effect
  cases effect with
  | refused refuses =>
    rw [refuses]
    exact fun now reached => settled now (order.trans reached)
  | enrolled ownerPrincipal performs fresh headless =>
    rw [if_pos performs]
    exact settled_of_grants sound settled order whole (by rw [fencedStore_db]; rfl)
      fun _ _ _ _ => rfl
  | policed performs =>
    rw [if_pos performs]
    exact settled_of_grants sound settled order whole rfl fun _ _ _ _ => rfl
  | booted performs fence => exact settled_boot sound whole rfl meets _
  | recovered performs owns found =>
    rw [if_pos performs]
    exact settled_entered (recoveredRow ctx) sound settled order whole (fencedStore_db _ _ _)
      (fun _ => rfl) (by decide) found (nextEpoch_above _ _) fun _ => rfl
  | @paused owner input _ performs unfenced =>
    rw [if_pos performs]
    refine settled_of_grants sound settled order whole rfl fun now row member usable => ?_
    exact decide_eq_false (not_usable_paused usable)
  | @transferred owner input _ _ performs owns named fenced found =>
    rw [if_pos performs]
    exact settled_entered (transferredRow ctx input) sound settled order whole
      (fencedStore_db _ _ _) (transferredRow_namespaceId input) (by decide) found
      (nextEpoch_above _ _) fun _ => rfl
  | minted performs passes writable =>
    rw [if_pos performs]
    exact settled_minted sound settled order ids (fun row member => (passes.2.2.2 row member).1)
      (writable_ok_iff.mp writable).2.1 (meets passes) _
  | revoked performs owns =>
    rw [if_pos performs]
    refine settled_revoked sound settled order whole rfl (fun _ => rfl)
      fun row member chosen unrevoked other isOther session usable => ?_
    exact decide_eq_true (meets owns row member (of_decide_eq_true chosen) unrevoked other isOther
      session usable)
  | sessionRevoked performs =>
    rw [if_pos performs]
    refine settled_revoked sound settled order whole rfl (fun _ => rfl)
      fun row _ chosen _ other _ session _ => ?_
    exact decide_eq_true (session.2.trans (of_decide_eq_true chosen))

theorem overlapped_of_usable (sound : GrantsSound db) (member : row ∈ db.grants)
    (revoked : row.revokedAt ≠ none) (usable : Usable ctx db now row) :
    ∃ other ∈ db.grants, SameSession row other ∧ row.grantGeneration < other.grantGeneration := by
  obtain ⟨⟨unrevoked | overlaps, -⟩, -⟩ := usable_iff.mp usable
  · exact absurd unrevoked revoked
  · obtain ⟨-, deadline, held, -⟩ := inOverlap_iff.mp overlaps
    exact (sound.overlapped row member (by rw [held]; rfl)).2

theorem eq_of_getAuthority (sound : GrantsSound db) {other : AuthorityRow}
    (found : getAuthority db namespaceId = some authority) (isOther : other ∈ db.authorities)
    (named : other.namespaceId = namespaceId) : other = authority := by
  obtain ⟨isRow, held⟩ := mem_of_getAuthority found
  exact inj_on_of_nodup_map sound.namespaces isOther isRow (named.trans held.symm)

theorem usable_booted (env : CallEnv) (sound : GrantsSound store.db)
    (found : getAuthority store.db row.namespaceId = some authority)
    (elsewhere : authority.authorityDaemonId ≠ ctx.localDaemonId)
    (usable : Usable ctx store.db now row) :
    bootedGrant ctx env store row = row ∧ Usable ctx (bootTransaction ctx env store) now row := by
  constructor
  · refine if_neg fun rotates => ?_
    rw [Bool.and_eq_true, any_eq_true] at rotates
    obtain ⟨-, other, isOther, matched⟩ := rotates
    rw [Bool.and_eq_true, decide_eq_true_eq] at matched
    cases eq_of_getAuthority sound found isOther matched.1
    rw [rotatesAtBoot, Bool.and_eq_true, decide_eq_true_eq] at matched
    exact elsewhere matched.2.1
  obtain ⟨live, held, writable, bound⟩ := usable_iff.mp usable
  obtain ⟨supported, isHeld, active, here⟩ := writable_ok_iff.mp writable
  cases found.symm.trans isHeld
  refine usable_iff.mpr ⟨live, authority, writable_ok_iff.mpr ⟨supported, ?_, active, here⟩,
    bound⟩
  rw [getAuthority_map rfl (booted_namespaceId store), found, Option.map_some, bootedAuthority,
    if_neg elsewhere]

theorem not_current_minted (sound : GrantsSound db) (member : row ∈ db.grants)
    (named : row.namespaceId = input.namespaceId)
    (session : row.coordinatorSessionId = input.coordinatorSessionId)
    (revoked : row.revokedAt ≠ none)
    (usable : Usable ctx db now row) :
    ¬ Current (mintedDb ctx env authority input secret db) now row := by
  obtain ⟨other, isOther, same, above⟩ := overlapped_of_usable sound member revoked usable
  have last := le_lastGeneration isOther (same.1.trans named) (same.2.trans session)
  rintro (isNewest | ⟨newest, -, held, isNewest, next, -⟩)
  · exact revoked isNewest.1
  have minted := isNewest.2 (mintedRow ctx env authority input secret db)
    (mem_mintedDb.mpr (.inr rfl)) ⟨?_, ?_⟩
  · have generation : (mintedRow ctx env authority input secret db).grantGeneration =
      lastGeneration db input.namespaceId input.coordinatorSessionId + 1 := rfl
    omega
  · exact named.symm.trans held.1.symm
  · exact session.symm.trans held.2.symm

theorem not_current_revoked (sound : GrantsSound db) {other : GrantRow} {grantId reason : String}
    (member : row ∈ db.grants) (chosen : row.grantId = grantId) (unrevoked : row.revokedAt = none)
    (isOther : other ∈ db.grants) (session : SameSession row other)
    (different : other.grantId ≠ grantId) :
    ¬ Current (revokedDb env (·.grantId = grantId) reason db) now other := by
  -- An unrevoked grant of the session is the revoked one itself.
  have none {newest : GrantRow} (isNewest : newest ∈ (revokedDb env (·.grantId = grantId) reason
      db).grants) (held : SameSession row newest) : newest.revokedAt ≠ none := by
    intro unrevokedNewest
    obtain ⟨source, isSource, rfl⟩ := mem_map.mp isNewest
    by_cases touched : (source.grantId = grantId && revocable source) = true
    · rw [if_pos touched] at unrevokedNewest
      cases unrevokedNewest
    rw [if_neg touched] at unrevokedNewest held
    have notChosen : source.grantId ≠ grantId := by
      rintro rfl
      simp [revocable, unrevokedNewest] at touched
    have lower := sound.newest row member unrevoked source isSource held (chosen.symm ▸ notChosen)
    have higher := sound.newest source isSource unrevokedNewest row member
      ⟨held.1.symm, held.2.symm⟩ (chosen ▸ notChosen.symm)
    omega
  rintro (isNewest | ⟨newest, isRow, held, isNewest, -⟩)
  · refine none (mem_map.mpr ⟨other, isOther, if_neg ?_⟩) session isNewest.1
    simp [different]
  · exact none isRow ⟨held.1.trans session.1, held.2.trans session.2⟩ isNewest.1

theorem meetsNoOverlap_of_settled (sound : GrantsSound store.db)
    (effect : Effect ctx env store call result after)
    (settled : Settled ctx after.db env.now
      (if performed result then ended ++ endedIds env store.db call else ended)) :
    CallMeetsNoOverlap ctx env store call := by
  cases effect with
  | refused _ grounds =>
    cases call with
    | beginContractProcessIncarnation => exact grounds.elim
    | mintCoordinatorGrant => exact fun passes => absurd passes grounds
    | revokeGrant => exact fun owns => absurd (grounds.symm.trans owns) Bool.false_ne_true
    | _ => trivial
  | booted performs fence =>
    intro row member usable authority found
    by_contra elsewhere
    rw [if_pos performs] at settled
    obtain ⟨spared, still⟩ := usable_booted env sound found elsewhere usable
    have isRow : row ∈ (bootTransaction ctx env store).grants := mem_map.mpr ⟨row, member, spared⟩
    refine (settled env.now le_rfl row isRow still).2 ?_
    exact mem_append_right _ (mem_endedIds member rfl)
  | @minted _ input secret authority _ performs passes writable =>
    intro _ row member named session usable
    by_contra revoked
    have spared : ¬ rotates input row = true := fun rotated =>
      revoked (rotates_iff.mp rotated).2.2
    have isRow : row ∈ (mintedDb ctx env authority input secret store.db).grants :=
      mem_mintedDb.mpr (.inl ⟨row, member, if_neg spared⟩)
    have still : Usable ctx (mintedDb ctx env authority input secret store.db) env.now row :=
      (usable_congr rfl rfl).mpr usable
    exact not_current_minted sound member named session revoked usable
      (settled env.now le_rfl row isRow still).1
  | @revoked owner grantId reason _ performs owns =>
    intro _ row member chosen unrevoked other isOther session usable
    by_contra different
    have isRow : other ∈ (revokedDb env (·.grantId = grantId) reason store.db).grants :=
      mem_map.mpr ⟨other, isOther, if_neg (by simp [different])⟩
    have still : Usable ctx (revokedDb env (·.grantId = grantId) reason store.db) env.now other :=
      (usable_congr rfl rfl).mpr usable
    exact not_current_revoked sound member chosen unrevoked isOther session different
      (settled env.now le_rfl other isRow still).1
  | _ => trivial

end Steps

section Runs

variable {ctx : ContractCtx}

structure GrantStateSound (state : GrantState) : Prop where
  sound : GrantsSound state.store.db
  ids : ∀ id ∈ state.ended, ∃ row ∈ state.store.db.grants, row.grantId = id

theorem grantId_stays {env : CallEnv} {store after : ContractStore} {call : AuthorityCall}
    {result : Except ContractRefusal Unit} (effect : Effect ctx env store call result after)
    {row : GrantRow} (member : row ∈ store.db.grants) :
    ∃ later ∈ after.db.grants, later.grantId = row.grantId := by
  by_cases mints : ∃ owner input secret, call = .mintCoordinatorGrant owner input secret
  · obtain ⟨owner, input, secret, rfl⟩ := mints
    cases effect with
    | refused => exact ⟨row, member, rfl⟩
    | minted performs passes writable =>
      exact ⟨_, mem_mintedDb.mpr (.inl ⟨row, member, rfl⟩), (rotation_change _ _ _ row).grantId⟩
  obtain ⟨change, mapped, changes⟩ := effect.endsGrants fun owner input secret isMint =>
    mints ⟨owner, input, secret, isMint⟩
  exact ⟨change row, mapped ▸ mem_map_of_mem member, (changes row).1.grantId⟩

theorem grantStateSound_next (state : GrantState) (input : GrantInput)
    (holds : GrantStateSound state) : GrantStateSound ((grantMachine ctx).next state input) := by
  have effect := perform_effect ctx (input.env state.now) state.store input.call
  refine ⟨effect.sound holds.sound, fun id isEnded => ?_⟩
  have known : ∃ row ∈ state.store.db.grants, row.grantId = id := by
    change id ∈ (if performed _ then _ else _) at isEnded
    split_ifs at isEnded
    · rcases mem_append.mp isEnded with earlier | now
      · exact holds.ids id earlier
      · obtain ⟨row, kept, same⟩ := mem_map.mp now
        exact ⟨row, (mem_filter.mp kept).1, same⟩
    · exact holds.ids id isEnded
  obtain ⟨row, member, rfl⟩ := known
  exact grantId_stays effect member

theorem grantStateSound_initial : GrantStateSound (grantMachine ctx).initial :=
  ⟨.empty, fun _ isEnded => absurd isEnded not_mem_nil⟩

theorem rotationEffective_iff {state : GrantState} (holds : GrantStateSound state) :
    RotationEffective ctx state ↔ Settled ctx state.store.db state.now state.ended := by
  constructor
  · exact fun effective now reached row member usable =>
      effective now reached row member ((accepted_iff_usable holds.sound member).mpr usable)
  · exact fun settled now reached row member accepted =>
      settled now reached row member ((accepted_iff_usable holds.sound member).mp accepted)

theorem rotationEffective_step_iff (step : Machine.Step (grantMachine ctx))
    (holds : GrantStateSound step.before) (effective : RotationEffective ctx step.before) :
    RotationEffective ctx step.after ↔ MeetsNoOverlap step := by
  have effect := perform_effect ctx (step.input.env step.before.now) step.before.store
      step.input.call
  refine (rotationEffective_iff (grantStateSound_next step.before step.input holds)).trans ?_
  constructor
  · exact meetsNoOverlap_of_settled holds.sound effect
  refine settled_of_effect holds.sound ((rotationEffective_iff holds).mp effective) ?_ holds.ids
    effect
  exact Int.le_add_of_nonneg_right (Int.natCast_nonneg _)

end Runs

/-- In every state of a run only current grants are accepted, and none that a call was to end,
exactly when no call of the run meets a grant in its overlap that it leaves usable. -/
theorem rotation_effective_iff_meets_no_overlap (ctx : ContractCtx) (inputs : List GrantInput) :
    (∀ step ∈ (grantMachine ctx).steps inputs, RotationEffective ctx step.after) ↔
      ∀ step ∈ (grantMachine ctx).steps inputs, MeetsNoOverlap step :=
  Machine.forall_after_iff rotationEffective_step_iff inputs
    (fun _ _ _ member => absurd member List.not_mem_nil)
    fun _ member => Machine.before_of_mem_stepsFrom grantStateSound_next grantStateSound_initial
      member

section Overlapping

def mintsAt (grantId : String) (overlapPrevious : Bool) (secret : String) : GrantInput where
  elapsed := 1
  newId := fun _ => grantId
  call := .mintCoordinatorGrant plainOwner
    { namespaceId := "ns_1", coordinatorSessionId := "session", ops := [.propose], overlapPrevious }
    secret

def replacedInOverlap : List GrantInput :=
  [{ elapsed := 0, newId := quietEnv.newId, call := .beginContractProcessIncarnation },
    { elapsed := 0, newId := quietEnv.newId
      call := .enrollNamespace plainOwner
        { meshId := "mesh", policy := { rotationOverlapMs := some 1000 } } },
    mintsAt "first" false "0123456789abcdef0",
    mintsAt "second" true "0123456789abcdef1"]

def replacedWithoutOverlap : Machine.Step (grantMachine plainCtx) where
  before := (grantMachine plainCtx).run replacedInOverlap
  input := mintsAt "third" false "0123456789abcdef2"

theorem first_capability_outlives_mint : ∃ row ∈ replacedWithoutOverlap.after.store.db.grants,
      verifyCoordinatorCapability plainCtx { quietEnv with now := 3 }
        replacedWithoutOverlap.after.store.db "csb_0123456789abcdef0"
        ⟨"ns_1", "session", .propose⟩ = .ok (principalOf row) ∧
      row.grantId ∈ replacedWithoutOverlap.after.ended ∧ replacedWithoutOverlap.after.now = 3 := by
  decide

/-- A capability in its overlap is still accepted after a mint without overlap. -/
theorem mint_without_overlap_leaves_capability : ¬ ∀ step ∈ (grantMachine plainCtx).steps
        (replacedInOverlap ++ [mintsAt "third" false "0123456789abcdef2"]),
      RotationEffective plainCtx step.after := by
  intro effective
  have isStep : replacedWithoutOverlap ∈ (grantMachine plainCtx).steps
      (replacedInOverlap ++ [mintsAt "third" false "0123456789abcdef2"]) := by
    rw [Machine.steps, Machine.stepsFrom_append]
    exact List.mem_append_right _ (List.mem_singleton.mpr rfl)
  obtain ⟨row, member, verified, isEnded, time⟩ := first_capability_outlives_mint
  refine (effective _ isStep 3 time.le row member ?_).2 isEnded
  exact ⟨{ quietEnv with now := 3 }, rfl, .inl ⟨_, _, verified⟩⟩

end Overlapping

end Adhdev.Contract
