import Adhdev.Contract.AuthorityRuns

/-! # Usable grants

What makes a grant usable, and why one that no longer is never becomes usable again.
-/

namespace Adhdev.Contract

open Call MeshShared List

section Usable

variable (ctx : ContractCtx) (db : ContractDb)

def Usable (now : Int) (row : GrantRow) : Prop :=
  ∃ authority, assertAuthorityWritable ctx db row.namespaceId = .ok authority ∧
    grantUsable now row authority = .ok ()

def Live (now : Int) (row : GrantRow) : Prop :=
  (row.revokedAt = none ∨ inOverlap now row = true) ∧ now < row.expiresAt

def BoundTo (row : GrantRow) (authority : AuthorityRow) : Prop :=
  daemonIdsEquivalent row.authorityDaemonId authority.authorityDaemonId = true ∧
    row.authorityEpoch = authority.authorityEpoch ∧
      row.processIncarnation = authority.processIncarnation

variable {ctx db}

variable {row : GrantRow}

variable {authority : AuthorityRow} {now : Int}

theorem grantUsable_ok_iff :
    grantUsable now row authority = .ok () ↔ Live now row ∧ BoundTo row authority := by
  rw [grantUsable, Live, BoundTo]
  split_ifs with revoked expired foreign
  · refine iff_of_false nofun ?_
    rintro ⟨⟨unrevoked | overlaps, -⟩, -⟩
    · rw [unrevoked] at revoked
      exact absurd revoked.1 Bool.false_ne_true
    · exact absurd (revoked.2.symm.trans overlaps) Bool.false_ne_true
  · exact iff_of_false nofun fun live => by omega
  · refine iff_of_false nofun ?_
    rintro ⟨-, equivalent, epoch, incarnation⟩
    rcases foreign with other | other | other
    · exact absurd (other.symm.trans equivalent) Bool.false_ne_true
    · exact other epoch
    · exact other incarnation
  refine iff_of_true rfl ⟨⟨?_, by omega⟩, ?_⟩
  · cases revokedAt : row.revokedAt with
    | none => exact .inl rfl
    | some time =>
      refine .inr (Bool.not_eq_false _ ▸ fun outside => revoked ⟨?_, outside⟩)
      rw [revokedAt]
      rfl
  · simpa only [not_or, Bool.not_eq_false, ne_eq, not_not] using foreign

theorem writable_ok_iff {namespaceId : String} :
    assertAuthorityWritable ctx db namespaceId = .ok authority ↔
      db.protocolVersion ≤ contractProtocolVersion ∧
        getAuthority db namespaceId = some authority ∧ authority.status = .active ∧
          daemonIdsEquivalent authority.authorityDaemonId ctx.localDaemonId = true := by
  rw [assertAuthorityWritable]
  by_cases supported : contractProtocolVersion < db.protocolVersion
  · rw [if_pos supported]
    exact iff_of_false (by simp) fun held => by omega
  rw [if_neg supported]
  cases found : getAuthority db namespaceId with
  | none => exact iff_of_false (by simp) fun held => by cases held.2.1
  | some row =>
    dsimp only
    split_ifs with recovery paused foreign
    · refine iff_of_false (by simp) ?_
      rintro ⟨-, same, active, -⟩
      cases same
      cases recovery.symm.trans active
    · refine iff_of_false (by simp) ?_
      rintro ⟨-, same, active, -⟩
      cases same
      cases paused.symm.trans active
    · refine iff_of_false (by simp) ?_
      rintro ⟨-, same, active, equivalent⟩
      cases same
      rcases foreign with inactive | other
      · exact inactive active
      · exact absurd (other.symm.trans equivalent) Bool.false_ne_true
    rw [not_or, not_not, Bool.not_eq_false] at foreign
    constructor
    · intro answered
      cases answered
      exact ⟨by omega, rfl, foreign⟩
    rintro ⟨-, same, -⟩
    cases same
    rfl

theorem usable_iff : Usable ctx db now row ↔
      Live now row ∧ ∃ authority, assertAuthorityWritable ctx db row.namespaceId = .ok authority ∧
        BoundTo row authority := by
  simp only [Usable, grantUsable_ok_iff]
  constructor
  · rintro ⟨authority, writable, live, bound⟩
    exact ⟨live, authority, writable, bound⟩
  · rintro ⟨live, authority, writable, bound⟩
    exact ⟨authority, writable, live, bound⟩

theorem inOverlap_iff : inOverlap now row = true ↔
      row.revokeReason = some "rotated" ∧ ∃ deadline, row.overlapUntil = some deadline ∧
        now < deadline := by
  simp [inOverlap, Option.any_eq_true]

theorem usable_congr {after : ContractDb} (version : after.protocolVersion = db.protocolVersion)
    (same : after.authorities = db.authorities) :
    Usable ctx after now row ↔ Usable ctx db now row := by
  simp only [Usable, writable_ok_iff, getAuthority, version, same]

theorem Live.earlier {now later : Int} (order : now ≤ later) (live : Live later row) :
    Live now row := by
  refine ⟨live.1.imp_right fun overlaps => ?_, lt_of_le_of_lt order live.2⟩
  obtain ⟨rotated, deadline, until_, before⟩ := inOverlap_iff.mp overlaps
  exact inOverlap_iff.mpr ⟨rotated, deadline, until_, lt_of_le_of_lt order before⟩

theorem Usable.earlier {now later : Int} (order : now ≤ later) (usable : Usable ctx db later row) :
    Usable ctx db now row := by
  rw [usable_iff] at usable ⊢
  exact ⟨usable.1.earlier order, usable.2⟩

end Usable

section Changes

inductive GrantChange (row : GrantRow) : GrantRow → Prop
  | kept : GrantChange row row
  | ended (time : Int) (reason : String) (overlapUntil : Option Int)
      (ends : overlapUntil = none ∨ overlapUntil = row.overlapUntil ∧ reason ≠ "rotated") :
      GrantChange row { row with revokedAt := some time, revokeReason := some reason, overlapUntil }
  | rotated (time : Int) (overlapUntil : Option Int) (unrevoked : row.revokedAt = none) :
      GrantChange row
        { row with revokedAt := some time, revokeReason := some "rotated", overlapUntil }

variable {row later : GrantRow}

theorem GrantChange.keeps {α : Type} (change : GrantChange row later) (read : GrantRow → α)
    (ignores : ∀ row revokedAt revokeReason overlapUntil,
      read { row with revokedAt, revokeReason, overlapUntil } = read row) :
    read later = read row := by
  cases change with
  | kept => rfl
  | ended | rotated => exact ignores _ _ _ _

theorem GrantChange.grantId (change : GrantChange row later) : later.grantId = row.grantId :=
  change.keeps _ fun _ _ _ _ => rfl

theorem GrantChange.namespaceId (change : GrantChange row later) :
    later.namespaceId = row.namespaceId := change.keeps _ fun _ _ _ _ => rfl

theorem GrantChange.session (change : GrantChange row later) :
    later.coordinatorSessionId = row.coordinatorSessionId := change.keeps _ fun _ _ _ _ => rfl

theorem GrantChange.generation (change : GrantChange row later) :
    later.grantGeneration = row.grantGeneration := change.keeps _ fun _ _ _ _ => rfl

theorem GrantChange.ops (change : GrantChange row later) : later.ops = row.ops :=
  change.keeps _ fun _ _ _ _ => rfl

theorem GrantChange.epoch (change : GrantChange row later) :
    later.authorityEpoch = row.authorityEpoch := change.keeps _ fun _ _ _ _ => rfl

theorem GrantChange.incarnation (change : GrantChange row later) :
    later.processIncarnation = row.processIncarnation := change.keeps _ fun _ _ _ _ => rfl

theorem GrantChange.daemon (change : GrantChange row later) :
    later.authorityDaemonId = row.authorityDaemonId := change.keeps _ fun _ _ _ _ => rfl

theorem GrantChange.boundTo (change : GrantChange row later) {authority : AuthorityRow} :
    BoundTo later authority ↔ BoundTo row authority := by
  rw [BoundTo, BoundTo, change.daemon, change.epoch, change.incarnation]

theorem not_live_of_ended {now time : Int} {reason : String} {overlapUntil : Option Int}
    (ends : overlapUntil = none ∨ overlapUntil = row.overlapUntil ∧ reason ≠ "rotated") :
    ¬ Live now { row with revokedAt := some time, revokeReason := some reason, overlapUntil } := by
  rintro ⟨unrevoked | overlaps, -⟩
  · cases unrevoked
  obtain ⟨rotated, deadline, held, -⟩ := inOverlap_iff.mp overlaps
  rcases ends with none | ⟨-, other⟩
  · cases none.symm.trans held
  · exact other (Option.some.inj rotated)

theorem GrantChange.live (change : GrantChange row later) {now : Int} (live : Live now later) :
    Live now row := by
  cases change with
  | kept => exact live
  | ended time reason overlapUntil ends => exact absurd live (not_live_of_ended ends)
  | rotated time overlapUntil unrevoked => exact ⟨.inl unrevoked, live.2⟩

theorem GrantChange.unrevoked (change : GrantChange row later)
    (unrevoked : later.revokedAt = none) :
    later = row := by
  cases change with
  | kept => rfl
  | ended | rotated => cases unrevoked

end Changes

section Tenure

structure TenureMoves (before after : AuthorityRow) : Prop where
  epoch : before.authorityEpoch ≤ after.authorityEpoch
  incarnation : before.processIncarnation ≤ after.processIncarnation
  kept : (after.authorityDaemonId = before.authorityDaemonId ∧
      after.authorityEpoch = before.authorityEpoch ∧
      after.processIncarnation = before.processIncarnation ∧
      (after.status = .active → before.status = .active)) ∨
    before.authorityEpoch < after.authorityEpoch ∨
      before.processIncarnation < after.processIncarnation

theorem TenureMoves.refl (row : AuthorityRow) : TenureMoves row row :=
  ⟨le_rfl, le_rfl, .inl ⟨rfl, rfl, rfl, id⟩⟩

def TenuresMove (db later : ContractDb) : Prop :=
  later.protocolVersion = db.protocolVersion ∧
    ∀ namespaceId before, getAuthority db namespaceId = some before →
      ∃ after, getAuthority later namespaceId = some after ∧ TenureMoves before after

theorem TenuresMove.refl (db : ContractDb) : TenuresMove db db :=
  ⟨rfl, fun _ before found => ⟨before, found, .refl before⟩⟩

theorem TenuresMove.of_eq {db later : ContractDb}
    (version : later.protocolVersion = db.protocolVersion)
    (same : later.authorities = db.authorities) : TenuresMove db later := by
  refine ⟨version, fun namespaceId before found => ⟨before, ?_, .refl before⟩⟩
  rw [getAuthority, same]
  exact found

variable {change : AuthorityRow → AuthorityRow}

theorem getAuthority_map {db later : ContractDb}
    (mapped : later.authorities = db.authorities.map change)
    (named : ∀ row, (change row).namespaceId = row.namespaceId) (namespaceId : String) :
    getAuthority later namespaceId = (getAuthority db namespaceId).map change := by
  rw [getAuthority, mapped, find?_map, getAuthority]
  congr 2
  funext row
  simp [named]

theorem tenuresMove_map {db later : ContractDb}
    (version : later.protocolVersion = db.protocolVersion)
    (mapped : later.authorities = db.authorities.map change)
    (named : ∀ row, (change row).namespaceId = row.namespaceId)
    (moves : ∀ namespaceId row, getAuthority db namespaceId = some row → TenureMoves row (change
      row)) : TenuresMove db later := by
  refine ⟨version, fun namespaceId before found => ⟨change before, ?_, moves _ _ found⟩⟩
  rw [getAuthority_map mapped named, found]
  rfl

theorem usable_of_moves {ctx : ContractCtx} {db after : ContractDb} {row later : GrantRow}
    {authority : AuthorityRow} {now : Int} (moves : TenuresMove db after)
    (change : GrantChange row later) (found : getAuthority db row.namespaceId = some authority)
    (epoch : row.authorityEpoch ≤ authority.authorityEpoch)
    (incarnation : row.processIncarnation ≤ authority.processIncarnation)
    (usable : Usable ctx after now later) : Usable ctx db now row := by
  obtain ⟨live, held, writable, bound⟩ := usable_iff.mp usable
  rw [change.namespaceId, writable_ok_iff] at writable
  obtain ⟨supported, isHeld, active, here⟩ := writable
  obtain ⟨next, isNext, tenure⟩ := moves.2 _ _ found
  cases isHeld.symm.trans isNext
  obtain ⟨daemon, sameEpoch, sameIncarnation⟩ := change.boundTo.mp bound
  refine usable_iff.mpr ⟨change.live live, authority, ?_⟩
  rcases tenure.kept with ⟨daemonId, epochs, incarnations, wasActive⟩ | higher
  · rw [writable_ok_iff, BoundTo, ← daemonId, ← epochs, ← incarnations, ← moves.1]
    exact ⟨⟨supported, found, wasActive active, here⟩, daemon, sameEpoch, sameIncarnation⟩
  · omega

theorem nextEpoch_above (store : ContractStore) (authority : AuthorityRow) :
    authority.authorityEpoch < nextEpoch store authority :=
  Nat.lt_succ_of_le (le_max_left _ _)

theorem tenuresMove_enters {db later : ContractDb} {namespaceId : String} {epoch : Nat}
    {authority : AuthorityRow} (change : AuthorityRow → AuthorityRow)
    (version : later.protocolVersion = db.protocolVersion)
    (entered : later.authorities = db.authorities.map fun row =>
      if row.namespaceId = namespaceId then { change row with authorityEpoch := epoch } else row)
    (changes : ∀ row, (change row).namespaceId = row.namespaceId ∧
      row.processIncarnation ≤ (change row).processIncarnation)
    (found : getAuthority db namespaceId = some authority)
    (above : authority.authorityEpoch < epoch) : TenuresMove db later := by
  refine tenuresMove_map version entered (fun row => ?_) fun other row isRow => ?_
  · split_ifs
    · exact (changes row).1
    · rfl
  split_ifs with named
  · obtain ⟨-, same⟩ := mem_of_getAuthority isRow
    rw [← same, named] at isRow
    cases found.symm.trans isRow
    exact ⟨above.le, (changes _).2, .inr (.inl above)⟩
  · exact .refl row

variable {ctx : ContractCtx} {env : CallEnv} {store later : ContractStore} {call : AuthorityCall}
  {result : Except ContractRefusal Unit}

theorem Effect.tenures (effect : Effect ctx env store call result later) :
    TenuresMove store.db later.db := by
  cases effect with
  | refused => exact .refl _
  | enrolled ownerPrincipal performs fresh headless =>
    rw [fencedStore_db]
    refine ⟨rfl, fun namespaceId before found => ⟨before, ?_, .refl before⟩⟩
    rw [getAuthority, enrolledDb, find?_append]
    change (getAuthority store.db namespaceId).or _ = _
    rw [found]
    rfl
  | policed => 
    refine tenuresMove_map rfl rfl (fun row => ?_) fun _ row _ => ?_
    · split_ifs <;> rfl
    split_ifs
    · exact ⟨le_rfl, le_rfl, .inl ⟨rfl, rfl, rfl, id⟩⟩
    · exact .refl row
  | booted performs fence =>
    refine tenuresMove_map rfl rfl (booted_namespaceId store) fun _ row _ => ?_
    rw [bootedAuthority]
    split_ifs
    · exact ⟨le_rfl, le_rfl, .inl ⟨rfl, rfl, rfl, by simp⟩⟩
    · exact ⟨le_rfl, Nat.le_succ _, .inr (.inr (Nat.lt_succ_self _))⟩
    · exact .refl row
  | recovered performs owns found =>
    rw [fencedStore_db]
    exact tenuresMove_enters (recoveredRow ctx) rfl (enterEpoch_authorities _ _ _ _ _ _)
      (fun _ => ⟨rfl, Nat.le_succ _⟩) found (nextEpoch_above _ _)
  | paused =>
    refine tenuresMove_map rfl rfl (fun row => ?_) fun _ row _ => ?_
    · split_ifs <;> rfl
    split_ifs
    · exact ⟨le_rfl, le_rfl, .inl ⟨rfl, rfl, rfl, by simp⟩⟩
    · exact .refl row
  | @transferred _ input _ _ performs owns named fenced found =>
    rw [fencedStore_db]
    exact tenuresMove_enters (transferredRow ctx input) rfl (enterEpoch_authorities _ _ _ _ _ _)
      (fun row => ⟨transferredRow_namespaceId input row,
        (transferredRow_processIncarnation input row).ge⟩) found (nextEpoch_above _ _)
  | minted | revoked | sessionRevoked => exact .of_eq rfl rfl

def EndsGrants (db later : ContractDb) : Prop :=
  ∃ change : GrantRow → GrantRow, later.grants = db.grants.map change ∧
    ∀ row, GrantChange row (change row) ∧
      ((change row).overlapUntil = none ∨ (change row).overlapUntil = row.overlapUntil) ∧
      (row.revokedAt.isSome = true → (change row).revokedAt.isSome = true)

theorem EndsGrants.of_eq {db later : ContractDb} (same : later.grants = db.grants) :
    EndsGrants db later :=
  ⟨id, same.trans (map_id _).symm, fun _ => ⟨.kept, .inr rfl, id⟩⟩

variable {affected : GrantRow → Bool}

theorem EndsGrants.of_change {db later : ContractDb} {time : Int} (reason : String)
    (other : reason ≠ "rotated")
    (changed : later.grants = db.grants.map fun row =>
      if affected row then { row with revokedAt := some time, revokeReason := some reason }
      else row) : EndsGrants db later := by
  refine ⟨_, changed, fun row => ?_⟩
  split_ifs
  · exact ⟨.ended time reason row.overlapUntil (.inr ⟨rfl, other⟩), .inr rfl, fun _ => rfl⟩
  · exact ⟨.kept, .inr rfl, id⟩

theorem EndsGrants.of_revoked {db later : ContractDb} {time : Int} {reason : String}
    (changed : later.grants = db.grants.map fun row => if affected row then revokedGrant time
      reason row else row) : EndsGrants db later := by
  refine ⟨_, changed, fun row => ?_⟩
  split_ifs
  · exact ⟨.ended time reason none (.inl rfl), .inl rfl, fun _ => rfl⟩
  · exact ⟨.kept, .inr rfl, id⟩

theorem Effect.endsGrants (effect : Effect ctx env store call result later)
    (mintless : ∀ owner input secret, call ≠ .mintCoordinatorGrant owner input secret) :
    EndsGrants store.db later.db := by
  cases effect with
  | refused | policed | paused => exact .of_eq rfl
  | enrolled =>
    rw [fencedStore_db]
    exact .of_eq rfl
  | booted => exact .of_change "process_restart" (by decide) rfl
  | recovered =>
    rw [fencedStore_db]
    exact .of_change "owner_recovery" (by decide) rfl
  | transferred =>
    rw [fencedStore_db]
    exact .of_change "authority_transfer" (by decide) rfl
  | minted => exact absurd rfl (mintless _ _ _)
  | revoked | sessionRevoked => exact .of_revoked rfl

end Tenure

section Sound

def SameSession (row other : GrantRow) : Prop :=
  other.namespaceId = row.namespaceId ∧ other.coordinatorSessionId = row.coordinatorSessionId

structure GrantsSound (db : ContractDb) : Prop where
  ids : (db.grants.map (·.grantId)).Nodup
  namespaces : (db.authorities.map (·.namespaceId)).Nodup
  bound : ∀ row ∈ db.grants, ∃ authority, getAuthority db row.namespaceId = some authority ∧
    row.authorityEpoch ≤ authority.authorityEpoch ∧
      row.processIncarnation ≤ authority.processIncarnation
  newest : ∀ row ∈ db.grants, row.revokedAt = none → ∀ other ∈ db.grants,
    SameSession row other → other.grantId ≠ row.grantId →
      other.grantGeneration < row.grantGeneration
  overlapped : ∀ row ∈ db.grants, row.overlapUntil.isSome = true →
    row.revokedAt.isSome = true ∧
      ∃ other ∈ db.grants, SameSession row other ∧ row.grantGeneration < other.grantGeneration
  operates : ∀ row ∈ db.grants, row.ops ≠ []

theorem GrantsSound.empty : GrantsSound {} where
  ids := nodup_nil
  namespaces := nodup_nil
  bound := fun _ member => absurd member not_mem_nil
  newest := fun _ member => absurd member not_mem_nil
  overlapped := fun _ member => absurd member not_mem_nil
  operates := fun _ member => absurd member not_mem_nil

variable {db later : ContractDb}

theorem GrantsSound.eq_of_grantId (sound : GrantsSound db) {row other : GrantRow}
    (isRow : row ∈ db.grants) (isOther : other ∈ db.grants) (same : row.grantId = other.grantId) :
    row = other :=
  inj_on_of_nodup_map sound.ids isRow isOther same

theorem GrantChange.sameSession {row other row' other' : GrantRow} (change : GrantChange row row')
    (changeOther : GrantChange other other') : SameSession row' other' ↔ SameSession row other := by
  rw [SameSession, SameSession, change.namespaceId, change.session, changeOther.namespaceId,
    changeOther.session]

theorem GrantsSound.ends (sound : GrantsSound db) (moves : TenuresMove db later)
    (ends : EndsGrants db later)
    (namespaces : (later.authorities.map (·.namespaceId)).Nodup) : GrantsSound later := by
  obtain ⟨change, mapped, changes⟩ := ends
  have origin {row : GrantRow} (member : row ∈ later.grants) :
      ∃ before ∈ db.grants, change before = row := mem_map.mp (mapped ▸ member)
  refine ⟨?_, namespaces, ?_, ?_, ?_, ?_⟩
  · have same : later.grants.map (·.grantId) = db.grants.map (·.grantId) := by
      rw [mapped, map_map]
      exact map_congr_left fun row _ => (changes row).1.grantId
    rw [same]
    exact sound.ids
  · intro row member
    obtain ⟨before, isBefore, rfl⟩ := origin member
    obtain ⟨authority, found, epoch, incarnation⟩ := sound.bound before isBefore
    obtain ⟨after, isAfter, tenure⟩ := moves.2 _ _ found
    have changed := (changes before).1
    refine ⟨after, changed.namespaceId ▸ isAfter, ?_, ?_⟩
    · rw [changed.epoch]
      exact epoch.trans tenure.epoch
    · rw [changed.incarnation]
      exact incarnation.trans tenure.incarnation
  · intro row member unrevoked other isOther session different
    obtain ⟨before, isBefore, rfl⟩ := origin member
    obtain ⟨source, isSource, rfl⟩ := origin isOther
    have changed := (changes before).1
    have changedSource := (changes source).1
    rw [changed.grantId, changedSource.grantId] at different
    rw [changed.generation, changedSource.generation]
    exact sound.newest before isBefore (changed.unrevoked unrevoked ▸ unrevoked) source isSource
      ((changed.sameSession changedSource).mp session) different
  · intro row member overlaps
    obtain ⟨before, isBefore, rfl⟩ := origin member
    obtain ⟨changed, overlap, stays⟩ := changes before
    rcases overlap with none | same
    · rw [none] at overlaps
      cases overlaps
    obtain ⟨revoked, other, isOther, session, higher⟩ :=
      sound.overlapped before isBefore (same ▸ overlaps)
    refine ⟨stays revoked, change other, mapped ▸ mem_map_of_mem isOther, ?_, ?_⟩
    · exact (changed.sameSession (changes other).1).mpr session
    · rwa [changed.generation, (changes other).1.generation]
  intro row member
  obtain ⟨before, isBefore, rfl⟩ := origin member
  rw [(changes before).1.ops]
  exact sound.operates before isBefore

variable {row : GrantRow}

theorem le_lastGeneration {namespaceId sessionId : String} (member : row ∈ db.grants)
    (named : row.namespaceId = namespaceId) (session : row.coordinatorSessionId = sessionId) :
    row.grantGeneration ≤ lastGeneration db namespaceId sessionId := by
  have kept : row ∈ db.grants.filter fun row =>
      row.namespaceId = namespaceId && row.coordinatorSessionId = sessionId :=
    mem_filter.mpr ⟨member, by simp [named, session]⟩
  exact le_max_of_le' 0 (mem_map_of_mem kept) le_rfl

theorem lastGeneration_le {namespaceId sessionId : String} {bound : Nat}
    (bounded : ∀ row ∈ db.grants, row.namespaceId = namespaceId →
      row.coordinatorSessionId = sessionId → row.grantGeneration ≤ bound) :
    lastGeneration db namespaceId sessionId ≤ bound := by
  rw [lastGeneration]
  refine max_le_of_forall_le _ _ fun generation member => ?_
  obtain ⟨row, kept, rfl⟩ := mem_map.mp member
  obtain ⟨isRow, session⟩ := mem_filter.mp kept
  rw [Bool.and_eq_true, decide_eq_true_eq, decide_eq_true_eq] at session
  exact bounded row isRow session.1 session.2

variable {ctx : ContractCtx} {env : CallEnv} {authority : AuthorityRow} {input : MintGrantInput}
  {secret : String}

theorem rotates_iff : rotates input row = true ↔ row.namespaceId = input.namespaceId ∧
      row.coordinatorSessionId = input.coordinatorSessionId ∧ row.revokedAt = none := by
  simp [rotates, and_assoc]

theorem rotation_change (env : CallEnv) (authority : AuthorityRow) (input : MintGrantInput)
    (row : GrantRow) :
    GrantChange row (if rotates input row then rotatedGrant env authority input row else row) := by
  split_ifs with rotated
  · exact .rotated env.now _ (rotates_iff.mp rotated).2.2
  · exact .kept

theorem mem_mintedDb : row ∈ (mintedDb ctx env authority input secret db).grants ↔
      (∃ before ∈ db.grants,
        (if rotates input before then rotatedGrant env authority input before else before) = row) ∨
        row = mintedRow ctx env authority input secret db := by
  simp [mintedDb, rotateGrants, changeGrants]

theorem GrantsSound.minted (sound : GrantsSound db)
    (writable : assertAuthorityWritable ctx db input.namespaceId = .ok authority)
    (operates : input.ops ≠ []) (fresh : ∀ row ∈ db.grants, row.grantId ≠ env.newId "grant") :
    GrantsSound (mintedDb ctx env authority input secret db) := by
  have higher {row : GrantRow} (member : row ∈ db.grants)
      (session : SameSession row (mintedRow ctx env authority input secret db)) :
      row.grantGeneration < (mintedRow ctx env authority input secret db).grantGeneration :=
    Nat.lt_succ_of_le (le_lastGeneration member session.1.symm session.2.symm)
  refine ⟨?_, sound.namespaces, ?_, ?_, ?_, ?_⟩
  · have ids : (mintedDb ctx env authority input secret db).grants.map (·.grantId) =
        db.grants.map (·.grantId) ++ [env.newId "grant"] := by
      simp only [mintedDb, rotateGrants, changeGrants, map_append, map_map]
      congr 1
      exact map_congr_left fun row _ => (rotation_change env authority input row).grantId
    rw [ids]
    refine nodup_append.mpr ⟨sound.ids, nodup_singleton _, fun id isId other isOther => ?_⟩
    obtain ⟨row, member, rfl⟩ := mem_map.mp isId
    rw [mem_singleton.mp isOther]
    exact fresh row member
  · intro row member
    rcases mem_mintedDb.mp member with ⟨before, isBefore, rfl⟩ | rfl
    · have change := rotation_change env authority input before
      rw [change.namespaceId, change.epoch, change.incarnation]
      exact sound.bound before isBefore
    · exact ⟨authority, (writable_ok_iff.mp writable).2.1, le_rfl, le_rfl⟩
  · intro row member unrevoked other isOther session different
    rcases mem_mintedDb.mp member with ⟨before, isBefore, rfl⟩ | rfl
    · have change := rotation_change env authority input before
      have kept := change.unrevoked unrevoked
      rw [kept] at unrevoked session different ⊢
      rcases mem_mintedDb.mp isOther with ⟨source, isSource, rfl⟩ | rfl
      · have changeSource := rotation_change env authority input source
        rw [changeSource.grantId] at different
        rw [changeSource.generation]
        exact sound.newest before isBefore unrevoked source isSource
          ((GrantChange.kept.sameSession changeSource).mp session) different
      have rotated := rotates_iff.mpr ⟨session.1.symm, session.2.symm, unrevoked⟩
      rw [if_pos rotated] at kept
      cases (congrArg GrantRow.revokedAt kept).trans unrevoked
    rcases mem_mintedDb.mp isOther with ⟨source, isSource, rfl⟩ | rfl
    · have changeSource := rotation_change env authority input source
      rw [changeSource.generation]
      refine higher isSource ⟨?_, ?_⟩
      · exact session.1.symm.trans changeSource.namespaceId
      · exact session.2.symm.trans changeSource.session
    · exact absurd rfl different
  · intro row member overlaps
    rcases mem_mintedDb.mp member with ⟨before, isBefore, rfl⟩ | rfl
    · have change := rotation_change env authority input before
      by_cases rotated : rotates input before = true
      · obtain ⟨named, session, -⟩ := rotates_iff.mp rotated
        rw [if_pos rotated] at overlaps ⊢
        have same : SameSession before (mintedRow ctx env authority input secret db) :=
          ⟨named.symm, session.symm⟩
        have above := higher isBefore same
        exact ⟨rfl, _, mem_mintedDb.mpr (.inr rfl), same, above⟩
      rw [if_neg rotated] at overlaps ⊢
      obtain ⟨revoked, other, isOther, session, above⟩ := sound.overlapped before isBefore overlaps
      have changeOther := rotation_change env authority input other
      refine ⟨revoked, _, mem_mintedDb.mpr (.inl ⟨other, isOther, rfl⟩), ?_, ?_⟩
      · exact (GrantChange.kept.sameSession changeOther).mpr session
      · rwa [changeOther.generation]
    · cases overlaps
  · intro row member
    rcases mem_mintedDb.mp member with ⟨before, isBefore, rfl⟩ | rfl
    · have change := rotation_change env authority input before
      rw [change.ops]
      exact sound.operates before isBefore
    · obtain ⟨op, isOp⟩ := exists_mem_of_ne_nil _ operates
      exact ne_nil_of_mem (mem_eraseDups.mpr isOp)

variable {result : Except ContractRefusal Unit} {call : AuthorityCall}

theorem Effect.namespaces {store later : ContractStore}
    (effect : Effect ctx env store call result later)
    (unique : (store.db.authorities.map (·.namespaceId)).Nodup) :
    (later.db.authorities.map (·.namespaceId)).Nodup := by
  have mapped {change : AuthorityRow → AuthorityRow}
      (named : ∀ row, (change row).namespaceId = row.namespaceId) :
      ((store.db.authorities.map change).map (·.namespaceId)).Nodup := by
    have same : (store.db.authorities.map change).map (·.namespaceId) =
        store.db.authorities.map (·.namespaceId) := by
      rw [map_map]
      exact map_congr_left fun row _ => named row
    rwa [same]
  cases effect with
  | refused | minted | revoked | sessionRevoked => exact unique
  | enrolled ownerPrincipal performs fresh headless =>
    rw [fencedStore_db, enrolledDb, map_append]
    refine nodup_append.mpr ⟨unique, nodup_singleton _, fun name isName other isOther => ?_⟩
    obtain ⟨row, member, rfl⟩ := mem_map.mp isName
    rw [mem_singleton.mp isOther]
    exact fun same => any_eq_false.mp fresh row member (decide_eq_true same)
  | policed | paused => exact mapped fun row => by split_ifs <;> rfl
  | booted => exact mapped (booted_namespaceId store)
  | recovered =>
    rw [fencedStore_db]
    exact mapped fun row => by split_ifs <;> rfl
  | @transferred _ input =>
    rw [fencedStore_db, transferredDb, enterEpoch_authorities]
    exact mapped fun row => by split_ifs <;> simp

theorem Effect.sound {store later : ContractStore} (effect : Effect ctx env store call result later)
    (sound : GrantsSound store.db) : GrantsSound later.db := by
  by_cases mints : ∃ owner input secret, call = .mintCoordinatorGrant owner input secret
  · obtain ⟨owner, input, secret, rfl⟩ := mints
    cases effect with
    | refused => exact sound
    | minted performs passes writable =>
      exact sound.minted writable (fun none => passes.2.1 (.inl none))
        fun row member => (passes.2.2.2 row member).1
  refine sound.ends effect.tenures (effect.endsGrants fun owner input secret isMint => ?_)
    (effect.namespaces sound.namespaces)
  exact mints ⟨owner, input, secret, isMint⟩

theorem Effect.usable {store later : ContractStore}
    (effect : Effect ctx env store call result later) (sound : GrantsSound store.db)
    {row before : GrantRow} (isBefore : before ∈ store.db.grants) (change : GrantChange before row)
    {now : Int} (usable : Usable ctx later.db now row) : Usable ctx store.db now before := by
  obtain ⟨authority, found, epoch, incarnation⟩ := sound.bound before isBefore
  exact usable_of_moves effect.tenures change found epoch incarnation usable

end Sound

end Adhdev.Contract
