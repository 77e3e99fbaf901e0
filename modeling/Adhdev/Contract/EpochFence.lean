import Adhdev.Contract.AuthorityRuns

/-! # Epochs and restored databases

One daemon, its database and its fence file. A restart may find any database that was
ever committed; the fence file is kept.
-/

namespace Adhdev.Contract

open Call MeshShared List

structure FenceState where
  store : ContractStore := {}
  /-- Every database that a commit replaced, the latest first. -/
  earlier : List ContractDb := []
  booted : Bool := false

inductive FenceInput
  | serve (env : CallEnv) (call : AuthorityCall)
  | restart (env : CallEnv) (restored : Option Nat)

namespace FenceState

variable (ctx : ContractCtx) (state : FenceState)

def committed : List ContractDb := state.store.db :: state.earlier

def foundAtRestart (restored : Option Nat) : ContractDb :=
  (restored.bind (state.earlier[·]?)).getD state.store.db

def perform (env : CallEnv) (store : ContractStore) (call : AuthorityCall) : FenceState where
  store := (call.perform ctx env store).2
  earlier := state.committed
  booted := env.fenceFails.isNone

def respond : FenceInput → FenceState
  | .serve env call => if state.booted then state.perform ctx env state.store call else state
  | .restart env restored =>
    state.perform ctx env { state.store with db := state.foundAtRestart restored }
      .beginContractProcessIncarnation

end FenceState

def fenceMachine (ctx : ContractCtx) : Machine FenceState FenceInput FenceState where
  initial := {}
  respond := FenceState.respond ctx
  advance := id

section Property

def epochsOf (namespaceId : String) (db : ContractDb) : List Nat :=
  (db.authorities.filter (·.namespaceId = namespaceId)).map (·.authorityEpoch)

namespace FenceState

variable (ctx : ContractCtx) (state : FenceState)

def committedEpochs (namespaceId : String) : List Nat :=
  state.committed.flatMap (epochsOf namespaceId)

/-- A higher epoch of the namespace was committed. -/
def Outdated (row : AuthorityRow) : Prop :=
  ∃ epoch ∈ state.committedEpochs row.namespaceId, row.authorityEpoch < epoch

instance (row : AuthorityRow) : Decidable (state.Outdated row) :=
  inferInstanceAs (Decidable (∃ epoch ∈ _, _))

/-- While the daemon serves, no namespace is active at an epoch below the highest that was
ever committed for it. -/
def EpochsCurrent : Prop :=
  state.booted = true →
    ∀ row ∈ state.store.db.authorities, row.status = .active → ¬ state.Outdated row

instance : Decidable state.EpochsCurrent :=
  inferInstanceAs (Decidable (_ → ∀ row ∈ _, _ → ¬ _))

/-- Every active row of this database that is behind is this daemon's own, and behind the
fence as well. -/
def BootsAhead (db : ContractDb) : Prop :=
  ∀ row ∈ db.authorities, row.status = .active → state.Outdated row →
    row.authorityDaemonId = ctx.localDaemonId ∧ isBehindFence { state.store with db } row = true

def EntersAhead (namespaceId : String) : Prop :=
  ∀ authority, getAuthority state.store.db namespaceId = some authority →
    ∀ epoch ∈ state.committedEpochs namespaceId, epoch ≤ nextEpoch state.store authority

def ServesAhead : AuthorityCall → Prop
  | .beginContractProcessIncarnation => state.BootsAhead ctx state.store.db
  | .recoverAuthority owner namespaceId =>
    (assertOwner owner).isOk = true → state.EntersAhead namespaceId
  | .transferAuthority owner input =>
    (assertOwner owner).isOk = true → trim input.newDaemonId ≠ "" →
      input.oldWriterFenced = true →
      daemonIdsEquivalent (storedDaemonId input.newDaemonId) ctx.localDaemonId = true →
      state.EntersAhead input.namespaceId
  | _ => True

end FenceState

def FenceReaches (ctx : ContractCtx) (step : Machine.Step (fenceMachine ctx)) : Prop :=
  match step.input with
  | .serve env call =>
    step.before.booted = true → env.fenceFails = none → step.before.ServesAhead ctx call
  | .restart env restored =>
    env.fenceFails = none → step.before.BootsAhead ctx (step.before.foundAtRestart restored)

def FenceInput.drawnNamespace : FenceInput → Option String
  | .serve env (.enrollNamespace ..) => some (env.newId "ns")
  | _ => none

def DrawsNewNamespace {ctx : ContractCtx} (step : Machine.Step (fenceMachine ctx)) : Prop :=
  ∀ namespaceId ∈ step.input.drawnNamespace, step.before.committedEpochs namespaceId = []

instance {ctx : ContractCtx} (step : Machine.Step (fenceMachine ctx)) :
    Decidable (DrawsNewNamespace step) :=
  inferInstanceAs (Decidable (∀ namespaceId ∈ step.input.drawnNamespace, _ = []))

end Property

section Steps

variable {ctx : ContractCtx} {env : CallEnv} {state : FenceState}

variable {namespaceId : String} {epoch : Nat}

variable {db : ContractDb}

theorem mem_epochsOf : epoch ∈ epochsOf namespaceId db ↔
      ∃ row ∈ db.authorities, row.namespaceId = namespaceId ∧ row.authorityEpoch = epoch := by
  simp [epochsOf, and_assoc]

theorem mem_committedEpochs : epoch ∈ state.committedEpochs namespaceId ↔
      ∃ db ∈ state.committed, epoch ∈ epochsOf namespaceId db := by
  simp [FenceState.committedEpochs]

variable {call : AuthorityCall} {store : ContractStore}

theorem mem_committedEpochs_perform :
    epoch ∈ (state.perform ctx env store call).committedEpochs namespaceId ↔
      epoch ∈ epochsOf namespaceId (call.perform ctx env store).2.db ∨
        epoch ∈ state.committedEpochs namespaceId := by
  rw [FenceState.committedEpochs, FenceState.committed, flatMap_cons, mem_append]
  rfl

theorem epochsOf_subset (found : db ∈ state.committed) :
    ∀ epoch ∈ epochsOf namespaceId db, epoch ∈ state.committedEpochs namespaceId :=
  fun _ member => mem_committedEpochs.mpr ⟨db, found, member⟩

theorem current_committed : state.store.db ∈ state.committed := mem_cons_self

theorem FenceState.foundAtRestart_committed (state : FenceState) (restored : Option Nat) :
    state.foundAtRestart restored ∈ state.committed := by
  rw [FenceState.foundAtRestart]
  cases found : restored.bind (state.earlier[·]?) with
  | none => exact current_committed
  | some db =>
    obtain ⟨index, -, got⟩ := Option.bind_eq_some_iff.mp found
    exact .tail _ (mem_of_getElem? got)

/-- The rows of `later` are those of `db`, at the same epochs, and none of them is newly
active. -/
def KeepsRows (db later : ContractDb) : Prop :=
  ∀ row ∈ later.authorities, ∃ before ∈ db.authorities,
    before.namespaceId = row.namespaceId ∧ before.authorityEpoch = row.authorityEpoch ∧
      (row.status = .active → before.status = .active)

theorem KeepsRows.refl (db : ContractDb) : KeepsRows db db :=
  fun row member => ⟨row, member, rfl, rfl, id⟩

theorem KeepsRows.epochs {db later : ContractDb} (keeps : KeepsRows db later)
    (member : epoch ∈ epochsOf namespaceId later) : epoch ∈ epochsOf namespaceId db := by
  obtain ⟨row, isRow, named, rfl⟩ := mem_epochsOf.mp member
  obtain ⟨before, isBefore, same, epochs, -⟩ := keeps row isRow
  exact mem_epochsOf.mpr ⟨before, isBefore, same.trans named, epochs⟩

variable {change : AuthorityRow → AuthorityRow}

theorem keepsRows_map {db later : ContractDb}
    (mapped : later.authorities = db.authorities.map change)
    (keeps : ∀ row, (change row).namespaceId = row.namespaceId ∧ (change row).authorityEpoch =
      row.authorityEpoch ∧ ((change row).status = .active → row.status = .active)) :
    KeepsRows db later := by
  intro row member
  rw [mapped] at member
  obtain ⟨before, isBefore, rfl⟩ := mem_map.mp member
  exact ⟨before, isBefore, (keeps before).1.symm, (keeps before).2.1.symm, (keeps before).2.2⟩

theorem outdated_perform_iff {row : AuthorityRow} (found : store.db ∈ state.committed)
    (keeps : KeepsRows store.db (call.perform ctx env store).2.db) :
    (state.perform ctx env store call).Outdated row ↔ state.Outdated row := by
  constructor
  · rintro ⟨epoch, member, lower⟩
    refine ⟨epoch, ?_, lower⟩
    rcases mem_committedEpochs_perform.mp member with new | old
    · exact epochsOf_subset found epoch (keeps.epochs new)
    · exact old
  · rintro ⟨epoch, member, lower⟩
    exact ⟨epoch, mem_committedEpochs_perform.mpr (.inr member), lower⟩

theorem epochsCurrent_of_keepsRows (booted : state.booted = true) (current : state.EpochsCurrent)
    (keeps : KeepsRows state.store.db (call.perform ctx env state.store).2.db) :
    (state.perform ctx env state.store call).EpochsCurrent := by
  intro _ row member active outdated
  obtain ⟨before, isBefore, same, epochs, activeBefore⟩ := keeps row member
  refine current booted before isBefore (activeBefore active) ?_
  obtain ⟨epoch, committed, lower⟩ := (outdated_perform_iff current_committed keeps).mp outdated
  exact ⟨epoch, same ▸ committed, epochs ▸ lower⟩

theorem epochsCurrent_enters_iff (status : AuthorityStatus) (booted : state.booted = true)
    (completes : env.fenceFails = none) (current : state.EpochsCurrent)
    (entered : (call.perform ctx env state.store).2.db.authorities =
      state.store.db.authorities.map fun row => if row.namespaceId = namespaceId then change row
      else row)
    (changes : ∀ row, (change row).namespaceId = row.namespaceId ∧ (change row).authorityEpoch =
      epoch ∧ (change row).status = status)
    (found : ∃ row ∈ state.store.db.authorities, row.namespaceId = namespaceId) :
    (state.perform ctx env state.store call).EpochsCurrent ↔
      (status = .active → ∀ earlier ∈ state.committedEpochs namespaceId, earlier ≤ epoch) := by
  have serves : (state.perform ctx env state.store call).booted = true :=
    Option.isNone_iff_eq_none.mpr completes
  constructor
  · intro after active earlier committed
    obtain ⟨row, isRow, named⟩ := found
    have member : change row ∈ (call.perform ctx env state.store).2.db.authorities := by
      rw [entered]
      exact mem_map.mpr ⟨row, isRow, if_pos named⟩
    have ahead := after serves (change row) member ((changes row).2.2.trans active)
    by_contra behind
    refine ahead ⟨earlier, mem_committedEpochs_perform.mpr (.inr ?_), ?_⟩
    · rwa [(changes row).1, named]
    · rw [(changes row).2.1]
      exact Nat.lt_of_not_le behind
  intro ahead _ row member active outdated
  change row ∈ (call.perform ctx env state.store).2.db.authorities at member
  rw [entered] at member
  obtain ⟨before, isBefore, changed⟩ := mem_map.mp member
  obtain ⟨earlier, committed, lower⟩ := outdated
  by_cases named : before.namespaceId = namespaceId
  · rw [if_pos named] at changed
    subst changed
    rw [(changes before).1, named] at committed
    rw [(changes before).2.1] at lower
    rcases mem_committedEpochs_perform.mp committed with new | old
    · obtain ⟨other, isOther, same, rfl⟩ := mem_epochsOf.mp new
      rw [entered] at isOther
      obtain ⟨source, -, rfl⟩ := mem_map.mp isOther
      split at lower
      · exact absurd ((changes source).2.1 ▸ lower) (Nat.lt_irrefl _)
      rename_i unnamed
      rw [if_neg unnamed] at same
      exact unnamed same
    · have most := ahead ((changes before).2.2.symm.trans active) earlier old
      exact absurd lower (Nat.not_lt.mpr most)
  rw [if_neg named] at changed
  subst changed
  refine current booted before isBefore active ⟨earlier, ?_, lower⟩
  rcases mem_committedEpochs_perform.mp committed with new | old
  · obtain ⟨other, isOther, same, rfl⟩ := mem_epochsOf.mp new
    rw [entered] at isOther
    obtain ⟨source, isSource, rfl⟩ := mem_map.mp isOther
    by_cases sourced : source.namespaceId = namespaceId
    · rw [if_pos sourced] at same
      exact absurd (same.symm.trans ((changes source).1.trans sourced)) named
    · rw [if_neg sourced] at same ⊢
      exact epochsOf_subset current_committed _ (mem_epochsOf.mpr ⟨source, isSource, same, rfl⟩)
  · exact old

theorem epochsCurrent_enrolled {owner : Presented} {input : EnrollInput} {ownerPrincipal : String}
    (booted : state.booted = true) (current : state.EpochsCurrent)
    (fresh : state.committedEpochs (env.newId "ns") = [])
    (enrolled : ((AuthorityCall.enrollNamespace owner input).perform ctx env state.store).2.db =
      enrolledDb ctx env ownerPrincipal input state.store.db) :
    (state.perform ctx env state.store (.enrollNamespace owner input)).EpochsCurrent := by
  intro _ row member active outdated
  change row ∈ ((AuthorityCall.enrollNamespace owner input).perform ctx env
    state.store).2.db.authorities at member
  obtain ⟨epoch, committed, lower⟩ := outdated
  have sources := mem_committedEpochs_perform.mp committed
  rw [enrolled] at member sources
  have isNew {later : AuthorityRow} (isLater : later ∈ (enrolledDb ctx env ownerPrincipal input
      state.store.db).authorities) :
      later ∈ state.store.db.authorities ∨ later = enrolledRow ctx env ownerPrincipal input :=
    (mem_append.mp isLater).imp_right mem_singleton.mp
  rcases sources with new | old
  · obtain ⟨other, isOther, same, rfl⟩ := mem_epochsOf.mp new
    rcases isNew member, isNew isOther with ⟨isOld | rfl, isOldOther | rfl⟩
    · refine current booted row isOld active ⟨_, ?_, lower⟩
      exact epochsOf_subset current_committed _ (mem_epochsOf.mpr ⟨other, isOldOther, same, rfl⟩)
    · have past := epochsOf_subset current_committed _
        (mem_epochsOf.mpr ⟨row, isOld, same.symm, rfl⟩)
      exact absurd (fresh ▸ past) not_mem_nil
    · have past := epochsOf_subset current_committed _
        (mem_epochsOf.mpr ⟨other, isOldOther, same, rfl⟩)
      exact absurd (fresh ▸ past) not_mem_nil
    · exact Nat.lt_irrefl _ lower
  rcases isNew member with isOld | rfl
  · exact current booted row isOld active ⟨epoch, old, lower⟩
  · exact absurd (fresh ▸ old) not_mem_nil

theorem booted_active_iff {row : AuthorityRow} : (bootedAuthority ctx store row).status = .active ↔
      row.status = .active ∧
        ¬ (row.authorityDaemonId = ctx.localDaemonId ∧ isBehindFence store row = true) := by
  rw [bootedAuthority]
  by_cases held : row.authorityDaemonId = ctx.localDaemonId
  · by_cases behind : isBehindFence store row = true <;> simp [held, behind]
  · simp [held]

theorem boot_db (ctx : ContractCtx) (env : CallEnv) (store : ContractStore) :
    (AuthorityCall.beginContractProcessIncarnation.perform ctx env store).2.db =
      bootTransaction ctx env store := by
  have effect := perform_effect ctx env store .beginContractProcessIncarnation
  generalize (AuthorityCall.beginContractProcessIncarnation.perform ctx env store).1 = result,
    (AuthorityCall.beginContractProcessIncarnation.perform ctx env store).2 = later at effect
  cases effect with
  | refused _ grounds => exact grounds.elim
  | booted => rfl

theorem epochsCurrent_boot_iff (ctx : ContractCtx) (completes : env.fenceFails = none)
    (found : db ∈ state.committed) :
    (state.perform ctx env { state.store with db } .beginContractProcessIncarnation).EpochsCurrent ↔
      state.BootsAhead ctx db := by
  have serves : (state.perform ctx env { state.store with db }
      .beginContractProcessIncarnation).booted = true := Option.isNone_iff_eq_none.mpr completes
  have booted := boot_db ctx env { state.store with db }
  have keeps : KeepsRows db (AuthorityCall.beginContractProcessIncarnation.perform ctx env
      { state.store with db }).2.db := by
    rw [booted]
    exact keepsRows_map rfl fun row => ⟨booted_namespaceId _ row, booted_authorityEpoch _ row,
      fun active => (booted_active_iff.mp active).1⟩
  have outdated {row : AuthorityRow} : (state.perform ctx env { state.store with db }
      .beginContractProcessIncarnation).Outdated (bootedAuthority ctx { state.store with db } row) ↔
        state.Outdated row := by
    rw [outdated_perform_iff found keeps, FenceState.Outdated, booted_namespaceId,
      booted_authorityEpoch]
    rfl
  constructor
  · intro after row member active behind
    by_contra kept
    refine after serves (bootedAuthority ctx { state.store with db } row) ?_
      (booted_active_iff.mpr ⟨active, kept⟩) (outdated.mpr behind)
    change _ ∈ (AuthorityCall.beginContractProcessIncarnation.perform ctx env
      { state.store with db }).2.db.authorities
    rw [booted]
    exact mem_map_of_mem member
  intro ahead _ row member active behind
  change row ∈ (AuthorityCall.beginContractProcessIncarnation.perform ctx env
    { state.store with db }).2.db.authorities at member
  rw [booted] at member
  obtain ⟨before, isBefore, rfl⟩ := mem_map.mp member
  obtain ⟨wasActive, kept⟩ := booted_active_iff.mp active
  exact kept (ahead before isBefore wasActive (outdated.mp behind))

theorem transferredStatus_active_iff {input : TransferInput} :
    transferredStatus ctx input = .active ↔
      daemonIdsEquivalent (storedDaemonId input.newDaemonId) ctx.localDaemonId = true := by
  rw [transferredStatus]
  split_ifs with here
  · exact iff_of_true rfl here
  · exact iff_of_false nofun here

theorem epochsCurrent_serve_iff (ctx : ContractCtx) (call : AuthorityCall)
    (booted : state.booted = true)
    (completes : env.fenceFails = none) (current : state.EpochsCurrent)
    (fresh : ∀ owner input, call = .enrollNamespace owner input →
      state.committedEpochs (env.newId "ns") = []) :
    (state.perform ctx env state.store call).EpochsCurrent ↔ state.ServesAhead ctx call := by
  have effect := perform_effect ctx env state.store call
  generalize ended : (call.perform ctx env state.store).2 = later at effect
  generalize (call.perform ctx env state.store).1 = result at effect
  have kept (keeps : KeepsRows state.store.db later.db) :
      (state.perform ctx env state.store call).EpochsCurrent :=
    epochsCurrent_of_keepsRows booted current (by rwa [ended])
  cases effect with
  | refused _ grounds =>
    refine iff_of_true (kept (KeepsRows.refl _)) ?_
    cases call with
    | beginContractProcessIncarnation => exact grounds.elim
    | recoverAuthority owner namespaceId =>
      intro owns authority found
      rw [grounds owns] at found
      cases found
    | transferAuthority owner input =>
      intro owns named _ _ authority found
      rw [grounds owns named] at found
      cases found
    | _ => trivial
  | enrolled ownerPrincipal _ _ _ =>
    refine iff_of_true ?_ trivial
    have enrolled := congrArg ContractStore.db ended
    rw [fencedStore_db] at enrolled
    exact epochsCurrent_enrolled booted current (fresh _ _ rfl) enrolled
  | policed =>
    refine iff_of_true (kept (keepsRows_map rfl fun row => ?_)) trivial
    split_ifs <;> exact ⟨rfl, rfl, id⟩
  | booted => exact epochsCurrent_boot_iff ctx completes current_committed
  | recovered _ owns found =>
    obtain ⟨isRow, named⟩ := mem_of_getAuthority found
    have entered := congrArg (fun store => store.db.authorities) ended
    simp only [fencedStore_db, recoveredDb, enterEpoch_authorities] at entered
    have enters := epochsCurrent_enters_iff .active booted completes current entered
      (fun _ => ⟨rfl, rfl, rfl⟩) ⟨_, isRow, named⟩
    refine enters.trans ⟨fun ahead _ other isOther => ?_, fun ahead _ => ?_⟩
    · rw [← Option.mem_unique found isOther]
      exact ahead rfl
    · exact ahead owns _ found
  | paused _ unfenced =>
    refine iff_of_true (kept (keepsRows_map rfl fun row => ?_)) ?_
    · split_ifs
      · exact ⟨rfl, rfl, nofun⟩
      · exact ⟨rfl, rfl, id⟩
    · intro _ _ fenced
      exact absurd (unfenced.symm.trans fenced) Bool.false_ne_true
  | @transferred owner input authority _ _ owns named fenced found =>
    obtain ⟨isRow, held⟩ := mem_of_getAuthority found
    have entered := congrArg (fun store => store.db.authorities) ended
    simp only [fencedStore_db, transferredDb, enterEpoch_authorities, transferredRow] at entered
    have enters := epochsCurrent_enters_iff (transferredStatus ctx input)
      booted completes current entered (fun _ => ⟨rfl, rfl, by dsimp only⟩) ⟨authority, isRow, held⟩
    refine enters.trans ⟨fun ahead _ _ _ here other isOther => ?_, fun ahead stays => ?_⟩
    · rw [← Option.mem_unique found isOther]
      exact ahead (transferredStatus_active_iff.mpr here)
    · exact ahead owns named fenced (transferredStatus_active_iff.mp stays) _ found
  | minted | revoked | sessionRevoked => exact iff_of_true (kept (KeepsRows.refl _)) trivial

theorem epochsCurrent_step_iff (step : Machine.Step (fenceMachine ctx))
    (fresh : DrawsNewNamespace step) (current : step.before.EpochsCurrent) :
    step.after.EpochsCurrent ↔ FenceReaches ctx step := by
  obtain ⟨state, input⟩ := step
  cases input with
  | serve env call =>
    change (if state.booted then state.perform ctx env state.store call
      else state).EpochsCurrent ↔
        (state.booted = true → env.fenceFails = none → state.ServesAhead ctx call)
    cases booted : state.booted with
    | false =>
      rw [if_neg Bool.false_ne_true]
      exact iff_of_true current fun serves => absurd serves Bool.false_ne_true
    | true =>
      rw [if_pos rfl]
      cases completes : env.fenceFails with
      | some number =>
        refine iff_of_true (fun serves => ?_) nofun
        change env.fenceFails.isNone = true at serves
        rw [completes] at serves
        cases serves
      | none =>
        have serves := epochsCurrent_serve_iff ctx call booted completes current ?_
        · exact serves.trans ⟨fun ahead _ _ => ahead, fun ahead => ahead rfl rfl⟩
        · rintro owner given rfl
          exact fresh _ rfl
  | restart env restored =>
    change (state.perform ctx env { state.store with db := state.foundAtRestart restored }
      .beginContractProcessIncarnation).EpochsCurrent ↔
        (env.fenceFails = none → state.BootsAhead ctx (state.foundAtRestart restored))
    cases completes : env.fenceFails with
    | some number =>
      refine iff_of_true (fun serves => ?_) nofun
      change env.fenceFails.isNone = true at serves
      rw [completes] at serves
      cases serves
    | none =>
      have boots := epochsCurrent_boot_iff ctx completes (state.foundAtRestart_committed restored)
      exact boots.trans ⟨fun ahead _ => ahead, fun ahead => ahead rfl⟩

end Steps

/-- A daemon serves no namespace at an epoch below a committed one, in every state of a run,
exactly when the fence was high enough at every step that needed it. -/
theorem epochs_current_iff_fence_reaches (ctx : ContractCtx) (inputs : List FenceInput)
    (fresh : ∀ step ∈ (fenceMachine ctx).steps inputs, DrawsNewNamespace step) :
    (∀ step ∈ (fenceMachine ctx).steps inputs, step.after.EpochsCurrent) ↔
      ∀ step ∈ (fenceMachine ctx).steps inputs, FenceReaches ctx step :=
  Machine.forall_after_iff epochsCurrent_step_iff inputs
    (fun _ _ member => absurd member List.not_mem_nil) fresh

section Restored

def endingEnv : CallEnv := { quietEnv with fenceFails := some 0 }

def recoveredThenRestored (env : CallEnv) : List FenceInput :=
  [.restart quietEnv none,
    .serve quietEnv (.enrollNamespace plainOwner { meshId := "mesh" }),
    .serve env (.recoverAuthority plainOwner "ns_1"),
    .restart quietEnv none,
    .restart quietEnv (some 1)]

theorem epochs_current_recoveredThenRestored :
    (∀ step ∈ (fenceMachine plainCtx).steps (recoveredThenRestored quietEnv),
      step.after.EpochsCurrent) ∧
    ∀ step ∈ (fenceMachine plainCtx).steps (recoveredThenRestored quietEnv),
      FenceReaches plainCtx step := by
  have current : ∀ step ∈ (fenceMachine plainCtx).steps (recoveredThenRestored quietEnv),
      step.after.EpochsCurrent := by decide
  exact ⟨current, (epochs_current_iff_fence_reaches plainCtx (recoveredThenRestored quietEnv)
    (by decide)).mp current⟩

/-- The recovery's epoch is lost where the fence never saw it. -/
theorem restored_backup_reuses_epoch :
    (∀ step ∈ (fenceMachine plainCtx).steps (recoveredThenRestored endingEnv),
      DrawsNewNamespace step) ∧
    ¬ ∀ step ∈ (fenceMachine plainCtx).steps (recoveredThenRestored endingEnv),
      step.after.EpochsCurrent := by
  decide

end Restored

end Adhdev.Contract
