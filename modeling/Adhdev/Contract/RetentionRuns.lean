import Adhdev.Contract.SpoolKeeping

/-! # Runs with garbage collection

The calls of the proposals, the pins and the quarantine between the two phases of any
number of collections.
-/

namespace Adhdev.Contract

open Call MeshShared List Option Bool

inductive RetentionCall
  | contract (call : ContractCall)
  | bindMissionScope (presented : Presented) (input : MissionScopeInput)
  | stampTaskScopeFromMission (meshId taskId : String) (missionId : Option String)
  | admitDispatch (input : AdmitDispatchInput)
  | rebindToHolder (input : RebindInput)
  | quarantineHistoricalReport (input : HistoricalReport) (evidence : Except ContractRefusal Unit)
  | beginContractGc
  /-- The outstanding plan with this number. -/
  | sweepContractGc (plan : Nat)

def RetentionCall.perform (ctx : ContractCtx) (env : CallEnv) (plans : List ContractGcPlan) :
    RetentionCall → Call ContractStore ContractRefusal (Option ContractGcPlan)
  | .contract call => andThen (call.perform ctx env) fun _ => answer none
  | .bindMissionScope presented input =>
    andThen (Contract.bindMissionScope ctx env presented input) fun _ => answer none
  | .stampTaskScopeFromMission meshId taskId missionId =>
    andThen (Contract.stampTaskScopeFromMission meshId taskId missionId) fun _ => answer none
  | .admitDispatch input => andThen (Contract.admitDispatch ctx env input) fun _ => answer none
  | .rebindToHolder input => andThen (Contract.rebindToHolder ctx env input) fun _ => answer none
  | .quarantineHistoricalReport input evidence =>
    andThen (Contract.quarantineHistoricalReport ctx env input evidence) fun _ => answer none
  | .beginContractGc => andThen (Contract.beginContractGc ctx env) fun plan => answer (some plan)
  | .sweepContractGc plan => (plans[plan]?).elim (answer none) fun plan =>
    andThen (Contract.sweepContractGc ctx env plan) fun _ => answer none

structure RetentionState where
  store : ContractStore := {}
  plans : List ContractGcPlan := []

structure RetentionInput where
  env : CallEnv
  call : RetentionCall

def begunPlans : Except ContractRefusal (Option ContractGcPlan) → List ContractGcPlan
  | .ok plan => plan.toList
  | .error _ => []

def retentionMachine (ctx : ContractCtx) :
    Machine RetentionState RetentionInput RetentionState where
  initial := {}
  respond := fun state input =>
    let performed := input.call.perform ctx input.env state.plans state.store
    { store := performed.2, plans := state.plans ++ begunPlans performed.1 }
  advance := id

section Keeping

variable {ctx : ContractCtx} {env : CallEnv} {plans : List ContractGcPlan}
  {store later : ContractStore}

structure SpoolSound (ctx : ContractCtx) (plans : List ContractGcPlan) (db : ContractDb) :
    Prop where
  revisions : RevisionsSound ctx db
  bodies : BodiesSound ctx plans db

theorem SpoolSound.same {db later : ContractDb} (sound : SpoolSound ctx plans db)
    (same : SameBodies db later) : SpoolSound ctx plans later :=
  ⟨same.revisionsSound sound.revisions, same.bodies sound.bodies⟩

/-- However the call ends, the rooted bodies are kept. -/
def Keeps {α : Type} (ctx : ContractCtx) (plans : List ContractGcPlan) (store : ContractStore)
    (call : Call ContractStore ContractRefusal α) : Prop :=
  Ends call store fun _ later => SpoolSound ctx plans later.db

variable {α : Type} {call : Call ContractStore ContractRefusal α}

theorem Keeps.answering {β : Type} (keeps : Keeps ctx plans store call) (view : α → β) :
    Keeps ctx plans store (andThen call fun value => answer (view value)) :=
  ends_andThen keeps (fun _ _ kept => kept) fun _ _ kept => kept

theorem keeps_of_ok (traceless : Traceless call) (sound : SpoolSound ctx plans store.db)
    (answers : ∀ value later, call store = (.ok value, later) → SpoolSound ctx plans later.db) :
    Keeps ctx plans store call := traceless.ends (fun _ => sound) answers

theorem contract_keeps (collisionFree : CollisionFree ctx) (call : ContractCall)
    (sound : SpoolSound ctx plans store.db) : Keeps ctx plans store (call.perform ctx env) := by
  suffices keeps : ∀ later, ContractEffect ctx env store call later →
      SpoolSound ctx plans later.db from keeps _ (contract_effect rfl)
  intro later effect
  cases effect with
  | unchanged => exact sound
  | proposed presented input candidate prepared stages =>
    obtain ⟨spool, rfl, isStaged⟩ := stageAll_staged stages sound.bodies.rows
    obtain ⟨revisions, bodies⟩ :=
      proposed_sound collisionFree prepared isStaged sound.revisions sound.bodies
    exact ⟨revisions, bodies⟩
  | reviewed => exact sound.same ⟨rfl, rfl, rfl, rfl, rfl, rfl, fun _ isRoot => isRoot⟩
  | @accepted _ input proposal result _ proposed anew =>
    obtain ⟨current, checked, -, -, rfl⟩ := acceptAnew_ok anew
    obtain ⟨authority, acceptance⟩ := checkAcceptance_sound
      (acceptedDb ctx env input proposal current result.vector store.db) checked proposed rfl
    exact sound.same (sameBodies_accepted acceptance.proposed acceptance.opened)
  | closed status =>
    refine sound.same ⟨rfl, rfl, rfl, rfl, rfl, rfl, fun revisionId isRoot => ?_⟩
    refine rootedRevision_of_heads isRoot (fun head member same => ⟨head, member, same⟩) rfl
      fun row member isOpen => mem_of_opened (fun row => ?_) member isOpen
    cases status <;> exact nofun
  | revoked revoked =>
    obtain ⟨_, _, _, rfl⟩ := revokeRevision_frame revoked
    exact sound.same ⟨rfl, rfl, rfl, rfl, rfl, rfl, fun _ isRoot => isRoot⟩
  | authority effect => exact sound.same effect.sameBodies

/-- Pin sets are added whose pins are units of the current head, and bindings change. -/
def PinsMore (db later : ContractDb) : Prop :=
  ∃ pinSets bindings, later = { db with pinSets, bindings } ∧
    ∀ row ∈ pinSets, row ∈ db.pinSets ∨ ∀ pin ∈ row.pins, RootedBody db pin.unitDigest

theorem PinsMore.bindings (db : ContractDb) (bindings : List BindingRow) :
    PinsMore db { db with bindings } := ⟨db.pinSets, bindings, rfl, fun _ member => .inl member⟩

theorem SpoolSound.pins {db later : ContractDb} (sound : SpoolSound ctx plans db)
    (more : PinsMore db later) : SpoolSound ctx plans later := by
  obtain ⟨pinSets, bindings, rfl, rows⟩ := more
  refine ⟨⟨sound.revisions.named, sound.revisions.distinct, sound.revisions.listed,
    sound.revisions.manifested, sound.revisions.known⟩, ?_⟩
  refine sound.bodies.grow (.none ctx db) rfl rfl fun digest rooted => .inl ?_
  rcases rooted with revision | ⟨row, member, pin, isPin, rfl⟩ | quarantined
  · exact .inl revision
  · rcases rows row member with old | pinned
    · exact .inr (.inl ⟨row, old, pin, isPin, rfl⟩)
    · exact pinned pin isPin
  · exact .inr (.inr quarantined)

variable {scope : TaskScopeRow}

variable {db : ContractDb}

theorem choosePins_ok {pinned : Pinned} (chosen : choosePins ctx db scope = .ok pinned) :
    ∃ vector revisionId manifest, currentHeadVector db scope.namespaceId = some vector ∧
      vector.revisionId = some revisionId ∧ getRevisionManifest db revisionId = some manifest ∧
      ∀ pin ∈ pinned.pins, ∃ unit ∈ manifest.units, pinOf revisionId unit = pin := by
  rw [choosePins] at chosen
  split at chosen
  · cases chosen
  rename_i vector isVector
  split at chosen
  · cases chosen
  rename_i revisionId named
  split at chosen
  · cases chosen
  rename_i manifest isManifest
  obtain ⟨-, chosen⟩ := demand_bind_ok_iff.mp chosen
  obtain ⟨-, chosen⟩ := demand_bind_ok_iff.mp chosen
  obtain ⟨-, chosen⟩ := demand_bind_ok_iff.mp chosen
  cases chosen
  refine ⟨vector, revisionId, manifest, isVector, named, isManifest, fun pin isPin => ?_⟩
  obtain ⟨unit, isChosen, rfl⟩ := mem_map.mp isPin
  refine ⟨unit, ?_, rfl⟩
  obtain ⟨entry, isEntry, rfl⟩ := mem_filterMap.mp isChosen
  split_ifs at isEntry
  · obtain ⟨other, isOther, same⟩ := mem_map.mp isEntry
    exact some.inj same ▸ isOther
  · obtain ⟨unitId, -, found⟩ := mem_map.mp isEntry
    exact mem_of_find?_eq_some found

theorem choosePins_rooted {pinned : Pinned} (chosen : choosePins ctx db scope = .ok pinned) :
    ∀ pin ∈ pinned.pins, RootedBody db pin.unitDigest := by
  obtain ⟨vector, revisionId, manifest, isVector, named, isManifest, pins⟩ := choosePins_ok chosen
  intro pin isPin
  obtain ⟨unit, isUnit, rfl⟩ := pins pin isPin
  obtain ⟨revision, isRevision, rfl⟩ := map_eq_some_iff.mp isManifest
  obtain ⟨head, isHead, -, -, revisionOf⟩ := currentHeadVector_some isVector
  refine .inl ⟨revisionId, .inl ⟨head, isHead, revisionOf.trans named⟩, revision,
    mem_of_find?_eq_some isRevision, ?_, unit, isUnit, rfl⟩
  simpa using find?_some isRevision

theorem freezePinSet_more {pinSet : PinSetRow}
    (frozen : freezePinSet ctx scope store = (.ok pinSet, later)) :
    ∃ pinSets, later = { store with db := { store.db with pinSets } } ∧
      ∀ row ∈ pinSets, row ∈ store.db.pinSets ∨ ∀ pin ∈ row.pins,
        RootedBody store.db pin.unitDigest := by
  rw [freezePinSet] at frozen
  simp only [bind_eq, andThen_ok_iff, inspect_ok_iff, ofExcept_ok_iff, changeDb_ok_iff] at frozen
  obtain ⟨pinned, _, ⟨_, _, ⟨rfl, rfl⟩, chosen, rfl⟩, _, _, rfl, _, _, ⟨-, rfl⟩, -, rfl⟩ := frozen
  rw [insertPinSet]
  split_ifs
  · exact ⟨_, rfl, fun row member => .inl member⟩
  refine ⟨_, rfl, fun row member => (mem_append.mp member).imp id fun new => ?_⟩
  rw [mem_singleton.mp new]
  exact choosePins_rooted chosen

theorem bindAnew_more {target : DispatchTarget} {sessionId bindingId block : String}
    {pinSet : PinSetRow} {binding : BindingRow}
    (bound : bindAnew ctx env target scope sessionId pinSet bindingId block store = (.ok binding,
      later)) :
    ∃ bindings, later = { store with db := { store.db with bindings } } := by
  rw [bindAnew] at bound
  simp only [bind_eq, pure_eq, andThen_ok_iff, refuseIf_ok_iff, changeDb_ok_iff,
    insertUnless_ok_iff,
    answer_ok_iff] at bound
  obtain ⟨-, -, ⟨-, rfl⟩, -, -, rfl, -, -, ⟨-, rfl⟩, -, rfl⟩ := bound
  exact ⟨_, rfl⟩

variable {admission : DispatchAdmission} {input : AdmitDispatchInput}

section

variable (admitted : admitScoped ctx env input scope store = (.ok admission, later))
include admitted

/-- An admission freezes a pin set; the binding is the one there is, or a new one. -/
theorem admitScoped_ok : ∃ pinSet middle, freezePinSet ctx scope store = (.ok pinSet, middle) ∧
    (later = middle ∨ ∃ binding, bindAnew ctx env input.target scope input.sessionId pinSet
      (env.newId "bnd") (blockFor scope pinSet (env.newId "bnd")) middle =
      (.ok binding, later)) := by
  rw [admitScoped] at admitted
  simp only [bind_eq, pure_eq, andThen_ok_iff, inspect_ok_iff, ofExcept_ok_iff] at admitted
  obtain ⟨_, _, ⟨_, _, ⟨rfl, rfl⟩, _, rfl⟩, pinSet, middle, frozen, existing, _, ⟨-, rfl⟩, rest⟩ :=
    admitted
  refine ⟨pinSet, _, frozen, ?_⟩
  cases existing with
  | some binding => exact .inl (answer_ok_iff.mp rest).2
  | none =>
    simp only [andThen_ok_iff, answer_ok_iff] at rest
    obtain ⟨binding, _, bound, -, rfl⟩ := rest
    exact .inr ⟨binding, bound⟩

theorem admitScoped_more : PinsMore store.db later.db := by
  obtain ⟨pinSet, middle, frozen, outcome⟩ := admitScoped_ok admitted
  obtain ⟨pinSets, rfl, pinned⟩ := freezePinSet_more frozen
  rcases outcome with rfl | ⟨binding, bound⟩
  · exact ⟨pinSets, _, rfl, pinned⟩
  · obtain ⟨bindings, rfl⟩ := bindAnew_more bound
    exact ⟨pinSets, bindings, rfl, pinned⟩

end

/-- The tables once the bindings of the losing session are revoked. -/
def revokeLosing (input : RebindInput) (db : ContractDb) : ContractDb :=
  changeBindings (fun row => (losingBindings db input).any (·.bindingId = row.bindingId))
    (fun row => { row with state := .revoked }) db

/-- A rebind links the holder's binding where there is one, and else binds the session anew. -/
theorem rebindScoped_ok {input : RebindInput} {result : RebindResult}
    (rebound : rebindScoped ctx env input scope store = (.ok result, later)) :
    (∃ holder, linkableHolder (losingBindings store.db input) (holderBinding store.db input) =
        some holder ∧
      later = { store with
        db := changeBindings (fun row => row.bindingId = holder.bindingId)
          (fun row => { row with
            state := .active
            linkedFromBindingId := (losingBindings store.db input).head?.map (·.bindingId) })
          (changeBindings (fun row => isActiveFor input.target.meshId input.target.taskId row &&
            row.bindingId ≠ holder.bindingId) (fun row => { row with state := .superseded })
            (revokeLosing input store.db)) }) ∨
    ∃ pinSet middle binding,
      freezePinSet ctx scope { store with db := revokeLosing input store.db } =
        (.ok pinSet, middle) ∧
      bindAnew ctx env input.target scope input.holderSessionId pinSet (env.newId "bnd")
        (blockFor scope pinSet (env.newId "bnd")) middle = (.ok binding, later) := by
  rw [rebindScoped] at rebound
  simp only [bind_eq, pure_eq, andThen_ok_iff, inspect_ok_iff, changeDb_ok_iff] at rebound
  obtain ⟨losing, _, ⟨isLosing, rfl⟩, holder, begun, ⟨isHolder, rfl⟩, _, _, rfl, rest⟩ := rebound
  cases linked : linkableHolder losing holder with
  | some row =>
    simp only [linked, andThen_ok_iff, changeDb_ok_iff, answer_ok_iff] at rest
    obtain ⟨-, -, rfl, -, -, rfl, -, rfl⟩ := rest
    subst isLosing isHolder
    exact .inl ⟨row, linked, rfl⟩
  | none =>
    simp only [linked, andThen_ok_iff, answer_ok_iff] at rest
    obtain ⟨pinSet, middle, frozen, binding, _, bound, -, rfl⟩ := rest
    subst isLosing
    exact .inr ⟨pinSet, middle, binding, frozen, bound⟩

theorem rebindScoped_more {input : RebindInput} {result : RebindResult}
    (rebound : rebindScoped ctx env input scope store = (.ok result, later)) :
    PinsMore store.db later.db := by
  rcases rebindScoped_ok rebound with ⟨holder, -, rfl⟩ | ⟨pinSet, _, _, frozen, bound⟩
  · exact .bindings _ _
  obtain ⟨pinSets, rfl, pinned⟩ := freezePinSet_more frozen
  obtain ⟨bindings, rfl⟩ := bindAnew_more bound
  exact ⟨pinSets, bindings, rfl, pinned⟩

theorem quarantineBody_kept {input : HistoricalReport} {evidence : Except ContractRefusal Unit}
    {disposition : QuarantineDisposition}
    (kept : quarantineBody ctx env input evidence store = (.ok disposition, later))
    (sound : SpoolSound ctx plans store.db) : SpoolSound ctx plans later.db := by
  rw [quarantineBody] at kept
  simp only [bind_eq, pure_eq, transaction_ok_iff, andThen_ok_iff, insertUnless_ok_iff,
    ofExcept_ok_iff, answer_ok_iff] at kept
  obtain ⟨digest, middle, stages, -, _, ⟨-, rfl⟩, -, -, ⟨-, rfl⟩, -, rfl⟩ := kept
  obtain ⟨rfl, spool, rfl, staged⟩ := stageSpoolBody_staged stages sound.bodies.rows
  refine ⟨⟨sound.revisions.named, sound.revisions.distinct, sound.revisions.listed,
    sound.revisions.manifested, sound.revisions.known⟩, ?_⟩
  refine sound.bodies.grow staged rfl rfl fun digest rooted => ?_
  rcases rooted with revision | pinned | ⟨row, member, rfl⟩
  · exact .inl (.inl revision)
  · exact .inl (.inr (.inl pinned))
  rcases mem_append.mp member with old | new
  · exact .inl (.inr (.inr ⟨row, old, rfl⟩))
  · rw [mem_singleton.mp new]
    exact .inr (mem_singleton.mpr rfl)

theorem RootedBody.marked {digest : String} (rooted : RootedBody db digest)
    (collisionFree : CollisionFree ctx) (sound : RevisionsSound ctx db) :
    digest ∈ markedDigests ctx env db := by
  rw [markedDigests]
  rcases rooted with ⟨revisionId, isRoot, hasUnit⟩ | ⟨row, member, pin, isPin, rfl⟩ |
      ⟨row, member, rfl⟩
  · obtain ⟨row, isRow, ofRevision, rfl⟩ := sound.unit_listed collisionFree hasUnit
    have isRooted : revisionId ∈ rootedRevisionIds ctx env db := by
      rw [rootedRevisionIds]
      simp only [List.mem_append, List.mem_filterMap, List.mem_map, List.mem_filter]
      rcases isRoot with ⟨head, member, same⟩ | ⟨row, member, same⟩ | ⟨row, member, isOpen, same⟩
      · exact .inl (.inl (.inl (.inl ⟨head, member, same⟩)))
      · exact .inl (.inl (.inl (.inr ⟨row, member, same⟩)))
      · exact .inl (.inr ⟨row, ⟨member, by simp [isOpen]⟩, same⟩)
    refine List.mem_append_left _ (List.mem_append_left _ (List.mem_map_of_mem ?_))
    refine mem_filter.mpr ⟨isRow, ?_⟩
    rw [ofRevision]
    exact contains_iff_mem.mpr isRooted
  · refine mem_append_left _ (mem_append_right _ (mem_flatMap.mpr ⟨row, member, ?_⟩))
    exact mem_map_of_mem isPin
  · exact mem_append_right _ (mem_map_of_mem member)

theorem beginContractGc_kept (collisionFree : CollisionFree ctx) {plan : ContractGcPlan}
    (begun : beginContractGc ctx env store = (.ok plan, later))
    (sound : SpoolSound ctx plans store.db) : SpoolSound ctx (plans ++ [plan]) later.db := by
  rw [beginContractGc] at begun
  simp only [bind_eq, pure_eq, andThen_ok_iff, inspect_ok_iff, changeDb_ok_iff,
    answer_ok_iff] at begun
  obtain ⟨generation, _, ⟨rfl, rfl⟩, -, _, rfl, marked, _, ⟨rfl, rfl⟩, rfl, rfl⟩ := begun
  refine ⟨⟨sound.revisions.named, sound.revisions.distinct, sound.revisions.listed,
    sound.revisions.manifested, sound.revisions.known⟩, sound.bodies.rows, sound.bodies.stored,
    fun other isOther digest rooted => ?_, fun other isOther => ?_⟩
  · rcases mem_append.mp isOther with old | new
    · exact sound.bodies.survives other old digest rooted
    rw [mem_singleton.mp new]
    exact .inl (RootedBody.marked rooted collisionFree ⟨sound.revisions.named,
      sound.revisions.distinct, sound.revisions.listed, sound.revisions.manifested,
      sound.revisions.known⟩)
  · rcases mem_append.mp isOther with old | new
    · exact (sound.bodies.raised other old).trans (Nat.le_succ _)
    · rw [mem_singleton.mp new]

theorem filter_isSwept {rows : List SpoolRow} (sound : ∀ row ∈ rows, SoundBody ctx row)
    (plan : ContractGcPlan) : (rows.filter fun row => !isSwept plan row) =
      plan.sweep SpoolRow.digest SpoolRow.gcGeneration rows := by
  refine List.filter_congr fun row member => ?_
  obtain ⟨bytes, body, -⟩ := sound row member
  rw [isSwept, SpoolRow.live, body, Option.isSome_some, Bool.true_and]

theorem sweepContractGc_kept {plan : ContractGcPlan} (isPlan : plan ∈ plans) {reclaimed : Nat}
    (swept : sweepContractGc ctx env plan store = (.ok reclaimed, later))
    (sound : SpoolSound ctx plans store.db) : SpoolSound ctx plans later.db := by
  rw [sweepContractGc] at swept
  simp only [bind_eq, pure_eq, transaction_ok_iff, andThen_ok_iff, inspect_ok_iff, changeDb_ok_iff,
    answer_ok_iff] at swept
  obtain ⟨-, _, ⟨-, rfl⟩, -, _, rfl, -, _, rfl, -, rfl⟩ := swept
  have spool := filter_isSwept sound.bodies.rows plan
  refine ⟨⟨sound.revisions.named, sound.revisions.distinct, sound.revisions.listed,
    sound.revisions.manifested, sound.revisions.known⟩, ?_, ?_, ?_, sound.bodies.raised⟩
  · exact fun row member => sound.bodies.rows row (mem_of_mem_filter member)
  · intro digest rooted
    rw [spool]
    exact (sound.bodies.survives plan isPlan digest rooted).stored
      (sound.bodies.stored digest rooted)
  · intro other isOther digest rooted
    rw [spool]
    exact (sound.bodies.survives other isOther digest rooted).sweep

end Keeping

section Runs

variable {ctx : ContractCtx} {env : CallEnv} {plans : List ContractGcPlan}
  {store later : ContractStore}

theorem bindMissionScope_keeps (presented : Presented) (input : MissionScopeInput)
    (sound : SpoolSound ctx plans store.db) :
    Keeps ctx plans store (bindMissionScope ctx env presented input) := by
  refine ends_bind_ofExcept (fun _ _ => sound) fun _ _ => ?_
  refine ends_bind_refuseIf (fun _ => sound) fun _ => ?_
  refine ends_bind_ofExcept (fun _ _ => sound) fun _ _ => ?_
  refine ends_transaction (ends_bind_check (fun _ _ => sound) fun _ _ => ?_)
  exact sound.same ⟨rfl, rfl, rfl, rfl, rfl, rfl, fun _ isRoot => isRoot⟩

theorem stampTaskScopeFromMission_keeps (meshId taskId : String) (missionId : Option String)
    (sound : SpoolSound ctx plans store.db) :
    Keeps ctx plans store (stampTaskScopeFromMission meshId taskId missionId) := by
  have stamps (row : TaskScopeRow) : SameBodies store.db (insertTaskScope row store.db) := by
    rw [insertTaskScope]
    split_ifs <;> exact ⟨rfl, rfl, rfl, rfl, rfl, rfl, fun _ isRoot => isRoot⟩
  rw [Keeps, stampTaskScopeFromMission, bind_eq]
  refine ends_bind_inspect ?_
  split
  · exact sound
  · exact sound.same (stamps _)

theorem admitDispatch_keeps (input : AdmitDispatchInput) (sound : SpoolSound ctx plans store.db) :
    Keeps ctx plans store (admitDispatch ctx env input) := by
  rw [Keeps, admitDispatch, bind_eq]
  refine ends_bind_inspect ?_
  split
  · exact sound
  rename_i scope _
  refine ends_bind_refuseIf (fun _ => sound) fun _ => ?_
  have admits : Keeps ctx plans store (transaction (admitScoped ctx env input scope)) :=
    keeps_of_ok (traceless_transaction _) sound fun _ _ admitted =>
      sound.pins (admitScoped_more (transaction_ok_iff.mp admitted))
  exact admits.answering _

theorem rebindToHolder_keeps (input : RebindInput) (sound : SpoolSound ctx plans store.db) :
    Keeps ctx plans store (rebindToHolder ctx env input) := by
  rw [Keeps, rebindToHolder, bind_eq]
  refine ends_bind_inspect ?_
  split
  · exact sound
  · exact keeps_of_ok (traceless_transaction _) sound fun _ _ rebound =>
      sound.pins (rebindScoped_more (transaction_ok_iff.mp rebound))

theorem quarantineHistoricalReport_keeps (input : HistoricalReport)
    (evidence : Except ContractRefusal Unit) (sound : SpoolSound ctx plans store.db) :
    Keeps ctx plans store (quarantineHistoricalReport ctx env input evidence) := by
  have staging : Keeps ctx plans store (quarantineBody ctx env input evidence) :=
    keeps_of_ok (traceless_transaction _) sound fun _ _ kept => quarantineBody_kept kept sound
  rw [Keeps, quarantineHistoricalReport, bind_eq]
  refine ends_bind_inspect ?_
  split
  · exact sound
  split
  · exact sound
  split
  · exact sound
  refine ends_bind_refuseIf (fun _ => sound) fun _ => ends_bind_refuseIf (fun _ => sound) fun _ =>
    ?_
  split
  · split_ifs <;> exact sound
  split
  · exact sound
  split
  · exact sound
  · exact ends_catching staging (fun _ _ kept => kept) fun _ _ kept => kept

theorem perform_keeps (collisionFree : CollisionFree ctx) (call : RetentionCall)
    (sound : SpoolSound ctx plans store.db) :
    Ends (call.perform ctx env plans) store fun result later =>
      SpoolSound ctx (plans ++ begunPlans result) later.db := by
  have begunNone {result : Except ContractRefusal (Option ContractGcPlan)}
      (none : begunPlans result = []) (db : ContractDb) (kept : SpoolSound ctx plans db) :
      SpoolSound ctx (plans ++ begunPlans result) db := by
    rw [none, append_nil]
    exact kept
  have ignoring {α : Type} {call : Call ContractStore ContractRefusal α}
      (keeps : Keeps ctx plans store call) :
      Ends (andThen call fun _ => answer none) store fun result later =>
        SpoolSound ctx (plans ++ begunPlans result) later.db :=
    ends_andThen keeps (fun _ later kept => begunNone rfl later.db kept)
      fun _ later kept => begunNone rfl later.db kept
  cases call with
  | contract call => exact ignoring (contract_keeps collisionFree call sound)
  | bindMissionScope presented input =>
    exact ignoring (bindMissionScope_keeps presented input sound)
  | stampTaskScopeFromMission meshId taskId missionId =>
    exact ignoring (stampTaskScopeFromMission_keeps meshId taskId missionId sound)
  | admitDispatch input => exact ignoring (admitDispatch_keeps input sound)
  | rebindToHolder input => exact ignoring (rebindToHolder_keeps input sound)
  | quarantineHistoricalReport input evidence =>
    exact ignoring (quarantineHistoricalReport_keeps input evidence sound)
  | beginContractGc => exact beginContractGc_kept collisionFree rfl sound
  | sweepContractGc number =>
    rw [RetentionCall.perform]
    cases found : plans[number]? with
    | none => exact begunNone rfl store.db sound
    | some plan =>
      exact ignoring (keeps_of_ok (traceless_transaction _) sound fun _ _ swept =>
        sweepContractGc_kept (mem_of_getElem? found) swept sound)

theorem SpoolSound.empty (ctx : ContractCtx) : SpoolSound ctx [] {} where
  revisions := by
    refine ⟨fun _ member => ?_, fun _ member => ?_, fun _ member => ?_, fun _ member => ?_, ?_⟩
    · cases member
    · cases member
    · cases member
    · cases member
    · rintro revisionId (⟨_, member, -⟩ | ⟨_, member, -⟩ | ⟨_, member, -⟩) <;> cases member
  bodies := by
    have unrooted (digest : String) : ¬ RootedBody {} digest := by
      rintro (⟨_, -, _, member, -⟩ | ⟨_, member, -⟩ | ⟨_, member, -⟩) <;> cases member
    refine ⟨fun _ member => ?_, fun digest rooted => absurd rooted (unrooted digest),
      fun _ member => ?_, fun _ member => ?_⟩
    · cases member
    · cases member
    · cases member

theorem SpoolSound.next (collisionFree : CollisionFree ctx) (state : RetentionState)
    (input : RetentionInput) (sound : SpoolSound ctx state.plans state.store.db) :
    SpoolSound ctx ((retentionMachine ctx).next state input).plans
      ((retentionMachine ctx).next state input).store.db :=
  perform_keeps collisionFree input.call sound

theorem SpoolSound.readable {db : ContractDb} {digest : String} (sound : SpoolSound ctx plans db)
    (rooted : RootedBody db digest) : (readSpoolBody ctx db digest).isSome = true := by
  obtain ⟨row, member, same⟩ := sound.bodies.stored digest rooted
  have found : (db.spool.find? (·.digest = digest)).isSome = true :=
    find?_isSome.mpr ⟨row, member, decide_eq_true same⟩
  obtain ⟨first, isFirst⟩ := isSome_iff_exists.mp found
  obtain ⟨bytes, body, hashed⟩ := sound.bodies.rows first (mem_of_find?_eq_some isFirst)
  have named : first.digest = digest := by simpa using find?_some isFirst
  simp [readSpoolBody, isFirst, body, hashed, named]

end Runs

/-- The bodies of the current and past heads, of the candidates of open proposals, of the pin
sets and of the quarantine are in the spool with their digests. -/
structure RootsSpooled (ctx : ContractCtx) (db : ContractDb) : Prop where
  revisions : ∀ revisionId, RootedRevision db revisionId →
    ∃ manifest, getRevisionManifest db revisionId = some manifest ∧
      ∀ unit ∈ manifest.units, (readSpoolBody ctx db unit.digest).isSome = true
  pins : ∀ row ∈ db.pinSets, ∀ pin ∈ row.pins, (readSpoolBody ctx db pin.unitDigest).isSome = true
  quarantine : ∀ row ∈ db.quarantine, (readSpoolBody ctx db row.bodyDigest).isSome = true

/-- In every run, between the phases of any number of collections, no rooted body is freed. -/
theorem rooted_bodies_stay_in_spool (ctx : ContractCtx) (collisionFree : CollisionFree ctx)
    (inputs : List RetentionInput) :
    RootsSpooled ctx ((retentionMachine ctx).run inputs).store.db := by
  have sound := Machine.runFrom_induction (SpoolSound.next collisionFree) inputs
    (show SpoolSound ctx (retentionMachine ctx).initial.plans _ from SpoolSound.empty ctx)
  refine ⟨fun revisionId isRoot => ?_, fun row member pin isPin => ?_, fun row member => ?_⟩
  · obtain ⟨revision, member, named⟩ := sound.revisions.known revisionId isRoot
    obtain ⟨first, isFirst⟩ := Option.isSome_iff_exists.mp
      (List.find?_isSome (p := (·.revisionId = revisionId)) |>.mpr
        ⟨revision, member, decide_eq_true named⟩)
    refine ⟨first.manifest, congrArg _ isFirst, fun unit isUnit => ?_⟩
    refine sound.readable (.inl ⟨revisionId, isRoot, first, List.mem_of_find?_eq_some isFirst, ?_,
      unit,
      isUnit, rfl⟩)
    simpa using List.find?_some isFirst
  · exact sound.readable (.inr (.inl ⟨row, member, pin, isPin, rfl⟩))
  · exact sound.readable (.inr (.inr ⟨row, member, rfl⟩))

section Numbered

instance encodableChar : Encodable Char := .ofLeftInverse Char.toNat Char.ofNat Char.ofNat_toNat

instance encodableString : Encodable String :=
  .ofLeftInverse String.toList String.ofList fun _ => String.ofList_toList

deriving instance Encodable for ContractImpact, NormativeType, Gitlink, ContractSourceEntry,
  ContractUnit, ContractRevisionManifest

def numberedCtx : ContractCtx :=
  { plainCtx with
    computeRevisionId := fun manifest => "rev_" ++ Nat.repr (Encodable.encode manifest) }

theorem numberedCtx_collisionFree : CollisionFree numberedCtx := by
  intro manifest other same
  exact Encodable.encode_injective (Nat.repr_inj.mp ((String.append_right_inj "rev_").mp same))

def proposedInCollection : List RetentionInput :=
  [⟨quietEnv, .contract (.authority .beginContractProcessIncarnation)⟩,
    ⟨quietEnv, .contract (.authority (.enrollNamespace plainOwner { meshId := "mesh" }))⟩,
    ⟨quietEnv, .beginContractGc⟩,
    ⟨quietEnv, .contract (.proposeRevision plainOwner {
      namespaceId := "ns_1"
      proposalId := none
      baseHead := ⟨1, 0, none, 1⟩
      impact := .nonbreaking
      units := [.fresh "unit" (.ok ⟨⟨"", "", "", [], "", "", "", 0, ""⟩, [1]⟩) none none none []
        []] })⟩,
    ⟨quietEnv, .sweepContractGc 0⟩]

theorem roots_spooled_proposedInCollection : RootsSpooled numberedCtx
      ((retentionMachine numberedCtx).run proposedInCollection).store.db :=
  rooted_bodies_stay_in_spool numberedCtx numberedCtx_collisionFree proposedInCollection

end Numbered

end Adhdev.Contract
