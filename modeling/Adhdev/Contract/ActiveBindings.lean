import Adhdev.Contract.BindingMoves
import Adhdev.Contract.CallFrames

/-! # One active binding for a task

Only admissions and rebinds write bindings, and both end the active bindings of the task before one
becomes active. A pin set has no unit with two pins.
-/

namespace Adhdev.Contract

open Call List

def IsActiveFor (meshId taskId : String) (row : BindingRow) : Prop :=
  isActiveFor meshId taskId row = true

theorem isActiveFor_iff {meshId taskId : String} {row : BindingRow} :
    IsActiveFor meshId taskId row ↔
      row.meshId = meshId ∧ row.taskId = taskId ∧ row.state = .active := by
  simp [IsActiveFor, isActiveFor, and_assoc]

def OneActive (db : ContractDb) : Prop :=
  ∀ meshId taskId, ∀ binding ∈ db.bindings, ∀ other ∈ db.bindings,
    IsActiveFor meshId taskId binding → IsActiveFor meshId taskId other →
      binding.bindingId = other.bindingId

def KeepsOneActive (db later : ContractDb) : Prop :=
  (bindingIds db).Nodup → OneActive db → OneActive later

section Steps

variable {ctx : ContractCtx} {env : CallEnv} {plans : List ContractGcPlan}
variable {store later : ContractStore} {db : ContractDb}

theorem OneActive.of_eq {later : ContractDb} (one : OneActive db)
    (bindings : later.bindings = db.bindings) : OneActive later := by
  rw [OneActive, bindings]
  exact one

theorem OneActive.ends (one : OneActive db) {affected : BindingRow → Bool}
    {change : BindingRow → BindingRow} (ended : ∀ row, (change row).state ≠ .active) :
    OneActive (changeBindings affected change db) := by
  have wasActive {meshId taskId : String} {row : BindingRow}
      (active : IsActiveFor meshId taskId (if affected row then change row else row)) :
      IsActiveFor meshId taskId row ∧ (if affected row then change row else row) = row := by
    split_ifs at active ⊢
    · exact absurd (isActiveFor_iff.mp active).2.2 (ended row)
    · exact ⟨active, rfl⟩
  intro meshId taskId binding isBinding other isOther active otherActive
  obtain ⟨row, isRow, rfl⟩ := mem_map.mp isBinding
  obtain ⟨second, isSecond, rfl⟩ := mem_map.mp isOther
  obtain ⟨rowActive, rowSame⟩ := wasActive active
  obtain ⟨secondActive, secondSame⟩ := wasActive otherActive
  rw [rowSame, secondSame]
  exact one meshId taskId row isRow second isSecond rowActive secondActive

theorem not_active_of_superseded {meshId taskId : String} {row : BindingRow}
    (member : row ∈ (changeBindings (isActiveFor meshId taskId)
      (fun row => { row with state := .superseded }) db).bindings) :
    ¬ IsActiveFor meshId taskId row := by
  obtain ⟨earlier, -, rfl⟩ := mem_map.mp member
  split_ifs with wasActive
  · intro active
    cases (isActiveFor_iff.mp active).2.2
  · exact wasActive

variable {scope : TaskScopeRow} {pinSet : PinSetRow} {target : DispatchTarget}

variable {sessionId block bindingId : String}

theorem bindAnew_oneActive {binding : BindingRow} (one : OneActive store.db)
    (bound : bindAnew ctx env target scope sessionId pinSet bindingId block store = (.ok binding,
      later)) : OneActive later.db := by
  rw [bindAnew] at bound
  simp only [bind_eq, pure_eq, andThen_ok_iff, refuseIf_ok_iff, changeDb_ok_iff,
    insertUnless_ok_iff,
    answer_ok_iff] at bound
  obtain ⟨_, begun, ⟨_, rfl⟩, _, _, rfl, _, _, ⟨_, rfl⟩, _, rfl⟩ := bound
  have ended : OneActive (changeBindings (isActiveFor target.meshId target.taskId)
      (fun row => { row with state := .superseded }) begun.db) :=
    one.ends (by simp)
  have ofTarget {meshId taskId : String} {row other : BindingRow}
      (old : row ∈ (changeBindings (isActiveFor target.meshId target.taskId)
        (fun row => { row with state := .superseded }) begun.db).bindings)
      (active : IsActiveFor meshId taskId row) (newActive : IsActiveFor meshId taskId other)
      (isNew : other.meshId = target.meshId ∧ other.taskId = target.taskId) : False := by
    obtain ⟨ofMesh, ofTask, -⟩ := isActiveFor_iff.mp newActive
    rw [← ofMesh, ← ofTask, isNew.1, isNew.2] at active
    exact not_active_of_superseded old active
  intro meshId taskId row isRow other isOther active otherActive
  rcases mem_append.mp isRow with old | new <;>
    rcases mem_append.mp isOther with oldOther | newOther
  · exact ended meshId taskId row old other oldOther active otherActive
  · rw [mem_singleton.mp newOther] at otherActive
    exact (ofTarget old active otherActive ⟨rfl, rfl⟩).elim
  · rw [mem_singleton.mp new] at active
    exact (ofTarget oldOther otherActive active ⟨rfl, rfl⟩).elim
  · rw [mem_singleton.mp new, mem_singleton.mp newOther]

theorem freezePinSet_bindings (frozen : freezePinSet ctx scope store = (.ok pinSet, later)) :
    later.db.bindings = store.db.bindings := by
  obtain ⟨pinSets, rfl, -⟩ := freezePinSet_more frozen
  rfl

variable {admission : DispatchAdmission} {input : AdmitDispatchInput}

theorem admitScoped_oneActive
    (admitted : admitScoped ctx env input scope store = (.ok admission, later)) :
    KeepsOneActive store.db later.db := by
  intro _ one
  obtain ⟨pinSet, middle, frozen, outcome⟩ := admitScoped_ok admitted
  have freezes := one.of_eq (freezePinSet_bindings frozen)
  rcases outcome with rfl | ⟨binding, bound⟩
  · exact freezes
  · exact bindAnew_oneActive freezes bound

theorem linked_oneActive {holderId : String} {linkedFrom : Option String} (one : OneActive db)
    (ofTarget : ∀ row ∈ db.bindings, row.bindingId = holderId → row.meshId = target.meshId ∧
      row.taskId = target.taskId) :
    OneActive (changeBindings (fun row => row.bindingId = holderId)
      (fun row => { row with state := .active, linkedFromBindingId := linkedFrom })
      (changeBindings (fun row => isActiveFor target.meshId target.taskId row &&
        row.bindingId ≠ holderId) (fun row => { row with state := .superseded }) db)) := by
  have activeIs {meshId taskId : String} {row : BindingRow}
      (member : row ∈ (changeBindings (fun row => row.bindingId = holderId)
        (fun row => { row with state := .active, linkedFromBindingId := linkedFrom })
        (changeBindings (fun row => isActiveFor target.meshId target.taskId row &&
          row.bindingId ≠ holderId) (fun row => { row with state := .superseded }) db)).bindings)
      (active : IsActiveFor meshId taskId row) :
      (row.bindingId = holderId ∧ meshId = target.meshId ∧ taskId = target.taskId) ∨
        (row ∈ db.bindings ∧ ¬ (meshId = target.meshId ∧ taskId = target.taskId)) := by
    obtain ⟨between, isBetween, rfl⟩ := mem_map.mp member
    obtain ⟨earlier, isEarlier, rfl⟩ := mem_map.mp isBetween
    by_cases isHolder : earlier.bindingId = holderId
    · obtain ⟨ofMesh, ofTask⟩ := ofTarget earlier isEarlier isHolder
      simp only [isHolder, ne_eq, not_true_eq_false, decide_false, Bool.and_false,
        Bool.false_eq_true, if_false, decide_true, if_true] at active ⊢
      obtain ⟨isMesh, isTask, -⟩ := isActiveFor_iff.mp active
      exact .inl ⟨trivial, isMesh.symm.trans ofMesh, isTask.symm.trans ofTask⟩
    refine .inr ?_
    by_cases wasActive : isActiveFor target.meshId target.taskId earlier
    · simp only [wasActive, isHolder, ne_eq, not_false_eq_true, decide_true, Bool.and_self,
        if_true, decide_false, Bool.false_eq_true, if_false] at active
      cases (isActiveFor_iff.mp active).2.2
    simp only [wasActive, isHolder, Bool.false_and, Bool.false_eq_true, if_false,
      decide_false] at active ⊢
    refine ⟨isEarlier, ?_⟩
    rintro ⟨rfl, rfl⟩
    exact wasActive active
  intro meshId taskId binding isBinding other isOther active otherActive
  rcases activeIs isBinding active with ⟨isHolder, ofTask⟩ | ⟨old, away⟩ <;>
    rcases activeIs isOther otherActive with ⟨alsoHolder, alsoOfTask⟩ | ⟨alsoOld, alsoAway⟩
  · exact isHolder.trans alsoHolder.symm
  · exact absurd ofTask alsoAway
  · exact absurd alsoOfTask away
  · exact one meshId taskId binding old other alsoOld active otherActive

theorem rebindScoped_oneActive {input : RebindInput} {result : RebindResult}
    (rebound : rebindScoped ctx env input scope store = (.ok result, later)) :
    KeepsOneActive store.db later.db := by
  intro distinct one
  have revoked : OneActive (revokeLosing input store.db) := one.ends nofun
  rcases rebindScoped_ok rebound with ⟨linked, holds, rfl⟩ | ⟨pinSet, _, _, frozen, bound⟩
  · refine linked_oneActive revoked fun row member named => ?_
    obtain ⟨earlier, isEarlier, rfl⟩ := mem_map.mp member
    have isFound : holderBinding store.db input = some linked :=
        (Option.filter_eq_some_iff.mp holds).1
    have listed := mem_of_mem_filter (mem_of_getLast? isFound)
    rw [listBindingsForTask, mem_insertionSort, mem_filter] at listed
    have same : earlier = linked := by
      refine inj_on_of_nodup_map distinct isEarlier listed.1 ?_
      split_ifs at named <;> exact named
    have ofTask := listed.2
    simp only [Bool.and_eq_true, decide_eq_true_eq] at ofTask
    rw [← same] at ofTask
    split_ifs <;> exact ofTask
  · exact bindAnew_oneActive (revoked.of_eq (freezePinSet_bindings frozen)) bound

def DistinctUnits (manifest : ContractRevisionManifest) : Prop :=
  (manifest.units.map (·.unitId)).Nodup

/-- The calls of the proposals and the authority write neither bindings nor pin sets, and the
revisions that they add name no unit twice. -/
structure KeepsDispatches (db later : ContractDb) : Prop where
  bindings : later.bindings = db.bindings
  pinSets : later.pinSets = db.pinSets
  revisions : ∀ revision ∈ later.revisions,
    revision ∈ db.revisions ∨ DistinctUnits revision.manifest

theorem KeepsDispatches.same {db later : ContractDb} (bindings : later.bindings = db.bindings)
    (pinSets : later.pinSets = db.pinSets) (revisions : later.revisions = db.revisions) :
    KeepsDispatches db later :=
  ⟨bindings, pinSets, fun _ member => .inl (revisions ▸ member)⟩

theorem Effect.dispatches {call : AuthorityCall} {result : Except ContractRefusal Unit}
    (effect : Effect ctx env store call result later) : KeepsDispatches store.db later.db := by
  cases effect with
  | enrolled | recovered | transferred => rw [fencedStore_db]; exact .same rfl rfl rfl
  | _ => exact .same rfl rfl rfl

theorem contract_dispatches (call : ContractCall) :
    Relates KeepsDispatches store (call.perform ctx env) := by
  suffices keeps : ∀ later, ContractEffect ctx env store call later →
      KeepsDispatches store.db later.db from keeps _ (contract_effect rfl)
  intro later effect
  cases effect with
  | proposed presented input candidate prepared stages =>
    obtain ⟨spool, rfl⟩ := stageAll_ok stages
    obtain ⟨-, distinct, -⟩ := prepareCandidate_covered prepared
    have added : RevisionAdded ctx { store.db with spool } (proposedDb ctx env presented input
        candidate.manifest { store.db with spool }) candidate.manifest :=
      proposedDb_revision env presented input
    obtain ⟨revisions, units, framed⟩ := proposedDb_frame ctx env presented input
      candidate.manifest { store.db with spool }
    refine ⟨by rw [framed], by rw [framed], fun revision member => ?_⟩
    rcases added.revisions revision member with old | ⟨-, -, isCandidate⟩
    · exact .inl old
    · rw [DistinctUnits, isCandidate]
      exact .inr distinct
  | accepted _ anew =>
    obtain ⟨current, -, -, -, rfl⟩ := acceptAnew_ok anew
    exact .same rfl rfl rfl
  | revoked revoked =>
    obtain ⟨_, _, _, rfl⟩ := revokeRevision_frame revoked
    exact .same rfl rfl rfl
  | authority effect => exact effect.dispatches
  | _ => exact .same rfl rfl rfl

theorem perform_oneActive (call : RetentionCall) :
    Relates KeepsOneActive store (call.perform ctx env plans) := by
  refine perform_relates (fun kept => ?_) call (fun call => ?_)
    (fun input scope admission later admitted => admitScoped_oneActive admitted)
    fun input scope result later _ _ rebound => rebindScoped_oneActive rebound
  · rw [KeepsContracts] at kept
    intro _ one
    exact one.of_eq (by rw [kept])
  · have kept : KeepsDispatches store.db (call.perform ctx env store).2.db :=
      contract_dispatches call
    exact fun _ one => one.of_eq kept.bindings

/-! ## Pin sets -/

/-- Units have one pin in a pin set, since they are listed once in a revision. -/
structure PinsSound (db : ContractDb) : Prop where
  revisions : ∀ revision ∈ db.revisions, DistinctUnits revision.manifest
  pins : ∀ pinSet ∈ db.pinSets, ∀ pin ∈ pinSet.pins, ∀ other ∈ pinSet.pins,
    pin.unitId = other.unitId → pin = other

theorem PinsSound.empty : PinsSound {} where
  revisions _ member := by cases member
  pins _ member := by cases member

theorem PinsSound.same {later : ContractDb} (sound : PinsSound db)
    (revisions : later.revisions = db.revisions) (pinSets : later.pinSets = db.pinSets) :
    PinsSound later where
  revisions := revisions ▸ sound.revisions
  pins := pinSets ▸ sound.pins

theorem choosePins_ofUnits {pinned : Pinned} (chosen : choosePins ctx db scope = .ok pinned) :
    ∃ revision ∈ db.revisions, ∀ pin ∈ pinned.pins, ∃ unit ∈ revision.manifest.units,
      pin = pinOf revision.revisionId unit := by
  obtain ⟨_, revisionId, manifest, -, -, isManifest, units⟩ := choosePins_ok chosen
  obtain ⟨revision, isRevision, rfl⟩ := Option.map_eq_some_iff.mp isManifest
  have same : revision.revisionId = revisionId := by simpa using find?_some isRevision
  refine ⟨revision, mem_of_find?_eq_some isRevision, fun pin isPin => ?_⟩
  obtain ⟨unit, isUnit, isPinOf⟩ := units pin isPin
  exact ⟨unit, isUnit, by rw [same, isPinOf]⟩

section

variable (sound : PinsSound store.db)
include sound

theorem freezePinSet_pinsSound (frozen : freezePinSet ctx scope store = (.ok pinSet, later)) :
    PinsSound later.db := by
  rw [freezePinSet] at frozen
  simp only [bind_eq, andThen_ok_iff, inspect_ok_iff, ofExcept_ok_iff, changeDb_ok_iff] at frozen
  obtain ⟨pinned, _, ⟨_, _, ⟨rfl, rfl⟩, chosen, rfl⟩, _, _, rfl, _, _, ⟨-, rfl⟩, -, rfl⟩ := frozen
  rw [insertPinSet]
  split_ifs
  · exact sound
  refine ⟨sound.revisions, fun row member => ?_⟩
  rcases mem_append.mp member with old | new
  · exact sound.pins row old
  rw [mem_singleton.mp new]
  obtain ⟨revision, isRevision, units⟩ := choosePins_ofUnits chosen
  intro pin isPin other isOther same
  obtain ⟨unit, isUnit, rfl⟩ := units pin isPin
  obtain ⟨second, isSecond, rfl⟩ := units other isOther
  rw [inj_on_of_nodup_map (sound.revisions revision isRevision) isUnit isSecond same]

theorem bindAnew_pinsSound {binding : BindingRow} (bound : bindAnew ctx env target scope sessionId
      pinSet bindingId block store = (.ok binding, later)) : PinsSound later.db := by
  obtain ⟨bindings, rfl⟩ := bindAnew_more bound
  exact sound.same rfl rfl

theorem admitScoped_pinsSound (admitted : admitScoped ctx env input scope store = (.ok admission,
      later)) : PinsSound later.db := by
  obtain ⟨pinSet, middle, frozen, outcome⟩ := admitScoped_ok admitted
  have freezes := freezePinSet_pinsSound sound frozen
  rcases outcome with rfl | ⟨binding, bound⟩
  · exact freezes
  · exact bindAnew_pinsSound freezes bound

theorem rebindScoped_pinsSound {input : RebindInput} {result : RebindResult}
    (rebound : rebindScoped ctx env input scope store = (.ok result, later)) : PinsSound later.db
    := by
  have revoked : PinsSound (revokeLosing input store.db) := sound.same rfl rfl
  rcases rebindScoped_ok rebound with ⟨linked, -, rfl⟩ | ⟨pinSet, _, _, frozen, bound⟩
  · exact revoked.same rfl rfl
  · exact bindAnew_pinsSound (freezePinSet_pinsSound revoked frozen) bound

end

theorem perform_pinsSound (call : RetentionCall) :
    Relates (fun db later => PinsSound db → PinsSound later) store
      (call.perform ctx env plans) := by
  refine perform_relates (fun kept => ?_) call (fun call => ?_)
    (fun input scope admission later admitted sound => admitScoped_pinsSound sound admitted)
    fun input scope result later _ _ rebound sound => rebindScoped_pinsSound sound rebound
  · rw [KeepsContracts] at kept
    intro sound
    exact sound.same (by rw [kept]) (by rw [kept])
  · have kept : KeepsDispatches store.db (call.perform ctx env store).2.db :=
      contract_dispatches call
    refine fun sound => ⟨fun revision member => ?_, kept.pinSets ▸ sound.pins⟩
    exact (kept.revisions revision member).elim (sound.revisions revision) id

end Steps

end Adhdev.Contract
