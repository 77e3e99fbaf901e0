import Adhdev.Contract.CallFrames
import Adhdev.Contract.Notices

/-! # What the calls do to bindings, pin sets and descriptors

Bindings are never deleted, and the only one that becomes active again is the holder that a rebind
links. Pin sets stay as they are and descriptors are only added.
-/

namespace Adhdev.Contract

open Call List Option Bool

def linkedHolder (db : ContractDb) : RetentionCall → Option BindingRow
  | .rebindToHolder input =>
    if (getTaskScope db input.target.meshId input.target.taskId).isNone then none
    else linkableHolder (losingBindings db input) (holderBinding db input)
  | _ => none

def SameBinding (earlier later : BindingRow) : Prop :=
  later = { earlier with
    state := later.state
    linkedFromBindingId := later.linkedFromBindingId }

theorem SameBinding.refl (binding : BindingRow) : SameBinding binding binding := rfl

theorem SameBinding.trans {one two three : BindingRow} (first : SameBinding one two)
    (second : SameBinding two three) : SameBinding one three := by
  rw [SameBinding] at first second ⊢
  rw [second, first]

theorem SameBinding.id {earlier later : BindingRow} (same : SameBinding earlier later) :
    later.bindingId = earlier.bindingId := by rw [same]

def bindingIds (db : ContractDb) : List String := db.bindings.map (·.bindingId)

def descriptorIds (db : ContractDb) : List String := db.outbox.map (·.acceptanceId)

structure Moves (env : CallEnv) (linked : String → Prop) (db later : ContractDb) : Prop where
  pins : ∀ pinSetId pin, getPinSet db pinSetId = some pin → getPinSet later pinSetId = some pin
  outbox : ∃ added, later.outbox = db.outbox ++ added
  outboxIds : (descriptorIds db).Nodup → (descriptorIds later).Nodup
  bindings : ∀ binding ∈ later.bindings,
    (∃ earlier ∈ db.bindings, SameBinding earlier binding ∧
      (binding.state = .active → earlier.state = .active ∨ linked binding.bindingId)) ∨
      (binding.bindingId ∉ bindingIds db ∧ binding.bindingId = env.newId "bnd" ∧
        (getPinSet later binding.pinSetId).isSome)
  kept : ∀ bindingId ∈ bindingIds db, bindingId ∈ bindingIds later
  bindingIds : (bindingIds db).Nodup → (Contract.bindingIds later).Nodup

namespace Moves

variable {env : CallEnv} {linked : String → Prop} {db middle later : ContractDb}

theorem same (pins : later.pinSets = db.pinSets) (outbox : later.outbox = db.outbox)
    (bindings : later.bindings = db.bindings) : Moves env linked db later where
  pins pinSetId pin found := by rwa [getPinSet, pins]
  outbox := ⟨[], by rw [outbox, append_nil]⟩
  outboxIds nodup := by rwa [descriptorIds, outbox]
  bindings binding member :=
    .inl ⟨binding, bindings ▸ member, .refl binding, fun active => .inl active⟩
  kept bindingId member := by rwa [Contract.bindingIds, bindings]
  bindingIds nodup := by rwa [Contract.bindingIds, bindings]

theorem refl : Moves env linked db db := .same rfl rfl rfl

theorem trans (first : Moves env linked db middle) (second : Moves env linked middle later) :
    Moves env linked db later where
  pins pinSetId pin found := second.pins pinSetId pin (first.pins pinSetId pin found)
  outbox := by
    obtain ⟨added, isAdded⟩ := first.outbox
    obtain ⟨more, isMore⟩ := second.outbox
    exact ⟨added ++ more, by rw [isMore, isAdded, append_assoc]⟩
  outboxIds nodup := second.outboxIds (first.outboxIds nodup)
  bindings binding member := by
    rcases second.bindings binding member with ⟨between, isBetween, same, active⟩ | new
    · rcases first.bindings between isBetween with ⟨earlier, isEarlier, before, was⟩ | new
      · refine .inl ⟨earlier, isEarlier, before.trans same, fun isActive => ?_⟩
        rcases active isActive with wasActive | isLinked
        · exact (was wasActive).imp_right fun isLinked => same.id ▸ isLinked
        · exact .inr isLinked
      obtain ⟨isNew, named, pinned⟩ := new
      obtain ⟨pin, isPin⟩ := isSome_iff_exists.mp pinned
      have samePin : binding.pinSetId = between.pinSetId := by rw [same]
      refine .inr ⟨same.id ▸ isNew, same.id.trans named, ?_⟩
      rw [samePin, second.pins _ pin isPin]
      rfl
    · exact .inr ⟨fun old => new.1 (first.kept _ old), new.2⟩
  kept bindingId member := second.kept bindingId (first.kept bindingId member)
  bindingIds nodup := second.bindingIds (first.bindingIds nodup)

theorem changeBindings {affected : BindingRow → Bool} {change : BindingRow → BindingRow}
    (same : ∀ row, SameBinding row (change row))
    (activates : ∀ row, affected row = true → (change row).state = .active →
      linked row.bindingId) :
    Moves env linked db (changeBindings affected change db) where
  pins _ _ found := found
  outbox := ⟨[], (append_nil _).symm⟩
  outboxIds nodup := nodup
  bindings binding member := by
    obtain ⟨earlier, isEarlier, rfl⟩ := mem_map.mp member
    refine .inl ⟨earlier, isEarlier, ?_⟩
    split_ifs with isAffected
    · refine ⟨same earlier, fun active => .inr ?_⟩
      rw [(same earlier).id]
      exact activates earlier isAffected active
    · exact ⟨.refl earlier, fun active => .inl active⟩
  kept bindingId member := by
    obtain ⟨binding, isBinding, rfl⟩ := mem_map.mp member
    refine mem_map.mpr ⟨_, mem_map.mpr ⟨binding, isBinding, rfl⟩, ?_⟩
    split_ifs
    · exact (same binding).id
    · rfl
  bindingIds nodup := by
    have unchanged : Contract.bindingIds (Contract.changeBindings affected change db) =
        Contract.bindingIds db := by
      rw [Contract.bindingIds, Contract.changeBindings, List.map_map]
      refine map_congr_left fun row _ => ?_
      rw [Function.comp_apply]
      split_ifs
      · exact (same row).id
      · rfl
    rwa [unchanged]

theorem insertPinSet (row : PinSetRow) : Moves env linked db (insertPinSet row db) := by
  rw [Contract.insertPinSet]
  split_ifs with present
  · exact .refl
  refine
    { pins := fun pinSetId pin found => ?_
      outbox := ⟨[], (append_nil _).symm⟩
      outboxIds := id
      bindings := fun binding member =>
        .inl ⟨binding, member, .refl binding, fun active => .inl active⟩
      kept := fun _ member => member
      bindingIds := id }
  rw [getPinSet] at found ⊢
  rw [find?_append, found]
  rfl

theorem insertBinding {binding : BindingRow} (named : binding.bindingId = env.newId "bnd")
    (free : binding.bindingId ∉ Contract.bindingIds db)
    (pinned : (getPinSet db binding.pinSetId).isSome) :
    Moves env linked db { db with bindings := db.bindings ++ [binding] } where
  pins _ _ found := found
  outbox := ⟨[], (append_nil _).symm⟩
  outboxIds nodup := nodup
  bindings other member := by
    rcases mem_append.mp member with old | new
    · exact .inl ⟨other, old, .refl other, fun active => .inl active⟩
    · rw [mem_singleton.mp new]
      exact .inr ⟨free, named, pinned⟩
  kept bindingId member := by
    rw [Contract.bindingIds, map_append]
    exact mem_append_left _ member
  bindingIds nodup := by
    rw [Contract.bindingIds, map_append]
    refine nodup_append.mpr ⟨nodup, nodup_singleton _, ?_⟩
    rintro old isOld new isNew rfl
    rw [map_singleton, mem_singleton] at isNew
    exact free (isNew ▸ isOld)

theorem insertDescriptor {row : OutboxRow} (pins : later.pinSets = db.pinSets)
    (bindings : later.bindings = db.bindings) (outbox : later.outbox = db.outbox ++ [row])
    (free : row.acceptanceId ∉ descriptorIds db) : Moves env linked db later where
  pins pinSetId pin found := by rwa [getPinSet, pins]
  outbox := ⟨[row], outbox⟩
  outboxIds nodup := by
    rw [descriptorIds, outbox, map_append]
    refine nodup_append.mpr ⟨nodup, nodup_singleton _, ?_⟩
    rintro old isOld new isNew rfl
    rw [map_singleton, mem_singleton] at isNew
    exact free (isNew ▸ isOld)
  bindings binding member :=
    .inl ⟨binding, bindings ▸ member, .refl binding, fun active => .inl active⟩
  kept bindingId member := by rwa [Contract.bindingIds, bindings]
  bindingIds nodup := by rwa [Contract.bindingIds, bindings]

/-- Every binding's pin set is in the store. -/
theorem pinned (moves : Moves env linked db later)
    (pinned : ∀ binding ∈ db.bindings, (getPinSet db binding.pinSetId).isSome) :
    ∀ binding ∈ later.bindings, (getPinSet later binding.pinSetId).isSome := by
  intro binding member
  rcases moves.bindings binding member with ⟨earlier, isEarlier, same, -⟩ | ⟨-, -, fresh⟩
  · obtain ⟨pin, isPin⟩ := isSome_iff_exists.mp (pinned earlier isEarlier)
    rw [show binding.pinSetId = earlier.pinSetId by rw [same], moves.pins _ pin isPin]
    rfl
  · exact fresh

end Moves

section Calls

variable {ctx : ContractCtx} {env : CallEnv} {linked : String → Prop}
variable {plans : List ContractGcPlan} {store later : ContractStore}

def MovesTo {α : Type} (env : CallEnv) (linked : String → Prop) (store : ContractStore)
    (call : Call ContractStore ContractRefusal α) : Prop :=
  Ends call store fun _ later => Moves env linked store.db later.db

variable {α : Type} {call : Call ContractStore ContractRefusal α}

theorem Effect.moves {call : AuthorityCall} {result : Except ContractRefusal Unit}
    (effect : Effect ctx env store call result later) : Moves env linked store.db later.db := by
  cases effect with
  | enrolled | recovered | transferred => rw [fencedStore_db]; exact .same rfl rfl rfl
  | _ => exact .same rfl rfl rfl

theorem acceptAnew_moves {presented : Presented} {input : AcceptInput} {proposal : ProposalRow}
    {result : AcceptResult}
    (accepted : acceptAnew ctx env presented input proposal store = (.ok result, later)) :
    Moves env linked store.db later.db := by
  obtain ⟨current, -, -, -, after⟩ := acceptAnew_ok accepted
  rw [acceptAnew] at accepted
  simp only [bind_eq, pure_eq, andThen_ok_iff, inspect_ok_iff, ofExcept_ok_iff, changeDb_ok_iff,
    insertUnless_ok_iff, answer_ok_iff] at accepted
  obtain ⟨other, _, ⟨_, _, ⟨rfl, rfl⟩, -, rfl⟩, _, _, rfl, _, _, ⟨-, rfl⟩, _, _, rfl, _, _, rfl,
    _, _, ⟨free, rfl⟩, -⟩ := accepted
  rw [after]
  refine .insertDescriptor rfl rfl rfl ?_
  intro taken
  obtain ⟨row, member, same⟩ := mem_map.mp taken
  rw [eq_false_iff] at free
  exact free (any_eq_true.mpr ⟨row, member, decide_eq_true same⟩)

theorem revokeRevision_moves {presented : Presented} {input : RevokeInput}
    {head : ContractHeadVector}
    (revoked : revokeRevision ctx env presented input store = (.ok head, later)) :
    Moves env linked store.db later.db := by
  rw [revokeRevision] at revoked
  simp only [bind_eq, pure_eq, andThen_ok_iff, inspect_ok_iff, ofExcept_ok_iff,
    transaction_ok_iff, changeDb_ok_iff, insertUnless_ok_iff, answer_ok_iff] at revoked
  obtain ⟨_, _, ⟨_, rfl⟩, authority, begun, ⟨_, _, ⟨rfl, rfl⟩, _, rfl⟩, _, _, rfl, _, _, rfl, _, _,
    ⟨rfl, rfl⟩, _, _, ⟨_, rfl⟩, _, _, ⟨free, rfl⟩, _, rfl⟩ := revoked
  obtain ⟨revokedRevisions, same⟩ := insertRevoked_frame input
    (changeAuthority input.namespaceId
      (fun row => { row with revocationGeneration := authority.revocationGeneration + 1 })
      begun.db)
  rw [same] at free ⊢
  refine .insertDescriptor rfl rfl rfl ?_
  intro taken
  obtain ⟨row, member, isRow⟩ := mem_map.mp taken
  rw [eq_false_iff] at free
  exact free (any_eq_true.mpr ⟨row, member, decide_eq_true isRow⟩)

theorem contract_moves (call : ContractCall) : MovesTo env linked store (call.perform ctx env) := by
  suffices moves : ∀ later, ContractEffect ctx env store call later →
      Moves env linked store.db later.db from moves _ (contract_effect rfl)
  intro later effect
  cases effect with
  | proposed presented input candidate _ stages =>
    obtain ⟨spool, rfl⟩ := stageAll_ok stages
    obtain ⟨revisions, units, framed⟩ := proposedDb_frame ctx env presented input
      candidate.manifest { store.db with spool }
    dsimp only
    rw [framed]
    exact .same rfl rfl rfl
  | accepted _ anew => exact acceptAnew_moves anew
  | revoked revoked => exact revokeRevision_moves revoked
  | authority effect => exact effect.moves
  | _ => exact .same rfl rfl rfl

variable {scope : TaskScopeRow}

theorem freezePinSet_moves {pinSet : PinSetRow}
    (frozen : freezePinSet ctx scope store = (.ok pinSet, later)) :
    Moves env linked store.db later.db ∧ (getPinSet later.db pinSet.pinSetId).isSome := by
  rw [freezePinSet] at frozen
  simp only [bind_eq, andThen_ok_iff, inspect_ok_iff, ofExcept_ok_iff, changeDb_ok_iff] at frozen
  obtain ⟨pinned, _, ⟨_, _, ⟨rfl, rfl⟩, chosen, rfl⟩, _, _, rfl, found, _, ⟨isFound, rfl⟩, answered,
    rfl⟩ := frozen
  refine ⟨.insertPinSet _, ?_⟩
  cases isPin : found with
  | none =>
    rw [isPin] at answered
    cases answered
  | some pin =>
    rw [isPin] at answered isFound
    cases answered
    have named : pinSet.pinSetId = ctx.computePinSetDigest pinned.vector pinned.pins := by
      simpa using find?_some isFound.symm
    rw [named, ← isFound]
    rfl

theorem bindAnew_moves {target : DispatchTarget} {sessionId block : String} {pinSet : PinSetRow}
    {binding : BindingRow} (pinned : (getPinSet store.db pinSet.pinSetId).isSome)
    (bound : bindAnew ctx env target scope sessionId pinSet (env.newId "bnd") block store = (.ok
      binding, later)) :
    Moves env linked store.db later.db := by
  rw [bindAnew] at bound
  simp only [bind_eq, pure_eq, andThen_ok_iff, refuseIf_ok_iff, changeDb_ok_iff,
    insertUnless_ok_iff,
    answer_ok_iff] at bound
  obtain ⟨_, begun, ⟨_, rfl⟩, _, _, rfl, _, _, ⟨free, rfl⟩, _, rfl⟩ := bound
  have ends : Moves env linked begun.db (changeBindings (isActiveFor target.meshId target.taskId)
      (fun row => { row with state := .superseded }) begun.db) :=
    .changeBindings (fun row => rfl) (by simp)
  refine ends.trans (.insertBinding rfl ?_ pinned)
  intro taken
  obtain ⟨row, member, same⟩ := mem_map.mp taken
  rw [eq_false_iff] at free
  exact free (any_eq_true.mpr ⟨row, member, decide_eq_true same⟩)

theorem admitScoped_moves {input : AdmitDispatchInput} {admission : DispatchAdmission}
    (admitted : admitScoped ctx env input scope store = (.ok admission, later)) :
    Moves env linked store.db later.db := by
  obtain ⟨pinSet, middle, frozen, outcome⟩ := admitScoped_ok admitted
  obtain ⟨freezes, pinned⟩ := freezePinSet_moves frozen
  rcases outcome with rfl | ⟨binding, bound⟩
  · exact freezes
  · exact freezes.trans (bindAnew_moves pinned bound)

theorem rebindScoped_moves {input : RebindInput} {result : RebindResult}
    (links : ∀ holder, linkableHolder (losingBindings store.db input) (holderBinding store.db
      input) = some holder → linked holder.bindingId)
    (rebound : rebindScoped ctx env input scope store = (.ok result, later)) :
    Moves env linked store.db later.db := by
  have revokes : Moves env linked store.db (revokeLosing input store.db) :=
    .changeBindings (fun row => rfl) nofun
  rcases rebindScoped_ok rebound with ⟨holder, holds, rfl⟩ | ⟨pinSet, _, _, frozen, bound⟩
  · have supersedes (db : ContractDb) : Moves env linked db (changeBindings
        (fun row => isActiveFor input.target.meshId input.target.taskId row &&
          row.bindingId ≠ holder.bindingId)
        (fun row => { row with state := .superseded }) db) :=
      .changeBindings (fun row => rfl) nofun
    refine (revokes.trans (supersedes _)).trans (.changeBindings (fun row => rfl) ?_)
    intro row isLinked _
    rw [of_decide_eq_true isLinked]
    exact links holder holds
  · obtain ⟨freezes, pinned⟩ := freezePinSet_moves frozen
    exact (revokes.trans freezes).trans (bindAnew_moves pinned bound)

theorem Moves.of_keeps {db later : ContractDb} (kept : KeepsContracts db later) :
    Moves env linked db later := by
  rw [KeepsContracts] at kept
  rw [kept]
  exact .same rfl rfl rfl

theorem perform_moves (call : RetentionCall)
    (links : ∀ holder, linkedHolder store.db call = some holder → linked holder.bindingId) :
    MovesTo env linked store (call.perform ctx env plans) := by
  refine perform_relates .of_keeps call contract_moves
    (fun input scope admission later admitted => admitScoped_moves admitted) ?_
  intro input scope result later isRebind found rebound
  refine rebindScoped_moves (fun holder holds => links holder ?_) rebound
  rw [isRebind, linkedHolder, found]
  exact holds

end Calls

end Adhdev.Contract
