import Adhdev.Contract.RetentionRuns

/-! # Relations that every call respects

A relation between the tables before and after a call is checked for the calls of the proposals and
the authority, for an admission and for a rebind. The other calls change no
authority, head, revision, proposal, pin set or binding.
-/

namespace Adhdev.Contract

open Call

/-- Only scopes, the spool, the quarantine and the records of answered requests differ. -/
def KeepsContracts (db later : ContractDb) : Prop :=
  later = { db with
    gcGeneration := later.gcGeneration
    spool := later.spool
    tombstones := later.tombstones
    idempotency := later.idempotency
    missionScopes := later.missionScopes
    taskScopes := later.taskScopes
    quarantine := later.quarantine }

section Frames

variable {ctx : ContractCtx} {env : CallEnv} {plans : List ContractGcPlan} {store : ContractStore}
variable {R : ContractDb → ContractDb → Prop}

def Relates {α : Type} (R : ContractDb → ContractDb → Prop) (store : ContractStore)
    (call : Call ContractStore ContractRefusal α) : Prop :=
  Ends call store fun _ later => R store.db later.db

variable {α : Type} {call : Call ContractStore ContractRefusal α}

theorem Relates.answering {β : Type} (relates : Relates R store call) (view : α → β) :
    Relates R store (andThen call fun value => answer (view value)) :=
  ends_andThen relates (fun _ _ holds => holds) fun _ _ holds => holds

theorem relates_of_ok (refl : R store.db store.db) (traceless : Traceless call)
    (answers : ∀ value later, call store = (.ok value, later) → R store.db later.db) :
    Relates R store call := traceless.ends (fun _ => refl) answers

theorem admitDispatch_relates (input : AdmitDispatchInput) (refl : R store.db store.db)
    (admits : ∀ scope admission later,
      admitScoped ctx env input scope store = (.ok admission, later) → R store.db later.db) :
    Relates R store (admitDispatch ctx env input) := by
  rw [Relates, admitDispatch, bind_eq]
  refine ends_bind_inspect ?_
  split
  · exact refl
  rename_i scope _
  refine ends_bind_refuseIf (fun _ => refl) fun _ => ?_
  have relates : Relates R store (transaction (admitScoped ctx env input scope)) :=
    relates_of_ok refl (traceless_transaction _) fun admission later admitted =>
      admits scope admission later (transaction_ok_iff.mp admitted)
  exact relates.answering _

theorem rebindToHolder_relates (input : RebindInput) (refl : R store.db store.db)
    (rebinds : ∀ scope result later,
      getTaskScope store.db input.target.meshId input.target.taskId = some scope →
      rebindScoped ctx env input scope store = (.ok result, later) → R store.db later.db) :
    Relates R store (rebindToHolder ctx env input) := by
  rw [Relates, rebindToHolder, bind_eq]
  refine ends_bind_inspect ?_
  split
  · exact refl
  rename_i scope found
  exact relates_of_ok refl (traceless_transaction _) fun result later rebound =>
    rebinds scope result later found (transaction_ok_iff.mp rebound)

variable (kept : ∀ {db later : ContractDb}, KeepsContracts db later → R db later)

include kept

theorem quarantineHistoricalReport_relates (input : HistoricalReport)
    (evidence : Except ContractRefusal Unit) :
    Relates R store (quarantineHistoricalReport ctx env input evidence) := by
  have refl : R store.db store.db := kept rfl
  have staging : Relates R store (quarantineBody ctx env input evidence) := by
    refine relates_of_ok refl (traceless_transaction _) fun _ _ staged => kept ?_
    rw [quarantineBody] at staged
    simp only [bind_eq, pure_eq, transaction_ok_iff, andThen_ok_iff, insertUnless_ok_iff,
      ofExcept_ok_iff, answer_ok_iff] at staged
    obtain ⟨digest, _, stages, -, -, ⟨-, rfl⟩, -, -, ⟨-, rfl⟩, -, rfl⟩ := staged
    obtain ⟨-, spool, rfl⟩ := stageSpoolBody_ok stages
    rfl
  rw [Relates, quarantineHistoricalReport, bind_eq]
  refine ends_bind_inspect ?_
  split
  · exact refl
  split
  · exact refl
  split
  · exact refl
  refine ends_bind_refuseIf (fun _ => refl) fun _ => ends_bind_refuseIf (fun _ => refl) fun _ => ?_
  split
  · split_ifs <;> exact refl
  split
  · exact refl
  split
  · exact refl
  · exact ends_catching staging (fun _ _ holds => holds) fun _ _ holds => holds

theorem bindMissionScope_relates (presented : Presented) (input : MissionScopeInput) :
    Relates R store (bindMissionScope ctx env presented input) := by
  have refl : R store.db store.db := kept rfl
  refine ends_bind_ofExcept (fun _ _ => refl) fun _ _ => ?_
  refine ends_bind_refuseIf (fun _ => refl) fun _ => ?_
  refine ends_bind_ofExcept (fun _ _ => refl) fun _ _ => ?_
  exact ends_transaction (ends_bind_check (fun _ _ => refl) fun _ _ => kept rfl)

theorem stampTaskScopeFromMission_relates (meshId taskId : String) (missionId : Option String) :
    Relates R store (stampTaskScopeFromMission meshId taskId missionId) := by
  have stamps (row : TaskScopeRow) : KeepsContracts store.db (insertTaskScope row store.db) := by
    rw [insertTaskScope]
    split_ifs <;> rfl
  rw [Relates, stampTaskScopeFromMission, bind_eq]
  refine ends_bind_inspect ?_
  split
  · exact kept rfl
  · exact kept (stamps _)

theorem sweepContractGc_relates (plan : ContractGcPlan) :
    Relates R store (sweepContractGc ctx env plan) :=
  relates_of_ok (kept rfl) (traceless_transaction _) fun _ _ swept => by
    rw [sweepContractGc] at swept
    simp only [bind_eq, pure_eq, transaction_ok_iff, andThen_ok_iff, inspect_ok_iff,
      changeDb_ok_iff, answer_ok_iff] at swept
    obtain ⟨-, -, ⟨-, rfl⟩, -, -, rfl, -, -, rfl, -, rfl⟩ := swept
    exact kept rfl

theorem perform_relates (call : RetentionCall)
    (contract : ∀ call : ContractCall, Relates R store (call.perform ctx env))
    (admits : ∀ input scope admission later,
      admitScoped ctx env input scope store = (.ok admission, later) → R store.db later.db)
    (rebinds : ∀ input scope result later, call = .rebindToHolder input →
      getTaskScope store.db input.target.meshId input.target.taskId = some scope →
      rebindScoped ctx env input scope store = (.ok result, later) → R store.db later.db) :
    Relates R store (call.perform ctx env plans) := by
  have refl : R store.db store.db := kept rfl
  cases call with
  | contract call => exact (contract call).answering _
  | bindMissionScope presented input =>
    exact (bindMissionScope_relates kept presented input).answering _
  | stampTaskScopeFromMission meshId taskId missionId =>
    exact (stampTaskScopeFromMission_relates kept meshId taskId missionId).answering _
  | admitDispatch input => exact (admitDispatch_relates input refl (admits input)).answering _
  | rebindToHolder input =>
    exact (rebindToHolder_relates input refl fun scope result later =>
      rebinds input scope result later rfl).answering _
  | quarantineHistoricalReport input evidence =>
    exact (quarantineHistoricalReport_relates kept input evidence).answering _
  | beginContractGc => exact kept rfl
  | sweepContractGc number =>
    rw [RetentionCall.perform]
    cases found : plans[number]? with
    | none => exact refl
    | some plan => exact (sweepContractGc_relates kept plan).answering fun _ => none

end Frames

end Adhdev.Contract
