import Adhdev.KeyedTranscript.Rollback

/-! # Rejected commits leave the reader as it was -/

namespace Adhdev.KeyedTranscript.KeyedTranscriptFolder

variable {options : KeyedTranscriptFolderOptions} {hashes : ChatHashes}
  {folder next : KeyedTranscriptFolder}

/-! ## What leaves the committed state alone -/

/-- The committed state reads as before, and the view is kept as before. -/
structure Restores (folder next : KeyedTranscriptFolder) : Prop where
  state : SameReads next.state folder.state
  cachedView : next.cachedView = folder.cachedView

theorem Restores.refl (folder : KeyedTranscriptFolder) : Restores folder folder :=
  ⟨SameReads.refl _, rfl⟩

theorem Restores.trans {last : KeyedTranscriptFolder} (first : Restores folder next)
    (second : Restores next last) : Restores folder last :=
  ⟨second.state.trans first.state, second.cachedView.trans first.cachedView⟩

theorem restores_of_eq (state : next.state = folder.state)
    (cachedView : next.cachedView = folder.cachedView) : Restores folder next :=
  ⟨state ▸ SameReads.refl _, cachedView⟩

theorem restores_reject (reason : FolderRejectReason) (needsResync : Bool) :
    Restores folder (folder.reject reason needsResync) :=
  restores_of_eq rfl rfl

theorem restores_rejectAll (reasons : List FolderRejectReason) :
    Restores folder (folder.rejectAll reasons) := by
  induction reasons generalizing folder with
  | nil => exact Restores.refl folder
  | cons reason reasons induction => exact (restores_reject reason false).trans induction

theorem restores_rejectCommit (reason : KeyedFoldRejectReason) :
    Restores folder (folder.rejectCommit reason) :=
  restores_of_eq rfl rfl

theorem restores_cleared : Restores folder { folder with pending := [], pendingRows := 0 } :=
  restores_of_eq rfl rfl

theorem restores_stash (row : KeyedChatRow) : Restores folder (folder.stash row) := by
  rw [stash]
  split_ifs
  · exact Restores.refl folder
  cases row.frameOf with
  | none => exact restores_reject _ _
  | some key =>
    dsimp only
    split_ifs <;> exact restores_of_eq rfl rfl

theorem restores_stashAll (rows : List KeyedChatRow) : Restores folder (folder.stashAll rows) := by
  induction rows generalizing folder with
  | nil => exact Restores.refl folder
  | cons row rows induction => exact (restores_stash row).trans induction

theorem Restores.view (restores : Restores folder next) : next.view.1 = folder.view.1 := by
  rw [KeyedTranscriptFolder.view, KeyedTranscriptFolder.view, restores.state.materialize,
    restores.cachedView]
  cases folder.state.materialize with
  | none => rfl
  | some shown => rfl

theorem Restores.lastCommit (restores : Restores folder next) :
    next.lastCommit = folder.lastCommit :=
  restores.state.commit

/-! ## Sound folders -/

/-- The committed state verifies against its commit, and the view that is kept is the state's. -/
structure Sound (hashes : ChatHashes) (folder : KeyedTranscriptFolder) : Prop where
  verified : ∀ commit ∈ folder.state.commit, folder.state.verify hashes commit = none
  cached : ∀ view ∈ folder.cachedView, folder.state.materialize = some view

theorem sound_start : Sound hashes {} :=
  ⟨fun _ member => (by cases member), fun _ member => (by cases member)⟩

theorem Sound.of_restores (sound : Sound hashes folder) (restores : Restores folder next) :
    Sound hashes next where
  verified := by
    intro commit member
    rw [restores.state.verify]
    exact sound.verified commit (restores.state.commit ▸ member)
  cached := by
    intro view member
    rw [restores.state.materialize]
    exact sound.cached view (restores.cachedView ▸ member)

theorem sound_adopt {state : CommittedState} {commit : ChatCommit}
    (verified : state.verify hashes commit = none) : Sound hashes (folder.adopt state commit) where
  verified := by
    intro other member
    cases member
    exact verified
  cached := fun _ member => (by cases member)

theorem Sound.view (sound : Sound hashes folder) : Sound hashes folder.view.2 := by
  rw [KeyedTranscriptFolder.view]
  cases shown : folder.state.materialize with
  | none => exact sound
  | some materialized =>
    refine ⟨sound.verified, fun view member => ?_⟩
    cases member
    cases kept : folder.cachedView with
    | none => exact shown
    | some view => exact sound.cached view kept

theorem Sound.view_eq (sound : Sound hashes folder) : folder.view.1 = folder.state.materialize := by
  rw [KeyedTranscriptFolder.view]
  cases shown : folder.state.materialize with
  | none => rfl
  | some materialized =>
    cases kept : folder.cachedView with
    | none => rfl
    | some view =>
      have same := sound.cached view kept
      rw [shown] at same
      exact same.symm ▸ rfl

/-! ## Commits -/

def Settles (hashes : ChatHashes) (folder : KeyedTranscriptFolder)
    (result : CommitOutcome × KeyedTranscriptFolder) : Prop :=
  (result.1 = .rejected → Restores folder result.2) ∧ (result.1 ≠ .rejected → Sound hashes result.2)

theorem settles_rejected (restores : Restores folder next) :
    Settles hashes folder (.rejected, next) :=
  ⟨fun _ => restores, fun taken => absurd rfl taken⟩

theorem settles_taken {outcome : CommitOutcome} (taken : outcome ≠ .rejected)
    (sound : Sound hashes next) : Settles hashes folder (outcome, next) :=
  ⟨fun rejected => absurd rejected taken, fun _ => sound⟩

theorem thrown_taken : CommitOutcome.thrown ≠ .rejected := by
  intro same
  cases same

theorem applied_taken (delta : KeyedTranscriptFrameDelta) :
    CommitOutcome.applied delta ≠ .rejected := by
  intro same
  cases same

theorem Sound.resetDelta (sound : Sound hashes folder) (commit : ChatCommit) :
    Sound hashes (folder.resetDelta commit).2 :=
  sound.view

theorem settles_commitInPlace (rows : List KeyedChatRow) (commit : ChatCommit) :
    Settles hashes folder (commitInPlace options hashes folder rows commit) := by
  rw [commitInPlace]
  dsimp only
  cases verdict : (applyFrame options folder.state rows).state.verify hashes commit with
  | some reason =>
    refine settles_rejected ⟨rollback_applyFrame folder.state rows, ?_⟩
    exact (@restores_rejectAll folder (applyFrame options folder.state rows).rejects).cachedView
  | none =>
    dsimp only
    have adopted : Sound hashes ((folder.rejectAll
        (applyFrame options folder.state rows).rejects).adopt
          (applyFrame options folder.state rows).state commit) := sound_adopt verdict
    generalize (folder.rejectAll (applyFrame options folder.state rows).rejects).adopt
      (applyFrame options folder.state rows).state commit = taken at adopted
    have shown : Sound hashes
        (if folder.state.commit.isNone = true then taken.view else (none, taken)).2 := by
      split_ifs
      · exact adopted.view
      · exact adopted
    generalize (if folder.state.commit.isNone = true then taken.view else (none, taken)) = viewed
      at shown
    by_cases told :
        (folder.state.commit.isNone || (applyFrame options folder.state rows).metaChanged) = true
    · rw [if_pos told]
      cases taken.state.materializeMeta with
      | none => exact settles_taken thrown_taken shown
      | some metadata => exact settles_taken (applied_taken _) shown
    · rw [if_neg told]
      exact settles_taken (applied_taken _) adopted

theorem settles_commitAnew (rows : List KeyedChatRow) (commit : ChatCommit) :
    Settles hashes folder (commitAnew options hashes folder rows commit) := by
  rw [commitAnew]
  dsimp only
  cases verdict : (applyFrame options {} rows).state.verify hashes commit with
  | some reason =>
    exact settles_rejected ((restores_rejectAll _).trans (restores_rejectCommit reason))
  | none => exact settles_taken (applied_taken _) ((sound_adopt verdict).resetDelta commit)

theorem restores_settlePending (commit : ChatCommit) :
    Restores folder (folder.settlePending commit) :=
  restores_of_eq rfl rfl

variable {result : CommitOutcome × KeyedTranscriptFolder}

theorem Settles.of_restores {before : KeyedTranscriptFolder} (restores : Restores before folder)
    (settles : Settles hashes folder result) : Settles hashes before result :=
  ⟨fun rejected => restores.trans (settles.1 rejected), settles.2⟩

theorem settles_ingestCommit (row : KeyedChatRow) :
    Settles hashes folder (ingestCommit options hashes folder row) := by
  rw [ingestCommit]
  cases row.readCommit with
  | none => exact settles_rejected (restores_reject _ _)
  | some commit =>
    dsimp only
    cases checkCommitIdentity options commit with
    | some reason => exact settles_rejected (restores_reject _ _)
    | none =>
      dsimp only
      split_ifs
      · exact (settles_commitAnew _ commit).of_restores (restores_settlePending commit)
      · exact (settles_commitInPlace _ commit).of_restores (restores_settlePending commit)

theorem settles_ingestSnapshot {rows : List KeyedChatRow} (some : rows ≠ []) :
    Settles hashes folder (ingestSnapshot options hashes folder rows) := by
  rw [ingestSnapshot]
  dsimp only
  cases splitAtLastCommit rows with
  | none =>
    have filled : rows.isEmpty ≠ true := fun empty => some (List.isEmpty_iff.mp empty)
    dsimp only
    rw [if_neg filled]
    exact settles_rejected (restores_cleared.trans (restores_stashAll rows))
  | some parts =>
    obtain ⟨before, commit, after⟩ := parts
    dsimp only
    cases checkCommitIdentity options commit with
    | some reason => exact settles_rejected (restores_of_eq rfl rfl)
    | none =>
      dsimp only
      cases verdict : (applyFrame options {}
          (before.filter fun row => row.writer = commit.writer)).state.verify hashes commit with
      | some reason =>
        exact settles_rejected (restores_cleared.trans
          ((restores_rejectAll _).trans (restores_rejectCommit reason)))
      | none =>
        exact settles_taken (applied_taken _)
          (((sound_adopt verdict).of_restores (restores_stashAll after)).resetDelta commit)

/-! ## Runs -/

section

variable (sound : Sound hashes folder)
include sound

theorem Sound.of_settles (settles : Settles hashes folder result) : Sound hashes result.2 := by
  by_cases rejected : result.1 = .rejected
  · exact sound.of_restores (settles.1 rejected)
  · exact settles.2 rejected

theorem Sound.ingestRows (rows : List KeyedChatRow) : Sound hashes
    (ingestRows options hashes folder rows).2 := by
  induction rows generalizing folder with
  | nil => exact sound
  | cons row rows induction =>
    rw [KeyedTranscriptFolder.ingestRows]
    have after := sound.of_settles (@settles_ingestCommit options hashes folder row)
    split_ifs
    · generalize ingestCommit options hashes folder row = result at after ⊢
      obtain ⟨outcome, next⟩ := result
      cases outcome with
      | rejected | applied delta => exact induction after
      | thrown => exact after
    · exact induction (sound.of_restores (restores_stash row))

theorem Sound.ingestSnapshot (rows : List KeyedChatRow) : Sound hashes
    (ingestSnapshot options hashes folder rows).2 := by
  cases rows with
  | nil => exact ⟨fun _ member => (by cases member), fun _ member => (by cases member)⟩
  | cons row rows => exact sound.of_settles (settles_ingestSnapshot (List.cons_ne_nil row rows))

theorem Sound.call (one : Call) : Sound hashes (call options hashes folder one).2 := by
  cases one with
  | rows rows => exact sound.ingestRows rows
  | snapshot rows =>
    have after := @Sound.ingestSnapshot options hashes folder sound rows
    rw [KeyedTranscriptFolder.call]
    generalize KeyedTranscriptFolder.ingestSnapshot options hashes folder rows = result at after ⊢
    obtain ⟨outcome, next⟩ := result
    cases outcome with
    | rejected | applied delta | thrown => exact after
  | view => exact sound.view

theorem Sound.callAll (calls : List Call) : Sound hashes (callAll options hashes folder calls).2 :=
    by
  induction calls generalizing folder with
  | nil => exact sound
  | cons one calls induction => exact induction (sound.call one)

end

/-- Whatever rows and snapshots a reader was given: a rejected commit or snapshot leaves its view
and its last commit as they were, and a view that it shows is that of a state which verifies against
this commit. -/
theorem rejected_commits_change_nothing (options : KeyedTranscriptFolderOptions)
    (hashes : ChatHashes) (calls : List Call) :
    let folder := (KeyedTranscriptFolder.callAll options hashes {} calls).2
    (∀ row, (ingestCommit options hashes folder row).1 = .rejected →
        (ingestCommit options hashes folder row).2.view.1 = folder.view.1 ∧
          (ingestCommit options hashes folder row).2.lastCommit = folder.lastCommit) ∧
      (∀ rows, rows ≠ [] → (ingestSnapshot options hashes folder rows).1 = .rejected →
        (ingestSnapshot options hashes folder rows).2.view.1 = folder.view.1 ∧
          (ingestSnapshot options hashes folder rows).2.lastCommit = folder.lastCommit) ∧
      ∀ view, folder.view.1 = some view → folder.state.materialize = some view ∧
        ∃ commit, folder.lastCommit = some commit ∧ folder.state.verify hashes commit = none := by
  intro folder
  have sound : Sound hashes folder := Sound.callAll sound_start calls
  refine ⟨fun row rejected => ?_, fun rows filled rejected => ?_, fun view shown => ?_⟩
  · have restores := (settles_ingestCommit row).1 rejected
    exact ⟨restores.view, restores.lastCommit⟩
  · have restores := (settles_ingestSnapshot filled).1 rejected
    exact ⟨restores.view, restores.lastCommit⟩
  have materialized := sound.view_eq.symm.trans shown
  refine ⟨materialized, ?_⟩
  cases committed : folder.state.commit with
  | none =>
    rw [CommittedState.materialize, CommittedState.materializeMeta, committed] at materialized
    cases materialized
  | some commit => exact ⟨commit, committed, sound.verified commit committed⟩

end Adhdev.KeyedTranscript.KeyedTranscriptFolder
