import Adhdev.HostHandoff.HandoffSafety

/-! # What a handoff has decided

Two facts of every run, whatever stops, is lost or comes twice: a daemon is host only where
the source gave the project away, and what a journal has decided stays decided.
-/

namespace Adhdev.HostHandoff

open HandoffState List Option Bool SourceData

/-- The handoff by which a daemon became host: its own journal and the source's agree. -/
structure GivenTo (state : HandoffState) (daemon : DaemonId) (handoffId : HandoffId) : Prop where
  active : (state.target daemon).shared.Active handoffId
  intended : ∃ record given, (state.target daemon).shared.get handoffId = some record ∧
    state.source.shared.get handoffId = some given ∧ given.commitIntentAt.isSome = true ∧
    given.peerDaemonId = daemon ∧ given.epoch = record.epoch
  stopped : (state.source.shared.certificates handoffId).isSome = true
  withdrawn : state.source.shared.holdsAuthority = false

structure KeepsDecisions (before after : HandoffState) : Prop where
  follows : before.source.shared.role = .member → after.source.shared.role = .member
  intended : ∀ handoffId record, before.source.shared.get handoffId = some record →
    ∃ next, after.source.shared.get handoffId = some next ∧
      next.peerDaemonId = record.peerDaemonId ∧ next.epoch = record.epoch ∧
      (record.commitIntentAt.isSome = true → next.commitIntentAt.isSome = true)
  stopped : ∀ handoffId, (before.source.shared.certificates handoffId).isSome = true →
    (after.source.shared.certificates handoffId).isSome = true
  target : ∀ daemon, (before.target daemon).shared.Grown (after.target daemon).shared

section

variable {orderly careful strict : Prop} {state : HandoffState} {daemon : DaemonId}

theorem givenTo_of_active (healthy : state.Healthy orderly careful strict) {handoffId : HandoffId}
    (active : (state.target daemon).shared.Active handoffId) : GivenTo state daemon handoffId := by
  obtain ⟨record, found, phase⟩ := active
  obtain ⟨given, isGiven, intended, isPeer, isEpoch⟩ := intended_of_begun healthy found (.inr phase)
  have sound := healthy.source.sound
  have isView := view_handoff isGiven
  refine ⟨⟨record, found, phase⟩, ⟨record, given, found, isGiven, intended, isPeer, isEpoch⟩,
    sound.stopped isView (.inr intended), ?_⟩
  rw [eq_false_iff]
  intro holds
  simp only [SourceData.holdsAuthority, and_eq_true, beq_iff_eq, isNone_iff_eq_none] at holds
  rcases sound.fenced isView intended with follows | fenced | gone
  · simp [SourceData.view, holds.1] at follows
  · simp [SourceData.view, holds.2] at fenced
  · rw [show given.handoff.peer = daemon from isPeer] at gone
    exact not_gone_of_active ⟨record, found, phase⟩ gone

theorem keepsDecisions_of_grown {after : HandoffState} (grown : state.Grown orderly after) :
    KeepsDecisions state after where
  follows := grown.source.follows
  intended handoffId record found := by
    obtain ⟨next, isNext, peer, epoch, intended, -⟩ := grown.source.handoff (view_handoff found)
    obtain ⟨later, isLater, rfl⟩ := exists_of_view isNext
    exact ⟨later, isLater, peer, epoch, intended⟩
  stopped _ := grown.source.stopped
  target := grown.target

theorem unconditioned {event : HandoffEvent} : state.Admits False False False event :=
  ⟨False.elim, False.elim, False.elim⟩

end

/-- A daemon holds authority only by a handoff that the source intended for it and stopped for,
and a source that has committed follows the daemon it names. -/
theorem authority_was_given (opening : Opening) (events : List HandoffEvent) :
    let state := (handoffSystem opening).run events
    (∀ daemon, (state.target daemon).shared.holdsAuthority = true →
      ∃ handoffId, GivenTo state daemon handoffId) ∧
    ∀ handoffId record, state.source.shared.get handoffId = some record →
      record.phase = .committed →
        GivenTo state record.peerDaemonId handoffId ∧ state.source.shared.role = .member := by
  intro state
  have healthy : state.Healthy False False False :=
    (healthy_run prefix_rfl fun _ _ => unconditioned).2.1
  constructor
  · intro daemon holds
    obtain ⟨handoffId, active⟩ := unfenced_active healthy holds
    exact ⟨handoffId, givenTo_of_active healthy active⟩
  intro handoffId record found committed
  obtain ⟨active, follows⟩ := healthy.source.sound.committed (view_handoff found) committed
  exact ⟨givenTo_of_active healthy active, follows⟩

/-- However a run goes on, no decision of the source or of a target is taken back. -/
theorem decisions_last (opening : Opening) (earlier later : List HandoffEvent) :
    KeepsDecisions ((handoffSystem opening).run earlier)
      ((handoffSystem opening).run (earlier ++ later)) :=
  keepsDecisions_of_grown (healthy_run (prefix_append earlier later) fun _ _ => unconditioned).2.2

end Adhdev.HostHandoff
