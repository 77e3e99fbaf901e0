import Adhdev.TurnLedger.GuardFacts

/-! # Commit, writer stop and requeue

One specification for each way a draft leaves the ordinary life of an attempt:
it is committed, its writer's stop begins, or a confirmed stop requeues it. -/

namespace Adhdev.TurnLedger

open MeshShared

/-! ## Specifications -/

/-- `after` commits `attempt`. -/
structure Committed (attempt : TurnAttempt) (outcome : TurnOutcome) (strength : CommitStrength)
    (reason : TurnReason) (before after : Draft) : Prop where
  ended : ∃ terminal : TurnTerminal,
    after.attempt = some (terminalAttempt attempt terminal) ∧
    terminal.outcome = outcome ∧ terminal.strength = strength ∧ terminal.reason = reason
  holds : after.holds.entries = []
  committed : after.committed = true
  settling : ∃ effect : CommitEffect,
    settling after.effects =
      settling before.effects ++ .commit effect :: commitQueueEffects attempt outcome reason ∧
    effect.outcome = outcome ∧ effect.strength = strength ∧ effect.reason = reason

def stoppingAttempt (ctx : GuardCtx) (attempt : TurnAttempt) (reason : TurnReason)
    (terminal : Option WriterStopTerminal) : TurnAttempt :=
  { attempt with
    state := .stopping
    data := { attempt.data with
      writerStop := some { freshWriterStop ctx reason with terminal := terminal } } }

/-- `after` begins the stop of `attempt`'s writer. -/
structure StopBegun (ctx : GuardCtx) (attempt : TurnAttempt) (reason : TurnReason)
    (terminal : Option WriterStopTerminal) (before after : Draft) : Prop where
  stopping : after.attempt = some (stoppingAttempt ctx attempt reason terminal)
  holds : after.holds =
    (before.holds.keepWhere fun hold =>
      !isReleased .all (holdsKeptByStop reason) hold.reason).set (livenessHold ctx attempt)
  committed : after.committed = before.committed
  settling : settling after.effects = settling before.effects

def requeueEffects (attempt : TurnAttempt) (reason : TurnReason) : List TurnEffect :=
  match queueRow attempt with
  | some (meshId, taskId) =>
    if attempt.scope == .meshQueue then [.queueStatus meshId taskId .pending reason] else []
  | none => []

/-- `after` gives `attempt`'s task to its next generation. -/
structure Requeued (ctx : GuardCtx) (attempt : TurnAttempt) (reason : TurnReason)
    (before after : Draft) : Prop where
  next : after.attempt = some (nextGeneration attempt)
  holds : after.holds =
    (before.holds.keepWhere fun hold => !isReleased .all [.hardCeiling] hold.reason).set
      (awaitDeliveryHold ctx (nextGeneration attempt))
  committed : after.committed = before.committed
  settling : settling after.effects =
    settling before.effects ++
      .reclaim attempt.attemptId attempt.generation (attempt.generation + 1) reason ::
        requeueEffects attempt reason

/-! ## The functions meet them -/

section Specifications

variable (ctx : GuardCtx) (draft : Draft) {attempt : TurnAttempt}

theorem settling_commitQueueEffects (outcome : TurnOutcome) (reason : TurnReason) :
    settling (commitQueueEffects attempt outcome reason) =
      commitQueueEffects attempt outcome reason := by
  unfold commitQueueEffects
  split
  · rfl
  split
  · split <;> rfl
  · split <;> rfl

theorem committed_commitNow (outcome : TurnOutcome) (strength : CommitStrength)
    (reason : TurnReason) (text : Option CommitText) :
    Committed attempt outcome strength reason draft
      (commitNow ctx draft attempt outcome strength reason text) := by
  have queue : ∀ terminal,
      settling (commitQueueEffects (terminalAttempt attempt terminal) outcome reason) =
        commitQueueEffects attempt outcome reason :=
    fun terminal => settling_commitQueueEffects outcome reason
  have described : ∃ terminal : TurnTerminal,
      commitTerminal ctx attempt outcome strength reason text = terminal ∧
        terminal.outcome = outcome ∧ terminal.strength = strength ∧ terminal.reason = reason :=
    ⟨_, rfl, rfl, rfl, rfl⟩
  rcases described with ⟨terminal, named, sameOutcome, sameStrength, sameReason⟩
  by_cases only : attemptOnly (terminalAttempt attempt terminal) reason = true
  all_goals
    simp only [commitNow, named, only]
    constructor
    · exact ⟨terminal, by simp, sameOutcome, sameStrength, sameReason⟩
    · simp [entries_keepWhere_all]
    · rfl
    refine ⟨commitEffect (terminalAttempt attempt terminal) terminal, ?_, sameOutcome,
      sameStrength, sameReason⟩
    simp [queue, TurnEffect.isSettling]

theorem stopBegun_beginWriterStop (present : draft.attempt = some attempt)
    (idle : attempt.data.writerStop = none) (reason : TurnReason) :
    StopBegun ctx attempt reason none draft (beginWriterStop ctx draft reason) := by
  simp only [beginWriterStop, Draft.onAttempt, present, idle, Option.isSome_none,
    Bool.false_eq_true, if_false, requestWriterStop, attempt_releaseHolds]
  constructor
  · simp [stoppingAttempt, freshWriterStop]
  · simp [livenessHold]
  · simp
  · simp [TurnEffect.isSettling]

variable {reason : TurnReason}

theorem StopBegun.setStopTerminal {before after : Draft} {old : Option WriterStopTerminal}
    (begun : StopBegun ctx attempt reason old before after) (terminal : WriterStopTerminal) :
    StopBegun ctx attempt reason (some terminal) before (setStopTerminal after terminal) where
  stopping := by
    simp [TurnLedger.setStopTerminal, Draft.update, begun.stopping, stoppingAttempt]
  holds := begun.holds
  committed := begun.committed
  settling := begun.settling

variable {strength : CommitStrength} {text : Option CommitText}

theorem stopBegun_commit (present : draft.attempt = some attempt)
    (idle : attempt.data.writerStop = none) {outcome : TurnOutcome}
    (waits : commitAwaitsStop ctx attempt reason = true) :
    StopBegun ctx attempt reason (some (deferredTerminal ctx outcome strength text)) draft
      (commit ctx draft outcome strength reason text) := by
  simp only [commit, Draft.onAttempt, present, waits, if_true]
  exact (stopBegun_beginWriterStop ctx draft present idle reason).setStopTerminal ctx _

theorem committed_commit (present : draft.attempt = some attempt) {outcome : TurnOutcome}
    (free : commitAwaitsStop ctx attempt reason = false) :
    Committed attempt outcome strength reason draft
      (commit ctx draft outcome strength reason text) := by
  simp only [commit, Draft.onAttempt, present, free, Bool.false_eq_true, if_false]
  exact committed_commitNow ctx draft outcome strength reason text

theorem commitAwaitsStop_of_confirmed
    (confirmed : attempt.data.writerStop.any (·.confirmed) = true) :
    commitAwaitsStop ctx attempt reason = false := by
  simp [commitAwaitsStop, confirmed]

theorem requeued_requeue (reason : TurnReason) :
    Requeued ctx attempt reason draft (requeue ctx draft attempt reason) := by
  have queue : queueRow (nextGeneration attempt) = queueRow attempt := rfl
  have scope : (nextGeneration attempt).scope = attempt.scope := rfl
  simp only [requeue, queue, scope]
  split
  · split
    all_goals
      rename_i row _
      constructor
      · simp
      · simp
      · simp
      · simp_all [requeueEffects, TurnEffect.isSettling, nextGeneration]
  rename_i noRow
  constructor
  · simp
  · simp
  · simp
  · simp [requeueEffects, noRow, TurnEffect.isSettling, nextGeneration]

end Specifications

/-! ## Settling templates -/

inductive Settled (ctx : GuardCtx) (attempt : TurnAttempt) (before after : Draft) : Prop
  | committed {base : TurnAttempt} {outcome : TurnOutcome} {strength : CommitStrength}
      {reason : TurnReason} (within : Within .none attempt base)
      (committed : Committed base outcome strength reason before after)
  | stopBegun {base : TurnAttempt} {reason : TurnReason} {terminal : Option WriterStopTerminal}
      (within : Within .none attempt base) (mesh : isMeshScope attempt = true)
      (ceiling : reason = .hardCeiling → terminal.isSome = true)
      (begun : StopBegun ctx base reason terminal before after)

theorem Settled.of_within {ctx : GuardCtx} {attempt current : TurnAttempt} {before after : Draft}
    (within : Within .none attempt current) (settled : Settled ctx current before after) :
    Settled ctx attempt before after := by
  cases settled with
  | committed baseWithin committed => exact .committed (within.trans baseWithin) committed
  | stopBegun baseWithin mesh ceiling begun =>
    exact .stopBegun (within.trans baseWithin) (within.isMeshScope ▸ mesh) ceiling begun

section SettlingTemplates

variable (ctx : GuardCtx) (draft : Draft) {attempt : TurnAttempt}

theorem mesh_of_commitAwaitsStop {reason : TurnReason}
    (waits : commitAwaitsStop ctx attempt reason = true) : isMeshScope attempt = true := by
  simp only [commitAwaitsStop, Bool.and_eq_true] at waits
  exact waits.1.1.1

theorem settled_commit {base : TurnAttempt} (within : Within .none attempt base)
    (present : draft.attempt = some base) (idle : attempt.data.writerStop = none)
    (outcome : TurnOutcome) (strength : CommitStrength) (reason : TurnReason)
    (text : Option CommitText) :
    Settled ctx attempt draft (commit ctx draft outcome strength reason text) := by
  cases waits : commitAwaitsStop ctx base reason with
  | false => exact .committed within (committed_commit ctx draft present waits)
  | true =>
    exact .stopBegun within
      (within.isMeshScope ▸ mesh_of_commitAwaitsStop ctx waits) (fun _ => rfl)
      (stopBegun_commit ctx draft present (within.writerStop.trans idle) waits)

theorem settled_reclaim (present : draft.attempt = some attempt)
    (idle : attempt.data.writerStop = none) {reason : TurnReason}
    (notCeiling : reason ≠ .hardCeiling) :
    Settled ctx attempt draft (reclaim ctx draft reason) := by
  have same := Within.refl .none attempt
  simp only [reclaim, Draft.onAttempt, present]
  split
  · exact settled_commit ctx draft same present idle _ _ _ _
  rename_i notPlain
  split
  · exact settled_commit ctx draft same present idle _ _ _ _
  have mesh : isMeshScope attempt = true := by simpa [isMeshScope] using notPlain
  simp only [idle, Option.any_none, Bool.not_false, if_true]
  exact .stopBegun same mesh (fun ceiling => absurd ceiling notCeiling)
    (stopBegun_beginWriterStop ctx draft present idle reason)

theorem settled_adoptPrevGeneration (present : draft.attempt = some attempt)
    (idle : attempt.data.writerStop = none) {prev : PrevGeneration}
    (previous : attempt.prevGeneration = some prev) (mesh : isMeshScope attempt = true) :
    Settled ctx attempt draft (adoptPrevGeneration ctx draft) := by
  simp only [adoptPrevGeneration, Draft.onAttempt, present, previous]
  split
  · exact .stopBegun (Within.refl .none attempt) mesh (fun _ => rfl)
      ((stopBegun_beginWriterStop ctx draft present idle _).setStopTerminal ctx _)
  let bound : TurnAttempt := { attempt with
    sessionId := prev.sessionId
    consumedAt := attempt.consumedAt.or (some ctx.evidence.atMs) }
  have within : Within .none attempt bound := ⟨rfl, .inl rfl, .inl rfl, .inl rfl⟩
  have settled := settled_commit ctx (draft.update fun attempt =>
      { attempt with
        sessionId := prev.sessionId
        consumedAt := attempt.consumedAt.or (some ctx.evidence.atMs) }) within
    (by simp [Draft.update, present, bound]) idle
    (adoptedTerminal ctx.evidence).outcome (adoptedTerminal ctx.evidence).strength
    (adoptedTerminal ctx.evidence).reason none
  cases settled with
  | committed within committed =>
    exact .committed within
      ⟨committed.ended, committed.holds, committed.committed, committed.settling⟩
  | stopBegun within mesh ceiling begun =>
    exact .stopBegun within mesh ceiling
      ⟨begun.stopping, begun.holds, begun.committed, begun.settling⟩

end SettlingTemplates

end Adhdev.TurnLedger
