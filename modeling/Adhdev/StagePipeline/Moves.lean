import Adhdev.StagePipeline.Reducer

/-! # Moves of the stage reducer

What a transition can do to the counters that bound the pipeline: one constructor
for each kind of transition. Every fact about runs is derived from these.
-/

namespace Adhdev.StagePipeline

open MeshShared MeshTaskStageState

/-- What the bounds depend on. -/
structure StageCore where
  phase : MeshStagePhase
  round : Nat
  bounces : Nat
  failures : Nat
  extra : Nat
  openIds : List String
  blocked : Bool

def MeshTaskStageState.core (state : MeshTaskStageState) : StageCore where
  phase := state.phase
  round := state.round
  bounces := state.selfCheckBounces
  failures := state.reviewerFailures
  extra := state.extraRevisions
  openIds := state.openFindingIds
  blocked := state.blockedReason.isSome

/-- Neither a verdict nor a decision. -/
def StageEvent.isPlain : StageEvent → Bool
  | .reviewVerdict _ _ _ _ _ | .decideReviseOnce _ | .decideRereview _ => false
  | _ => true

inductive StageMove (plan : MeshTaskStagePlan) (core : StageCore) :
    StageEvent → StageCore → List StageEffect → Prop
  | reports {event : StageEvent} (plain : event.isPlain = true)
      (works : core.phase.isWork = true) :
      StageMove plan core event { core with phase := .selfChecking } [.runSelfCheck]
  | concludes {event : StageEvent} (plain : event.isPlain = true)
      (works : core.phase.isWork = true) :
      StageMove plan core event { core with phase := .done } [.release .completed none]
  | bounces {event : StageEvent} (plain : event.isPlain = true)
      (checks : core.phase = .selfChecking) (few : core.bounces < stageSelfCheckMaxBounces) :
      StageMove plan core event
        { core with phase := .revising, bounces := core.bounces + 1 }
        [.sendRevision .selfCheck core.round]
  | opensRound {event : StageEvent} {reuse : Option String}
      (plain : event.isPlain = true) (checks : core.phase = .selfChecking) :
      StageMove plan core event
        { core with phase := .awaitingReview, round := core.round + 1 }
        [.createReviewChild (core.round + 1) reuse]
  | starts {event : StageEvent} (plain : event.isPlain = true)
      (waits : core.phase = .awaitingReview) :
      StageMove plan core event { core with phase := .reviewing } []
  | approves {child session independence at_} {report : MeshReviewReport}
      (reviews : core.phase.isReview = true)
      (passes : report.verdict.approves = true ∨
        report.verdict = .changesRequested ∧ report.blocking = []) :
      StageMove plan core (.reviewVerdict child report session independence at_)
        { core with phase := .done, failures := 0, openIds := [] } [.release .completed none]
  | requests {child session independence at_} {report : MeshReviewReport}
      (reviews : core.phase.isReview = true)
      (verdict : report.verdict = .changesRequested) (named : report.blocking ≠ [])
      (within : core.round ≤ plan.maxRevisions + core.extra) :
      StageMove plan core (.reviewVerdict child report session independence at_)
        { core with
          phase := .revising, failures := 0, openIds := report.blocking.map (·.id) }
        [.sendRevision .review core.round]
  | refuses {child session independence at_} {report : MeshReviewReport}
      {reason : MeshStageBlockedReason} {openIds : List String}
      (reviews : core.phase.isReview = true)
      (verdict : report.verdict = .rejectApproach ∨ report.verdict = .changesRequested ∧
        report.blocking ≠ [] ∧ plan.maxRevisions + core.extra < core.round) :
      StageMove plan core (.reviewVerdict child report session independence at_)
        { core with phase := .done, failures := 0, openIds, blocked := true }
        [.cancelReviewChildren, .release .blocked (some reason)]
  | blocks {event : StageEvent} {reason : MeshStageBlockedReason} {failures : Nat}
      (plain : event.isPlain = true) (goesOn : core.phase ≠ .done) :
      StageMove plan core event { core with phase := .done, failures, blocked := true }
        [.cancelReviewChildren, .release .blocked (some reason)]
  | replaces {event : StageEvent} (plain : event.isPlain = true)
      (reviews : core.phase.isReview = true)
      (first : core.failures = 0) :
      StageMove plan core event { core with phase := .awaitingReview, failures := 1 }
        [.createReviewChild core.round none]
  | revises {at_ : Int} (decided : core.phase = .done) :
      StageMove plan core (.decideReviseOnce at_)
        { core with phase := .revising, extra := core.extra + 1, blocked := false }
        [.sendRevision .review core.round]
  | rereviews {at_ : Int} (decided : core.phase = .done) :
      StageMove plan core (.decideRereview at_)
        { core with
          phase := .awaitingReview, failures := 0, round := core.round + 1, blocked := false }
        [.createReviewChild (core.round + 1) none]

variable {plan : MeshTaskStagePlan} {state : MeshTaskStageState} {reduction : StageReduction}

variable {at_ : Int}

theorem move_of_implCompleted {attemptId headSha : Option String} {hasDiff : Bool}
    (reduces : reduceImplCompleted state attemptId headSha hasDiff at_ = some reduction) :
    StageMove plan state.core (.implCompleted attemptId headSha hasDiff at_)
      reduction.state.core reduction.effects := by
  unfold reduceImplCompleted at reduces
  split at reduces
  · cases reduces
  rename_i phase
  have works : state.core.phase.isWork = true := by
    revert phase
    simp only [core]
    cases state.phase <;> simp [MeshStagePhase.isWork]
  split at reduces
  · cases reduces
  dsimp only at reduces
  split at reduces
  · cases reduces
    cases ifTruthy attemptId <;> exact .concludes rfl works
  · cases reduces
    cases ifTruthy attemptId <;> cases ifTruthy headSha <;> exact .reports rfl works

theorem move_of_selfCheckDone {status : SelfCheckStatus}
    (reduces : reduceSelfCheckDone state status at_ = some reduction) :
    StageMove plan state.core (.selfCheckDone status at_) reduction.state.core
      reduction.effects := by
  unfold reduceSelfCheckDone at reduces
  split at reduces
  · cases reduces
  rename_i phase
  have checks : state.phase = .selfChecking := by simpa using phase
  split at reduces
  · split at reduces
    · cases reduces
      refine .blocks rfl ?_
      simp [core, checks]
    rename_i few
    cases reduces
    exact .bounces rfl checks (Nat.lt_of_not_le few)
  · cases reduces
    exact .opensRound rfl checks

theorem move_of_reviewVerdict {child : String} {report : MeshReviewReport}
    {session : Option String} {independence : Option MeshStageIndependenceUsed}
    (reduces : reduceReviewVerdict plan state report session independence at_ = some reduction) :
    StageMove plan state.core (.reviewVerdict child report session independence at_)
      reduction.state.core reduction.effects := by
  unfold reduceReviewVerdict at reduces
  split at reduces
  · cases reduces
  rename_i phase
  have reviews : state.phase.isReview = true := by simpa using phase
  dsimp only at reduces
  split at reduces
  · rename_i rejects
    cases reduces
    exact .refuses reviews (.inl (by simpa using rejects))
  rename_i notRejects
  split at reduces
  · rename_i passes
    cases reduces
    refine .approves reviews ?_
    revert notRejects passes
    cases report.verdict <;> simp [MeshReviewVerdict.approves]
  rename_i notPasses
  simp only [Bool.or_eq_true, beq_iff_eq, List.isEmpty_iff, not_or] at notPasses
  have verdict : report.verdict = .changesRequested := by
    revert notRejects notPasses
    cases report.verdict <;> simp
  split at reduces
  · rename_i beyond
    cases reduces
    exact .refuses reviews (.inr ⟨verdict, notPasses.2, beyond⟩)
  rename_i within
  cases reduces
  exact .requests reviews verdict notPasses.2 (Nat.le_of_not_lt within)

theorem move_of_reviewerUnavailable {child : String}
    (reduces : reduceReviewerUnavailable state at_ = some reduction) :
    StageMove plan state.core (.reviewerUnavailable child at_) reduction.state.core
      reduction.effects := by
  unfold reduceReviewerUnavailable at reduces
  split at reduces
  · cases reduces
  rename_i phase
  have reviews : state.phase.isReview = true := by simpa using phase
  split at reduces
  · cases reduces
    refine .blocks rfl ?_
    intro ended
    rw [show state.phase = .done from ended] at reviews
    cases reviews
  rename_i few
  cases reduces
  have first : state.core.failures = 0 := by
    simp only [core]
    omega
  rw [show state.reviewerFailures + 1 = 1 from congrArg (· + 1) first]
  exact .replaces rfl reviews first

theorem move_of_voidReview {event : StageEvent} {reason : MeshStageBlockedReason}
    (plain : event.isPlain = true) (reduces : reduceVoidReview state reason at_ = some reduction) :
    StageMove plan state.core event reduction.state.core reduction.effects := by
  unfold reduceVoidReview at reduces
  split at reduces
  · cases reduces
  rename_i phase
  cases reduces
  refine .blocks plain ?_
  intro ended
  simp only [core] at ended
  simp [ended, MeshStagePhase.isReview] at phase

theorem move_of_reduceStage {event : StageEvent}
    (reduces : reduceStage plan state event = some reduction) :
    StageMove plan state.core event reduction.state.core reduction.effects := by
  unfold reduceStage at reduces
  split at reduces
  · cases reduces
  rename_i goesOn
  cases event with
  | implCompleted => exact move_of_implCompleted reduces
  | selfCheckDone => exact move_of_selfCheckDone reduces
  | reviewStarted =>
    dsimp only at reduces
    split at reduces
    · cases reduces
    rename_i waits
    cases reduces
    have waits : state.phase = .awaitingReview := by simpa using waits
    exact .starts rfl waits
  | reviewVerdict => exact move_of_reviewVerdict reduces
  | reviewerUnavailable => exact move_of_reviewerUnavailable reduces
  | reviewerMutatedSource => exact move_of_voidReview rfl reduces
  | reviewerIntegrityUnverifiable => exact move_of_voidReview rfl reduces
  | reviewInputFailed detail at_ =>
    obtain ⟨blocked, voids, rfl⟩ := Option.map_eq_some_iff.mp reduces
    have moved : StageMove plan state.core (.reviewInputFailed detail at_)
        blocked.state.core blocked.effects :=
      move_of_voidReview rfl voids
    exact moved
  | ceiling =>
    cases reduces
    refine .blocks rfl ?_
    intro ended
    simp only [core] at ended
    simp [ended, StageEvent.isDecide] at goesOn
  | decideReviseOnce =>
    dsimp only [reduceReviseOnce] at reduces
    split at reduces
    · cases reduces
    rename_i decides
    cases reduces
    refine .revises ?_
    simp only [decidable, Bool.not_eq_true', Bool.not_eq_false,
      Bool.and_eq_true, beq_iff_eq] at decides
    exact decides.1
  | decideRereview =>
    dsimp only [reduceRereview] at reduces
    split at reduces
    · cases reduces
    rename_i decides
    cases reduces
    refine .rereviews ?_
    simp only [decidable, Bool.not_eq_true', Bool.not_eq_false,
      Bool.and_eq_true, beq_iff_eq] at decides
    exact decides.1

end Adhdev.StagePipeline
