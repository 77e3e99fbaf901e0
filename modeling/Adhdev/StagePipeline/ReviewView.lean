import Adhdev.StagePipeline.Runtime

/-! # The review as the pipeline sees it

Which transitions complete a parent, what they leave of its review children, and
what a run of effects can do before it awaits.
-/

namespace Adhdev.StagePipeline

open MeshShared TaskQueue

/-! ## Facts of the reducer -/

section Reduced

variable {plan : MeshTaskStagePlan} {state : MeshTaskStageState} {reduction : StageReduction}

def Passes (report : MeshReviewReport) : Prop :=
  report.verdict.approves = true ∨ report.verdict = .changesRequested ∧ report.blocking = []

inductive Concludes (state : MeshTaskStageState) : StageEvent → Prop
  | noDiff {attemptId headSha : Option String} {at_ : Int} (first : state.round = 0) :
      Concludes state (.implCompleted attemptId headSha false at_)
  | passed {child session independence at_} {report : MeshReviewReport}
      (passes : Passes report) :
      Concludes state (.reviewVerdict child report session independence at_)

variable {reason : Option MeshStageBlockedReason}

variable {at_ : Int}

theorem noDiff_of_implCompleted {attemptId headSha : Option String} {hasDiff : Bool}
    (reduces : reduceImplCompleted state attemptId headSha hasDiff at_ = some reduction)
    (completed : .release .completed reason ∈ reduction.effects) :
    hasDiff = false ∧ state.round = 0 := by
  unfold reduceImplCompleted at reduces
  split at reduces
  · cases reduces
  split at reduces
  · cases reduces
  dsimp only at reduces
  split at reduces
  next fresh =>
    revert fresh
    cases ifTruthy attemptId <;> simp [handleAttempt]
  · cases reduces
    simp at completed

theorem not_completed_of_selfCheckDone {status : SelfCheckStatus}
    (reduces : reduceSelfCheckDone state status at_ = some reduction) :
    .release .completed reason ∉ reduction.effects := by
  unfold reduceSelfCheckDone at reduces
  split at reduces
  · cases reduces
  split at reduces
  · split at reduces <;> cases reduces <;> simp [block]
  · cases reduces
    simp

theorem not_completed_of_reviewerUnavailable
    (reduces : reduceReviewerUnavailable state at_ = some reduction) :
    .release .completed reason ∉ reduction.effects := by
  unfold reduceReviewerUnavailable at reduces
  split at reduces
  · cases reduces
  · split at reduces <;> cases reduces <;> simp [block]

theorem not_completed_of_voidReview {blocked : MeshStageBlockedReason}
    (reduces : reduceVoidReview state blocked at_ = some reduction) :
    .release .completed reason ∉ reduction.effects := by
  unfold reduceVoidReview at reduces
  split at reduces <;> cases reduces
  simp [block]

theorem passes_of_reviewVerdict {child : String} {report : MeshReviewReport}
    {session : Option String} {independence : Option MeshStageIndependenceUsed} {at_ : Int}
    {reason : Option MeshStageBlockedReason}
    (reduces : reduceReviewVerdict plan state report session independence at_ =
      some reduction)
    (completed : .release .completed reason ∈ reduction.effects) : Passes report := by
  have move : StageMove plan state.core (.reviewVerdict child report session independence at_)
      reduction.state.core reduction.effects := move_of_reviewVerdict reduces
  generalize reduction.effects = effects at move completed
  generalize reduction.state.core = core at move
  cases move with
  | approves reviews passes => exact passes
  | requests | refuses => simp at completed
  | reports plain | concludes plain | bounces plain | opensRound plain | starts plain
  | blocks plain | replaces plain => cases plain

variable {event : StageEvent}

theorem concludes_of_completed (reduces : reduceStage plan state event = some reduction)
    (completed : .release .completed reason ∈ reduction.effects) : Concludes state event := by
  unfold reduceStage at reduces
  split at reduces
  · cases reduces
  cases event with
  | implCompleted attemptId headSha hasDiff at_ =>
    obtain ⟨rfl, first⟩ := noDiff_of_implCompleted reduces completed
    exact .noDiff first
  | selfCheckDone => exact absurd completed (not_completed_of_selfCheckDone reduces)
  | reviewStarted =>
    dsimp only at reduces
    split at reduces <;> cases reduces
    simp at completed
  | reviewVerdict child =>
    exact .passed (@passes_of_reviewVerdict _ _ _ child _ _ _ _ _ reduces completed)
  | reviewerUnavailable => exact absurd completed (not_completed_of_reviewerUnavailable reduces)
  | reviewerMutatedSource => exact absurd completed (not_completed_of_voidReview reduces)
  | reviewerIntegrityUnverifiable => exact absurd completed (not_completed_of_voidReview reduces)
  | reviewInputFailed =>
    obtain ⟨blocked, voids, rfl⟩ := Option.map_eq_some_iff.mp reduces
    exact absurd (show _ ∈ blocked.effects from completed) (not_completed_of_voidReview voids)
  | ceiling =>
    cases reduces
    simp [block] at completed
  | decideReviseOnce =>
    dsimp only [reduceReviseOnce] at reduces
    split at reduces <;> cases reduces
    simp at completed
  | decideRereview =>
    dsimp only [reduceRereview] at reduces
    split at reduces <;> cases reduces
    simp at completed

theorem links_of_reduceStage (reduces : reduceStage plan state event = some reduction) :
    reduction.state.reviewTaskIds = state.reviewTaskIds ∧
      reduction.state.reviewFingerprint = state.reviewFingerprint := by
  unfold reduceStage at reduces
  split at reduces
  · cases reduces
  cases event with
  | implCompleted attemptId headSha =>
    dsimp only [reduceImplCompleted] at reduces
    split at reduces
    · cases reduces
    split at reduces
    · cases reduces
    · split at reduces <;> cases reduces <;> cases ifTruthy attemptId <;>
        cases ifTruthy headSha <;> exact ⟨rfl, rfl⟩
  | selfCheckDone =>
    dsimp only [reduceSelfCheckDone] at reduces
    split at reduces
    · cases reduces
    split at reduces
    · split at reduces <;> cases reduces <;> exact ⟨rfl, rfl⟩
    · cases reduces
      exact ⟨rfl, rfl⟩
  | reviewStarted =>
    dsimp only at reduces
    split at reduces <;> cases reduces
    exact ⟨rfl, rfl⟩
  | reviewVerdict =>
    dsimp only [reduceReviewVerdict] at reduces
    split at reduces
    · cases reduces
    split at reduces
    · cases reduces
      exact ⟨rfl, rfl⟩
    split at reduces
    · cases reduces
      exact ⟨rfl, rfl⟩
    · split at reduces <;> cases reduces <;> exact ⟨rfl, rfl⟩
  | reviewerUnavailable =>
    dsimp only [reduceReviewerUnavailable] at reduces
    split at reduces
    · cases reduces
    · split at reduces <;> cases reduces <;> exact ⟨rfl, rfl⟩
  | reviewerMutatedSource | reviewerIntegrityUnverifiable | reviewInputFailed =>
    dsimp only [reduceVoidReview] at reduces
    split at reduces <;> cases reduces
    exact ⟨rfl, rfl⟩
  | ceiling =>
    cases reduces
    exact ⟨rfl, rfl⟩
  | decideReviseOnce =>
    dsimp only [reduceReviseOnce] at reduces
    split at reduces <;> cases reduces
    exact ⟨rfl, rfl⟩
  | decideRereview =>
    dsimp only [reduceRereview] at reduces
    split at reduces <;> cases reduces
    exact ⟨rfl, rfl⟩

theorem round_of_move {core after : StageCore} {effects : List StageEffect}
    (move : StageMove plan core event after effects) : core.round ≤ after.round ∧
      (after.round = core.round → after.phase.isReview = true → core.phase.isReview = true) := by
  cases move with
  | opensRound | rereviews => exact ⟨Nat.le_succ _, fun same => absurd same (by simp)⟩
  | starts plain waits => exact ⟨Nat.le_refl _, fun _ _ => by rw [waits]; rfl⟩
  | replaces plain reviews => exact ⟨Nat.le_refl _, fun _ _ => reviews⟩
  | _ => exact ⟨Nat.le_refl _, nofun⟩

theorem leaves_of_verdict {child session independence at_} {report : MeshReviewReport}
    (reduces : reduceStage plan state (.reviewVerdict child report session independence at_) =
      some reduction) :
    reduction.state.round = state.round ∧ reduction.state.phase.isReview = false := by
  have move := move_of_reduceStage reduces
  have phase : reduction.state.phase = reduction.state.core.phase := rfl
  have round : reduction.state.round = reduction.state.core.round := rfl
  rw [phase, round]
  generalize reduction.effects = effects at move
  generalize reduction.state.core = core at move
  cases move with
  | approves | requests | refuses => exact ⟨rfl, rfl⟩
  | reports plain | concludes plain | bounces plain | opensRound plain | starts plain
  | blocks plain | replaces plain => cases plain

theorem effects_of_completed (reduces : reduceStage plan state event = some reduction)
    (completed : .release .completed reason ∈ reduction.effects) :
    reduction.effects = [.release .completed none] := by
  have move := move_of_reduceStage reduces
  generalize reduction.effects = effects at move completed
  generalize reduction.state.core = core at move
  cases move with
  | concludes => rfl
  | approves => rfl
  | _ => simp at completed

end Reduced

/-! ## What a review depends on -/

structure ReviewView where
  tasks : List ReviewTask
  phase : MeshStagePhase
  round : Nat
  reviewTaskIds : List String
  reviewFingerprint : Option String

def viewOf (tasks : List ReviewTask) (state : MeshTaskStageState) : ReviewView where
  tasks
  phase := state.phase
  round := state.round
  reviewTaskIds := state.reviewTaskIds
  reviewFingerprint := state.reviewFingerprint

namespace ReviewView

/-- Children are told apart by their ids, and the baseline of the parent is that of
its last child. -/
structure Sound (view : ReviewView) : Prop where
  distinct : (view.tasks.map (·.id)).Nodup
  baselined : ∀ task ∈ view.tasks, view.reviewTaskIds.getLast? = some task.id →
    task.ownWorkspace = false → view.reviewFingerprint = task.baseline

structure Onward (before after : ReviewView) : Prop where
  tasks : before.tasks ⊆ after.tasks
  round : before.round ≤ after.round
  phase : after.round = before.round → after.phase.isReview = true → before.phase.isReview = true

def Spent (childId : String) (view : ReviewView) : Prop :=
  ∃ task ∈ view.tasks, task.id = childId ∧ task.stageRound ≤ view.round ∧
    (task.stageRound = view.round → view.phase.isReview = false)

theorem Onward.refl (view : ReviewView) : Onward view view :=
  ⟨List.Subset.refl _, Nat.le_refl _, fun _ reviews => reviews⟩

theorem Onward.trans {first second third : ReviewView} (earlier : Onward first second)
    (later : Onward second third) : Onward first third where
  tasks := List.Subset.trans earlier.tasks later.tasks
  round := earlier.round.trans later.round
  phase same reviews := by
    have middle : second.round = first.round := Nat.le_antisymm (same ▸ later.round) earlier.round
    exact earlier.phase middle (later.phase (same.trans middle.symm) reviews)

theorem Spent.onward {childId : String} {before after : ReviewView}
    (spent : Spent childId before) (onward : Onward before after) : Spent childId after := by
  obtain ⟨task, member, named, past, left⟩ := spent
  refine ⟨task, onward.tasks member, named, past.trans onward.round, fun present => ?_⟩
  have same : after.round = before.round := Nat.le_antisymm (present ▸ past) onward.round
  cases reviews : after.phase.isReview with
  | false => rfl
  | true =>
    have before := onward.phase same reviews
    rw [left (present.trans same)] at before
    cases before

theorem Spent.not_present {childId : String} {view : ReviewView} (sound : view.Sound)
    (spent : Spent childId view) {task : ReviewTask} (member : task ∈ view.tasks)
    (named : task.id = childId) (present : task.stageRound = view.round) :
    view.phase.isReview = false := by
  obtain ⟨other, listed, same, past, left⟩ := spent
  have equal : task = other :=
    List.inj_on_of_nodup_map sound.distinct member listed (named.trans same.symm)
  exact left (equal ▸ present)

variable {state : MeshTaskStageState} {reduction : StageReduction} {plan : MeshTaskStagePlan}

theorem Sound.reduced {event : StageEvent} {tasks : List ReviewTask}
    (sound : (viewOf tasks state).Sound) (reduces : reduceStage plan state event = some reduction) :
    (viewOf tasks reduction.state).Sound where
  distinct := sound.distinct
  baselined task member last shared := by
    obtain ⟨ids, fingerprint⟩ := links_of_reduceStage reduces
    simp only [viewOf, ids, fingerprint] at last ⊢
    exact sound.baselined task member last shared

theorem Onward.reduced {event : StageEvent} (tasks : List ReviewTask)
    (reduces : reduceStage plan state event = some reduction) :
    Onward (viewOf tasks state) (viewOf tasks reduction.state) where
  tasks := List.Subset.refl _
  round := (round_of_move (move_of_reduceStage reduces)).1
  phase := (round_of_move (move_of_reduceStage reduces)).2

end ReviewView

namespace Pipeline

open ReviewView

def view (pipeline : Pipeline) : ReviewView :=
  viewOf (pipeline.children.map (·.toReviewTask)) pipeline.stageState

def TaskSound (pipeline : Pipeline) : Prop :=
  match pipeline.task with
  | .idle | .reporting _ => True
  | .releasing _ _ captured => captured = pipeline.stageState
  | .fingerprinting captured fresh _ =>
    captured = pipeline.stageState ∧ decisive captured fresh = true ∧
      fresh.status = .completed ∧ fresh.toReviewTask ∈ pipeline.view.tasks
  | .running _ rest => ∀ reason, .release .completed reason ∉ rest

structure Sound (pipeline : Pipeline) : Prop where
  view : pipeline.view.Sound
  task : pipeline.TaskSound

theorem changeChild_view (pipeline : Pipeline) (childId : String)
    (change : ChildState → ChildState) :
    (pipeline.changeChild childId change).view = pipeline.view := by
  simp only [view, changeChild, List.map_map]
  congr 1
  refine List.map_congr_left fun child _ => ?_
  by_cases named : child.id = childId <;> simp [named]

theorem commitParent_view (pipeline : Pipeline) (status : ReleaseStatus) (reason : CommitReason) :
    (pipeline.commitParent status reason).1.view = pipeline.view := by
  unfold commitParent
  dsimp only
  split <;> rfl

theorem commitParent_emits {pipeline : Pipeline} {status : ReleaseStatus} {reason : CommitReason}
    {emission : Emission} (emitted : emission ∈ (pipeline.commitParent status reason).2) :
    emission = .committed status reason := by
  unfold commitParent at emitted
  dsimp only at emitted
  split at emitted
  · cases emitted
  · exact List.mem_singleton.mp emitted

theorem requeueForRevision_view (pipeline : Pipeline) :
    pipeline.requeueForRevision.view = pipeline.view := by
  rw [requeueForRevision]
  split <;> rfl

theorem cancelReviewChildren_view (pipeline : Pipeline) :
    pipeline.cancelReviewChildren.view = pipeline.view := by
  rw [cancelReviewChildren]
  generalize pipeline.stageState.reviewTaskIds = childIds
  induction childIds generalizing pipeline with
  | nil => rfl
  | cons childId childIds induction =>
    exact (induction _).trans (changeChild_view pipeline childId closeChild)

structure Ran (pipeline : Pipeline) (effects : List StageEffect)
    (result : Pipeline × List Emission) : Prop where
  view : result.1.view = pipeline.view
  task : result.1.task = .idle ∨
    ∃ effect rest, result.1.task = .running effect rest ∧ rest ⊆ effects.tail
  emits : ∀ emission ∈ result.2, ∃ status reason, emission = .committed status .stage ∧
    .release status reason ∈ effects

theorem Ran.cons {pipeline later : Pipeline} {effect : StageEffect} {effects : List StageEffect}
    {result : Pipeline × List Emission} (same : later.view = pipeline.view)
    (ran : Ran later effects result) : Ran pipeline (effect :: effects) result where
  view := ran.view.trans same
  task := ran.task.imp_right fun ⟨running, rest, task, within⟩ =>
    ⟨running, rest, task, List.Subset.trans within (List.tail_subset _)⟩
  emits := fun emission emitted =>
    have ⟨status, reason, equal, member⟩ := ran.emits emission emitted
    ⟨status, reason, equal, .tail _ member⟩

theorem ran_suspended (pipeline : Pipeline) (effect suspended : StageEffect)
    (rest : List StageEffect) :
    Ran pipeline (effect :: rest) ({ pipeline with task := .running suspended rest }, []) where
  view := rfl
  task := .inr ⟨suspended, rest, rfl, List.Subset.refl _⟩
  emits := fun _ emitted => absurd emitted List.not_mem_nil

theorem runEffects_ran (effects : List StageEffect) (pipeline : Pipeline) :
    Ran pipeline effects (pipeline.runEffects effects) := by
  induction effects generalizing pipeline with
  | nil => exact ⟨rfl, .inl rfl, fun _ emitted => absurd emitted List.not_mem_nil⟩
  | cons effect rest induction =>
    cases effect with
    | sendRevision reason round => exact (induction _).cons (requeueForRevision_view pipeline)
    | release status reason =>
      have later := induction (pipeline.lifted.commitParent status .stage).1
      have same : (pipeline.lifted.commitParent status .stage).1.view = pipeline.view :=
        commitParent_view pipeline.lifted status .stage
      have ran := @Ran.cons _ _ (.release status reason) _ _ same later
      refine ⟨ran.view, ran.task, fun emission emitted => ?_⟩
      rcases List.mem_append.mp emitted with now | afterwards
      · exact ⟨status, reason, commitParent_emits now, List.mem_cons_self⟩
      · exact ran.emits emission afterwards
    | createReviewChild round reuse =>
      rw [runEffects]
      split
      · exact (induction pipeline).cons rfl
      · exact ran_suspended pipeline _ _ rest
    | runSelfCheck | cancelReviewChildren => exact ran_suspended pipeline _ _ rest

end Pipeline

end Adhdev.StagePipeline
