import Adhdev.StagePipeline.Bounds

/-! # Approval and open findings

An accepted report of a later round speaks of every open finding, and an approval
releases the task. What the report says of the finding is not looked at.
-/

namespace Adhdev.StagePipeline

open MeshShared

/-! ## Rounds and open findings -/

structure RoundsOpen (core : StageCore) : Prop where
  reviewed : core.openIds ≠ [] → 1 ≤ core.round
  started : core.phase.isReview = true → 1 ≤ core.round
  later : core.phase.isReview = true → core.openIds ≠ [] → 2 ≤ core.round

namespace RoundsOpen

variable {plan : MeshTaskStagePlan} {core next : StageCore} {event : StageEvent}
variable {sent : List StageEffect}

theorem move (rounds : RoundsOpen core) (move : StageMove plan core event next sent) :
    RoundsOpen next := by
  cases move with
  | reports | concludes | bounces | blocks | revises => exact ⟨rounds.reviewed, nofun, nofun⟩
  | opensRound | rereviews =>
    exact ⟨fun _ => Nat.le_add_left 1 _, fun _ => Nat.le_add_left 1 _,
      fun _ named => Nat.succ_le_succ (rounds.reviewed named)⟩
  | starts plain waits =>
    have reviews : core.phase.isReview = true := by rw [waits]; rfl
    exact ⟨rounds.reviewed, fun _ => rounds.started reviews, fun _ => rounds.later reviews⟩
  | replaces plain reviews =>
    exact ⟨rounds.reviewed, fun _ => rounds.started reviews, fun _ => rounds.later reviews⟩
  | approves reviews | requests reviews | refuses reviews =>
    exact ⟨fun _ => rounds.started reviews, nofun, nofun⟩

end RoundsOpen

theorem roundsOpen_run (plan : MeshTaskStagePlan) (now : Int) (events : List StageEvent) :
    RoundsOpen ((stageMachine plan now).run events).state.core := by
  refine @Machine.runFrom_induction _ _ _ (stageMachine plan now)
    (fun history => RoundsOpen history.state.core) ?_ events _ ?_
  · intro history event rounds
    show RoundsOpen (history.next plan event).state.core
    cases moves : reduceStage plan history.state event with
    | none =>
      rw [StageHistory.next_of_none moves]
      exact rounds
    | some reduction =>
      have state : (history.next plan event).state = reduction.state := by
        simp only [StageHistory.next, moves]
      rw [state]
      exact rounds.move (move_of_reduceStage moves)
  · exact ⟨fun named => absurd rfl named, by rintro ⟨⟩, by rintro ⟨⟩⟩

/-! ## Verdicts that release -/

def Completes (plan : MeshTaskStagePlan) (state : MeshTaskStageState) (event : StageEvent) : Prop :=
  ∃ reduction reason, reduceStage plan state event = some reduction ∧
    StageEffect.release .completed reason ∈ reduction.effects

section Verdict

variable {plan : MeshTaskStagePlan} {state : MeshTaskStageState} {report : MeshReviewReport}
variable {child : String} {session : Option String}
variable {independence : Option MeshStageIndependenceUsed} {at_ : Int}

variable {sent : List StageEffect}

theorem StageMove.passes_of_completed {core next : StageCore}
    {reason : Option MeshStageBlockedReason}
    (move : StageMove plan core (.reviewVerdict child report session independence at_) next sent)
    (completed : StageEffect.release .completed reason ∈ sent) :
    core.phase.isReview = true ∧ (report.verdict.approves = true ∨
      report.verdict = .changesRequested ∧ report.blocking = []) := by
  cases move with
  | approves reviews passes => exact ⟨reviews, passes⟩
  | requests | refuses => simp at completed
  | reports plain | concludes plain | bounces plain | opensRound plain | starts plain
  | blocks plain | replaces plain => cases plain

theorem StageMove.completed_of_passes {core next : StageCore}
    (move : StageMove plan core (.reviewVerdict child report session independence at_) next sent)
    (passes : report.verdict.approves = true ∨ report.verdict = .changesRequested ∧
      report.blocking = []) :
    StageEffect.release .completed none ∈ sent := by
  cases move with
  | approves => exact .head _
  | requests _ verdict named =>
    rcases passes with approves | ⟨_, clean⟩
    · rw [verdict] at approves
      cases approves
    · exact absurd clean named
  | refuses _ refused =>
    rcases refused with verdict | ⟨verdict, named, _⟩ <;>
      rcases passes with approves | ⟨requests, clean⟩
    · rw [verdict] at approves
      cases approves
    · rw [verdict] at requests
      cases requests
    · rw [verdict] at approves
      cases approves
    · exact absurd clean named
  | reports plain | concludes plain | bounces plain | opensRound plain | starts plain
  | blocks plain | replaces plain => cases plain

theorem completes_iff :
    Completes plan state (.reviewVerdict child report session independence at_) ↔
      state.phase.isReview = true ∧ (report.verdict.approves = true ∨
        report.verdict = .changesRequested ∧ report.blocking = []) := by
  constructor
  · rintro ⟨reduction, reason, moves, completed⟩
    exact (move_of_reduceStage moves).passes_of_completed completed
  rintro ⟨reviews, passes⟩
  have moves : reduceStage plan state
      (.reviewVerdict child report session independence at_) =
        reduceReviewVerdict plan state report session independence at_ := by
    simp [reduceStage, MeshStagePhase.ne_done_of_isReview reviews]
  obtain ⟨reduction, taken⟩ := Option.isSome_iff_exists.mp
    (@reduceReviewVerdict_isSome plan _ report session independence at_ reviews)
  have move := move_of_reduceStage (moves.trans taken)
  exact ⟨reduction, none, moves.trans taken, move.completed_of_passes passes⟩

end Verdict

/-! ## Approval -/

def reviewContext (state : MeshTaskStageState) : ReviewValidationContext where
  round := state.round
  priorOpenBlockingIds := state.openFindingIds

def ClosesOpen (plan : MeshTaskStagePlan) (state : MeshTaskStageState) (raw : Json)
    (child : String) (session : Option String)
    (independence : Option MeshStageIndependenceUsed) (at_ : Int) : Prop :=
  ∀ report, validateReviewReport raw (reviewContext state) = .ok report →
    Completes plan state (.reviewVerdict child report session independence at_) →
    ∀ findingId ∈ state.openFindingIds, report.Closes findingId

theorem leavesOpen_of_not_closes {report : MeshReviewReport} {findingId : String}
    (answered : ∃ answer ∈ report.answers, answer.id = findingId)
    (open_ : ¬ report.Closes findingId) : report.LeavesOpen findingId := by
  refine ⟨answered, fun answer member same => ?_⟩
  by_contra closes
  exact open_ ⟨answer, member, same, Bool.not_eq_false _ ▸ closes⟩

theorem not_closes_of_leavesOpen {report : MeshReviewReport} {findingId : String}
    (leaves : report.LeavesOpen findingId) : ¬ report.Closes findingId := by
  rintro ⟨answer, member, same, closes⟩
  rw [leaves.2 answer member same] at closes
  cases closes

/-- Exactly the approvals that leave a finding open do not close them all. -/
theorem closesOpen_iff (plan : MeshTaskStagePlan) (now : Int) (events : List StageEvent)
    (raw : Json) (child : String) (session : Option String)
    (independence : Option MeshStageIndependenceUsed) (at_ : Int) :
    ClosesOpen plan ((stageMachine plan now).run events).state raw child session independence at_ ↔
      ∀ report, validateReviewReport raw
          (reviewContext ((stageMachine plan now).run events).state) = .ok report →
        ((stageMachine plan now).run events).state.phase.isReview = true →
        report.verdict.approves = true →
        ∀ findingId ∈ ((stageMachine plan now).run events).state.openFindingIds,
          ¬ report.LeavesOpen findingId := by
  have rounds := roundsOpen_run plan now events
  generalize ((stageMachine plan now).run events).state = state at rounds ⊢
  constructor
  · intro closes report accepted reviews approves findingId isOpen leaves
    exact not_closes_of_leavesOpen leaves
      (closes report accepted (completes_iff.mpr ⟨reviews, .inl approves⟩) findingId isOpen)
  intro kept report accepted completes findingId isOpen
  obtain ⟨reviews, passes⟩ := completes_iff.mp completes
  have approves : report.verdict.approves = true := by
    rcases passes with approves | ⟨requests, clean⟩
    · exact approves
    · exact absurd clean (blocking_of_accepted accepted requests)
  have later : 2 ≤ state.round := rounds.later reviews (List.ne_nil_of_mem isOpen)
  have answered := answered_of_accepted accepted later isOpen
  by_contra open_
  exact kept report accepted reviews approves findingId isOpen
    (leavesOpen_of_not_closes answered open_)

namespace Scenario

/-- A first review found `f1`; the change was revised and the second review waits. -/
def revised : List StageEvent := [
  .implCompleted none none true 1, .selfCheckDone .passed 2,
  .reviewVerdict "c1" requestsChanges none none 3, .implCompleted none none true 4,
  .selfCheckDone .passed 5]

/-- The second report approves and says that `f1` is unresolved. -/
def approvesAnyway : Json := .object [
  ("verdict", .string "approve"), ("findings", .array []),
  ("priorFindings", .array [.object [("id", .string "f1"), ("status", .string "unresolved")]]),
  ("checked", .array [.string "loop"]), ("notChecked", .array [.string "docs"])]

def approvingReport : MeshReviewReport := {
  verdict := .approve, findings := []
  priorFindings := some [{ id := "f1", status := .unresolved, note := none }]
  checked := ["loop"], notChecked := ["docs"], testsRun := none }

end Scenario

open Scenario in
/-- The task is completed while its reviewer says that a blocking finding is unresolved. -/
theorem approvesAnyway_not_closesOpen : ¬ ClosesOpen plan
    ((stageMachine plan 0).run revised).state approvesAnyway "c2" none none 6 := by
  intro closes
  have accepted : validateReviewReport approvesAnyway
      (reviewContext ((stageMachine plan 0).run revised).state) = .ok approvingReport := by
    decide
  have closed := closes approvingReport accepted (completes_iff.mpr ⟨rfl, .inl rfl⟩) "f1"
    (by decide)
  revert closed
  decide

end Adhdev.StagePipeline
