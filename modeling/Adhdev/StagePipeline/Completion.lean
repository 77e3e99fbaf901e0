import Adhdev.StagePipeline.ReviewView

/-! # Completion after a passed review

What every run of the stage pipeline keeps to, whatever arrives between two of its
segments: a parent is completed only without a diff, by the last child of the
present round or by the coordinator, and no child is judged twice.
-/

namespace Adhdev.StagePipeline

open MeshShared TaskQueue ReviewView List Pipeline Onward

/-! ## Grounds -/

def Emission.judged? : Emission → Option String
  | .judged childId => some childId
  | .committed _ _ => none

namespace Pipeline

def settling (pipeline : Pipeline) : Option (ReviewChild × Option StashedReview) :=
  match pipeline.task with
  | .releasing childId _ _ =>
    (pipeline.child? childId).map fun fresh => (fresh, pipeline.reports.lookup childId)
  | .fingerprinting _ fresh report => some (fresh, report)
  | _ => none

end Pipeline

/-- The source's `hasDiff` is false in the first round: the head read equals the base. -/
def NoDiff (before : Pipeline) (answers : Answers) : Prop :=
  (∃ attemptId, before.task = .reporting attemptId) ∧ before.stageState.round = 0 ∧
    ∃ sha, before.reportedShas answers = (some sha, some sha)

structure Decides (before : Pipeline) (fresh : ReviewChild) (review : StashedReview) :
    Prop where
  settling : before.settling = some (fresh, some review)
  listed : fresh.toReviewTask ∈ before.view.tasks
  reviewing : before.stageState.phase.isReview = true
  last : before.stageState.reviewTaskIds.getLast? = some fresh.id
  present : fresh.stageRound = before.stageState.round
  completed : fresh.status = .completed

def Untouched (fresh : ReviewChild) (answers : Answers) : Prop :=
  fresh.ownWorkspace = true ∨
    ∃ baseline, fresh.baseline = some baseline ∧ answers.fingerprint = some baseline

inductive Grounded (before : Pipeline) : PipelineInput → Emission → Prop
  | noDiff {answers : Answers} (nothing : NoDiff before answers) :
      Grounded before (.proceed answers) (.committed .completed .stage)
  | passed {answers : Answers} {fresh : ReviewChild} {review : StashedReview}
      (decides : Decides before fresh review)
      (approves : review.report.verdict.approves = true)
      (untouched : Untouched fresh answers) :
      Grounded before (.proceed answers) (.committed .completed .stage)
  | accepted {now : Int} :
      Grounded before (.start (.decide .accept) now) (.committed .completed .accept)
  | blocked {input : PipelineInput} {reason : CommitReason} :
      Grounded before input (.committed .blocked reason)
  | judged {answers : Answers} {fresh : ReviewChild} {review : StashedReview}
      (decides : Decides before fresh review) (untouched : Untouched fresh answers) :
      Grounded before (.proceed answers) (.judged fresh.id)

/-- What one step keeps to. -/
structure Kept (before : Pipeline) (input : PipelineInput)
    (result : Pipeline × List Emission) : Prop where
  sound : result.1.Sound
  onward : Onward before.view result.1.view
  grounded : ∀ emission ∈ result.2, Grounded before input emission
  spent : ∀ childId, .judged childId ∈ result.2 → Spent childId result.1.view
  once : (result.2.filterMap Emission.judged?).length ≤ 1

section Steps

variable {before pipeline : Pipeline} {input : PipelineInput} {result : Pipeline × List Emission}
  {effects rest : List StageEffect}

theorem Kept.silent {after : Pipeline} (sound : after.Sound)
    (onward : Onward before.view after.view) : Kept before input (after, []) where
  sound := sound
  onward := onward
  grounded _ emitted := absurd emitted not_mem_nil
  spent _ emitted := absurd emitted not_mem_nil
  once := Nat.zero_le 1

theorem Kept.still {after : Pipeline} (sound : before.view.Sound) (same : after.view = before.view)
    (task : after.TaskSound) : Kept before input (after, []) :=
  .silent ⟨same ▸ sound, task⟩ (same ▸ refl _)

theorem Pipeline.Ran.unjudged (ran : pipeline.Ran effects result) :
    ∀ emission ∈ result.2, emission.judged? = none := fun emission emitted => by
  obtain ⟨status, reason, rfl, -⟩ := ran.emits emission emitted
  rfl

theorem Pipeline.Ran.kept (ran : pipeline.Ran effects result) (sound : pipeline.view.Sound)
    (onward : Onward before.view pipeline.view)
    (quiet : ∀ reason, .release .completed reason ∉ effects.tail)
    (grounds : ∀ reason, .release .completed reason ∈ effects →
      Grounded before input (.committed .completed .stage)) :
    Kept before input result where
  sound := by
    refine ⟨ran.view ▸ sound, ?_⟩
    rcases ran.task with idle | ⟨effect, rest, running, within⟩
    · rw [Pipeline.TaskSound, idle]
      trivial
    · rw [Pipeline.TaskSound, running]
      exact fun reason member => quiet reason (within member)
  onward := ran.view ▸ onward
  grounded emission emitted := by
    obtain ⟨status, reason, rfl, member⟩ := ran.emits emission emitted
    cases status with
    | completed => exact grounds reason member
    | blocked => exact .blocked
  spent childId emitted := by
    have judged := ran.unjudged _ emitted
    cases judged
  once := by
    rw [filterMap_eq_nil_iff.mpr ran.unjudged]
    exact Nat.zero_le 1

theorem runEffects_kept (sound : pipeline.view.Sound) (onward : Onward before.view pipeline.view)
    (quiet : ∀ reason, .release .completed reason ∉ effects) :
    Kept before input (pipeline.runEffects effects) :=
  (runEffects_ran effects pipeline).kept sound onward
    (fun reason member => quiet reason (mem_of_mem_tail member))
    (fun reason member => absurd member (quiet reason))

variable {event : StageEvent} {pre : MeshTaskStageState → MeshTaskStageState}

theorem apply_view (notes : ∀ tasks state, viewOf tasks (pre state) = viewOf tasks state)
    {reduction : StageReduction}
    (reduces : reduceStage pipeline.stagePlan pipeline.stageState event = some reduction) :
    (pipeline.apply event pre rest).1.view =
      viewOf (pipeline.children.map (·.toReviewTask)) reduction.state := by
  rw [apply, reduces]
  exact (runEffects_ran _ _).view.trans (notes _ _)

theorem apply_unjudged :
    ∀ emission ∈ (pipeline.apply event pre rest).2, emission.judged? = none := by
  rw [apply]
  split <;> exact (runEffects_ran _ _).unjudged

theorem apply_kept (notes : ∀ tasks state, viewOf tasks (pre state) = viewOf tasks state)
    (sound : pipeline.view.Sound) (onward : Onward before.view pipeline.view)
    (quiet : ∀ reason, .release .completed reason ∉ rest)
    (grounds : Concludes pipeline.stageState event →
      Grounded before input (.committed .completed .stage)) :
    Kept before input (pipeline.apply event pre rest) := by
  rw [apply]
  split
  · exact runEffects_kept sound onward quiet
  next reduction reduces =>
    have ran := runEffects_ran (reduction.effects ++ rest)
      { pipeline with stageState := pre reduction.state }
    have view : view { pipeline with stageState := pre reduction.state } =
        viewOf (pipeline.children.map (·.toReviewTask)) reduction.state := notes _ _
    have moved : Onward pipeline.view (viewOf (pipeline.children.map (·.toReviewTask))
        reduction.state) := reduced _ reduces
    refine ran.kept (view ▸ sound.reduced reduces) (view ▸ onward.trans moved) ?_ ?_
    · intro reason member
      by_cases completed : .release .completed reason ∈ reduction.effects
      · rw [effects_of_completed reduces completed] at member
        exact quiet reason member
      rcases mem_append.mp (mem_of_mem_tail member) with now | later
      · exact completed now
      · exact quiet reason later
    intro reason member
    rcases mem_append.mp member with now | later
    · exact grounds (concludes_of_completed reduces now)
    · exact absurd later (quiet reason)

end Steps

section Segments

open Pipeline

variable {before : Pipeline} {answers : Answers} {captured : MeshTaskStageState}
  {fresh : ReviewChild} {report : Option StashedReview}

theorem nonEmpty_eq_some {text found : String} (filled : nonEmpty text = some found) :
    text = found := by
  rw [nonEmpty] at filled
  split at filled
  · cases filled
  · exact Option.some.inj filled

theorem ifTruthy_eq_some {text : Option String} {found : String}
    (filled : ifTruthy text = some found) : text = some found := by
  obtain ⟨given, rfl, filled⟩ := Option.bind_eq_some_iff.mp filled
  rw [nonEmpty_eq_some filled]

theorem equal_of_not_hasDiff {shas : Option String × Option String}
    (nothing : hasDiff shas = false) : ∃ sha, shas = (some sha, some sha) := by
  obtain ⟨base, head⟩ := shas
  cases base with
  | none => cases nothing
  | some base =>
    cases head with
    | none => cases nothing
    | some head =>
      have equal : base = head := by simpa [hasDiff] using nothing
      exact ⟨base, by rw [equal]⟩

theorem implCompleted_kept {attemptId : Option String} (sound : before.view.Sound)
    (reporting : before.task = .reporting attemptId) :
    Kept before (.proceed answers) (before.implCompleted attemptId answers) := by
  rw [implCompleted]
  generalize notedAs : (if ((before.reportedShas answers).1.isSome &&
      (before.reportedShas answers).2.isSome && hasDiff (before.reportedShas answers)) = true
    then { before with stageState := addDiff before.stageState answers.diffArtifact }
    else before) = noted
  have same : noted.view = before.view := by
    rw [← notedAs]
    split <;> rfl
  have round : noted.stageState.round = before.stageState.round := congrArg ReviewView.round same
  refine apply_kept (fun _ _ => rfl) (same ▸ sound) (same ▸ refl _)
    (fun _ => not_mem_nil) fun concludes => ?_
  generalize diff : hasDiff (before.reportedShas answers) = changed at concludes
  cases concludes with
  | noDiff first =>
    exact .noDiff ⟨⟨attemptId, reporting⟩, round.symm.trans first, equal_of_not_hasDiff diff⟩

theorem approves_of_passes {review : StashedReview} (passes : Passes review.report) :
    review.report.verdict.approves = true := by
  rcases passes with approves | ⟨requests, clean⟩
  · exact approves
  · exact absurd clean (blocking_of_accepted review.accepted requests)

theorem spent_of_verdict {review : StashedReview} {now : Int}
    {pre : MeshTaskStageState → MeshTaskStageState}
    (notes : ∀ tasks state, viewOf tasks (pre state) = viewOf tasks state)
    (decides : Decides before fresh review) {reduction : StageReduction}
    (reduces : reduceStage before.stagePlan before.stageState (verdictEvent fresh review now) =
      some reduction) :
    Spent fresh.id
      ((before.dropReport fresh.id).apply (verdictEvent fresh review now) pre []).1.view := by
  have left := leaves_of_verdict reduces
  have view : ((before.dropReport fresh.id).apply (verdictEvent fresh review now) pre
      []).1.view = viewOf (before.children.map (·.toReviewTask)) reduction.state :=
    @apply_view (before.dropReport fresh.id) _ _ _ notes reduction reduces
  rw [view]
  refine ⟨fresh.toReviewTask, decides.listed, rfl, ?_, fun _ => left.2⟩
  rw [show fresh.stageRound = before.stageState.round from decides.present]
  exact Nat.le_of_eq left.1.symm

theorem settleChild_kept (sound : before.view.Sound)
    (decides : ∀ review, report = some review → fresh.status = .completed →
      Decides before fresh review ∧ Untouched fresh answers) :
    Kept before (.proceed answers) (before.settleChild captured fresh report answers) := by
  rw [settleChild]
  split
  next review judges =>
    have completed : fresh.status = .completed := by
      split at judges
      next completed => simpa using completed
      · cases judges
    have isReport : report = some review := by simpa [completed] using judges
    obtain ⟨decides, untouched⟩ := decides review isReport completed
    have kept : Kept before (.proceed answers) ((before.dropReport fresh.id).apply
        (verdictEvent fresh review answers.now) (noteVerdict answers.verdictArtifact) []) := by
      refine apply_kept (fun _ _ => rfl) sound (refl _) (fun _ => not_mem_nil) fun concludes => ?_
      cases concludes with
      | passed passes => exact .passed decides (approves_of_passes passes) untouched
    have unjudged := filterMap_eq_nil_iff.mpr (@apply_unjudged
      (before.dropReport fresh.id) [] (verdictEvent fresh review answers.now)
      (noteVerdict answers.verdictArtifact))
    dsimp only
    cases reduces : reduceStage before.stagePlan before.stageState
        (verdictEvent fresh review answers.now) with
    | none => exact kept
    | some reduction =>
      have spent := @spent_of_verdict before fresh review answers.now
        (noteVerdict answers.verdictArtifact) (fun _ _ => rfl) decides reduction reduces
      refine ⟨kept.sound, kept.onward, ?_, ?_, ?_⟩
      · intro emission emitted
        rcases mem_cons.mp emitted with rfl | later
        · exact .judged decides untouched
        · exact kept.grounded emission later
      · intro childId emitted
        rcases mem_cons.mp emitted with equal | later
        · cases equal
          exact spent
        · exact kept.spent childId later
      simp only [Option.isSome_some, if_true, cons_append, nil_append,
        filterMap_cons, Emission.judged?, unjudged]
      exact Nat.le_refl 1
  · split
    · exact Kept.still sound rfl trivial
    · refine apply_kept (fun _ _ => rfl) sound (refl _) (fun _ => not_mem_nil) fun concludes => ?_
      cases concludes

theorem decisive_iff : decisive captured fresh = true ↔ captured.phase.isReview = true ∧
      captured.reviewTaskIds.getLast? = some fresh.id ∧ fresh.stageRound = captured.round := by
  simp [decisive, and_assoc]

theorem child?_eq_some {childId : String} (found : before.child? childId = some fresh) :
    fresh ∈ before.children ∧ fresh.id = childId :=
  ⟨mem_of_find?_eq_some found, by simpa using find?_some found⟩

theorem childReleased_kept {childId : String} {status : TaskStatus} (sound : before.Sound)
    (releasing : before.task = .releasing childId status captured) :
    Kept before (.proceed answers) (before.childReleased childId status captured answers) := by
  have task := sound.task
  rw [Pipeline.TaskSound, releasing] at task
  dsimp only at task
  subst task
  rw [childReleased]
  dsimp only
  split
  · exact Kept.still sound.view rfl trivial
  split
  · exact Kept.still sound.view rfl trivial
  next fresh found =>
    obtain ⟨member, named⟩ := child?_eq_some found
    have listed : fresh.toReviewTask ∈ before.view.tasks := mem_map_of_mem member
    split
    · exact Kept.still sound.view rfl trivial
    next present =>
      have decisive : decisive before.stageState fresh = true := by simpa using present
      obtain ⟨reviewing, last, round⟩ := decisive_iff.mp decisive
      split
      next shared =>
        have completed : fresh.status = .completed := by
          simp only [Bool.and_eq_true, beq_iff_eq] at shared
          exact shared.2
        exact Kept.still sound.view rfl ⟨rfl, decisive, completed, listed⟩
      next exempt =>
        refine settleChild_kept sound.view fun review isReport completed => ⟨?_, ?_⟩
        · refine ⟨?_, listed, reviewing, last, round, completed⟩
          rw [settling, releasing]
          simp only [found, isReport, Option.map_some]
        · left
          simpa [completed] using exempt

theorem childFingerprinted_kept (sound : before.Sound)
    (fingerprinting : before.task = .fingerprinting captured fresh report) :
    Kept before (.proceed answers) (before.childFingerprinted captured fresh report answers) := by
  have task := sound.task
  rw [Pipeline.TaskSound, fingerprinting] at task
  obtain ⟨rfl, decisive, completed, listed⟩ := task
  obtain ⟨reviewing, last, round⟩ := decisive_iff.mp decisive
  have void : ∀ event : StageEvent, (Concludes before.stageState event → False) →
      Kept before (.proceed answers) ((before.dropReport fresh.id).apply event id []) :=
    fun event never => apply_kept (fun _ _ => rfl) sound.view (refl _)
      (fun _ => not_mem_nil) fun concludes => absurd concludes never
  rw [childFingerprinted]
  split
  next baseline current isBaseline isCurrent =>
    split
    · exact void _ nofun
    split
    · exact void _ nofun
    next same =>
      refine settleChild_kept sound.view fun review isReport _ => ⟨?_, ?_⟩
      · refine ⟨?_, listed, reviewing, last, round, completed⟩
        rw [settling, fingerprinting, isReport]
      cases exempt : fresh.ownWorkspace with
      | true => exact .inl exempt
      | false =>
        refine .inr ⟨baseline, ?_, ?_⟩
        · rw [← sound.view.baselined _ listed last exempt]
          exact ifTruthy_eq_some isBaseline
        have equal : current = baseline := by simpa using same
        split at isCurrent
        · exact equal ▸ ifTruthy_eq_some isCurrent
        · cases isCurrent
  · exact void _ nofun

theorem Sound.linked {tasks : List ReviewTask} {state : MeshTaskStageState} {child : ReviewChild}
    (sound : (viewOf tasks state).Sound) (unused : child.id ∉ tasks.map (·.id)) :
    (viewOf (tasks ++ [child.toReviewTask]) (linkChild state child)).Sound where
  distinct := by
    simp only [viewOf, map_append, map_cons, map_nil]
    refine nodup_append.mpr ⟨sound.distinct, nodup_singleton _, ?_⟩
    rintro id member other isOther rfl
    exact unused (mem_singleton.mp isOther ▸ member)
  baselined task member last shared := by
    have named : child.id = task.id := by simpa [viewOf, linkChild] using last
    rcases mem_append.mp member with earlier | isChild
    · exact absurd (named ▸ mem_map_of_mem earlier) unused
    · rw [mem_singleton.mp isChild]
      rfl

theorem createReviewChild_view {round : Nat} {created : Pipeline} (sound : before.view.Sound)
    (creates : before.createReviewChild round answers = .ok created) :
    created.view.Sound ∧ Onward before.view created.view := by
  rw [createReviewChild] at creates
  split at creates
  · cases creates
  rw [enqueueReviewChild] at creates
  dsimp only at creates
  split at creates
  · cases creates
  split at creates
  · split at creates <;> cases creates
    exact ⟨sound, refl _⟩
  split at creates
  · cases creates
  next id inserted =>
    split at creates
    · cases creates
    next free =>
      cases creates
      have unused : id ∉ (before.children.map (·.toReviewTask)).map (·.id) := by
        intro member
        simp only [map_map, mem_map, Function.comp_apply] at member
        obtain ⟨child, listed, named⟩ := member
        refine free ?_
        rw [child?, find?_isSome]
        exact ⟨child, listed, by simpa using named⟩
      constructor
      · rw [view, map_append]
        exact Sound.linked sound unused
      refine ⟨?_, Nat.le_refl _, fun _ reviews => reviews⟩
      rw [view, view, map_append]
      exact subset_append_left _ _

theorem finishEffect_kept {effect : StageEffect} {rest : List StageEffect}
    (sound : before.Sound) (running : before.task = .running effect rest) :
    Kept before (.proceed answers) (before.finishEffect effect rest answers) := by
  have quiet := sound.task
  rw [TaskSound, running] at quiet
  have plainly : Kept before (.proceed answers) (before.runEffects rest) :=
    runEffects_kept sound.view (refl _) quiet
  cases effect with
  | sendRevision | release => exact plainly
  | cancelReviewChildren =>
    have same := cancelReviewChildren_view before
    exact runEffects_kept (same ▸ sound.view) (same ▸ refl _) quiet
  | runSelfCheck =>
    rw [finishEffect, selfChecked]
    split
    · exact apply_kept (fun _ _ => rfl) sound.view (refl _) quiet nofun
    · exact apply_kept (fun _ _ => rfl) sound.view (refl _) quiet nofun
  | createReviewChild round reuse =>
    rw [finishEffect, childCreated]
    split
    next created creates =>
      obtain ⟨createdSound, onward⟩ := createReviewChild_view sound.view creates
      exact runEffects_kept createdSound onward quiet
    next detail fails =>
      have fails : ∀ detail, Kept before (.proceed answers)
          (before.apply (.reviewInputFailed detail answers.now) id rest) := fun detail =>
        apply_kept (fun _ _ => rfl) sound.view (refl _) quiet nofun
      split
      · exact fails _
      split
      · exact fails _
      · exact plainly

theorem proceeds_kept (sound : before.Sound) :
    Kept before (.proceed answers) (before.proceeds answers) := by
  rw [proceeds]
  split
  · exact Kept.still sound.view rfl sound.task
  next reporting => exact implCompleted_kept sound.view reporting
  next releasing => exact childReleased_kept sound releasing
  next fingerprinting => exact childFingerprinted_kept sound fingerprinting
  next running => exact finishEffect_kept sound running

/-! ## Entry points -/

variable {now : Int}

theorem apply_entry_kept {input : PipelineInput} {event : StageEvent} {after : Pipeline}
    (sound : before.view.Sound) (same : after.view = before.view)
    (never : ¬ Concludes after.stageState event) : Kept before input (after.apply event id []) :=
  apply_kept (fun _ _ => rfl) (same ▸ sound) (same ▸ refl _)
    (fun _ => not_mem_nil) fun concludes => absurd concludes never

theorem tick_kept {input : PipelineInput} {pipelineCeilingMs : Int} (sound : before.Sound) :
    Kept before input (before.tick pipelineCeilingMs now) := by
  have still : Kept before input (before, []) := Kept.still sound.view rfl sound.task
  rw [tick]
  split
  · exact still
  split
  · exact apply_entry_kept sound.view rfl nofun
  rw [resumeOne]
  dsimp only
  split
  · exact still
  split
  · exact runEffects_kept sound.view (refl _) (by simp)
  split
  · split
    · exact runEffects_kept sound.view (refl _) (by simp)
    · exact still
  · exact still

theorem writeStatus_view {status : TaskStatus} {written : Pipeline}
    (writes : before.writeStatus status = some written) :
    written.view = before.view ∧ written.task = before.task := by
  rw [writeStatus] at writes
  split at writes <;> cases writes
  exact ⟨rfl, rfl⟩

theorem decideBlocked_kept {action : DecideAction} {restored : Pipeline} (sound : before.view.Sound)
    (same : restored.view = before.view) (idle : restored.task = .idle) :
    Kept before (.start (.decide action) now) (restored.decideBlocked now action) := by
  have rested : ∀ after : Pipeline, after.view = before.view → after.task = .idle →
      Kept before (.start (.decide action) now) (after, []) := fun after sameView free =>
    Kept.still sound sameView (by rw [TaskSound, free]; trivial)
  cases action with
  | accept =>
    rw [decideBlocked]
    dsimp only
    generalize decidedAs : { restored with stageState := { restored.stageState with
      blockedReason := none, blockedDetail := none } } = decided
    have decidedView : decided.view = before.view := by
      rw [← decidedAs]
      exact same
    have free : (decided.commitParent .completed .accept).1.task = .idle := by
      unfold commitParent
      dsimp only
      rw [← decidedAs]
      split <;> exact idle
    have view := (commitParent_view decided .completed .accept).trans decidedView
    have kept := rested _ view free
    refine ⟨kept.sound, kept.onward, ?_, ?_, ?_⟩
    · intro emission emitted
      rw [commitParent_emits emitted]
      exact .accepted
    · intro childId emitted
      cases commitParent_emits emitted
    rw [filterMap_eq_nil_iff.mpr fun emission emitted => by
      rw [commitParent_emits emitted]
      rfl]
    exact Nat.zero_le 1
  | abandon =>
    rw [decideBlocked]
    cases writes : restored.writeStatus .cancelled with
    | none => exact rested _ same idle
    | some written =>
      obtain ⟨view, task⟩ := writeStatus_view writes
      exact rested _ (view.trans same) (task.trans idle)
  | reviseOnce | rereview =>
    rw [decideBlocked]
    split
    · exact rested _ same idle
    next reopened writes =>
      exact apply_entry_kept sound ((writeStatus_view writes).1.trans same) nofun

theorem decide_kept {action : DecideAction} (sound : before.view.Sound)
    (idle : before.task = .idle) :
    Kept before (.start (.decide action) now) (before.decide action now) := by
  have rested : ∀ after : Pipeline, after.view = before.view → after.task = .idle →
      Kept before (.start (.decide action) now) (after, []) := fun after sameView free =>
    Kept.still sound sameView (by rw [TaskSound, free]; trivial)
  rw [Pipeline.decide]
  split
  · exact rested _ rfl idle
  next restored restores =>
    have same : restored.view = before.view ∧ restored.task = before.task := by
      split at restores
      · exact writeStatus_view restores
      · cases restores
        exact ⟨rfl, rfl⟩
    split
    · exact rested _ same.1 (same.2.trans idle)
    · exact decideBlocked_kept sound same.1 (same.2.trans idle)

theorem starts_kept {entry : EntryPoint} (sound : before.Sound) (idle : before.task = .idle) :
    Kept before (.start entry now) (before.starts entry now) := by
  have still : Kept before (.start entry now) (before, []) := Kept.still sound.view rfl sound.task
  cases entry with
  | implCompleted attemptId =>
    rw [starts]
    split
    · exact still
    · exact Kept.still sound.view rfl trivial
  | childTerminal childId =>
    rw [starts]
    split
    · exact still
    · exact Kept.still sound.view rfl rfl
  | childClaimed childId assignedSessionId =>
    rw [starts]
    split
    · exact still
    · exact apply_entry_kept sound.view rfl nofun
  | tick pipelineCeilingMs => exact tick_kept sound
  | decide action => exact decide_kept sound.view idle

/-! ## Between the segments -/

theorem TaskSound.congr {after : Pipeline} (task : after.task = before.task)
    (state : after.stageState = before.stageState) (view : after.view = before.view)
    (sound : before.TaskSound) : after.TaskSound := by
  rw [TaskSound, task, state, view]
  exact sound

theorem happens_kept {event : Event} (sound : before.Sound) :
    Kept before (.happen event) (before.happens event, []) := by
  cases event with
  | childChanged childId state =>
    have same := changeChild_view before childId fun _ => state
    exact Kept.still sound.view same
      (@TaskSound.congr before (before.changeChild childId fun _ => state) rfl rfl same
        sound.task)
  | restarted => exact Kept.still sound.view rfl trivial
  | _ => exact Kept.still sound.view rfl sound.task

theorem respond_kept (input : PipelineInput) (sound : before.Sound) :
    Kept before input (before.respond input) := by
  cases input with
  | happen event => exact happens_kept sound
  | proceed answers => exact proceeds_kept sound
  | start entry now =>
    rw [respond]
    split
    next idle => exact starts_kept sound idle
    · exact Kept.still sound.view rfl sound.task

end Segments

/-! ## Runs -/

section Runs

variable {stagePlan : MeshTaskStagePlan} {light : Bool} {createdAt : Int}

def emissions (step : Machine.Step (pipelineMachine stagePlan light createdAt)) : List Emission :=
  step.output.2

def judgedChildren (step : Machine.Step (pipelineMachine stagePlan light createdAt)) :
    List String :=
  (emissions step).filterMap Emission.judged?

theorem enqueued_sound : (enqueued stagePlan light createdAt).Sound :=
  ⟨⟨nodup_nil, fun _ member => absurd member not_mem_nil⟩, trivial⟩

theorem reachable_sound {pipeline : Pipeline}
    (reachable : (pipelineMachine stagePlan light createdAt).Reachable pipeline) :
    pipeline.Sound := by
  have preserved : ∀ before input, before.Sound →
      ((pipelineMachine stagePlan light createdAt).next before input).Sound :=
    fun before input sound => (respond_kept input sound).sound
  exact Machine.Reachable.induction enqueued_sound preserved reachable

variable {step : Machine.Step (pipelineMachine stagePlan light createdAt)}

theorem mem_judgedChildren {childId : String} :
    childId ∈ judgedChildren step ↔ .judged childId ∈ emissions step := by
  constructor
  · intro member
    obtain ⟨emission, emitted, judged⟩ := mem_filterMap.mp member
    cases emission with
    | judged childId =>
      cases judged
      exact emitted
    | committed => cases judged
  · exact fun emitted => mem_filterMap.mpr ⟨_, emitted, rfl⟩

theorem judgedChildren_nodup (inputs : List PipelineInput) :
    (((pipelineMachine stagePlan light createdAt).steps inputs).flatMap
      judgedChildren).Nodup := by
  refine (Machine.pairwise_flatMap_stepsFrom
    (fun step => (pipelineMachine stagePlan light createdAt).Reachable step.before)
    (fun childId pipeline => Spent childId pipeline.view) ?_ ?_ ?_ ?_ inputs ?_).1
  · intro step reachable childId spent
    exact spent.onward (respond_kept step.input (reachable_sound reachable)).onward
  · intro step reachable childId judged
    exact (respond_kept step.input (reachable_sound reachable)).spent childId
      (mem_judgedChildren.mp judged)
  · rintro step reachable earlier spent childId judged rfl
    have sound := reachable_sound reachable
    have grounded := (respond_kept step.input sound).grounded _ (mem_judgedChildren.mp judged)
    generalize step.input = input at grounded
    cases grounded with
    | judged decides =>
      have left := spent.not_present sound.view decides.listed rfl decides.present
      exact absurd (left.symm.trans decides.reviewing) Bool.false_ne_true
  · intro step reachable
    have once := (respond_kept step.input (reachable_sound reachable)).once
    cases judged : judgedChildren step with
    | nil => exact List.Pairwise.nil
    | cons childId others =>
      have length : (judgedChildren step).length ≤ 1 := once
      rw [judged, length_cons] at length
      have alone : others = [] := length_eq_zero_iff.mp (by omega)
      rw [alone]
      exact pairwise_singleton _ _
  · exact fun step member => Machine.reachable_of_mem_steps member

/-- The last child of the present round has completed with an approving report, and
has left the checkout as it was. -/
def PassedReview (before : Pipeline) (answers : Answers) : Prop :=
  ∃ fresh review, Decides before fresh review ∧ review.report.verdict.approves = true ∧
    Untouched fresh answers

section

variable (reachable : (pipelineMachine stagePlan light createdAt).Reachable step.before)
include reachable

theorem grounds_of_completed {reason : CommitReason} (committed : .committed .completed reason ∈
      emissions step) : (∃ answers, step.input = .proceed answers ∧
      (NoDiff step.before answers ∨ PassedReview step.before answers)) ∨ ∃ now, step.input = .start
    (.decide .accept) now := by
  have grounded := (respond_kept step.input (reachable_sound reachable)).grounded _ committed
  generalize step.input = input at grounded
  cases grounded with
  | noDiff nothing => exact .inl ⟨_, rfl, .inl nothing⟩
  | passed decides approves untouched =>
    exact .inl ⟨_, rfl, .inr ⟨_, _, decides, approves, untouched⟩⟩
  | accepted => exact .inr ⟨_, rfl⟩

theorem present_of_judged {childId : String} (judged : childId ∈ judgedChildren step) : ∃ fresh
    review, Decides step.before fresh review ∧ fresh.id = childId := by
  have grounded := (respond_kept step.input (reachable_sound reachable)).grounded _
    (mem_judgedChildren.mp judged)
  generalize step.input = input at grounded
  cases grounded with
  | judged decides => exact ⟨_, _, decides, rfl⟩

end

/-- A task is completed by its stage only after a passed review or without a diff, or by its
owner, and no child is judged twice. -/
theorem completed_after_passed_review (stagePlan : MeshTaskStagePlan) (light : Bool)
    (createdAt : Int) (inputs : List PipelineInput) :
    let steps := (pipelineMachine stagePlan light createdAt).steps inputs
    (∀ step ∈ steps, ∀ reason, .committed .completed reason ∈ emissions step →
      (∃ answers, step.input = .proceed answers ∧
          (NoDiff step.before answers ∨ PassedReview step.before answers)) ∨
        ∃ now, step.input = .start (.decide .accept) now) ∧
    (∀ step ∈ steps, ∀ childId ∈ judgedChildren step,
      ∃ fresh review, Decides step.before fresh review ∧ fresh.id = childId) ∧
    (steps.flatMap judgedChildren).Nodup := by
  dsimp only
  refine ⟨?_, ?_, judgedChildren_nodup inputs⟩
  · intro step member reason committed
    exact grounds_of_completed (Machine.reachable_of_mem_steps member) committed
  · intro step member childId judged
    exact present_of_judged (Machine.reachable_of_mem_steps member) judged

end Runs

end Adhdev.StagePipeline
