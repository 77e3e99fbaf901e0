import Adhdev.Foundation.Machine
import Adhdev.StagePipeline.Moves

/-! # Bounds of the stage pipeline

What every run of the reducer keeps to, whatever events arrive: one release
between two decisions, two self-check bounces, two review children a round, and a
budget of review revisions.
-/

namespace Adhdev.StagePipeline

open MeshShared List Option Bool StageEffect MeshStagePhase

namespace StageEffect

def isRelease : StageEffect → Bool
  | release _ _ => true
  | _ => false

def isRevision (reason : RevisionReason) : StageEffect → Bool
  | sendRevision sent _ => sent == reason
  | _ => false

def isChildOf (round : Nat) : StageEffect → Bool
  | createReviewChild created _ => created == round
  | _ => false

end StageEffect

def bouncesSent (effects : List StageEffect) : Nat :=
  effects.countP (·.isRevision .selfCheck)

def revisionsSent (effects : List StageEffect) : Nat :=
  effects.countP (·.isRevision .review)

def childrenCreated (round : Nat) (effects : List StageEffect) : Nat :=
  effects.countP (·.isChildOf round)

/-! ## Runs -/

/-- A run so far: the state, the effects in the order they were emitted, and the
accepted decisions. A decision is stray where the round number stops counting
revisions: a rereview of a block raised in a review, or a revision of a block
raised while the change was worked on. -/
structure StageHistory where
  state : MeshTaskStageState
  effects : List StageEffect := []
  /-- The phase that the last block or release ended. -/
  endedPhase : MeshStagePhase := .implementing
  granted : Nat := 0
  strayRereviews : Nat := 0
  strayRevisions : Nat := 0

def countIf (counts : Bool) : Nat := if counts then 1 else 0

def StageEvent.isReviseOnce : StageEvent → Bool
  | .decideReviseOnce _ => true
  | _ => false

def StageEvent.isRereview : StageEvent → Bool
  | .decideRereview _ => true
  | _ => false

/-- What the invariants read of a history. -/
structure StageTally where
  core : StageCore
  effects : List StageEffect
  endedPhase : MeshStagePhase
  granted : Nat
  strayRereviews : Nat
  strayRevisions : Nat

namespace StageTally

def openPhase (tally : StageTally) : MeshStagePhase :=
  if tally.core.phase = .done then tally.endedPhase else tally.core.phase

def next (tally : StageTally) (event : StageEvent) (core : StageCore)
    (effects : List StageEffect) : StageTally where
  core := core
  effects := tally.effects ++ effects
  endedPhase := tally.openPhase
  granted := tally.granted + countIf event.isReviseOnce
  strayRereviews := tally.strayRereviews + countIf (event.isRereview && tally.openPhase.isReview)
  strayRevisions := tally.strayRevisions + countIf (event.isReviseOnce && !tally.openPhase.isReview)

end StageTally

namespace StageHistory

def tally (history : StageHistory) : StageTally where
  core := history.state.core
  effects := history.effects
  endedPhase := history.endedPhase
  granted := history.granted
  strayRereviews := history.strayRereviews
  strayRevisions := history.strayRevisions

def next (plan : MeshTaskStagePlan) (history : StageHistory) (event : StageEvent) : StageHistory :=
  match reduceStage plan history.state event with
  | none => history
  | some reduction =>
    let openPhase := if history.state.phase = .done then history.endedPhase
      else history.state.phase
    { state := reduction.state
      effects := history.effects ++ reduction.effects
      endedPhase := openPhase
      granted := history.granted + countIf event.isReviseOnce
      strayRereviews := history.strayRereviews + countIf (event.isRereview && openPhase.isReview)
      strayRevisions :=
        history.strayRevisions + countIf (event.isReviseOnce && !openPhase.isReview) }

variable {plan : MeshTaskStagePlan} {history : StageHistory} {event : StageEvent}
variable {reduction : StageReduction}

theorem next_of_none (stays : reduceStage plan history.state event = none) :
    history.next plan event = history := by
  simp [next, stays]

theorem tally_next (moves : reduceStage plan history.state event = some reduction) :
    (history.next plan event).tally =
      history.tally.next event reduction.state.core reduction.effects := by
  simp only [next, moves]
  rfl

def budget (plan : MeshTaskStagePlan) (history : StageHistory) : Nat :=
  plan.maxRevisions + history.granted

end StageHistory

/-- The reducer from the initial state of a pipeline. -/
def stageMachine (plan : MeshTaskStagePlan) (now : Int) :
    Machine StageHistory StageEvent StageHistory where
  initial := { state := initialStageState now }
  respond := StageHistory.next plan
  advance history := history

/-! ## Accounting -/

/-- The counters of the state against what was emitted. -/
structure Accounted (tally : StageTally) : Prop where
  bounces : bouncesSent tally.effects = tally.core.bounces
  few : tally.core.bounces ≤ stageSelfCheckMaxBounces
  ahead : ∀ round, tally.core.round < round → childrenCreated round tally.effects = 0
  pairs : ∀ round, childrenCreated round tally.effects ≤ 2
  single : tally.core.phase.isReview = true → tally.core.failures = 0 →
    childrenCreated tally.core.round tally.effects ≤ 1
  granted : tally.granted = tally.core.extra
  budget : tally.core.round + tally.strayRevisions =
    revisionsSent tally.effects + tally.strayRereviews + countIf tally.openPhase.isReview

section Counts

variable {effects sent : List StageEffect}

@[simp] theorem bouncesSent_append :
    bouncesSent (effects ++ sent) = bouncesSent effects + bouncesSent sent :=
  countP_append

@[simp] theorem revisionsSent_append :
    revisionsSent (effects ++ sent) = revisionsSent effects + revisionsSent sent :=
  countP_append

@[simp] theorem childrenCreated_append {round : Nat} : childrenCreated round (effects ++ sent) =
      childrenCreated round effects + childrenCreated round sent :=
  countP_append

theorem childrenCreated_single {round created : Nat} {reuse : Option String} :
    childrenCreated round [.createReviewChild created reuse] = countIf (created == round) := by
  cases same : created == round <;> simp [childrenCreated, isChildOf, countIf, same]

end Counts

theorem initially_accounted (now : Int) :
    Accounted { state := initialStageState now : StageHistory }.tally where
  bounces := rfl
  few := Nat.zero_le 2
  ahead _ _ := rfl
  pairs _ := Nat.zero_le 2
  single reviews := by cases reviews
  granted := rfl
  budget := rfl

namespace StageMove

variable {plan : MeshTaskStagePlan} {core later : StageCore} {event : StageEvent}
variable {sent : List StageEffect}

theorem bounces_eq (move : StageMove plan core event later sent) :
    later.bounces = core.bounces + bouncesSent sent := by
  cases move <;> rfl

theorem few_bounces (move : StageMove plan core event later sent)
    (few : core.bounces ≤ stageSelfCheckMaxBounces) : later.bounces ≤ stageSelfCheckMaxBounces := by
  cases move with
  | bounces plain checks free => exact free
  | _ => exact few

theorem isReviseOnce_of_plain (plain : event.isPlain = true) : event.isReviseOnce = false := by
  cases event <;> first | rfl | cases plain

theorem isRereview_of_plain (plain : event.isPlain = true) : event.isRereview = false := by
  cases event <;> first | rfl | cases plain

section

variable (move : StageMove plan core event later sent)
include move

theorem extra_eq : later.extra = core.extra + countIf event.isReviseOnce := by
  cases move with
  | revises | rereviews | approves | requests | refuses => rfl
  | reports plain | concludes plain | bounces plain | opensRound plain
  | starts plain | blocks plain | replaces plain => simp [isReviseOnce_of_plain plain, countIf]

theorem children_cases : (later.round = core.round ∧ (∀ round, childrenCreated round sent = 0) ∧
      (later.phase.isReview = true → core.phase.isReview = true ∧ later.failures = core.failures))
    ∨ (later.round = core.round + 1 ∧ ∀ round, childrenCreated round sent = countIf (core.round + 1
      == round)) ∨ (later.round = core.round ∧ core.phase.isReview = true ∧ core.failures = 0 ∧
      later.failures = 1 ∧ ∀ round, childrenCreated round sent = countIf
      (core.round == round)) := by
  cases move with
  | starts plain waits => exact .inl ⟨rfl, fun _ => rfl, fun _ => ⟨by rw [waits]; rfl, rfl⟩⟩
  | opensRound | rereviews => exact .inr (.inl ⟨rfl, fun _ => childrenCreated_single⟩)
  | replaces plain reviews first =>
    exact .inr (.inr ⟨rfl, reviews, first, rfl, fun _ => childrenCreated_single⟩)
  | _ => exact .inl ⟨rfl, fun _ => rfl, nofun⟩

theorem budget_eq {ended : MeshStagePhase} {openPhase laterPhase : MeshStagePhase}
    (isOpen : openPhase = if core.phase = .done then ended else core.phase)
    (isLater : laterPhase = if later.phase = .done then openPhase else later.phase) : later.round +
    countIf openPhase.isReview + countIf (event.isReviseOnce && !openPhase.isReview) = core.round +
    revisionsSent sent + countIf laterPhase.isReview + countIf
    (event.isRereview && openPhase.isReview) := by
  subst isOpen isLater
  cases move with
  | revises decided | rereviews decided =>
    cases reviewed : ended.isReview <;>
      simp [decided, reviewed, StageEvent.isReviseOnce, StageEvent.isRereview, countIf,
        revisionsSent, isRevision]
  | reports plain works | concludes plain works =>
    simp [isReviseOnce_of_plain plain, isRereview_of_plain plain, countIf,
      revisionsSent, isRevision, ne_done_of_isWork works,
      not_isReview_of_isWork works]
  | bounces plain checks | opensRound plain checks | starts plain checks =>
    simp [isReviseOnce_of_plain plain, isRereview_of_plain plain, countIf,
      revisionsSent, isRevision, checks]
  | blocks plain goesOn =>
    simp [isReviseOnce_of_plain plain, isRereview_of_plain plain, countIf,
      revisionsSent, isRevision]
  | replaces plain reviews =>
    simp [isReviseOnce_of_plain plain, isRereview_of_plain plain, countIf,
      revisionsSent, isRevision, reviews, ne_done_of_isReview reviews]
  | approves reviews | refuses reviews | requests reviews =>
    simp [StageEvent.isReviseOnce, StageEvent.isRereview, countIf, revisionsSent,
      isRevision, reviews, ne_done_of_isReview reviews]

end

end StageMove

namespace Accounted

variable {plan : MeshTaskStagePlan} {tally : StageTally} {event : StageEvent}
variable {core : StageCore} {sent : List StageEffect}

theorem next (accounted : Accounted tally) (move : StageMove plan tally.core event core sent) :
    Accounted (tally.next event core sent) := by
  have budget : core.round + countIf tally.openPhase.isReview +
        countIf (event.isReviseOnce && !tally.openPhase.isReview) =
      tally.core.round + revisionsSent sent +
        countIf (tally.next event core sent).openPhase.isReview +
        countIf (event.isRereview && tally.openPhase.isReview) :=
    move.budget_eq rfl rfl
  refine ⟨?_, move.few_bounces accounted.few, ?_, ?_, ?_, ?_, ?_⟩
  · rw [StageTally.next, bouncesSent_append, accounted.bounces, move.bounces_eq]
  · intro round ahead
    simp only [StageTally.next, childrenCreated_append] at ahead ⊢
    rcases move.children_cases with ⟨same, created, _⟩ | ⟨opened, created⟩ |
      ⟨same, _, _, _, created⟩
    · rw [created, accounted.ahead round (by omega)]
    · rw [created, accounted.ahead round (by omega)]
      simp [countIf, show tally.core.round + 1 ≠ round by omega]
    · rw [created, accounted.ahead round (by omega)]
      simp [countIf, show tally.core.round ≠ round by omega]
  · intro round
    simp only [StageTally.next, childrenCreated_append]
    have pairs := accounted.pairs round
    rcases move.children_cases with ⟨same, created, _⟩ | ⟨opened, created⟩ |
      ⟨same, reviews, first, _, created⟩
    · rw [created]
      exact pairs
    · rw [created]
      by_cases new : tally.core.round + 1 = round
      · simp [countIf, new, accounted.ahead round (by omega)]
      · simpa [countIf, new] using pairs
    · rw [created]
      by_cases present : tally.core.round = round
      · subst present
        have single := accounted.single reviews first
        simp only [countIf, beq_self_eq_true, if_true]
        omega
      · simpa [countIf, present] using pairs
  · intro reviews first
    simp only [StageTally.next, childrenCreated_append] at reviews first ⊢
    rcases move.children_cases with ⟨same, created, kept⟩ | ⟨opened, created⟩ |
      ⟨same, _, _, second, created⟩
    · obtain ⟨wasReview, failures⟩ := kept reviews
      rw [created, same]
      exact accounted.single wasReview (failures ▸ first)
    · rw [created, opened, accounted.ahead _ (Nat.lt_succ_self _)]
      simp [countIf]
    · rw [second] at first
      cases first
  · rw [StageTally.next, accounted.granted, move.extra_eq]
  have before := accounted.budget
  have sentSoFar : revisionsSent (tally.next event core sent).effects =
      revisionsSent tally.effects + revisionsSent sent := revisionsSent_append
  have strayRevisions : (tally.next event core sent).strayRevisions = tally.strayRevisions +
      countIf (event.isReviseOnce && !tally.openPhase.isReview) := rfl
  have strayRereviews : (tally.next event core sent).strayRereviews = tally.strayRereviews +
      countIf (event.isRereview && tally.openPhase.isReview) := rfl
  have round : (tally.next event core sent).core.round = core.round := rfl
  omega

end Accounted

section Run

variable {plan : MeshTaskStagePlan} {history : StageHistory} {event : StageEvent}

theorem accounted_next (accounted : Accounted history.tally) (event : StageEvent) :
    Accounted (history.next plan event).tally := by
  cases moves : reduceStage plan history.state event with
  | none =>
    rw [StageHistory.next_of_none moves]
    exact accounted
  | some reduction =>
    rw [StageHistory.tally_next moves]
    exact accounted.next (move_of_reduceStage moves)

theorem accounted_run (plan : MeshTaskStagePlan) (now : Int) (events : List StageEvent) :
    Accounted ((stageMachine plan now).run events).tally :=
  @Machine.runFrom_induction _ _ _ (stageMachine plan now) (fun history => Accounted history.tally)
    (fun _ event accounted => accounted_next accounted event) events _ (initially_accounted now)

/-! ## Releases -/

def NothingAfterRelease (sent : List StageEffect) : Prop :=
  sent.Pairwise fun earlier _ => earlier.isRelease = false

theorem StageMove.release_cases {core later : StageCore} {sent : List StageEffect}
    (move : StageMove plan core event later sent) :
    (later.phase = .done ∧ NothingAfterRelease sent) ∨
      ∀ effect ∈ sent, effect.isRelease = false := by
  cases move with
  | concludes | approves | refuses | blocks =>
    exact .inl ⟨rfl, by simp [NothingAfterRelease, isRelease]⟩
  | _ => exact .inr (by simp [isRelease])

theorem next_of_done (ended : history.state.phase = .done) (undecided : event.isDecide = false) :
    history.next plan event = history :=
  StageHistory.next_of_none (by simp [reduceStage, ended, undecided])

theorem runFrom_of_done {now : Int} (ended : history.state.phase = .done)
    {events : List StageEvent} (undecided : ∀ event ∈ events, event.isDecide = false) :
    (stageMachine plan now).runFrom history events = history := by
  induction events with
  | nil => rfl
  | cons event events induction =>
    have stays : (stageMachine plan now).next history event = history :=
      next_of_done ended (undecided event mem_cons_self)
    rw [Machine.runFrom, stays]
    exact induction fun other member => undecided other (mem_cons_of_mem event member)

theorem sent_of_undecided {now : Int} {events : List StageEvent}
    (undecided : ∀ event ∈ events, event.isDecide = false) (history : StageHistory) :
    ∃ sent, ((stageMachine plan now).runFrom history events).effects = history.effects ++ sent ∧
      NothingAfterRelease sent := by
  induction events generalizing history with
  | nil => exact ⟨[], (append_nil _).symm, List.Pairwise.nil⟩
  | cons event events induction =>
    have rest : ∀ event ∈ events, event.isDecide = false :=
      fun other member => undecided other (mem_cons_of_mem event member)
    have step : (stageMachine plan now).next history event = history.next plan event := rfl
    rw [Machine.runFrom, step]
    cases moves : reduceStage plan history.state event with
    | none =>
      rw [StageHistory.next_of_none moves]
      exact induction rest history
    | some reduction =>
      have effects : (history.next plan event).effects =
          history.effects ++ reduction.effects := by
        simp only [StageHistory.next, moves]
      have phase : (history.next plan event).state = reduction.state := by
        simp only [StageHistory.next, moves]
      rcases (move_of_reduceStage moves).release_cases with ⟨ended, last⟩ | none
      · have ended : (history.next plan event).state.phase = .done := by
          rw [phase]
          exact ended
        rw [runFrom_of_done ended rest, effects]
        exact ⟨reduction.effects, rfl, last⟩
      obtain ⟨sent, later, last⟩ := induction rest (history.next plan event)
      refine ⟨reduction.effects ++ sent, ?_, ?_⟩
      · rw [later, effects, append_assoc]
      refine pairwise_append.mpr ⟨?_, last, fun effect member _ _ =>
        none effect member⟩
      exact List.Pairwise.imp_of_mem (fun member _ _ => none _ member)
        (pairwise_of_forall (R := fun _ _ => True) fun _ _ => trivial)

end Run

/-! ## The bounds -/

namespace StageHistory

/-- A verdict that asks for changes and names what blocks arrives at a review. -/
def Requested (history : StageHistory) (event : StageEvent) : Prop :=
  history.state.phase.isReview = true ∧ ∃ child report session independence at_,
    event = .reviewVerdict child report session independence at_ ∧
      report.verdict = .changesRequested ∧ report.blocking ≠ []

def SendsRevision (plan : MeshTaskStagePlan) (history : StageHistory) (event : StageEvent) : Prop :=
  ∃ reduction, reduceStage plan history.state event = some reduction ∧
    ∃ effect ∈ reduction.effects, effect.isRevision .review = true

/-- The stray decisions do not move the round number across the budget. -/
def Level (plan : MeshTaskStagePlan) (history : StageHistory) : Prop :=
  history.state.round ≤ history.budget plan ↔
    history.state.round + history.strayRevisions ≤ history.budget plan + history.strayRereviews

end StageHistory

structure Bounded (plan : MeshTaskStagePlan) (now : Int) (events : List StageEvent) : Prop where
  release : ∀ earlier middle, earlier ++ middle <+: events →
    (∀ event ∈ middle, event.isDecide = false) → ∀ sent,
    ((stageMachine plan now).run (earlier ++ middle)).effects =
      ((stageMachine plan now).run earlier).effects ++ sent → NothingAfterRelease sent
  bounces : bouncesSent ((stageMachine plan now).run events).effects ≤ 2
  children : ∀ round, childrenCreated round ((stageMachine plan now).run events).effects ≤ 2
  revisions : ∀ earlier event, earlier ++ [event] <+: events →
    ((stageMachine plan now).run earlier).Requested event →
    (((stageMachine plan now).run earlier).SendsRevision plan event ↔
      revisionsSent ((stageMachine plan now).run earlier).effects <
        ((stageMachine plan now).run earlier).budget plan)

section Verdicts

variable {plan : MeshTaskStagePlan} {history : StageHistory} {event : StageEvent}

theorem reduceReviewVerdict_isSome {state : MeshTaskStageState} {report : MeshReviewReport}
    {session : Option String} {independence : Option MeshStageIndependenceUsed} {at_ : Int}
    (reviews : state.phase.isReview = true) :
    (reduceReviewVerdict plan state report session independence at_).isSome = true := by
  unfold reduceReviewVerdict
  split
  · simp_all
  dsimp only
  split
  · rfl
  split
  · rfl
  · split <;> rfl

theorem StageMove.request_cases {core later : StageCore} {child : String}
    {report : MeshReviewReport} {session : Option String}
    {independence : Option MeshStageIndependenceUsed} {at_ : Int} {sent : List StageEffect}
    (move : StageMove plan core (.reviewVerdict child report session independence at_) later sent)
    (verdict : report.verdict = .changesRequested) (named : report.blocking ≠ []) :
    (core.round ≤ plan.maxRevisions + core.extra ∧ sent = [.sendRevision .review core.round]) ∨
      (plan.maxRevisions + core.extra < core.round ∧
        ∃ reason, sent = [.cancelReviewChildren, .release .blocked reason]) := by
  cases move with
  | requests _ _ _ within => exact .inl ⟨within, rfl⟩
  | refuses _ refused =>
    rcases refused with rejects | ⟨_, _, beyond⟩
    · rw [verdict] at rejects
      cases rejects
    · exact .inr ⟨beyond, _, rfl⟩
  | approves _ passes =>
    rcases passes with approves | ⟨_, clean⟩
    · rw [verdict] at approves
      cases approves
    · exact absurd clean named
  | reports plain | concludes plain | bounces plain | opensRound plain | starts plain
  | blocks plain | replaces plain => cases plain

theorem sendsRevision_iff (requested : history.Requested event) : history.SendsRevision plan event ↔
      history.state.round ≤ plan.maxRevisions + history.state.extraRevisions := by
  obtain ⟨reviews, child, report, session, independence, at_, rfl, verdict, named⟩ := requested
  have moves : reduceStage plan history.state
      (.reviewVerdict child report session independence at_) =
        reduceReviewVerdict plan history.state report session independence at_ := by
    simp [reduceStage, ne_done_of_isReview reviews]
  obtain ⟨reduction, taken⟩ := isSome_iff_exists.mp
    (@reduceReviewVerdict_isSome plan _ report session independence at_ reviews)
  have move := (move_of_reduceStage (moves.trans taken)).request_cases verdict named
  unfold StageHistory.SendsRevision
  rw [moves, taken]
  constructor
  · rintro ⟨_, ⟨⟩, effect, member, isRevision⟩
    rcases move with ⟨within, _⟩ | ⟨_, reason, effects⟩
    · exact within
    rw [effects] at member
    revert isRevision
    rcases mem_cons.mp member with rfl | member
    · exact nofun
    · rw [mem_singleton.mp member]
      exact nofun
  intro within
  rcases move with ⟨_, effects⟩ | ⟨beyond, _⟩
  · exact ⟨reduction, rfl, _, by rw [effects]; exact .head _, rfl⟩
  · exact absurd within (Nat.not_le_of_lt beyond)

theorem revisions_iff_level (accounted : Accounted history.tally)
    (requested : history.Requested event) : (history.SendsRevision plan event ↔
      revisionsSent history.effects < history.budget plan) ↔ history.Level plan := by
  have reviews := requested.1
  have granted : history.granted = history.state.extraRevisions := accounted.granted
  have counted : history.state.round + history.strayRevisions =
      revisionsSent history.effects + history.strayRereviews + 1 := by
    have budget := accounted.budget
    have openPhase : history.tally.openPhase = history.state.phase :=
      if_neg (ne_done_of_isReview reviews)
    rw [openPhase, reviews] at budget
    exact budget
  rw [sendsRevision_iff requested, StageHistory.Level, StageHistory.budget, ← granted]
  omega

end Verdicts

/-- The bounds hold of every run, but for the budget, which is exact while the stray
decisions are level. -/
theorem bounded_iff (plan : MeshTaskStagePlan) (now : Int) (events : List StageEvent) :
    Bounded plan now events ↔ ∀ earlier event, earlier ++ [event] <+: events →
      ((stageMachine plan now).run earlier).Requested event →
      ((stageMachine plan now).run earlier).Level plan := by
  constructor
  · intro bounded earlier event isPrefix requested
    exact (revisions_iff_level (accounted_run plan now earlier) requested).mp
      (bounded.revisions earlier event isPrefix requested)
  intro level
  have accounted := accounted_run plan now events
  refine ⟨?_, ?_, accounted.pairs, ?_⟩
  · intro earlier middle _ undecided sent same
    obtain ⟨emitted, effects, last⟩ :=
      @sent_of_undecided plan now middle undecided ((stageMachine plan now).run earlier)
    rw [Machine.run_append] at same
    have equal : emitted = sent := List.append_cancel_left (effects.symm.trans same)
    exact equal ▸ last
  · exact accounted.bounces.trans_le accounted.few
  intro earlier event isPrefix requested
  exact (revisions_iff_level (accounted_run plan now earlier) requested).mpr
    (level earlier event isPrefix requested)

namespace Scenario

def plan : MeshTaskStagePlan := { maxRevisions := 1, independence := .freshSessionOk }

def finding : MeshReviewFinding := {
  id := "f1", severity := .blocking, category := .correctness, file := none, line := none
  claim := "off by one", evidence := "read the loop", suggestedFix := none }

def requestsChanges : MeshReviewReport := {
  verdict := .changesRequested, findings := [finding], priorFindings := none
  checked := ["loop"], notChecked := ["docs"], testsRun := none }

/-- Both reviewers of the first round fail, and the coordinator asks for a rereview. -/
def rereviewed : List StageEvent := [
  .implCompleted none none true 1, .selfCheckDone .passed 2, .reviewerUnavailable "c1" 3,
  .reviewerUnavailable "c2" 4, .decideRereview 5]

def verdict : StageEvent := .reviewVerdict "c3" requestsChanges none none 6

end Scenario

open Scenario in
/-- The first request for changes blocks the pipeline although no revision was sent. -/
theorem rereview_not_bounded : ¬ Bounded plan 0 (rereviewed ++ [verdict]) := by
  intro bounded
  have requested : ((stageMachine plan 0).run rereviewed).Requested verdict :=
    ⟨rfl, "c3", requestsChanges, none, none, 6, rfl, rfl, by decide⟩
  have sends := (bounded.revisions rereviewed verdict (List.prefix_refl _) requested).mpr
    (by decide)
  have within := (sendsRevision_iff requested).mp sends
  revert within
  decide

end Adhdev.StagePipeline
