import Adhdev.TurnLedger.SingleCommit

/-! # Recorded reports

A report of the current generation is what the attempt commits: weaker evidence
may bring the commit about, but not another outcome. -/

namespace Adhdev.TurnLedger

open MeshShared

def TurnAttempt.reported (attempt : TurnAttempt) : Bool :=
  attempt.data.report.any (·.generation == attempt.generation)

theorem reported_iff {attempt : TurnAttempt} : attempt.reported = true ↔
      ∃ report, attempt.data.report = some report ∧ report.generation = attempt.generation := by
  simp [TurnAttempt.reported, Option.any_eq_true]

def unreportedStates : List TurnState := [.accepted, .delivered, .finalizing]

/-! ## Where a report can be -/

section Placement

variable {input : ReduceInput} {attempt next : TurnAttempt} {result : ReduceResult}
  {lane : LaneClass} {rule : TransitionRule}

theorem unreported_of_moved (present : input.attempt = some attempt)
    (matched : Matched input lane rule) (moving : rule.isMoving = true)
    (moved : Moved rule attempt next)
    (placed : attempt.reported = true → attempt.state ∉ unreportedStates)
    (reported : next.reported = true) : next.state ∉ unreportedStates := by
  have checked : tableCheck (fun rule state => !rule.isMoving ||
      (!rule.footprint.report || !unreportedStates.contains (rule.nominal state)) &&
        (unreportedStates.contains state || !unreportedStates.contains (rule.nominal state) ||
          requires rule.facts (.is .reported false))) = true := by decide
  have property := matched.of_tableCheck checked present
  simp only [moving, Bool.not_true, Bool.false_or, Bool.and_eq_true, Bool.or_eq_true,
    Bool.not_eq_true', List.contains_eq_mem, decide_eq_true_eq, decide_eq_false_iff_not] at property
  rcases moved.state with nominal | ⟨_, suspended⟩
  · rw [nominal]
    rcases moved.report with same | ⟨touched, _⟩
    · have before : attempt.reported = true := by
        have generation : next.generation = attempt.generation :=
          congrArg AttemptCore.generation moved.core
        rw [TurnAttempt.reported, same, generation] at reported
        exact reported
      rcases property.2 with (inside | outside) | required
      · exact absurd inside (placed before)
      · exact outside
      have fact : reportedThisGeneration (input.guardCtx lane.effectiveGeneration) = false :=
        matched.described.requires required
      have known : reportedThisGeneration (input.guardCtx lane.effectiveGeneration) = true := by
        rw [reportedThisGeneration, ReduceInput.guardCtx, present]
        exact before
      rw [known] at fact
      cases fact
    rcases property.1 with untouched | outside
    · rw [untouched] at touched
      cases touched
    · exact outside
  · rw [suspended]
    decide

theorem not_mem_unreportedStates_of_terminal {state : TurnState} (ended : state.isTerminal = true) :
    state ∉ unreportedStates := by
  revert ended
  cases state <;> decide

theorem unreported_of_step (present : input.attempt = some attempt)
    (consistent : Consistent attempt input.holds)
    (placed : attempt.reported = true → attempt.state ∉ unreportedStates)
    (step : AttemptStep input attempt result) (nextPresent : result.attempt = some next)
    (reported : next.reported = true) : next.state ∉ unreportedStates := by
  cases holdStep_of_attemptStep consistent step nextPresent with
  | unchanged same =>
    subst same
    exact placed reported
  | moved applied moving _ moved =>
    exact unreported_of_moved present applied.matched moving moved placed reported
  | ended terminal => exact not_mem_unreportedStates_of_terminal terminal
  | stopBegun _ stopping =>
    subst stopping
    exact (by decide : TurnState.stopping ∉ unreportedStates)
  | waits stopping _ _ within =>
    rw [(within.state_eq rfl).trans stopping]
    decide
  | requeued _ _ _ requeued =>
    subst requeued
    rcases reported_iff.mp reported with ⟨report, recorded, generation⟩
    have le := consistent.dated.report report recorded
    have later : report.generation = attempt.generation + 1 := generation
    omega

theorem unreported_of_opening (step : OpeningStep input result)
    (present : result.attempt = some attempt) : attempt.reported = false := by
  cases step with
  | absent sameAttempt => cases sameAttempt.symm.trans present
  | dispatched _ opened | plain opened => cases opened.symm.trans present; rfl

theorem report_placed {state : LedgerState} (reachable : ledger.Reachable state)
    (present : state.attempt = some attempt) (reported : attempt.reported = true) :
    attempt.state ∉ unreportedStates := by
  refine attempt_invariant
    (fun attempt _ => attempt.reported = true → attempt.state ∉ unreportedStates) ?_ ?_ reachable
    present reported
  · intro _ _ _ step opened reported
    rw [unreported_of_opening step opened] at reported
    cases reported
  · intro _ _ _ _ present consistent placed step nextPresent reported
    exact unreported_of_step present consistent placed step nextPresent reported

end Placement

/-! ## Weaker evidence -/

def weakerKinds : List TurnEvidenceKind := [.turnEnd, .transcriptFinal, .noProgress, .holdExpired]

/-- An idle signal, or the expiry of a timer other than the ceiling. -/
def isWeakerThanReport (evidence : TurnEvidence) : Bool :=
  match evidence.body with
  | .turnEnd _ | .transcriptFinal _ | .noProgress _ => true
  | .holdExpired _ reason => reason != .hardCeiling
  | _ => false

def LedgerInput.capabilitiesIssued (input : LedgerInput) : Prop :=
  input.stopConfirmed = true ∨ input.writerUnreachable.isSome = true →
    input.evidence.kind = .operatorStatus

section Weaker

variable {input : ReduceInput} {attempt : TurnAttempt} {lane : LaneClass} {rule : TransitionRule}

theorem kind_of_weaker {evidence : TurnEvidence} (weaker : isWeakerThanReport evidence = true) :
    evidence.kind ∈ weakerKinds := by
  unfold isWeakerThanReport at weaker
  unfold TurnEvidence.kind
  cases body : evidence.body with
  | turnEnd | transcriptFinal | noProgress | holdExpired =>
    simp [TurnEvidenceBody.kind, weakerKinds]
  | _ => simp [body] at weaker

theorem not_ceiling_of_weaker {ctx : GuardCtx} (weaker : isWeakerThanReport ctx.evidence = true) :
    expiredReason ctx ≠ some .hardCeiling := by
  unfold isWeakerThanReport at weaker
  unfold expiredReason
  split
  · rename_i expiredId reason body
    simpa [body] using weaker
  · simp

theorem effects_of_weaker (present : input.attempt = some attempt)
    (matched : Matched input lane rule) (ending : rule.isEnding = true)
    (reported : attempt.reported = true) (running : attempt.state ∉ unreportedStates)
    (weaker : isWeakerThanReport input.evidence = true) :
    rule.effects = [commitRecordedReport] := by
  have checked : tableCheck (fun rule state => !rule.isEnding || unreportedStates.contains state ||
      rule.on.all (!weakerKinds.contains ·) || requires rule.facts (.is .reported false) ||
      requires rule.facts (.expired .hardCeiling) ||
      rule.effects == [commitRecordedReport]) = true := by decide
  have property := matched.of_tableCheck checked present
  simp only [ending, Bool.not_true, Bool.false_or, Bool.or_eq_true, List.contains_eq_mem,
    decide_eq_true_eq, running, false_or, beq_iff_eq] at property
  rcases property with ((elsewhere | unreported) | ceiling) | recorded
  · have absent := List.all_eq_true.mp elsewhere input.evidence.kind matched.on
    simp [kind_of_weaker weaker] at absent
  · have fact : reportedThisGeneration (input.guardCtx lane.effectiveGeneration) = false :=
      matched.described.requires unreported
    rw [reportedThisGeneration, ReduceInput.guardCtx, present] at fact
    cases fact.symm.trans reported
  · rcases matched.described.requires ceiling with ⟨hold, expired, reason⟩
    have named := expiredReason_of_expiredHold expired
    rw [reason] at named
    exact absurd named (not_ceiling_of_weaker weaker)
  · exact recorded

theorem commitAwaitsStop_of_weaker (weaker : isWeakerThanReport input.evidence = true)
    (effectiveGeneration : Option Int) :
    commitAwaitsStop (input.guardCtx effectiveGeneration) attempt .workerReported = false := by
  have kind := kind_of_weaker weaker
  have unfenced : input.evidence.kind ∉ stopFencedKinds := by
    revert kind
    cases input.evidence.kind <;> decide
  have evidence : (input.guardCtx effectiveGeneration).evidence = input.evidence := rfl
  simp [commitAwaitsStop, evidence, unfenced]

theorem committed_of_recordedReport (present : input.attempt = some attempt)
    {report : RecordedReport} (recorded : attempt.data.report = some report)
    (effects : rule.effects = [commitRecordedReport])
    (weaker : isWeakerThanReport input.evidence = true) (effectiveGeneration : Option Int) :
    Committed attempt (reportOutcome report.outcome) .toolReport .workerReported
      (initialDraft input) (ruleDraft input effectiveGeneration rule) := by
  have committed : Committed attempt (reportOutcome report.outcome) .toolReport .workerReported
      (initialDraft input)
      (commit (input.guardCtx effectiveGeneration) (initialDraft input)
        (reportOutcome report.outcome) .toolReport .workerReported
        (some (recordedReportText attempt))) :=
    committed_commit _ _ present (commitAwaitsStop_of_weaker weaker effectiveGeneration)
  have draft : applyEffects (input.guardCtx effectiveGeneration) rule.effects
      (initialDraft input) = commit (input.guardCtx effectiveGeneration) (initialDraft input)
        (reportOutcome report.outcome) .toolReport .workerReported
        (some (recordedReportText attempt)) := by
    have current : (initialDraft input).attempt = some attempt := present
    have uncommitted : (initialDraft input).committed = false := rfl
    simp only [effects, applyEffects, List.foldl_cons, List.foldl_nil, applyTemplate,
      commitRecordedReport, uncommitted, applyCommit, Draft.onAttempt, current, templateOutcome,
      recorded, templateReason, Option.map_some]
    rfl
  rw [ruleDraft, draft, settleTarget_of_committed committed.committed]
  exact committed

theorem unsettled_of_weaker {input : LedgerInput} (issued : input.capabilitiesIssued)
    (weaker : isWeakerThanReport input.evidence = true) :
    input.stopConfirmed = false ∧ input.writerUnreachable = none := by
  have notOperator : input.evidence.kind ≠ .operatorStatus := by
    intro operator
    have kind := kind_of_weaker weaker
    rw [operator] at kind
    revert kind
    decide
  constructor
  · cases confirmed : input.stopConfirmed with
    | false => rfl
    | true => exact absurd (issued (.inl confirmed)) notOperator
  cases unreachable : input.writerUnreachable with
  | none => rfl
  | some settledBy => exact absurd (issued (.inr (by rw [unreachable]; rfl))) notOperator

end Weaker

/-- A report of the current generation wins: the attempt is never finalizing, and
weaker evidence ends it only with the outcome of the report. -/
theorem report_wins {state : LedgerState} (reachable : ledger.Reachable state)
    {attempt : TurnAttempt} (present : state.attempt = some attempt) {report : RecordedReport}
    (recorded : attempt.data.report = some report)
    (current : report.generation = attempt.generation) : attempt.state ≠ .finalizing ∧
      ∀ input : LedgerInput, input.capabilitiesIssued → isWeakerThanReport input.evidence = true →
        commitsOf (ledger.respond state input).effects = [] ∧
            (ledger.next state input).ended = state.ended ∨
          ∃ effect, commitsOf (ledger.respond state input).effects = [effect] ∧
            effect.outcome = reportOutcome report.outcome ∧ effect.strength = .toolReport ∧
            EndsWith (ledger.next state input) effect := by
  have reported : attempt.reported = true := reported_iff.mpr ⟨report, recorded, current⟩
  have placed := report_placed reachable present reported
  have consistent := consistent_of_reachable reachable
  constructor
  · intro finalizing
    rw [finalizing] at placed
    exact placed (by decide)
  intro input issued weaker
  have silentCase : commitsOf (ledger.respond state input).effects = [] →
      commitsOf (ledger.respond state input).effects = [] ∧
        (ledger.next state input).ended = state.ended := by
    intro silent
    cases stepCommits_of_consistent consistent input with
    | nothing _ same => exact ⟨silent, same⟩
    | once commits => cases silent.symm.trans commits
  cases consistent.attemptStep present input with
  | unchanged _ _ settles | moved _ _ _ _ _ settles =>
        exact .inl (silentCase (commitsOf_eq_nil settles))
  | @settled lane rule _ _ applied ending _ _ _ _ _ ruled =>
    have inputPresent : (input.reduceInput state).attempt = some attempt := present
    have effects := effects_of_weaker inputPresent applied.matched ending reported placed weaker
    have committed := committed_of_recordedReport inputPresent recorded effects weaker
      lane.effectiveGeneration
    have yields : Yields (ledger.respond state input)
        (ruleDraft (input.reduceInput state) lane.effectiveGeneration rule) := by
      rw [ruled]
      exact ⟨rfl, rfl, rfl⟩
    exact .inr (commitsOf_of_committed rfl committed yields)
  | stopping _ _ _ _ step yields =>
    have flags := unsettled_of_weaker issued weaker
    cases step with
    | waits _ _ waits =>
      apply Or.inl
      apply silentCase
      rw [yields.effects]
      exact commitsOf_eq_nil (waits.settling.trans (settling_stoppingBase ..))
    | confirmed confirmed | requeued confirmed => cases flags.1.symm.trans confirmed
    | unreachable unreachable =>
      have isSome := Option.isSome_iff_exists.mpr ⟨_, unreachable⟩
      have given : input.writerUnreachable.isSome = true :=
        (unreachableSettlement_isSome.mp isSome).2.2
      rw [flags.2] at given
      cases given

def sampleReported : List LedgerInput :=
  sampleStarted ++
    [sampleInput 2 .workerTool (.workerReport { outcome := .blocked, hasHandoffNotes := false })]

/-- The end of its turn commits the reported block, not a completion. -/
theorem report_wins_blocked :
    (commitsOf (ledger.respond (ledger.run sampleReported)
        (sampleInput 3 .fsmEdge (.turnEnd { strength := .genuine }))).effects).map (·.outcome) =
        [.blocked] ∧
      ∃ effect, commitsOf (ledger.respond (ledger.run sampleReported)
          (sampleInput 3 .fsmEdge (.turnEnd { strength := .genuine }))).effects = [effect] ∧
        effect.outcome = .blocked ∧ effect.strength = .toolReport := by
  have blocked : (commitsOf (ledger.respond (ledger.run sampleReported)
      (sampleInput 3 .fsmEdge (.turnEnd { strength := .genuine }))).effects).map (·.outcome) =
        [.blocked] := by decide
  refine ⟨blocked, ?_⟩
  have recorded : (ledger.run sampleReported).attempt.bind (fun attempt =>
      attempt.data.report.map fun report =>
        (report.outcome, decide (report.generation = attempt.generation))) =
      some (.blocked, true) := by decide
  rcases Option.bind_eq_some_iff.mp recorded with ⟨attempt, present, found⟩
  rcases Option.map_eq_some_iff.mp found with ⟨report, isReport, equal⟩
  have outcome : report.outcome = .blocked := congrArg Prod.fst equal
  have current : report.generation = attempt.generation :=
    of_decide_eq_true (congrArg Prod.snd equal)
  have wins := (report_wins (Machine.reachable_run sampleReported) present isReport current).2
    (sampleInput 3 .fsmEdge (.turnEnd { strength := .genuine }))
    (fun issued => by rcases issued with wrong | wrong <;> cases wrong) rfl
  rcases wins with ⟨silent, _⟩ | ⟨effect, commits, sameOutcome, strength, _⟩
  · rw [silent] at blocked
    cases blocked
  · rw [outcome] at sameOutcome
    exact ⟨effect, commits, sameOutcome, strength⟩

end Adhdev.TurnLedger
