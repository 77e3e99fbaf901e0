import Adhdev.TurnLedger.Consistency

/-! # Single terminal commit

An ended attempt is final: no evidence changes it, apart from the time its
terminal notice was acknowledged, and none of its steps settles anything. So a
run commits at most once. -/

namespace Adhdev.TurnLedger

open MeshShared

/-! ## Ended attempts -/

/-- `next` is `attempt` up to the time of its acknowledged notice. -/
def TurnAttempt.SameButNotified (attempt next : TurnAttempt) : Prop :=
  next = { attempt with notifiedAt := next.notifiedAt }

section Ended

variable {input : ReduceInput} {attempt : TurnAttempt}

theorem sameButNotified_markNotified (ctx : GuardCtx) {draft : Draft}
    (present : draft.attempt = some attempt) :
    ∃ next, (markNotified ctx draft).attempt = some next ∧ attempt.SameButNotified next ∧
      (markNotified ctx draft).effects = draft.effects := by
  unfold markNotified
  split
  · simp only [Draft.update, present, Option.map_some]
    split <;> exact ⟨_, rfl, rfl, trivial⟩
  · exact ⟨attempt, present, rfl, rfl⟩

theorem rules_of_ended {lane : LaneClass} {rule : TransitionRule}
    (present : input.attempt = some attempt) (ended : attempt.state.isTerminal = true)
    (matched : Matched input lane rule) :
    rule.verdict = .recorded ∨ rule.effects = [.act .markNotified] ∧ rule.target = .same := by
  have checked : tableCheck (fun rule state => !state.isTerminal || rule.verdict == .recorded ||
      rule.effects == [.act .markNotified] && rule.target == .same) = true := by decide
  simpa [ended] using matched.of_tableCheck checked present

theorem sameButNotified_reduce (present : input.attempt = some attempt)
    (ended : attempt.state.isTerminal = true) :
    ∃ next, (reduce input).attempt = some next ∧ attempt.SameButNotified next ∧
      settling (reduce input).effects = [] := by
  have passed : ∀ lane, stoppingStop input lane = none := by
    intro lane
    have notStopping : attempt.state ≠ .stopping := by
      intro stopping
      rw [stopping] at ended
      cases ended
    cases lane <;> simp [stoppingStop, present, notStopping]
  unfold reduce
  split
  · exact ⟨attempt, present, rfl, rfl⟩
  rename_i lane classified
  rw [passed]
  dsimp only
  split
  · exact ⟨attempt, present, rfl, rfl⟩
  rename_i rule first
  have matched := matched_of_mem_matchingRules classified (List.mem_of_head? first)
  rcases rules_of_ended present ended matched with recorded | ⟨effects, target⟩
  · have untouched := untouched_of_recorded input lane.effectiveGeneration matched.member recorded
    exact ⟨attempt, untouched.sameAttempt.trans present, rfl, untouched.settling⟩
  have noted : ∃ next, (markNotified (input.guardCtx lane.effectiveGeneration)
      (initialDraft input)).attempt = some next ∧ attempt.SameButNotified next ∧ _ :=
    sameButNotified_markNotified _ present
  rcases noted with ⟨next, nextPresent, same, silent⟩
  have draft : ruleDraft input lane.effectiveGeneration rule =
      markNotified (input.guardCtx lane.effectiveGeneration) (initialDraft input) := by
    simp only [ruleDraft, settleTarget, effects, target]
    cases rule.verdict <;> rfl
  refine ⟨next, ?_, same, ?_⟩
  · rw [applyRule, draft]
    exact nextPresent
  · rw [applyRule, draft, silent]
    rfl

end Ended

/-! ## Commits of a run -/

def commitOf? : TurnEffect → Option CommitEffect
  | .commit effect => some effect
  | _ => none

def commitsOf (effects : List TurnEffect) : List CommitEffect :=
  effects.filterMap commitOf?

theorem commitsOf_settling (effects : List TurnEffect) :
    commitsOf (settling effects) = commitsOf effects := by
  unfold commitsOf settling
  rw [List.filterMap_filter]
  apply List.filterMap_congr
  intro effect _
  cases effect <;> rfl

theorem commitsOf_eq_nil {effects : List TurnEffect} (silent : settling effects = []) :
    commitsOf effects = [] := by
  rw [← commitsOf_settling, silent]
  rfl

theorem commitsOf_commitQueueEffects (attempt : TurnAttempt) (outcome : TurnOutcome)
    (reason : TurnReason) : commitsOf (commitQueueEffects attempt outcome reason) = [] := by
  unfold commitQueueEffects
  split
  · rfl
  split
  · split <;> rfl
  · split <;> rfl

theorem commitsOf_requeueEffects (attempt : TurnAttempt) (reason : TurnReason) :
    commitsOf (requeueEffects attempt reason) = [] := by
  unfold requeueEffects
  split
  · split <;> rfl
  · rfl

def LedgerState.ended (state : LedgerState) : Bool :=
  state.attempt.any (·.state.isTerminal)

structure EndsWith (after : LedgerState) (effect : CommitEffect) : Prop where
  recorded : ∃ attempt terminal, after.attempt = some attempt ∧ attempt.terminal = some terminal ∧
    attempt.state = outcomeState effect.outcome ∧ terminal.outcome = effect.outcome

theorem EndsWith.ended {after : LedgerState} {effect : CommitEffect}
    (ends : EndsWith after effect) : after.ended = true := by
  rcases ends.recorded with ⟨attempt, terminal, present, _, state, _⟩
  simp [LedgerState.ended, present, state]

inductive StepCommits (before after : LedgerState) (effects : List TurnEffect) : Prop
  | nothing (commits : commitsOf effects = []) (same : after.ended = before.ended)
  | once {effect : CommitEffect} (commits : commitsOf effects = [effect])
      (live : before.ended = false) (ends : EndsWith after effect)

section Committed

variable {result : ReduceResult} {base : TurnAttempt} {outcome : TurnOutcome}
  {strength : CommitStrength} {reason : TurnReason} {earlier after : Draft}

theorem commitsOf_of_committed (silent : settling earlier.effects = [])
    (committed : Committed base outcome strength reason earlier after)
    (yields : Yields result after) :
    ∃ effect, commitsOf result.effects = [effect] ∧ effect.outcome = outcome ∧
      effect.strength = strength ∧ EndsWith ⟨result.attempt, result.holds⟩ effect := by
  rcases committed.ended with ⟨terminal, present, sameOutcome, _⟩
  rcases committed.settling with ⟨effect, settles, effectOutcome, effectStrength, _⟩
  have commits : commitsOf result.effects = [effect] := by
    rw [yields.effects, ← commitsOf_settling, settles, silent]
    have rest := commitsOf_commitQueueEffects base outcome reason
    simpa [commitsOf, commitOf?] using rest
  refine ⟨effect, commits, effectOutcome, effectStrength, _, terminal,
    yields.attempt.trans present, rfl, ?_, ?_⟩
  · rw [effectOutcome, ← sameOutcome]
    rfl
  · rw [effectOutcome, sameOutcome]

theorem stepCommits_of_committed {before : LedgerState} (live : before.ended = false)
    (silent : settling earlier.effects = [])
    (committed : Committed base outcome strength reason earlier after)
    (yields : Yields result after) :
    StepCommits before ⟨result.attempt, result.holds⟩ result.effects := by
  rcases commitsOf_of_committed silent committed yields with ⟨effect, commits, _, _, ends⟩
  exact .once commits live ends

end Committed

variable {state : LedgerState}

theorem ended_of_present {attempt : TurnAttempt} (present : state.attempt = some attempt) :
    state.ended = attempt.state.isTerminal := by
  simp [LedgerState.ended, present]

theorem stepCommits_of_attemptStep {input : ReduceInput} {attempt : TurnAttempt}
    {result : ReduceResult} (present : state.attempt = some attempt)
    (inputPresent : input.attempt = some attempt) (step : AttemptStep input attempt result) :
    StepCommits state ⟨result.attempt, result.holds⟩ result.effects := by
  have before := ended_of_present present
  cases step with
  | unchanged sameAttempt _ settles =>
    refine .nothing (commitsOf_eq_nil settles) ?_
    rw [before, ended_of_present sameAttempt]
  | @moved lane rule next applied moving notStopping nextPresent moved settles _ _ =>
    refine .nothing (commitsOf_eq_nil settles) ?_
    rw [before, ended_of_present nextPresent]
    exact isTerminal_of_moved inputPresent applied.matched moving notStopping moved
  | settled _ _ live holds silent settled yields =>
    have notEnded : state.ended = false := before.trans (mem_nonterminalStates.mp live).2
    cases settled with
    | committed within committed => exact stepCommits_of_committed notEnded silent committed yields
    | stopBegun within mesh _ begun =>
      refine .nothing ?_ ?_
      · rw [yields.effects]
        exact commitsOf_eq_nil (begun.settling.trans silent)
      · rw [notEnded, ended_of_present (yields.attempt.trans begun.stopping)]
        rfl
  | @stopping lane stop after _ _ stopping pending step yields =>
    have notEnded : state.ended = false := by
      rw [before, stopping]
      rfl
    have silent := settling_stoppingBase input attempt stop
    cases step with
    | confirmed _ _ committed | unreachable _ _ committed =>
      rcases committed.committed with ⟨base, strength, _, ended⟩
      exact stepCommits_of_committed notEnded silent ended yields
    | @requeued settled _ _ _ requeued =>
      refine .nothing ?_ ?_
      · rw [yields.effects, ← commitsOf_settling, requeued.settling, silent]
        have rest := commitsOf_requeueEffects (withStop attempt settled) settled.reason
        simpa [commitsOf, commitOf?] using rest
      · rw [notEnded, ended_of_present (yields.attempt.trans requeued.next)]
        rfl
    | waits _ _ waits =>
      rcases waits.waits with ⟨waited, next, _, nextPresent, within⟩
      refine .nothing ?_ ?_
      · rw [yields.effects]
        exact commitsOf_eq_nil (waits.settling.trans silent)
      have state : next.state = .stopping := (within.state_eq rfl).trans stopping
      rw [notEnded, ended_of_present (yields.attempt.trans nextPresent), state]
      rfl

theorem stepCommits_of_openingStep {input : ReduceInput} {result : ReduceResult}
    (absent : state.attempt = none) (step : OpeningStep input result) :
    StepCommits state ⟨result.attempt, result.holds⟩ result.effects := by
  have before : state.ended = false := by simp [LedgerState.ended, absent]
  cases step with
  | absent sameAttempt _ settles =>
    refine .nothing (commitsOf_eq_nil settles) ?_
    rw [before]
    simp [LedgerState.ended, sameAttempt]
  | dispatched _ opened _ settles | plain opened _ settles =>
    refine .nothing (commitsOf_eq_nil settles) ?_
    rw [before, ended_of_present opened]
    rfl

theorem stepCommits_of_consistent (consistent : state.Consistent) (input : LedgerInput) :
    StepCommits state (ledger.next state input) (ledger.respond state input).effects := by
  cases present : state.attempt with
  | none => exact stepCommits_of_openingStep present (consistent.openingStep present input)
  | some attempt =>
    exact stepCommits_of_attemptStep present present (consistent.attemptStep present input)

def runCommits (inputs : List LedgerInput) : List CommitEffect :=
  (ledger.steps inputs).flatMap fun step => commitsOf step.output.effects

theorem ended_silent (step : ledger.Step) (ended : step.before.ended = true) :
    commitsOf step.output.effects = [] ∧ step.after.ended = true := by
  cases present : step.before.attempt with
  | none => simp [LedgerState.ended, present] at ended
  | some attempt =>
    rw [ended_of_present present] at ended
    have inputPresent : (step.input.reduceInput step.before).attempt = some attempt := present
    rcases sameButNotified_reduce inputPresent ended with ⟨next, nextPresent, same, silent⟩
    have afterPresent : step.after.attempt = some next := nextPresent
    refine ⟨commitsOf_eq_nil silent, ?_⟩
    rw [ended_of_present afterPresent, same]
    exact ended

theorem length_runCommits_le_one (inputs : List LedgerInput) : (runCommits inputs).length ≤ 1 := by
  have last : ∀ step : ledger.Step, step.before.Consistent →
      commitsOf step.output.effects = [] ∨
        (commitsOf step.output.effects).length = 1 ∧ step.after.ended = true := by
    intro step consistent
    cases stepCommits_of_consistent consistent step.input with
    | nothing commits => exact .inl commits
    | once commits _ ends => exact .inr ⟨congrArg List.length commits, ends.ended⟩
  refine Machine.length_flatMap_stepsFrom_le_one (fun state => state.ended = true)
    LedgerState.Consistent ?_ ended_silent last inputs ?_
  · exact fun _ input consistent => LedgerState.Consistent.next consistent input
  · exact consistent_of_reachable Machine.Reachable.run_initial

/-- An ended attempt never settles again; a run commits at most once, exactly on
the step that ends the attempt, and that step's state, terminal and commit agree. -/
theorem commits_once :
    (∀ (input : ReduceInput) (attempt : TurnAttempt), input.attempt = some attempt →
      attempt.state.isTerminal = true →
      ∃ next, (reduce input).attempt = some next ∧ attempt.SameButNotified next ∧
        ∀ effect ∈ (reduce input).effects, effect.isSettling = false) ∧
    ∀ inputs : List LedgerInput, (runCommits inputs).length ≤ 1 ∧ ∀ step ∈ ledger.steps inputs,
        (commitsOf step.output.effects ≠ [] ↔
          step.before.ended = false ∧ step.after.ended = true) ∧
        ∀ effect ∈ commitsOf step.output.effects, EndsWith step.after effect := by
  constructor
  · intro input attempt present ended
    rcases sameButNotified_reduce present ended with ⟨next, nextPresent, same, silent⟩
    refine ⟨next, nextPresent, same, ?_⟩
    intro effect member
    cases settles : effect.isSettling with
    | false => rfl
    | true =>
      have found := mem_settling.mpr ⟨member, settles⟩
      rw [silent] at found
      cases found
  intro inputs
  refine ⟨length_runCommits_le_one inputs, ?_⟩
  intro step member
  have reachable := Machine.reachable_of_mem_steps member
  cases stepCommits_of_consistent (consistent_of_reachable reachable) step.input with
  | nothing commits same =>
    have silent : commitsOf step.output.effects = [] := commits
    have unmoved : step.after.ended = step.before.ended := same
    rw [silent, unmoved]
    refine ⟨⟨fun wrong => absurd rfl wrong, ?_⟩, fun _ member => absurd member List.not_mem_nil⟩
    rintro ⟨live, ended⟩
    rw [live] at ended
    cases ended
  | @once effect commits live ends =>
    have one : commitsOf step.output.effects = [effect] := commits
    rw [one]
    refine ⟨⟨fun _ => ⟨live, ends.ended⟩, fun _ => List.cons_ne_nil _ _⟩, ?_⟩
    intro other member
    cases List.mem_singleton.mp member
    exact ends

/-- A worker reports twice: the first report is committed, the second changes
nothing. -/
def sampleReports : List LedgerInput :=
  [sampleOpening,
    sampleInput 1 .workerTool (.workerReport { outcome := .blocked, hasHandoffNotes := false }),
    sampleInput 2 .workerTool (.workerReport { outcome := .failed, hasHandoffNotes := false })]

theorem commits_once_reports :
    (runCommits sampleReports).length = 1 ∧ (runCommits sampleReports).length ≤ 1 ∧
      ∃ attempt next, (ledger.run sampleReports).attempt = some attempt ∧ attempt.state = .blocked ∧
        (reduce ((sampleInput 3 .operator (.cancel .operatorCancel)).reduceInput
          (ledger.run sampleReports))).attempt = some next ∧ attempt.SameButNotified next := by
  refine ⟨by decide, (commits_once.2 sampleReports).1, ?_⟩
  have reported : (ledger.run sampleReports).attempt.map (·.state) = some .blocked := by
    decide
  rcases Option.map_eq_some_iff.mp reported with ⟨attempt, present, state⟩
  rcases commits_once.1 ((sampleInput 3 .operator (.cancel .operatorCancel)).reduceInput
    (ledger.run sampleReports)) attempt present (by rw [state]; rfl) with
    ⟨next, nextPresent, same, _⟩
  exact ⟨attempt, next, present, state, nextPresent, same⟩

end Adhdev.TurnLedger
