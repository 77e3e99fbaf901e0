import Adhdev.TurnLedger.Stopping

/-! # The steps of an attempt

An attempt is running, stopping or ended, and its holds are shaped. Under this
invariant a reduce step leaves the attempt unchanged, moves it by a rule, ends it
or begins its stop by a rule, or is one of the steps of a stopping attempt; and
every such step keeps the invariant. -/

namespace Adhdev.TurnLedger

open MeshShared

/-! ## The invariant -/

inductive Phase (attempt : TurnAttempt) : Prop
  | running (live : attempt.state ∈ nonterminalStates) (idle : attempt.data.writerStop = none)
      (unended : attempt.terminal = none)
  | stopping {stop : WriterStop} (state : attempt.state = .stopping)
      (pending : attempt.data.writerStop = some stop) (unconfirmed : stop.confirmed = false)
      (unended : attempt.terminal = none) (mesh : isMeshScope attempt = true)
  | ended {terminal : TurnTerminal} (recorded : attempt.terminal = some terminal)
      (state : attempt.state = outcomeState terminal.outcome)

theorem mem_nonterminalStates {state : TurnState} :
    state ∈ nonterminalStates ↔ state ≠ .stopping ∧ state.isTerminal = false := by
  cases state <;> decide

namespace Phase

variable {attempt : TurnAttempt}

theorem idle_of_live (phase : Phase attempt) (live : attempt.state ∈ nonterminalStates) :
    attempt.data.writerStop = none ∧ attempt.terminal = none := by
  have notStopping := (mem_nonterminalStates.mp live).1
  have notEnded := (mem_nonterminalStates.mp live).2
  cases phase with
  | running _ idle unended => exact ⟨idle, unended⟩
  | stopping state => exact absurd state notStopping
  | ended _ state => simp [state] at notEnded

theorem stop_of_stopping (phase : Phase attempt) (stopping : attempt.state = .stopping) :
    ∃ stop, attempt.data.writerStop = some stop ∧ stop.confirmed = false ∧
      attempt.terminal = none ∧ isMeshScope attempt = true := by
  cases phase with
  | running live => exact absurd stopping (mem_nonterminalStates.mp live).1
  | stopping _ pending unconfirmed unended mesh => exact ⟨_, pending, unconfirmed, unended, mesh⟩
  | ended _ state =>
    have terminal := congrArg TurnState.isTerminal (stopping.symm.trans state)
    rw [isTerminal_outcomeState] at terminal
    cases terminal

theorem terminal_of_ended (phase : Phase attempt) (ended : attempt.state.isTerminal = true) :
    ∃ terminal, attempt.terminal = some terminal ∧
      attempt.state = outcomeState terminal.outcome := by
  cases phase with
  | running live => simp [(mem_nonterminalStates.mp live).2] at ended
  | stopping state => simp [state, TurnState.isTerminal] at ended
  | ended recorded state => exact ⟨_, recorded, state⟩

end Phase

structure Dated (attempt : TurnAttempt) : Prop where
  report : ∀ report, attempt.data.report = some report → report.generation ≤ attempt.generation
  suspension : ∀ suspension, attempt.data.providerSuspension = some suspension →
    suspension.generation ≤ attempt.generation

structure Consistent (attempt : TurnAttempt) (holds : List TurnHold) : Prop where
  phase : Phase attempt
  shaped : HoldsShaped attempt holds
  released : attempt.state.isTerminal = true → holds = []
  previous : attempt.prevGeneration.isSome = true → isMeshScope attempt = true
  dated : Dated attempt

def LedgerState.Consistent (state : LedgerState) : Prop :=
  match state.attempt with
  | none => state.holds = []
  | some attempt => TurnLedger.Consistent attempt state.holds

/-! ## The cases of a step -/

/-- `result` is read off the draft `after`. -/
structure Yields (result : ReduceResult) (after : Draft) : Prop where
  attempt : result.attempt = after.attempt
  holds : result.holds = after.holds.entries
  effects : result.effects = after.effects

structure Applied (input : ReduceInput) (lane : LaneClass) (rule : TransitionRule) : Prop where
  classified : classifyLane input.attempt input.evidence input.holds = .ok lane
  selected : rule ∈ matchingRules input
  applied : rule.verdict = .applied

theorem Applied.matched {input : ReduceInput} {lane : LaneClass} {rule : TransitionRule}
    (applied : Applied input lane rule) : Matched input lane rule :=
  matched_of_mem_matchingRules applied.classified applied.selected

/-- What one step makes of `attempt`. -/
inductive AttemptStep (input : ReduceInput) (attempt : TurnAttempt) (result : ReduceResult) :
    Prop
  | unchanged (sameAttempt : result.attempt = some attempt) (sameHolds : result.holds = input.holds)
      (settles : settling result.effects = [])
  | moved {lane : LaneClass} {rule : TransitionRule} {next : TurnAttempt}
      (applied : Applied input lane rule) (moving : rule.isMoving = true)
      (notStopping : attempt.state ≠ .stopping)
      (present : result.attempt = some next) (moved : Moved rule attempt next)
      (settles : settling result.effects = [])
      (shaped : HoldsShaped attempt result.holds)
      (fates : ∀ reason, (rule.fate (isMeshScope attempt) reason).Sound
        (input.guardCtx lane.effectiveGeneration) reason
        (heldFor input.holds reason) (heldFor result.holds reason))
      (ruled : result = applyRule input lane.effectiveGeneration rule)
  | settled {lane : LaneClass} {rule : TransitionRule} {before after : Draft}
      (applied : Applied input lane rule) (ending : rule.isEnding = true)
      (live : attempt.state ∈ nonterminalStates)
      (holds : before.holds.entries = input.holds) (silent : settling before.effects = [])
      (settled : Settled (input.guardCtx lane.effectiveGeneration) attempt before after)
      (yields : Yields result after)
      (ruled : result = applyRule input lane.effectiveGeneration rule)
  | stopping {lane : LaneClass} {stop : WriterStop} {after : Draft}
      (classified : classifyLane input.attempt input.evidence input.holds = .ok lane)
      (current : lane.lane = .current) (state : attempt.state = .stopping)
      (pending : attempt.data.writerStop = some stop)
      (step : StopStep input attempt stop after) (yields : Yields result after)

/-! ## Inversion -/

section Inversion

variable {input : ReduceInput} {attempt : TurnAttempt} {lane : LaneClass} {rule : TransitionRule}

section

variable (present : input.attempt = some attempt)
include present

theorem lane_of_attempt (classified : classifyLane input.attempt input.evidence input.holds = .ok
      lane) : lane.lane ≠ .none := by
  rw [present] at classified
  unfold classifyLane at classified
  dsimp only at classified
  split at classified
  · unfold classifyHoldExpired at classified
    dsimp only at classified
    split at classified
    · cases classified
    · split at classified <;> cases classified <;> simp
  split at classified
  · cases classified
  unfold classifySession at classified
  dsimp only at classified
  repeat' split at classified
  all_goals cases classified
  all_goals simp

theorem stoppingStop_eq_some {stopping : TurnAttempt} {stop : WriterStop}
    (found : stoppingStop input lane.lane = some (stopping, stop)) : stopping = attempt ∧ lane.lane
    = .current ∧ attempt.state = .stopping ∧ attempt.data.writerStop = some stop := by
  unfold stoppingStop at found
  rw [present] at found
  split at found
  · rename_i current same isCurrent
    cases same
    split at found
    · rename_i state
      rcases Option.map_eq_some_iff.mp found with ⟨pending, isPending, equal⟩
      cases equal
      exact ⟨rfl, isCurrent, beq_iff_eq.mp state, isPending⟩
    · cases found
  · cases found

theorem not_stopping (phase : Phase attempt) (matched : Matched input lane rule)
    (notNone : lane.lane ≠ .none) (applied : rule.verdict = .applied)
    (passed : stoppingStop input lane.lane = none) : attempt.state ≠ .stopping := by
  intro stopping
  have checked : tableCheck (fun rule state =>
      rule.lane != .stale || rule.verdict != .applied || state != .stopping) = true := by
    decide
  have notStale : rule.lane ≠ .stale := by
    have property := matched.of_tableCheck checked present
    simpa [applied, stopping] using property
  have current : lane.lane = .current := by
    rw [matched.sameLane] at notStale
    cases which : lane.lane
    · exact absurd which notNone
    · rfl
    · exact absurd which notStale
  rcases phase.stop_of_stopping stopping with ⟨stop, pending, _⟩
  simp [stoppingStop, present, current, stopping, pending] at passed

theorem live_of_ending (matched : Matched input lane rule) (ending : rule.isEnding = true) :
    attempt.state ∈ nonterminalStates := by
  have checked : tableCheck (fun rule state =>
      !rule.isEnding || nonterminalStates.contains state) = true := by decide
  have property := matched.of_tableCheck checked present
  simpa [ending] using property

end

theorem applied_or_recorded (member : rule ∈ transitions) :
    rule.verdict = .applied ∨ rule.verdict = .recorded := by
  have checked : (transitions.all fun rule =>
      rule.verdict == .applied || rule.verdict == .recorded) = true := by decide
  simpa using of_transitions checked member

theorem attemptStep_applyRule (present : input.attempt = some attempt)
    (consistent : Consistent attempt input.holds)
    (classified : classifyLane input.attempt input.evidence input.holds = .ok lane)
    (selected : rule ∈ matchingRules input) (passed : stoppingStop input lane.lane = none) :
    AttemptStep input attempt (applyRule input lane.effectiveGeneration rule) := by
  have matched := matched_of_mem_matchingRules classified selected
  have notNone := lane_of_attempt present classified
  have entries : (initialDraft input).holds.entries = input.holds :=
    consistent.shaped.entries_ofList
  rcases applied_or_recorded matched.member with applied | recorded
  · have notOpening : rule.lane ≠ .none := matched.sameLane ▸ notNone
    rcases moving_or_ending matched.member notOpening with moving | ending
    · rcases moved_of_moving matched moving present consistent.shaped with
        ⟨next, nextPresent, moved, settles, flows⟩
      refine .moved ⟨classified, selected, applied⟩ moving
        (not_stopping present consistent.phase matched notNone applied passed) nextPresent moved
        settles ⟨flows.shaped, KeyedMap.nodup _⟩ ?_ rfl
      intro reason
      have sound := flows.fates reason
      rw [entries] at sound
      exact sound
    have live := live_of_ending present matched ending
    have idle := (consistent.phase.idle_of_live live).1
    have notStopping := (mem_nonterminalStates.mp live).1
    rcases settled_of_ending matched ending present idle notStopping consistent.previous with
      ⟨before, sameHolds, silent, settled⟩
    exact .settled ⟨classified, selected, applied⟩ ending live (sameHolds ▸ entries) silent
      settled ⟨rfl, rfl, rfl⟩ rfl
  have untouched := untouched_of_recorded input lane.effectiveGeneration matched.member recorded
  refine .unchanged ?_ ?_ untouched.settling
  · exact untouched.sameAttempt.trans present
  · rw [applyRule, untouched.sameHolds]
    exact entries

theorem attemptStep_reduce (present : input.attempt = some attempt)
    (consistent : Consistent attempt input.holds) : AttemptStep input attempt (reduce input) := by
  unfold reduce
  split
  · exact .unchanged present rfl rfl
  rename_i lane classified
  split
  · rename_i stopping stop found
    rcases stoppingStop_eq_some present found with ⟨rfl, current, state, pending⟩
    exact .stopping classified current state pending
      (stopStep_stoppingDraft input consistent.shaped) ⟨rfl, rfl, rfl⟩
  rename_i passed
  split
  · exact .unchanged present rfl rfl
  · rename_i rule first
    exact attemptStep_applyRule present consistent classified (List.mem_of_head? first) passed

end Inversion

end Adhdev.TurnLedger
