import Adhdev.TurnLedger.Consistency

/-! # Writer stops

A mesh attempt that has to be taken away from its worker first stops the worker.
The record of the stop and the `stopping` state go together. -/

namespace Adhdev.TurnLedger

open MeshShared

/-! ## The record and the state -/

def TurnAttempt.stopPending (attempt : TurnAttempt) : Prop :=
  (∃ stop, attempt.data.writerStop = some stop ∧ stop.confirmed = false) ∧ attempt.terminal = none

theorem Consistent.stopping_iff {attempt : TurnAttempt} {holds : List TurnHold}
    (consistent : Consistent attempt holds) : attempt.state = .stopping ↔ attempt.stopPending := by
  constructor
  · intro stopping
    rcases consistent.phase.stop_of_stopping stopping with
      ⟨stop, pending, unconfirmed, unended, _⟩
    exact ⟨⟨stop, pending, unconfirmed⟩, unended⟩
  rintro ⟨⟨stop, pending, unconfirmed⟩, unended⟩
  cases consistent.phase with
  | running _ idle => cases idle.symm.trans pending
  | stopping state => exact state
  | ended recorded => cases unended.symm.trans recorded

variable {template : EffectTemplate}

theorem quiet_before_settling {rule : TransitionRule} (ending : rule.isEnding = true)
    {earlier later : List EffectTemplate} (position : rule.effects = earlier ++ template :: later) :
    ∀ other ∈ earlier, other.isQuiet = true := by
  intro other member
  simp only [TransitionRule.isEnding, Bool.and_eq_true, List.all_eq_true] at ending
  apply ending.1
  rw [position, List.dropLast_append_cons]
  exact List.mem_append_left _ member

theorem ending_of_settling {rule : TransitionRule} (member : rule ∈ transitions)
    (notOpening : rule.lane ≠ .none) (inRule : template ∈ rule.effects)
    (settles : template.isContinuing = false) : rule.isEnding = true := by
  rcases moving_or_ending member notOpening with moving | ending
  · have continuing := List.all_eq_true.mp moving template inRule
    rw [settles] at continuing
    cases continuing
  · exact ending

/-- The state is `stopping` exactly while a stop is pending, no other live
attempt carries a stop, and so every template that can begin one runs on an
attempt without. -/
theorem stopping_iff_stopPending {state : LedgerState} (reachable : ledger.Reachable state)
    {attempt : TurnAttempt} (present : state.attempt = some attempt) :
    (attempt.state = .stopping ↔ attempt.stopPending) ∧
      (attempt.state.isTerminal = false → attempt.state ≠ .stopping →
        attempt.data.writerStop = none) ∧
      ∀ (input : LedgerInput) (lane : LaneClass) (rule : TransitionRule),
        Applied (input.reduceInput state) lane rule →
        ∀ (earlier later : List EffectTemplate) (template : EffectTemplate),
          rule.effects = earlier ++ template :: later → template.isContinuing = false →
          ∀ current, (applyEffects ((input.reduceInput state).guardCtx lane.effectiveGeneration)
            earlier (initialDraft (input.reduceInput state))).attempt = some current →
            current.data.writerStop = none := by
  have consistent := (consistent_of_reachable reachable).of_present present
  refine ⟨consistent.stopping_iff, ?_, ?_⟩
  · intro notEnded notStopping
    have live := mem_nonterminalStates.mpr ⟨notStopping, notEnded⟩
    exact (consistent.phase.idle_of_live live).1
  intro input lane rule applied earlier later template position settles current currentPresent
  have notOpening : rule.lane ≠ .none :=
    applied.matched.sameLane ▸ lane_of_attempt present applied.classified
  have inRule : template ∈ rule.effects := by simp [position]
  have ending := ending_of_settling applied.matched.member notOpening inRule settles
  have live := live_of_ending present applied.matched ending
  have quiets := continues_quiets
    ((input.reduceInput state).guardCtx lane.effectiveGeneration)
    (initialDraft (input.reduceInput state)) (quiet_before_settling ending position)
  rcases quiets.1.attempt present with ⟨reached, reachedPresent, within⟩
  rw [currentPresent, Option.some.injEq] at reachedPresent
  subst reached
  exact within.writerStop.trans (consistent.phase.idle_of_live live).1

def sampleCancelled : List LedgerInput :=
  sampleStarted ++ [sampleInput 2 .operator (.cancel .operatorCancel)]

theorem stopping_iff_stopPending_cancelled :
    ∃ attempt, (ledger.run sampleCancelled).attempt = some attempt ∧
      attempt.state = .stopping ∧ attempt.stopPending := by
  have cancelled : (ledger.run sampleCancelled).attempt.map (·.state) = some .stopping := by
    decide
  rcases Option.map_eq_some_iff.mp cancelled with ⟨attempt, present, state⟩
  have consistent := stopping_iff_stopPending (Machine.reachable_run sampleCancelled) present
  exact ⟨attempt, present, state, consistent.1.mp state⟩

end Adhdev.TurnLedger
