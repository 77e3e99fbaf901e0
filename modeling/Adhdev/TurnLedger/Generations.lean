import Adhdev.TurnLedger.Consistency

/-! # Generations

Only a requeue after a confirmed stop opens a generation, and evidence of an
earlier generation can do no more than complete the one before, while the
current one has not started. -/

namespace Adhdev.TurnLedger

open MeshShared Option

/-! ## Generations never decrease -/

section Advance

variable {input : ReduceInput} {attempt : TurnAttempt} {result : ReduceResult}

theorem Committed.generation {base : TurnAttempt} {outcome : TurnOutcome}
    {strength : CommitStrength} {reason : TurnReason} {before after : Draft}
    (committed : Committed base outcome strength reason before after) :
    ∃ next, after.attempt = some next ∧ next.generation = base.generation := by
  rcases committed.ended with ⟨terminal, present, _⟩
  exact ⟨_, present, rfl⟩

theorem generation_of_attemptStep (step : AttemptStep input attempt result) :
    ∃ next, result.attempt = some next ∧
      (next.generation = attempt.generation ∨
        next.generation = attempt.generation + 1 ∧ attempt.state = .stopping ∧
          input.stopConfirmed = true) := by
  cases step with
  | unchanged sameAttempt => exact ⟨attempt, sameAttempt, .inl rfl⟩
  | moved _ _ _ present moved =>
    exact ⟨_, present, .inl (congrArg AttemptCore.generation moved.core)⟩
  | settled _ _ _ _ _ settled yields =>
    rw [yields.attempt]
    cases settled with
    | committed within committed =>
      rcases committed.generation with ⟨next, present, same⟩
      exact ⟨next, present, .inl (same.trans within.generation)⟩
    | stopBegun within _ _ begun => exact ⟨_, begun.stopping, .inl within.generation⟩
  | stopping _ _ state _ step yields =>
    rw [yields.attempt]
    cases step with
    | waits _ _ waits =>
      rcases waits.waits with ⟨waited, next, _, present, within⟩
      exact ⟨next, present, .inl within.generation⟩
    | confirmed _ _ committed | unreachable _ _ committed =>
      rcases committed.committed with ⟨base, strength, within, ended⟩
      rcases ended.generation with ⟨next, present, same⟩
      exact ⟨next, present, .inl (same.trans within.generation)⟩
    | requeued confirmed _ _ requeued => exact ⟨_, requeued.next, .inr ⟨rfl, state, confirmed⟩⟩

end Advance

variable {attempt : TurnAttempt}

theorem generation_le_next {state : LedgerState} (consistent : state.Consistent)
    (input : LedgerInput) (present : state.attempt = some attempt) :
    ∃ next, (ledger.next state input).attempt = some next ∧
      attempt.generation ≤ next.generation := by
  rcases generation_of_attemptStep (consistent.attemptStep present input) with
    ⟨next, nextPresent, same | ⟨later, _⟩⟩
  · exact ⟨next, nextPresent, Int.le_of_eq same.symm⟩
  · exact ⟨next, nextPresent, by omega⟩

theorem generation_le_runFrom (inputs : List LedgerInput) {state : LedgerState}
    (consistent : state.Consistent) (present : state.attempt = some attempt) :
    ∃ next, (ledger.runFrom state inputs).attempt = some next ∧
      attempt.generation ≤ next.generation := by
  induction inputs generalizing state attempt with
  | nil => exact ⟨attempt, present, Int.le_refl _⟩
  | cons input inputs induction =>
    rcases generation_le_next consistent input present with ⟨middle, middlePresent, first⟩
    rcases induction (consistent.next input) middlePresent with ⟨next, nextPresent, rest⟩
    exact ⟨next, nextPresent, Int.le_trans first rest⟩

/-! ## Stale evidence -/

/-- What lets stale evidence through: the evidence is of the generation right
before the current one and of its session, and the current one has not started. -/
structure CompletesPrevious (attempt : TurnAttempt) (evidence : TurnEvidence)
    (lane : LaneClass) : Prop where
  waiting : attempt.state = .accepted ∨ attempt.state = .delivered
  generation : lane.effectiveGeneration = some (attempt.generation - 1)
  session : ∃ prev, attempt.prevGeneration = some prev ∧
    sessionIdsEquivalent evidence.sessionId prev.sessionId = true

theorem completesPrevious_of_applied {input : ReduceInput} {lane : LaneClass}
    {rule : TransitionRule} (present : input.attempt = some attempt)
    (applied : Applied input lane rule) (stale : lane.lane = .stale) :
    CompletesPrevious attempt input.evidence lane := by
  have matched := applied.matched
  have checked : tableCheck (fun rule state => rule.lane != .stale || rule.verdict != .applied ||
      rule.guard == some .prevGenerationCompletion &&
        (state == .accepted || state == .delivered)) = true := by decide
  have property := matched.of_tableCheck checked present
  simp only [matched.sameLane, stale, applied.applied, bne_self_eq_false, Bool.false_or,
    Bool.and_eq_true, beq_iff_eq, Bool.or_eq_true] at property
  have passes : prevGenerationCompletion (input.guardCtx lane.effectiveGeneration) = true := by
    have guard := matched.guard
    rw [property.1] at guard
    rcases guard with otherwise | passes
    · cases otherwise
    · exact passes
  simp only [prevGenerationCompletion, ReduceInput.guardCtx, present, any_some,
    any_eq_true, Bool.and_eq_true, beq_iff_eq] at passes
  rcases passes with ⟨prev, previous, ⟨generation, session⟩, _⟩
  exact ⟨property.2, generation, prev, previous, session⟩

theorem stale_of_attemptStep {input : ReduceInput}
    {result : ReduceResult} {lane : LaneClass} (present : input.attempt = some attempt)
    (classified : classifyLane input.attempt input.evidence input.holds = .ok lane)
    (stale : lane.lane = .stale) (step : AttemptStep input attempt result) :
    result.attempt = some attempt ∧ result.holds = input.holds ∨
      CompletesPrevious attempt input.evidence lane := by
  have sameLane : ∀ {other : LaneClass},
      classifyLane input.attempt input.evidence input.holds = .ok other → other = lane := by
    intro other found
    rw [classified] at found
    cases found
    rfl
  cases step with
  | unchanged sameAttempt sameHolds => exact .inl ⟨sameAttempt, sameHolds⟩
  | moved applied | settled applied =>
    cases sameLane applied.classified
    exact .inr (completesPrevious_of_applied present applied stale)
  | stopping found current =>
    cases sameLane found
    rw [stale] at current
    cases current

/-- Stale evidence changes the attempt or its holds only by completing the
previous generation, and over every run the generation never decreases. -/
theorem generations_fenced :
    (∀ {state : LedgerState}, ledger.Reachable state → ∀ {attempt : TurnAttempt},
      state.attempt = some attempt → ∀ (input : LedgerInput) {lane : LaneClass},
      classifyLane state.attempt input.evidence state.holds = .ok lane → lane.lane = .stale →
      (ledger.respond state input).attempt = some attempt ∧
          (ledger.respond state input).holds = state.holds ∨
        CompletesPrevious attempt input.evidence lane) ∧
    ∀ (earlier later : List LedgerInput) {attempt : TurnAttempt},
      (ledger.run earlier).attempt = some attempt →
      ∃ next, (ledger.run (earlier ++ later)).attempt = some next ∧
        attempt.generation ≤ next.generation := by
  constructor
  · intro state reachable attempt present input lane classified stale
    have step := (consistent_of_reachable reachable).attemptStep present input
    exact stale_of_attemptStep present classified stale step
  intro earlier later attempt present
  have consistent := consistent_of_reachable (Machine.reachable_run earlier)
  rw [Machine.run_append]
  exact generation_le_runFrom later consistent present

def sampleConfirmation (nowMs : Int) : LedgerInput :=
  { sampleInput nowMs .scheduler (.operatorStatus .failed .operatorUpdate) with
    stopConfirmed := true }

def sampleRequeued : List LedgerInput :=
  [sampleOpening,
    sampleInput 1 .dispatch (.dispatchFailed { workerAbsent := true, reason := .spawnFailed }),
    sampleConfirmation 2]

theorem generations_fenced_requeued :
    ∃ attempt next, (ledger.run sampleRequeued).attempt = some attempt ∧ attempt.generation = 1 ∧
      ((ledger.respond (ledger.run sampleRequeued)
          (sampleInput 3 .fsmEdge (.turnStarted false))).attempt = some attempt ∧
          (ledger.respond (ledger.run sampleRequeued)
            (sampleInput 3 .fsmEdge (.turnStarted false))).holds =
              (ledger.run sampleRequeued).holds ∨
        CompletesPrevious attempt (sampleInput 3 .fsmEdge (.turnStarted false)).evidence
          ⟨.stale, some 0⟩) ∧
      (ledger.run (sampleRequeued ++ [sampleInput 3 .fsmEdge (.turnStarted false)])).attempt =
        some next ∧ attempt.generation ≤ next.generation := by
  have requeued : (ledger.run sampleRequeued).attempt.map (·.generation) = some 1 := by
    decide
  rcases Option.map_eq_some_iff.mp requeued with ⟨attempt, present, generation⟩
  have stale : classifyLane (ledger.run sampleRequeued).attempt
      (sampleInput 3 .fsmEdge (.turnStarted false)).evidence (ledger.run sampleRequeued).holds =
        .ok ⟨.stale, some 0⟩ := by decide
  have fenced := generations_fenced.1 (Machine.reachable_run sampleRequeued) present
    (sampleInput 3 .fsmEdge (.turnStarted false)) stale rfl
  rcases generations_fenced.2 sampleRequeued [sampleInput 3 .fsmEdge (.turnStarted false)]
    present with ⟨next, nextPresent, le⟩
  exact ⟨attempt, next, present, generation, fenced, nextPresent, le⟩

/-! ## No second writer -/

/-- The step hands the task to another writer: it reclaims the attempt, opens a
generation or returns the queue row to pending. -/
def Requeues (state : LedgerState) (input : LedgerInput) : Prop :=
  (∃ attemptId fromGeneration toGeneration reason,
    TurnEffect.reclaim attemptId fromGeneration toGeneration reason ∈
      (ledger.respond state input).effects) ∨
  (∃ attempt next, state.attempt = some attempt ∧
    (ledger.next state input).attempt = some next ∧ attempt.generation < next.generation) ∨
  ∃ meshId taskId reason,
    TurnEffect.queueStatus meshId taskId .pending reason ∈ (ledger.respond state input).effects

structure ReachesStop (state : LedgerState) (input : LedgerInput) (attempt : TurnAttempt)
    (stop : WriterStop) : Prop where
  present : state.attempt = some attempt
  stopping : attempt.state = .stopping
  pending : attempt.data.writerStop = some stop
  current : ∃ generation,
    classifyLane state.attempt input.evidence state.holds = .ok ⟨.current, generation⟩

def ConfirmsStop (state : LedgerState) (input : LedgerInput) : Prop :=
  ∃ attempt stop, ReachesStop state input attempt stop ∧ input.stopConfirmed = true

/-- The writer of a superseded queue attempt is given up as unreachable: before
the ceiling, and with no report held since the stop began to take the place of
the pending outcome. -/
structure AbandonsSuperseded (state : LedgerState) (input : LedgerInput) (attempt : TurnAttempt)
    (stop : WriterStop) : Prop where
  reaches : ReachesStop state input attempt stop
  unconfirmed : input.stopConfirmed = false
  notCancel : input.evidence.kind ≠ .cancel
  unreachable : input.writerUnreachable.isSome = true
  queue : attempt.scope = .meshQueue
  row : (queueRow attempt).isSome = true
  early : input.nowMs < attempt.acceptedAt + input.policy.hardCeilingMs
  superseded : stop.reason = .superseded
  standing : stop.pendingOutcome ≠ .failed
  unreported : reportHeldDuringStop attempt stop = none ∨ stopTerminalStands stop = true

section SecondWriter

variable {state : LedgerState} {input : LedgerInput} {attempt : TurnAttempt} {stop : WriterStop}

theorem cancelReasonOf_eq_none {evidence : TurnEvidence} (notCancel : evidence.kind ≠ .cancel) :
    cancelReasonOf evidence = none := by
  unfold cancelReasonOf
  split
  · rename_i reason body
    exact absurd (by rw [TurnEvidence.kind, body]; rfl) notCancel
  · rfl

theorem settlingStop_superseded {input : ReduceInput} (notCancel : input.evidence.kind ≠ .cancel) :
    (settlingStop input attempt stop).reason = .superseded ∧
        (settlingStop input attempt stop).pendingOutcome ≠ .failed ↔
      ceilingReached input attempt = false ∧ stop.reason = .superseded ∧
        stop.pendingOutcome ≠ .failed ∧
        (reportHeldDuringStop attempt stop = none ∨ stopTerminalStands stop = true) := by
  have noCancel := cancelReasonOf_eq_none notCancel
  cases reached : ceilingReached input attempt with
  | true =>
    simp only [settlingStop, stopAfterEvidence, reached, noCancel, if_true,
      adoptReportHeldDuringStop]
    split
    · simp
    · split <;> simp
  | false =>
    simp only [settlingStop, stopAfterEvidence, reached, noCancel, Bool.false_eq_true, if_false,
      adoptReportHeldDuringStop]
    split
    · rename_i unreported
      simp [unreported]
    rename_i report reported
    split
    · rename_i stands
      simp [stands]
    · rename_i yields
      simp [reported, yields]

theorem pending_mem_commitQueueEffects (attempt : TurnAttempt) (outcome : TurnOutcome)
    (reason : TurnReason) :
    (∃ meshId taskId cause, TurnEffect.queueStatus meshId taskId .pending cause ∈
        commitQueueEffects attempt outcome reason) ↔
      (queueRow attempt).isSome = true ∧ reason = .superseded ∧ attempt.scope = .meshQueue ∧
        attempt.data.writerStop.any (·.confirmed) = true := by
  unfold commitQueueEffects attemptOnly
  cases row : queueRow attempt with
  | none => simp
  | some ids =>
    by_cases superseded : reason = .superseded ∧ attempt.scope = .meshQueue
    · cases settled : attempt.data.writerStop.any (·.confirmed) <;> simp [superseded]
    have only : (reason == .superseded && attempt.scope == .meshQueue) = false := by
      simpa using superseded
    simp only [only]
    cases isMeshScope attempt <;> simp <;> exact fun same queue => absurd ⟨same, queue⟩ superseded

theorem reclaim_not_mem_commitQueueEffects {attempt : TurnAttempt} {outcome : TurnOutcome}
    {reason cause : TurnReason} {attemptId : String} {fromGeneration toGeneration : Int} :
    TurnEffect.reclaim attemptId fromGeneration toGeneration cause ∉
      commitQueueEffects attempt outcome reason := by
  unfold commitQueueEffects
  split
  · simp
  split
  · split <;> simp
  · split <;> simp

theorem not_requeues_of_silent (present : state.attempt = some attempt) {next : TurnAttempt}
    (nextPresent : (ledger.next state input).attempt = some next)
    (generation : next.generation = attempt.generation)
    (silent : settling (ledger.respond state input).effects = []) : ¬ Requeues state input := by
  have nothing : ∀ effect ∈ (ledger.respond state input).effects, effect.isSettling = false := by
    intro effect member
    cases settles : effect.isSettling with
    | false => rfl
    | true =>
      have found := mem_settling.mpr ⟨member, settles⟩
      rw [silent] at found
      cases found
  rintro (⟨_, _, _, _, member⟩ | ⟨before, after, isBefore, isAfter, later⟩ | ⟨_, _, _, member⟩)
  · cases nothing _ member
  · rw [present, some.injEq] at isBefore
    rw [nextPresent, some.injEq] at isAfter
    subst before after
    omega
  · cases nothing _ member

theorem pending_of_committed (present : state.attempt = some attempt) {base : TurnAttempt}
    {outcome : TurnOutcome} {strength : CommitStrength} {reason : TurnReason} {before after : Draft}
    (silent : settling before.effects = [])
    (committed : Committed base outcome strength reason before after)
    (generation : base.generation = attempt.generation)
    (yields : Yields (ledger.respond state input) after) : Requeues state input ↔
      (queueRow base).isSome = true ∧ reason = .superseded ∧ base.scope = .meshQueue ∧
        base.data.writerStop.any (·.confirmed) = true := by
  rcases committed.generation with ⟨next, nextPresent, same⟩
  rcases committed.settling with ⟨effect, settles, _⟩
  have members : ∀ other : TurnEffect, other.isSettling = true →
      (other ∈ (ledger.respond state input).effects ↔
        other = .commit effect ∨ other ∈ commitQueueEffects base outcome reason) := by
    intro other isSettling
    have found : other ∈ (ledger.respond state input).effects ↔
        other ∈ settling (ledger.respond state input).effects := by
      simp [mem_settling, isSettling]
    rw [found, yields.effects, settles, silent, List.nil_append, List.mem_cons]
  rw [← pending_mem_commitQueueEffects base outcome reason]
  constructor
  · rintro (⟨_, _, _, _, member⟩ | ⟨_, _, isBefore, isAfter, later⟩ | ⟨meshId, taskId, cause,
      member⟩)
    · rcases (members _ rfl).mp member with wrong | member
      · cases wrong
      · exact absurd member reclaim_not_mem_commitQueueEffects
    · rw [present, some.injEq] at isBefore
      have nextIs : (ledger.next state input).attempt = some next :=
          yields.attempt.trans nextPresent
      rw [nextIs, some.injEq] at isAfter
      subst isBefore isAfter
      omega
    · rcases (members _ rfl).mp member with wrong | member
      · cases wrong
      · exact ⟨meshId, taskId, cause, member⟩
  · rintro ⟨meshId, taskId, cause, member⟩
    exact .inr (.inr ⟨meshId, taskId, cause, (members _ rfl).mpr (.inr member)⟩)

theorem stopStep_of_reaches (consistent : state.Consistent)
    (reaches : ReachesStop state input attempt stop) :
    ∃ after, StopStep (input.reduceInput state) attempt stop after ∧
      Yields (ledger.respond state input) after := by
  rcases reaches.current with ⟨generation, classified⟩
  have shaped : HoldsShaped attempt (input.reduceInput state).holds :=
    (consistent.of_present reaches.present).shaped
  refine ⟨_, stopStep_stoppingDraft (input.reduceInput state) shaped, ?_⟩
  have found : stoppingStop (input.reduceInput state) .current = some (attempt, stop) := by
    simp [stoppingStop, LedgerInput.reduceInput, reaches.present, reaches.stopping, reaches.pending]
  have response : ledger.respond state input =
      reduceStopping (input.reduceInput state) attempt stop := by
    have lane : classifyLane (input.reduceInput state).attempt (input.reduceInput state).evidence
        (input.reduceInput state).holds = .ok ⟨.current, generation⟩ := classified
    simp only [ledger, reduce, lane, found]
  rw [response]
  exact ⟨rfl, rfl, rfl⟩

theorem requeues_of_unreachable (present : state.attempt = some attempt)
    {after : Draft} {settled : WriterStop}
    (committed : StopCommitted attempt settled
      (unreachableReason (settlingStop (input.reduceInput state) attempt stop))
      (stoppingBase (input.reduceInput state) attempt stop) after)
    (yields : Yields (ledger.respond state input) after) :
    Requeues state input ↔ (queueRow attempt).isSome = true ∧ attempt.scope = .meshQueue ∧
      (settlingStop (input.reduceInput state) attempt stop).reason = .superseded ∧
        (settlingStop (input.reduceInput state) attempt stop).pendingOutcome ≠ .failed := by
  rcases committed.committed with ⟨base, strength, within, ended⟩
  have silent := settling_stoppingBase (input.reduceInput state) attempt stop
  rw [pending_of_committed present silent ended within.generation yields]
  have row : queueRow base = queueRow attempt := by
    have meshId : base.meshId = attempt.meshId := congrArg AttemptCore.meshId within.core
    have taskId : base.taskId = attempt.taskId := congrArg AttemptCore.taskId within.core
    simp [queueRow, meshId, taskId]
  have scope : base.scope = attempt.scope := within.scope
  have confirmed : base.data.writerStop.any (·.confirmed) = true := by
    rw [within.writerStop]
    exact committed.confirmed
  have reason : unreachableReason (settlingStop (input.reduceInput state) attempt stop) =
      .superseded ↔
        (settlingStop (input.reduceInput state) attempt stop).reason = .superseded ∧
        (settlingStop (input.reduceInput state) attempt stop).pendingOutcome ≠ .failed := by
    unfold unreachableReason
    split
    · rename_i failed
      simp [failed]
    · rename_i standing
      simp [standing]
  rw [row, scope, confirmed, reason]
  constructor
  · rintro ⟨hasRow, superseded, queue, _⟩
    exact ⟨hasRow, queue, superseded⟩
  · rintro ⟨hasRow, queue, superseded⟩
    exact ⟨hasRow, superseded, queue, rfl⟩

theorem abandonsSuperseded_iff (reaches : ReachesStop state input attempt stop)
    {settledBy : WriterUnreachable}
    (unreachable : unreachableSettlement (input.reduceInput state) = some settledBy) :
    AbandonsSuperseded state input attempt stop ↔
      (queueRow attempt).isSome = true ∧ attempt.scope = .meshQueue ∧
        (settlingStop (input.reduceInput state) attempt stop).reason = .superseded ∧
        (settlingStop (input.reduceInput state) attempt stop).pendingOutcome ≠ .failed := by
  have flags := unreachableSettlement_isSome.mp (isSome_iff_exists.mpr ⟨_, unreachable⟩)
  have early : ceilingReached (input.reduceInput state) attempt = false ↔
      input.nowMs < attempt.acceptedAt + input.policy.hardCeilingMs := by
    rw [ceilingReached, decide_eq_false_iff_not, Int.not_le]
    exact Iff.rfl
  rw [settlingStop_superseded flags.2.1, early]
  constructor
  · intro abandons
    exact ⟨abandons.row, abandons.queue, abandons.early, abandons.superseded, abandons.standing,
      abandons.unreported⟩
  rintro ⟨row, queue, early, superseded, standing, unreported⟩
  exact ⟨reaches, flags.1, flags.2.1, flags.2.2, queue, row, early, superseded, standing,
    unreported⟩

theorem confirms_or_abandons (consistent : state.Consistent) (requeues : Requeues state input) :
    ConfirmsStop state input ∨ ∃ attempt stop, AbandonsSuperseded state input attempt stop := by
  cases present : state.attempt with
  | none =>
    have silent : settling (ledger.respond state input).effects = [] := by
      cases consistent.openingStep present input with
      | absent _ _ settles | dispatched _ _ _ settles | plain _ _ settles => exact settles
    rcases requeues with ⟨_, _, _, _, member⟩ | ⟨_, _, isBefore, _⟩ | ⟨_, _, _, member⟩
    · have found := mem_settling.mpr ⟨member, rfl⟩
      rw [silent] at found
      cases found
    · rw [present] at isBefore
      cases isBefore
    have found := mem_settling.mpr ⟨member, rfl⟩
    rw [silent] at found
    cases found
  | some attempt =>
    cases consistent.attemptStep present input with
    | unchanged sameAttempt _ settles =>
      exact absurd requeues (not_requeues_of_silent present sameAttempt rfl settles)
    | moved _ _ _ nextPresent moved settles =>
      exact absurd requeues (not_requeues_of_silent present nextPresent
        (congrArg AttemptCore.generation moved.core) settles)
    | settled _ _ live holds silent settled yields =>
      cases settled with
      | committed within committed =>
        have idle := ((consistent.of_present present).phase.idle_of_live live).1
        have pending := (pending_of_committed present silent committed within.generation
          yields).mp requeues
        rw [within.writerStop, idle] at pending
        cases pending.2.2.2
      | stopBegun within _ _ begun =>
        refine absurd requeues (not_requeues_of_silent present
          (yields.attempt.trans begun.stopping) within.generation ?_)
        rw [yields.effects, begun.settling, silent]
    | @stopping lane stop after classified current stopping pending step yields =>
      have reaches : ReachesStop state input attempt stop := by
        refine ⟨present, stopping, pending, lane.effectiveGeneration, ?_⟩
        rw [← current]
        exact classified
      cases step with
      | waits _ _ waits =>
        rcases waits.waits with ⟨waited, next, _, nextPresent, within⟩
        refine absurd requeues (not_requeues_of_silent present
          (yields.attempt.trans nextPresent) within.generation ?_)
        rw [yields.effects, waits.settling]
        exact settling_stoppingBase _ attempt stop
      | confirmed confirmed | requeued confirmed => exact .inl ⟨attempt, stop, reaches, confirmed⟩
      | unreachable unreachable _ committed =>
        have superseded := (requeues_of_unreachable present committed yields).mp requeues
        exact .inr ⟨attempt, stop, (abandonsSuperseded_iff reaches unreachable).mpr superseded⟩

theorem requeues_of_abandons (consistent : state.Consistent)
    (abandons : AbandonsSuperseded state input attempt stop) :
    Requeues state input ∧ ¬ ConfirmsStop state input := by
  have isSome : (unreachableSettlement (input.reduceInput state)).isSome = true :=
    unreachableSettlement_isSome.mpr
      ⟨abandons.unconfirmed, abandons.notCancel, abandons.unreachable⟩
  rcases isSome_iff_exists.mp isSome with ⟨settledBy, unreachable⟩
  constructor
  · rcases stopStep_of_reaches consistent abandons.reaches with ⟨after, step, yields⟩
    cases step with
    | waits _ reachable => cases reachable.symm.trans unreachable
    | confirmed confirmed | requeued confirmed => cases abandons.unconfirmed.symm.trans confirmed
    | unreachable _ _ committed =>
      apply (requeues_of_unreachable abandons.reaches.present committed yields).mpr
      exact (abandonsSuperseded_iff abandons.reaches unreachable).mp abandons
  · rintro ⟨_, _, _, confirmed⟩
    cases abandons.unconfirmed.symm.trans confirmed

end SecondWriter

/-- In every reachable state and for every input: the step requeues only by
confirming the stop of its own writer, if and only if it does not abandon the
writer of a superseded attempt. -/
theorem requeues_only_confirmed_iff {state : LedgerState} (reachable : ledger.Reachable state)
    (input : LedgerInput) : (Requeues state input → ConfirmsStop state input) ↔
      ¬ ∃ attempt stop, AbandonsSuperseded state input attempt stop := by
  have consistent := consistent_of_reachable reachable
  constructor
  · rintro confirms ⟨attempt, stop, abandons⟩
    have requeues := requeues_of_abandons consistent abandons
    exact requeues.2 (confirms requeues.1)
  intro keeps requeues
  rcases confirms_or_abandons consistent requeues with confirms | abandons
  · exact confirms
  · exact absurd abandons keeps

/-- A confirmed stop of a failed dispatch requeues the task. -/
theorem requeues_only_confirmed_iff_confirmation :
    ledger.Reachable (ledger.run (sampleRequeued.take 2)) ∧
      ((Requeues (ledger.run (sampleRequeued.take 2)) (sampleConfirmation 2) →
          ConfirmsStop (ledger.run (sampleRequeued.take 2)) (sampleConfirmation 2)) ↔
        ¬ ∃ attempt stop, AbandonsSuperseded (ledger.run (sampleRequeued.take 2))
          (sampleConfirmation 2) attempt stop) :=
  ⟨Machine.reachable_run _, requeues_only_confirmed_iff (Machine.reachable_run _) _⟩

def sampleSuperseded : List LedgerInput :=
  sampleStarted ++ [sampleInput 2 .scheduler (.cancel .superseded)]

def sampleNodeRemoved (nowMs : Int) : LedgerInput :=
  { sampleInput nowMs .scheduler (.operatorStatus .failed .operatorUpdate) with
    writerUnreachable := some .nodeRemoved }

/-- The superseded task goes back to pending although its writer's stop was never
confirmed. -/
theorem requeues_unconfirmed : ledger.Reachable (ledger.run sampleSuperseded) ∧
      ¬ (Requeues (ledger.run sampleSuperseded) (sampleNodeRemoved 3) →
        ConfirmsStop (ledger.run sampleSuperseded) (sampleNodeRemoved 3)) := by
  refine ⟨Machine.reachable_run _, ?_⟩
  have pending : TurnEffect.queueStatus "mesh" "task" .pending .superseded ∈
      (ledger.respond (ledger.run sampleSuperseded) (sampleNodeRemoved 3)).effects := by
    decide
  intro confirms
  rcases confirms (.inr (.inr ⟨_, _, _, pending⟩)) with ⟨_, _, _, confirmed⟩
  cases confirmed

end Adhdev.TurnLedger
