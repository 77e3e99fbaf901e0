import Adhdev.TurnLedger.Ceiling
import Adhdev.TurnLedger.SingleCommit
import Adhdev.TurnLedger.WriterStops

/-! # Pending outcomes

A stop that has an outcome to commit owes it until the stop is settled. The
ceiling and a report held during the stop can each take its place. -/

namespace Adhdev.TurnLedger

open MeshShared List Option Bool

/-! ## What a step does to the pending outcome -/

def owedOutcome (input : ReduceInput) (outcome : TurnOutcome) : TurnOutcome :=
  if input.evidence.kind = .cancel then .cancelled else outcome

/-- The ceiling is past, and no cancel goes over it. -/
def isCapped (input : ReduceInput) (attempt : TurnAttempt) : Bool :=
  ceilingReached input attempt && input.evidence.kind != .cancel

def settlesStop (input : ReduceInput) : Bool :=
  input.stopConfirmed || (unreachableSettlement input).isSome

def standsAgainstReport (input : ReduceInput) (attempt : TurnAttempt) (stop : WriterStop) : Bool :=
  if input.evidence.kind = .cancel then input.evidence.source != .scheduler
  else !ceilingReached input attempt && stopTerminalStands stop

def supplantingReport (input : ReduceInput) (attempt : TurnAttempt) (stop : WriterStop) :
    Option RecordedReport :=
  (reportHeldDuringStop attempt stop).filter fun _ =>
    settlesStop input && !standsAgainstReport input attempt stop

def keepsOutcome (input : ReduceInput) (attempt : TurnAttempt) (stop : WriterStop) : Bool :=
  match supplantingReport input attempt stop with
  | some report => reportOutcome report.outcome == owedOutcome input stop.pendingOutcome
  | none => !isCapped input attempt

def outcomeAfter (input : ReduceInput) (attempt : TurnAttempt) (stop : WriterStop) : TurnOutcome :=
  if settlesStop input then (settlingStop input attempt stop).pendingOutcome
  else (stopAfterEvidence input attempt stop).pendingOutcome

section Outcome

variable {input : ReduceInput} {attempt : TurnAttempt} {stop : WriterStop}

theorem owedOutcome_ne_failed (input : ReduceInput) {outcome : TurnOutcome}
    (standing : outcome ≠ .failed) :
    owedOutcome input outcome ≠ .failed := by
  unfold owedOutcome
  split
  · decide
  · exact standing

theorem cancelReasonOf_of_cancel {evidence : TurnEvidence} (cancel : evidence.kind = .cancel) :
    ∃ reason, cancelReasonOf evidence = some reason := by
  unfold cancelReasonOf
  cases body : evidence.body <;> simp_all [TurnEvidence.kind, TurnEvidenceBody.kind]

theorem pendingOutcome_stopAfterEvidence : (stopAfterEvidence input attempt stop).pendingOutcome =
      if isCapped input attempt then .failed else owedOutcome input stop.pendingOutcome := by
  by_cases cancel : input.evidence.kind = .cancel
  · rcases cancelReasonOf_of_cancel cancel with ⟨reason, isCancel⟩
    simp [stopAfterEvidence, isCancel, isCapped, owedOutcome, cancel, WriterStop.pendingOutcome]
  have noCancel := cancelReasonOf_eq_none cancel
  cases reached : ceilingReached input attempt <;>
    simp [stopAfterEvidence, noCancel, isCapped, owedOutcome, cancel, reached,
      WriterStop.pendingOutcome, ceilingTerminal]

theorem reportHeldDuringStop_stopAfterEvidence :
    reportHeldDuringStop attempt (stopAfterEvidence input attempt stop) =
      reportHeldDuringStop attempt stop := by
  have requestedAt : (stopAfterEvidence input attempt stop).requestedAt = stop.requestedAt := by
    unfold stopAfterEvidence
    dsimp only
    split <;> split <;> rfl
  unfold reportHeldDuringStop
  rw [requestedAt]

theorem stopTerminalStands_stopAfterEvidence :
    stopTerminalStands (stopAfterEvidence input attempt stop) =
      standsAgainstReport input attempt stop := by
  by_cases cancel : input.evidence.kind = .cancel
  · rcases cancelReasonOf_of_cancel cancel with ⟨reason, isCancel⟩
    rw [Bool.eq_iff_iff]
    simp [stopTerminalStands, stopAfterEvidence, standsAgainstReport, isCancel, cancel, truthy]
  have noCancel := cancelReasonOf_eq_none cancel
  cases reached : ceilingReached input attempt <;>
    simp [stopTerminalStands, stopAfterEvidence, standsAgainstReport, noCancel, cancel, reached,
      ceilingTerminal, truthy]

theorem outcomeAfter_eq : outcomeAfter input attempt stop =
      match supplantingReport input attempt stop with
      | some report => reportOutcome report.outcome
      | none => (stopAfterEvidence input attempt stop).pendingOutcome := by
  unfold outcomeAfter supplantingReport
  cases settles : settlesStop input with
  | false => simp
  | true =>
    simp only [settlingStop, adoptReportHeldDuringStop, reportHeldDuringStop_stopAfterEvidence,
      stopTerminalStands_stopAfterEvidence]
    cases held : reportHeldDuringStop attempt stop with
    | none => simp
    | some report => cases standsAgainstReport input attempt stop <;> rfl

theorem keepsOutcome_iff (standing : stop.pendingOutcome ≠ .failed) :
    keepsOutcome input attempt stop = true ↔
      outcomeAfter input attempt stop = owedOutcome input stop.pendingOutcome := by
  have owed := owedOutcome_ne_failed input standing
  rw [outcomeAfter_eq]
  unfold keepsOutcome
  split
  · exact beq_iff_eq
  rw [pendingOutcome_stopAfterEvidence]
  cases capped : isCapped input attempt with
  | false => simp
  | true => simpa using owed.symm

end Outcome

/-! ## One step -/

def Owes (state : LedgerState) (outcome : TurnOutcome) : Prop :=
  ∃ attempt stop terminal, state.attempt = some attempt ∧ attempt.state = .stopping ∧
    attempt.data.writerStop = some stop ∧ stop.terminal = some terminal ∧
    terminal.outcome = outcome

def isCurrent (state : LedgerState) (input : LedgerInput) : Bool :=
  match classifyLane state.attempt input.evidence state.holds with
  | .ok lane => lane.lane == .current
  | .error _ => false

def cancelsCurrent (state : LedgerState) (input : LedgerInput) : Bool :=
  input.evidence.kind == .cancel && isCurrent state input

def KeepsOutcome (state : LedgerState) (input : LedgerInput) : Prop :=
  ∀ attempt stop, state.attempt = some attempt → attempt.state = .stopping →
    attempt.data.writerStop = some stop → isCurrent state input = true →
    keepsOutcome (input.reduceInput state) attempt stop = true

def owedAfter (state : LedgerState) (input : LedgerInput) (outcome : TurnOutcome) : TurnOutcome :=
  if cancelsCurrent state input then .cancelled else outcome

inductive OwedStep (state : LedgerState) (input : LedgerInput) (outcome : TurnOutcome) : Prop
  | pending (commits : commitsOf (ledger.respond state input).effects = [])
      (owes : Owes (ledger.next state input) outcome)
  | committed {effect : CommitEffect}
      (commits : commitsOf (ledger.respond state input).effects = [effect])
      (same : effect.outcome = outcome) (ended : (ledger.next state input).ended = true)

theorem owes_of_pending {state : LedgerState} {outcome : TurnOutcome}
    (known : (state.attempt.filter (·.state == .stopping)).bind (fun attempt =>
      attempt.data.writerStop.bind fun stop => stop.terminal.map (·.outcome)) = some outcome) :
    Owes state outcome := by
  rcases bind_eq_some_iff.mp known with ⟨attempt, filtered, found⟩
  rcases bind_eq_some_iff.mp found with ⟨stop, pending, isPending⟩
  rcases map_eq_some_iff.mp isPending with ⟨terminal, recorded, same⟩
  have present := filter_eq_some_iff.mp filtered
  exact ⟨attempt, stop, terminal, present.1, beq_iff_eq.mp present.2, pending, recorded, same⟩

section Step

variable {state : LedgerState} {input : LedgerInput} {attempt : TurnAttempt} {stop : WriterStop}

theorem isCurrent_iff : isCurrent state input = true ↔ ∃ generation,
      classifyLane state.attempt input.evidence state.holds = .ok ⟨.current, generation⟩ := by
  unfold isCurrent
  split
  · rename_i lane classified
    rw [beq_iff_eq, classified]
    constructor
    · intro current
      exact ⟨lane.effectiveGeneration, by rw [← current]⟩
    rintro ⟨generation, equal⟩
    cases equal
    rfl
  · rename_i rejection classified
    simp [classified]

theorem unchanged_of_not_current (consistent : state.Consistent)
    (present : state.attempt = some attempt) (stopping : attempt.state = .stopping)
    (elsewhere : isCurrent state input = false) : (ledger.next state input).attempt = some attempt ∧
      commitsOf (ledger.respond state input).effects = [] := by
  cases consistent.attemptStep present input with
  | unchanged sameAttempt _ settles => exact ⟨sameAttempt, commitsOf_eq_nil settles⟩
  | moved _ _ notStopping => exact absurd stopping notStopping
  | settled _ _ live => exact absurd stopping (mem_nonterminalStates.mp live).1
  | @stopping lane _ _ classified current =>
    have reaches : isCurrent state input = true :=
      isCurrent_iff.mpr ⟨lane.effectiveGeneration, by rw [← current]; exact classified⟩
    rw [elsewhere] at reaches
    cases reaches

theorem owedStep_of_stopStep (reaches : ReachesStop state input attempt stop)
    (decided : stop.terminal.isSome = true) {after : Draft}
    (step : StopStep (input.reduceInput state) attempt stop after)
    (yields : Yields (ledger.respond state input) after) :
    OwedStep state input (outcomeAfter (input.reduceInput state) attempt stop) := by
  have silent := settling_stoppingBase (input.reduceInput state) attempt stop
  have committedStep : ∀ {settled : WriterStop} {reason : TurnReason},
      settlesStop (input.reduceInput state) = true →
      settled.pendingOutcome =
        (settlingStop (input.reduceInput state) attempt stop).pendingOutcome →
      StopCommitted attempt settled reason (stoppingBase (input.reduceInput state) attempt stop)
        after →
      OwedStep state input (outcomeAfter (input.reduceInput state) attempt stop) := by
    intro settled reason settles outcome committed
    rcases committed.committed with ⟨base, strength, _, ends⟩
    rcases commitsOf_of_committed silent ends yields with ⟨effect, commits, same, _, endsWith⟩
    refine .committed commits ?_ endsWith.ended
    rw [same, outcome, outcomeAfter, if_pos settles]
  cases step with
  | confirmed confirmed outcome committed =>
    have given : (input.reduceInput state).stopConfirmed = true := confirmed
    exact committedStep (by simp [settlesStop, given]) outcome committed
  | unreachable unreachable outcome committed =>
    exact committedStep (by simp [settlesStop, unreachable]) outcome committed
  | requeued _ _ idle =>
    have pending : (settlingStop (input.reduceInput state) attempt stop).terminal.isSome = true :=
      isSome_terminal_settlingStop (.inr decided)
    rw [idle] at pending
    cases pending
  | waits unconfirmed reachable waits =>
    rcases waits.waits with ⟨waited, next, sameStop, present, within⟩
    have waiting : settlesStop (input.reduceInput state) = false := by
      simp [settlesStop, unconfirmed, reachable]
    have pending : (stopAfterEvidence (input.reduceInput state) attempt stop).terminal.isSome =
        true := isSome_terminal_stopAfterEvidence (.inr decided)
    rcases isSome_iff_exists.mp pending with ⟨terminal, recorded⟩
    refine .pending ?_ ⟨next, waited, terminal, yields.attempt.trans present, ?_, ?_, ?_, ?_⟩
    · rw [yields.effects]
      exact commitsOf_eq_nil (waits.settling.trans silent)
    · exact (within.state_eq rfl).trans reaches.stopping
    · exact within.writerStop
    · exact sameStop.terminal.trans recorded
    · simp [outcomeAfter, waiting, WriterStop.pendingOutcome, recorded]

theorem owedStep_of_keeps (consistent : state.Consistent) {outcome : TurnOutcome}
    (owes : Owes state outcome) (standing : outcome ≠ .failed) (keeps : KeepsOutcome state input) :
    OwedStep state input (owedAfter state input outcome) := by
  rcases owes with ⟨attempt, stop, terminal, present, stopping, pending, recorded, same⟩
  cases current : isCurrent state input with
  | false =>
    have unchanged := unchanged_of_not_current consistent present stopping current
    have owed : owedAfter state input outcome = outcome := by
      simp [owedAfter, cancelsCurrent, current]
    rw [owed]
    exact .pending unchanged.2
      ⟨attempt, stop, terminal, unchanged.1, stopping, pending, recorded, same⟩
  | true =>
    have reaches : ReachesStop state input attempt stop :=
      ⟨present, stopping, pending, isCurrent_iff.mp current⟩
    have pendingOutcome : stop.pendingOutcome = outcome := by
      simp [WriterStop.pendingOutcome, recorded, same]
    have owed : owedAfter state input outcome =
        outcomeAfter (input.reduceInput state) attempt stop := by
      have kept := (keepsOutcome_iff (pendingOutcome ▸ standing)).mp
        (keeps attempt stop present stopping pending current)
      rw [kept, pendingOutcome]
      by_cases cancel : input.evidence.kind = .cancel <;>
        simp [owedAfter, cancelsCurrent, current, owedOutcome, LedgerInput.reduceInput, cancel]
    rcases stopStep_of_reaches consistent reaches with ⟨after, step, yields⟩
    rw [owed]
    exact owedStep_of_stopStep reaches (by rw [recorded]; rfl) step yields

end Step

/-! ## Whole runs -/

theorem ended_runFrom (inputs : List LedgerInput) {state : LedgerState}
    (ended : state.ended = true) : (ledger.runFrom state inputs).ended = true := by
  have absorbing : ∀ (state : LedgerState) (input : LedgerInput), state.ended = true →
      (ledger.next state input).ended = true :=
    fun state input ended => (ended_silent ⟨state, input⟩ ended).2
  exact Machine.runFrom_induction absorbing inputs ended

/-- A pending outcome is honoured: along every run whose steps keep what is owed,
the commit carries the outcome the stop started with, or a cancellation that
came in on the way. -/
theorem pendingOutcome_honoured {state : LedgerState} (reachable : ledger.Reachable state)
    {outcome : TurnOutcome} (owes : Owes state outcome) (standing : outcome ≠ .failed)
    (inputs : List LedgerInput) (input : LedgerInput)
    (keeps : ∀ step ∈ ledger.stepsFrom state (inputs ++ [input]),
      KeepsOutcome step.before step.input) :
    ∀ effect ∈ commitsOf (ledger.respond (ledger.runFrom state inputs) input).effects,
      effect.outcome =
        if (ledger.stepsFrom state (inputs ++ [input])).any
          (fun step => cancelsCurrent step.before step.input) then .cancelled else outcome := by
  intro effect member
  induction inputs generalizing state outcome with
  | nil =>
    have kept := keeps ⟨state, input⟩ List.mem_cons_self
    have step := owedStep_of_keeps (consistent_of_reachable reachable) owes standing kept
    have only : (ledger.stepsFrom state ([] ++ [input])).any
        (fun step => cancelsCurrent step.before step.input) = cancelsCurrent state input :=
      Bool.or_false _
    rw [only]
    cases step with
    | pending commits =>
      rw [Machine.runFrom, commits] at member
      cases member
    | committed commits same =>
      rw [Machine.runFrom, commits, List.mem_singleton] at member
      rw [member]
      exact same
  | cons first inputs induction =>
    have kept := keeps ⟨state, first⟩ List.mem_cons_self
    have step := owedStep_of_keeps (consistent_of_reachable reachable) owes standing kept
    cases step with
    | committed _ _ ended =>
      have silent := (ended_silent ⟨_, input⟩ (ended_runFrom inputs ended)).1
      rw [Machine.runFrom] at member
      exact absurd (silent ▸ member) List.not_mem_nil
    | pending _ owes =>
      have later := induction (reachable.next first) owes
        (by
          unfold owedAfter
          split
          · decide
          · exact standing)
        (fun step member => keeps step (List.mem_cons_of_mem _ member)) member
      rw [later, List.cons_append, Machine.stepsFrom, List.any_cons, owedAfter]
      cases cancelsCurrent state first <;> simp

/-- An operator's cancel is confirmed only after the ceiling: the attempt fails. -/
theorem pendingOutcome_capped : ledger.Reachable (ledger.run sampleCancelled) ∧
      Owes (ledger.run sampleCancelled) .cancelled ∧ cancelsCurrent (ledger.run sampleCancelled)
        (sampleConfirmation defaultTurnPolicy.hardCeilingMs) = false ∧
      (commitsOf (ledger.respond (ledger.run sampleCancelled)
        (sampleConfirmation defaultTurnPolicy.hardCeilingMs)).effects).map (·.outcome) =
        [.failed] := by
  refine ⟨Machine.reachable_run _, ?_, by decide, by decide⟩
  exact owes_of_pending (by decide)

/-- Confirmed before the ceiling, it is cancelled. -/
theorem pendingOutcome_honoured_confirmed :
    (commitsOf (ledger.respond (ledger.run sampleCancelled) (sampleConfirmation 3)).effects).map
        (·.outcome) = [.cancelled] ∧
      ∀ effect ∈ commitsOf (ledger.respond (ledger.run sampleCancelled)
        (sampleConfirmation 3)).effects, effect.outcome = .cancelled := by
  refine ⟨by decide, ?_⟩
  have owes : Owes (ledger.run sampleCancelled) .cancelled := owes_of_pending (by decide)
  have keeps : ∀ step ∈ ledger.stepsFrom (ledger.run sampleCancelled)
      ([] ++ [sampleConfirmation 3]), KeepsOutcome step.before step.input := by
    intro step member attempt stop present _ pending _
    cases List.mem_singleton.mp member
    have kept : (ledger.run sampleCancelled).attempt.all (fun attempt =>
        attempt.data.writerStop.all fun stop =>
          keepsOutcome ((sampleConfirmation 3).reduceInput (ledger.run sampleCancelled)) attempt
            stop) = true := by decide
    have isPresent : (ledger.run sampleCancelled).attempt = some attempt := present
    rw [isPresent, Option.all_some, pending, Option.all_some] at kept
    exact kept
  exact pendingOutcome_honoured (Machine.reachable_run sampleCancelled) owes (by decide) []
    (sampleConfirmation 3) keeps

end Adhdev.TurnLedger
