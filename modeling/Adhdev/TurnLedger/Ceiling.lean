import Adhdev.TurnLedger.Generations

/-! # The hard ceiling

The ceiling of a mesh attempt is armed when the attempt is opened. It stays as it
is until the attempt ends or its stop has an outcome to commit. -/

namespace Adhdev.TurnLedger

open MeshShared

def TurnAttempt.stopDecided (attempt : TurnAttempt) : Prop :=
  attempt.state = .stopping ∧
    ∃ stop, attempt.data.writerStop = some stop ∧ stop.terminal.isSome = true

/-- While the attempt lives, its ceiling is still `ceiling` or no longer needed. -/
def CeilingKept (ceiling : TurnHold) (attempt : TurnAttempt) (holds : List TurnHold) : Prop :=
  attempt.state.isTerminal = false → heldFor holds .hardCeiling = some ceiling ∨ attempt.stopDecided

/-! ## The pending outcome -/

section Pending

variable {input : ReduceInput} {attempt : TurnAttempt} {stop : WriterStop}

section

variable (decided : ceilingReached input attempt = true ∨ stop.terminal.isSome = true)
include decided

theorem isSome_terminal_stopAfterEvidence : (stopAfterEvidence input attempt stop).terminal.isSome
    = true := by
  unfold stopAfterEvidence
  dsimp only
  split
  · rfl
  split
  · rfl
  · rename_i notReached
    exact decided.resolve_left notReached

theorem isSome_terminal_settlingStop : (settlingStop input attempt stop).terminal.isSome = true :=
    by
  have pending := isSome_terminal_stopAfterEvidence decided
  unfold settlingStop adoptReportHeldDuringStop
  split
  · exact pending
  split
  · exact pending
  · rfl

end

end Pending

/-! ## Every step keeps the ceiling -/

section Preservation

variable {input : ReduceInput} {attempt next : TurnAttempt} {result : ReduceResult}
  {ceiling : TurnHold}

theorem fate_ceiling {lane : LaneClass} {rule : TransitionRule}
    (present : input.attempt = some attempt) (matched : Matched input lane rule)
    (moving : rule.isMoving = true) (mesh : Bool) : rule.fate mesh .hardCeiling = .kept := by
  have checked : tableCheck (fun rule _ => !rule.isMoving ||
      rule.fate true .hardCeiling == .kept && rule.fate false .hardCeiling == .kept) = true := by
    decide
  have property := matched.of_tableCheck checked present
  simp only [moving, Bool.not_true, Bool.false_or, Bool.and_eq_true, beq_iff_eq] at property
  cases mesh
  · exact property.2
  · exact property.1

theorem CeilingKept.held_of_live (kept : CeilingKept ceiling attempt input.holds)
    (live : attempt.state ∈ nonterminalStates) :
    heldFor input.holds .hardCeiling = some ceiling := by
  have isLive := mem_nonterminalStates.mp live
  rcases kept isLive.2 with held | ⟨stopping, _⟩
  · exact held
  · exact absurd stopping isLive.1

theorem CeilingKept.held_of_undecided {stop : WriterStop}
    (kept : CeilingKept ceiling attempt input.holds) (stopping : attempt.state = .stopping)
    (pending : attempt.data.writerStop = some stop)
    (undecided : ¬ (ceilingReached input attempt = true ∨ stop.terminal.isSome = true)) :
    ceilingReached input attempt = false ∧ heldFor input.holds .hardCeiling = some ceiling := by
  have live : attempt.state.isTerminal = false := by
    rw [stopping]
    rfl
  refine ⟨by simpa using fun reached => undecided (.inl reached), ?_⟩
  rcases kept live with held | ⟨_, known, isPending, decided⟩
  · exact held
  · cases pending.symm.trans isPending
    exact absurd (.inr decided) undecided

theorem CeilingKept.of_step (present : input.attempt = some attempt)
    (consistent : Consistent attempt input.holds) (kept : CeilingKept ceiling attempt input.holds)
    (step : AttemptStep input attempt result) (nextPresent : result.attempt = some next) :
    CeilingKept ceiling next result.holds := by
  intro live
  cases holdStep_of_attemptStep consistent step nextPresent with
  | unchanged same sameHolds =>
    subst same
    rw [sameHolds]
    exact kept live
  | moved applied moving notStopping moved fates =>
    rw [isTerminal_of_moved present applied.matched moving notStopping moved] at live
    have sound := fates .hardCeiling
    rw [fate_ceiling present applied.matched moving] at sound
    rcases kept live with held | ⟨stopping, _⟩
    · exact .inl ((show heldFor result.holds .hardCeiling = _ from sound).trans held)
    · exact absurd stopping notStopping
  | ended terminal =>
    rw [terminal] at live
    cases live
  | @stopBegun ctx base cause terminal liveBefore stopping _ decided held =>
    subst stopping
    by_cases isCeiling : cause = .hardCeiling
    · exact .inr ⟨rfl, _, rfl, decided isCeiling⟩
    left
    rw [held .hardCeiling]
    simpa [mem_holdsKeptByStop, isCeiling] using kept.held_of_live liveBefore
  | @waits stop waited stopping pending same within held =>
    by_cases decided : ceilingReached input attempt = true ∨ stop.terminal.isSome = true
    · refine .inr ⟨(within.state_eq rfl).trans stopping, waited, within.writerStop, ?_⟩
      rw [same.terminal]
      exact isSome_terminal_stopAfterEvidence decided
    left
    rcases kept.held_of_undecided stopping pending decided with ⟨notReached, isHeld⟩
    rw [held .hardCeiling (by decide)]
    simpa [notReached] using isHeld
  | @requeued stop settled stopping pending idle _ held =>
    have undecided : ¬ (ceilingReached input attempt = true ∨ stop.terminal.isSome = true) := by
      intro decided
      have pending := isSome_terminal_settlingStop decided
      rw [idle] at pending
      cases pending
    left
    rcases kept.held_of_undecided stopping pending undecided with ⟨notReached, isHeld⟩
    rw [held .hardCeiling, heldFor_stoppingBase input attempt stop consistent.shaped]
    simpa [notReached] using isHeld

end Preservation

/-! ## Runs from an opening -/

variable {attempt : TurnAttempt}

theorem ceiling_of_openingStep {input : ReduceInput} {result : ReduceResult}
    (step : OpeningStep input result)
    (present : result.attempt = some attempt) (mesh : isMeshScope attempt = true) :
    heldFor result.holds .hardCeiling = some (ceilingHold (input.guardCtx none) attempt) := by
  cases step with
  | absent sameAttempt => cases sameAttempt.symm.trans present
  | dispatched _ opened holds =>
    cases opened.symm.trans present
    rw [holds, heldFor_openingHolds]
    simp [mesh]
  | plain opened =>
    cases opened.symm.trans present
    cases mesh

theorem ceilingKept_runFrom {ceiling : TurnHold} (inputs : List LedgerInput) {state : LedgerState}
    (consistent : state.Consistent)
    (kept : ∀ attempt, state.attempt = some attempt → CeilingKept ceiling attempt state.holds)
    (isSome : state.attempt.isSome = true)
    (present : (ledger.runFrom state inputs).attempt = some attempt) :
    CeilingKept ceiling attempt (ledger.runFrom state inputs).holds := by
  induction inputs generalizing state with
  | nil => exact kept attempt present
  | cons input inputs induction =>
    rcases Option.isSome_iff_exists.mp isSome with ⟨before, beforePresent⟩
    have step := consistent.attemptStep beforePresent input
    have consistentBefore := consistent.of_present beforePresent
    apply induction (consistent.next input) _ _ present
    · intro next nextPresent
      exact (kept before beforePresent).of_step beforePresent consistentBefore step nextPresent
    rcases generation_le_next consistent input beforePresent with ⟨next, nextPresent, _⟩
    rw [nextPresent]
    rfl

theorem ended_of_confirmed {state : LedgerState} (consistent : state.Consistent)
    {input : LedgerInput} {stop : WriterStop} (reaches : ReachesStop state input attempt stop)
    (decided : stop.terminal.isSome = true) (confirmed : input.stopConfirmed = true) :
    ∃ next, (ledger.next state input).attempt = some next ∧ next.state.isTerminal = true := by
  rcases stopStep_of_reaches consistent reaches with ⟨after, step, yields⟩
  cases step with
  | waits unconfirmed => cases unconfirmed.symm.trans confirmed
  | unreachable unreachable =>
    rw [unreachableSettlement_of_confirmed (input.reduceInput state) confirmed] at unreachable
    cases unreachable
  | requeued _ _ idle =>
    have pending : (settlingStop (input.reduceInput state) attempt stop).terminal.isSome = true :=
      isSome_terminal_settlingStop (.inr decided)
    rw [idle] at pending
    cases pending
  | confirmed _ _ committed =>
    rcases committed.committed with ⟨base, strength, _, ended⟩
    rcases ended.ended with ⟨terminal, present, _⟩
    exact ⟨_, yields.attempt.trans present, isTerminal_outcomeState _⟩

/-- In every run from the opening of a mesh attempt, each live state has the very
ceiling it was opened with, or waits for its writer with an outcome that a
confirmation commits. -/
theorem ceiling_of_opening (earlier : List LedgerInput) (opening : LedgerInput)
    (later : List LedgerInput) {opened attempt : TurnAttempt}
    (absent : (ledger.run earlier).attempt = none)
    (opens : (ledger.run (earlier ++ [opening])).attempt = some opened)
    (mesh : isMeshScope opened = true)
    (present : (ledger.run (earlier ++ opening :: later)).attempt = some attempt)
    (live : attempt.state.isTerminal = false) :
    ∃ ceiling ∈ (ledger.run (earlier ++ [opening])).holds, ceiling.reason = .hardCeiling ∧
      ceiling.untilMs = some (opening.nowMs + opening.policy.hardCeilingMs) ∧
      (ceiling ∈ (ledger.run (earlier ++ opening :: later)).holds ∨
        attempt.state = .stopping ∧ ∃ stop, attempt.data.writerStop = some stop ∧
          stop.terminal.isSome = true ∧
          ∀ input, ReachesStop (ledger.run (earlier ++ opening :: later)) input attempt stop →
            input.stopConfirmed = true →
            ∃ next, (ledger.next (ledger.run (earlier ++ opening :: later)) input).attempt =
              some next ∧ next.state.isTerminal = true) := by
  have consistent := consistent_of_reachable (Machine.reachable_run earlier)
  rw [Machine.run_append, Machine.runFrom, Machine.runFrom] at opens ⊢
  have armed := ceiling_of_openingStep (consistent.openingStep absent opening) opens mesh
  have keptFirst : ∀ first, (ledger.next (ledger.run earlier) opening).attempt = some first →
      CeilingKept (ceilingHold ((opening.reduceInput (ledger.run earlier)).guardCtx none) opened)
        first (ledger.next (ledger.run earlier) opening).holds := by
    intro first isFirst _
    exact .inl armed
  refine ⟨_, KeyedMap.mem_of_lookup armed, rfl, rfl, ?_⟩
  have isSome : (ledger.next (ledger.run earlier) opening).attempt.isSome = true := by
    rw [opens]
    rfl
  have finalPresent := present
  rw [Machine.run_append] at finalPresent
  have kept :=
    ceilingKept_runFrom later (consistent.next opening) keptFirst isSome finalPresent live
  rcases kept with held | ⟨stopping, stop, pending, decided⟩
  · rw [Machine.run_append]
    exact .inl (KeyedMap.mem_of_lookup held)
  refine .inr ⟨stopping, stop, pending, decided, ?_⟩
  intro input reaches confirmed
  exact ended_of_confirmed (consistent_of_reachable (Machine.reachable_run _)) reaches decided
    confirmed

/-- Starting the turn leaves the ceiling of the opening alone. -/
theorem ceiling_of_opening_started : ∃ ceiling ∈ (ledger.run [sampleOpening]).holds,
      ceiling.reason = .hardCeiling ∧
      ceiling.untilMs = some (sampleOpening.nowMs + sampleOpening.policy.hardCeilingMs) ∧
      ceiling ∈ (ledger.run sampleStarted).holds := by
  have opened : (ledger.run ([] ++ [sampleOpening])).attempt.map isMeshScope = some true := by
    decide
  have started : (ledger.run sampleStarted).attempt.map (·.state) = some .generating := by
    decide
  rcases Option.map_eq_some_iff.mp opened with ⟨first, firstPresent, mesh⟩
  rcases Option.map_eq_some_iff.mp started with ⟨attempt, present, state⟩
  have live : attempt.state.isTerminal = false := by
    rw [state]
    rfl
  rcases ceiling_of_opening [] sampleOpening [sampleInput 1 .fsmEdge (.turnStarted false)] rfl
    firstPresent mesh present live with ⟨ceiling, member, reason, deadline, held | stopping⟩
  · exact ⟨ceiling, member, reason, deadline, held⟩
  · rw [state] at stopping
    cases stopping.1

end Adhdev.TurnLedger
