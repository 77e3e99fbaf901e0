import Adhdev.TurnLedger.Reports

/-! # Is the rule table unambiguous?

Two rules of one lane that admit a common state and take a common kind of evidence
must have guards that exclude each other. The facts of their guards decide that
for every pair of the table but one. -/

namespace Adhdev.TurnLedger

open MeshShared List Option Bool

/-! ## Pairs of rules -/

def stateFacts : Option TurnState → List Fact
  | none => []
  | some state => .state state :: if state ∈ unreportedStates then [.is .reported false] else []

def guardsConflict (left right : TransitionRule) (state : Option TurnState)
    (kind : TurnEvidenceKind) : Bool :=
  left.facts.all fun leftFacts => right.facts.all fun rightFacts =>
    factsConflict (.kind kind :: stateFacts state ++ leftFacts)
      (.kind kind :: stateFacts state ++ rightFacts)

/-- The idle signal after a report, and the parked observation of a suspension. -/
def overlapping (left right : TransitionRule) : Bool :=
  left.guard == some .finishedAfterReport && right.guard == some .parkedSuspensionObservation

def admissibleStates : List (Option TurnState) := none :: turnStates.map some

def exclusivePair (left right : TransitionRule) : Bool :=
  left.id == right.id || left.lane != right.lane || !left.on.any right.on.contains ||
    (left.guard == some .otherwise) != (right.guard == some .otherwise) ||
    overlapping left right || overlapping right left ||
    admissibleStates.all fun state =>
      !ruleAdmitsState left.fromStates state || !ruleAdmitsState right.fromStates state ||
        left.on.all fun kind => !right.on.contains kind || guardsConflict left right state kind

theorem exclusive_pairs :
    (transitions.all fun left => transitions.all (exclusivePair left)) = true := by
  decide

theorem nodup_ruleIds : (transitions.map TransitionRule.id).Nodup := by
  decide

theorem nodup_transitions : transitions.Nodup := nodup_ruleIds.of_map

theorem eq_of_id {left right : TransitionRule} (leftMember : left ∈ transitions)
    (rightMember : right ∈ transitions) (same : left.id = right.id) : left = right :=
  inj_on_of_nodup_map nodup_ruleIds leftMember rightMember same

theorem mem_admissibleStates (state : Option TurnState) : state ∈ admissibleStates := by
  cases state with
  | none => exact mem_cons_self
  | some state => exact .tail _ (mem_map_of_mem (mem_turnStates state))

/-! ## Two matching rules -/

section Pairs

variable {input : ReduceInput} {lane : LaneClass} {left right : TransitionRule}

theorem nodup_matchingRules (input : ReduceInput) : (matchingRules input).Nodup := by
  unfold matchingRules
  split
  · exact nodup_nil
  · dsimp only [laneCandidates]
    split <;> exact (nodup_transitions.filter _).filter _

theorem otherwise_of_mem (leftMember : left ∈ matchingRules input)
    (rightMember : right ∈ matchingRules input) :
    left.guard = some .otherwise ↔ right.guard = some .otherwise := by
  have specific : ∀ {rule : TransitionRule} {ctx : GuardCtx},
      guardPasses rule.guard ctx = true → rule.guard ≠ some .otherwise := by
    intro rule ctx passes otherwise
    rw [otherwise] at passes
    cases passes
  unfold matchingRules at leftMember rightMember
  split at leftMember
  · cases leftMember
  rename_i classified
  rw [classified] at rightMember
  dsimp only at leftMember rightMember
  split at leftMember
  · rename_i fallThrough
    rw [if_pos fallThrough] at rightMember
    have leftIs := beq_iff_eq.mp (mem_filter.mp leftMember).2
    have rightIs := beq_iff_eq.mp (mem_filter.mp rightMember).2
    exact ⟨fun _ => rightIs, fun _ => leftIs⟩
  rename_i someSpecific
  rw [if_neg someSpecific] at rightMember
  have leftIs := specific (mem_filter.mp leftMember).2
  have rightIs := specific (mem_filter.mp rightMember).2
  exact ⟨fun otherwise => absurd otherwise leftIs, fun otherwise => absurd otherwise rightIs⟩

theorem factsHold_stateFacts (placed : ∀ attempt, input.attempt = some attempt →
      attempt.reported = true → attempt.state ∉ unreportedStates)
    (effectiveGeneration : Option Int) :
    FactsHold (input.guardCtx effectiveGeneration) (stateFacts (input.attempt.map (·.state))) := by
  cases present : input.attempt with
  | none => exact factsHold_nil _
  | some attempt =>
    have state : Fact.Holds (input.guardCtx effectiveGeneration) (.state attempt.state) := by
      simp [Fact.Holds, GuardCtx.inState, ReduceInput.guardCtx, present]
    simp only [map_some, stateFacts, factsHold_cons]
    refine ⟨state, ?_⟩
    split
    · rename_i inside
      have unreported : attempt.reported = false :=
        eq_false_iff.mpr fun reported => placed attempt present reported inside
      have fact : reportedThisGeneration (input.guardCtx effectiveGeneration) = false := by
        rw [reportedThisGeneration, ReduceInput.guardCtx, present]
        exact unreported
      exact factsHold_cons.mpr ⟨fact, factsHold_nil _⟩
    · exact factsHold_nil _

theorem not_guardsConflict (leftMatched : Matched input lane left)
    (rightMatched : Matched input lane right)
    (facts : FactsHold (input.guardCtx lane.effectiveGeneration)
      (stateFacts (input.attempt.map (·.state)))) :
    guardsConflict left right (input.attempt.map (·.state)) input.evidence.kind = false := by
  rw [eq_false_iff]
  intro conflict
  rcases leftMatched.described with ⟨leftFacts, leftMember, leftHold⟩
  rcases rightMatched.described with ⟨rightFacts, rightMember, rightHold⟩
  have kind : Fact.Holds (input.guardCtx lane.effectiveGeneration) (.kind input.evidence.kind) :=
    rfl
  have pairConflict := all_eq_true.mp
    (all_eq_true.mp conflict leftFacts leftMember) rightFacts rightMember
  have common := factsHold_cons.mpr ⟨kind, facts⟩
  exact not_both_of_factsConflict pairConflict (factsHold_append.mpr ⟨common, leftHold⟩)
    (factsHold_append.mpr ⟨common, rightHold⟩)

theorem eq_or_overlapping (leftMatched : Matched input lane left)
    (rightMatched : Matched input lane right)
    (sameGuarding : left.guard = some .otherwise ↔ right.guard = some .otherwise)
    (facts : FactsHold (input.guardCtx lane.effectiveGeneration)
      (stateFacts (input.attempt.map (·.state)))) :
    left = right ∨ overlapping left right = true ∨ overlapping right left = true := by
  have exclusive := all_eq_true.mp (of_transitions exclusive_pairs leftMatched.member)
    right rightMatched.member
  simp only [exclusivePair, or_eq_true] at exclusive
  rcases exclusive with (((((sameId | lanes) | kinds) | guards) | overlap) | overlap) | states
  · exact .inl (eq_of_id leftMatched.member rightMatched.member (beq_iff_eq.mp sameId))
  · exact absurd (leftMatched.sameLane.trans rightMatched.sameLane.symm) (bne_iff_ne.mp lanes)
  · have shared : left.on.any right.on.contains = true :=
      any_eq_true.mpr ⟨input.evidence.kind, leftMatched.on, by simpa using rightMatched.on⟩
    rw [shared] at kinds
    cases kinds
  · have same : (left.guard == some .otherwise) = (right.guard == some .otherwise) := by
      rw [Bool.eq_iff_iff, beq_iff_eq, beq_iff_eq]
      exact sameGuarding
    exact absurd same (bne_iff_ne.mp guards)
  · exact .inr (.inl overlap)
  · exact .inr (.inr overlap)
  have atState := all_eq_true.mp states _ (mem_admissibleStates (input.attempt.map (·.state)))
  simp only [leftMatched.admits, rightMatched.admits, Bool.not_true, Bool.false_or,
    List.all_eq_true] at atState
  have atKind := atState input.evidence.kind leftMatched.on
  rw [not_guardsConflict leftMatched rightMatched facts] at atKind
  simp [rightMatched.on] at atKind

end Pairs

/-! ## The overlapping pair -/

structure ReportedWhileParked (attempt : TurnAttempt) (body : NoProgress) : Prop where
  suspended : attempt.state = .suspended
  reported : attempt.reported = true
  finalPresent : body.finalAssistantPresent = true
  waiting : body.observedStatus = .waitingApproval ∨ body.observedStatus = .waitingChoice
  parked : attempt.suspension.isSome = true
  unanswered : ∃ suspension, attempt.data.providerSuspension = some suspension ∧
    suspension.generation = attempt.generation ∧ suspension.resolvedAt = none

def ObservesReportedWhileParked (input : ReduceInput) : Prop :=
  ∃ attempt body lane, input.attempt = some attempt ∧ input.evidence.body = .noProgress body ∧
    classifyLane input.attempt input.evidence input.holds = .ok lane ∧
    lane.lane = .current ∧ ReportedWhileParked attempt body

section Overlap

variable {input : ReduceInput} {lane : LaneClass}

theorem guardPasses_some (guard : GuardId) (ctx : GuardCtx) :
    guardPasses (some guard) ctx = guards guard ctx := by
  cases guard <;> rfl

theorem mem_matchingRules_of_passes {rule : TransitionRule}
    (classified : classifyLane input.attempt input.evidence input.holds = .ok lane)
    (member : rule ∈ transitions) (sameLane : rule.lane = lane.lane)
    (admits : ruleAdmitsState rule.fromStates (input.attempt.map (·.state)) = true)
    (on : input.evidence.kind ∈ rule.on)
    (passes : guardPasses rule.guard (input.guardCtx lane.effectiveGeneration) = true) :
    rule ∈ matchingRules input := by
  have candidate : rule ∈ laneCandidates lane.lane (input.attempt.map (·.state))
      input.evidence.kind := by
    apply mem_filter.mpr
    simp [ruleIsCandidate, member, sameLane, admits, on]
  have specific : rule ∈ (laneCandidates lane.lane (input.attempt.map (·.state))
      input.evidence.kind).filter
        (guardPasses ·.guard (input.guardCtx lane.effectiveGeneration)) :=
    mem_filter.mpr ⟨candidate, passes⟩
  simp only [matchingRules, classified]
  rw [if_neg]
  · exact specific
  · rw [List.isEmpty_iff]
    exact ne_nil_of_mem specific

theorem finishedAfterReport_iff {attempt : TurnAttempt} {body : NoProgress}
    (present : input.attempt = some attempt) (observed : input.evidence.body = .noProgress body)
    (effectiveGeneration : Option Int) :
    finishedAfterReport (input.guardCtx effectiveGeneration) = true ↔
      attempt.reported = true ∧ body.finalAssistantPresent = true := by
  simp [finishedAfterReport, reportedThisGeneration, ReduceInput.guardCtx, present, observed,
    TurnAttempt.reported]

theorem parkedSuspensionObservation_iff {attempt : TurnAttempt} {body : NoProgress}
    (present : input.attempt = some attempt) (observed : input.evidence.body = .noProgress body)
    (effectiveGeneration : Option Int) :
    parkedSuspensionObservation (input.guardCtx effectiveGeneration) = true ↔
      (body.observedStatus = .waitingApproval ∨ body.observedStatus = .waitingChoice) ∧
        attempt.suspension.isSome = true ∧
        ∃ suspension, attempt.data.providerSuspension = some suspension ∧
          suspension.generation = attempt.generation ∧ suspension.resolvedAt = none := by
  simp [parkedSuspensionObservation, ReduceInput.guardCtx, present, observed, Option.any_eq_true]

theorem observes_of_overlapping {left right : TransitionRule}
    (classified : classifyLane input.attempt input.evidence input.holds = .ok lane)
    (leftMatched : Matched input lane left) (rightMatched : Matched input lane right)
    (overlap : overlapping left right = true) : ObservesReportedWhileParked input := by
  simp only [overlapping, Bool.and_eq_true, beq_iff_eq] at overlap
  have leftPasses : finishedAfterReport (input.guardCtx lane.effectiveGeneration) = true := by
    rcases leftMatched.guard with otherwise | passes
    · rw [overlap.1] at otherwise
      cases otherwise
    · rw [overlap.1] at passes
      exact passes
  have rightPasses :
      parkedSuspensionObservation (input.guardCtx lane.effectiveGeneration) = true := by
    rcases rightMatched.guard with otherwise | passes
    · rw [overlap.2] at otherwise
      cases otherwise
    · rw [overlap.2] at passes
      exact passes
  have checked : (transitions.all fun rule => rule.guard != some .parkedSuspensionObservation ||
      rule.lane == .current && rule.fromStates == .states [.suspended]) = true := by
    decide
  have row := of_transitions checked rightMatched.member
  simp only [overlap.2, bne_self_eq_false, Bool.false_or, Bool.and_eq_true, beq_iff_eq] at row
  have observed : ∃ body, input.evidence.body = .noProgress body := by
    unfold parkedSuspensionObservation at rightPasses
    split at rightPasses
    · rename_i body found
      exact ⟨body, found⟩
    · cases rightPasses
  rcases observed with ⟨body, observed⟩
  have admits := rightMatched.admits
  rw [row.2] at admits
  cases present : input.attempt with
  | none =>
    rw [present] at admits
    cases admits
  | some attempt =>
    have reported := (finishedAfterReport_iff present observed _).mp leftPasses
    have parked := (parkedSuspensionObservation_iff present observed _).mp rightPasses
    have suspended : attempt.state = .suspended := by
      rw [present] at admits
      simpa [ruleAdmitsState] using admits
    refine ⟨attempt, body, lane, present, observed, present ▸ classified, ?_, ?_⟩
    · exact rightMatched.sameLane.symm.trans row.1
    · exact ⟨suspended, reported.1, reported.2, parked.1, parked.2.1, parked.2.2⟩

theorem exists_overlapping (observes : ObservesReportedWhileParked input) :
    ∃ left ∈ matchingRules input, ∃ right ∈ matchingRules input, left ≠ right := by
  rcases observes with ⟨attempt, body, lane, present, observed, classified, current, parked⟩
  have rows : ∀ guard ∈ [GuardId.finishedAfterReport, .parkedSuspensionObservation],
      ∃ rule ∈ transitions, rule.lane = .current ∧
        ruleAdmitsState rule.fromStates (some .suspended) = true ∧ .noProgress ∈ rule.on ∧
        rule.guard = some guard := by decide
  have matchesRow : ∀ {rule : TransitionRule} {guard : GuardId}, rule ∈ transitions →
      rule.lane = .current ∧ ruleAdmitsState rule.fromStates (some .suspended) = true ∧
        .noProgress ∈ rule.on ∧ rule.guard = some guard →
      guards guard (input.guardCtx lane.effectiveGeneration) = true →
      rule ∈ matchingRules input := by
    intro rule guard member row passes
    apply mem_matchingRules_of_passes classified member (row.1.trans current.symm)
    · rw [present, map_some, parked.suspended]
      exact row.2.1
    · rw [TurnEvidence.kind, observed]
      exact row.2.2.1
    · rw [row.2.2.2, guardPasses_some]
      exact passes
  rcases rows .finishedAfterReport (by decide) with ⟨left, leftMember, leftRow⟩
  rcases rows .parkedSuspensionObservation (by decide) with ⟨right, rightMember, rightRow⟩
  have leftPasses := (finishedAfterReport_iff present observed lane.effectiveGeneration).mpr
    ⟨parked.reported, parked.finalPresent⟩
  have rightPasses :=
    (parkedSuspensionObservation_iff present observed lane.effectiveGeneration).mpr
      ⟨parked.waiting, parked.parked, parked.unanswered⟩
  refine ⟨left, matchesRow leftMember leftRow leftPasses,
    right, matchesRow rightMember rightRow rightPasses, ?_⟩
  rintro rfl
  cases leftRow.2.2.2.symm.trans rightRow.2.2.2

end Overlap

/-! ## The order of the table -/

/-- `matchingRules` over another table. -/
def matchingRulesOf (table : List TransitionRule) (input : ReduceInput) : List TransitionRule :=
  match classifyLane input.attempt input.evidence input.holds with
  | .error _ => []
  | .ok lane =>
    let ctx := input.guardCtx lane.effectiveGeneration
    let candidates :=
      table.filter (ruleIsCandidate lane.lane (input.attempt.map (·.state)) input.evidence.kind)
    let specific := candidates.filter (guardPasses ·.guard ctx)
    if specific.isEmpty then candidates.filter (·.guard == some .otherwise) else specific

/-- `reduce` over another table. -/
def reduceOf (table : List TransitionRule) (input : ReduceInput) : ReduceResult :=
  match classifyLane input.attempt input.evidence input.holds with
  | .error rejection => rejected input rejection
  | .ok lane =>
    match stoppingStop input lane.lane with
    | some (attempt, stop) => reduceStopping input attempt stop
    | none =>
      match (matchingRulesOf table input).head? with
      | none =>
        rejected input
          (if input.attempt.any (·.state.isTerminal) then .alreadyTerminal
          else .illegalTransition)
      | some rule => applyRule input lane.effectiveGeneration rule

theorem reduceOf_transitions (input : ReduceInput) : reduceOf transitions input = reduce input :=
  rfl

theorem perm_filter_or_filter {left right : List TransitionRule}
    (first second : TransitionRule → Bool) (perm : left.Perm right) :
    (if (left.filter first).isEmpty then left.filter second else left.filter first).Perm
      (if (right.filter first).isEmpty then right.filter second else right.filter first) := by
  rw [(perm.filter first).isEmpty_eq]
  split
  · exact perm.filter second
  · exact perm.filter first

variable {table : List TransitionRule}

theorem perm_matchingRulesOf (reordered : table.Perm transitions) (input : ReduceInput) :
    (matchingRulesOf table input).Perm (matchingRules input) := by
  cases classified : classifyLane input.attempt input.evidence input.holds with
  | error rejection =>
    simp only [matchingRulesOf, matchingRules, classified]
    exact .nil
  | ok lane =>
    have candidates := reordered.filter
      (ruleIsCandidate lane.lane (input.attempt.map (·.state)) input.evidence.kind)
    simp only [matchingRulesOf, matchingRules, classified]
    exact perm_filter_or_filter _ _ candidates

theorem reduceOf_of_length_le_one (reordered : table.Perm transitions) {input : ReduceInput}
    (single : (matchingRules input).length ≤ 1) : reduceOf table input = reduce input := by
  have perm := perm_matchingRulesOf reordered input
  have same : matchingRulesOf table input = matchingRulesOf transitions input := by
    change _ = matchingRules input
    rcases rules : matchingRules input with _ | ⟨rule, _ | ⟨other, rest⟩⟩
    · rw [rules] at perm
      exact perm.eq_nil
    · rw [rules] at perm
      exact perm_singleton.mp perm
    · simp [rules] at single
  rw [← reduceOf_transitions, reduceOf, same]
  rfl

/-- At most one rule matches, so that the order of the table does not matter. -/
structure Unambiguous (input : ReduceInput) : Prop where
  single : (matchingRules input).length ≤ 1
  unordered : ∀ table : List TransitionRule, table.Perm transitions →
    reduceOf table input = reduce input

theorem length_matchingRules_le_one {state : LedgerState} (reachable : ledger.Reachable state)
    {input : LedgerInput} (unobserved : ¬ ObservesReportedWhileParked (input.reduceInput state)) :
    (matchingRules (input.reduceInput state)).length ≤ 1 := by
  rcases rules : matchingRules (input.reduceInput state) with _ | ⟨left, _ | ⟨right, rest⟩⟩
  · exact Nat.zero_le 1
  · exact Nat.le_refl 1
  exfalso
  have leftMember : left ∈ matchingRules (input.reduceInput state) := by simp [rules]
  have rightMember : right ∈ matchingRules (input.reduceInput state) := by simp [rules]
  have distinct := nodup_matchingRules (input.reduceInput state)
  rw [rules] at distinct
  cases classified : classifyLane (input.reduceInput state).attempt
      (input.reduceInput state).evidence (input.reduceInput state).holds with
  | error rejection => simp [matchingRules, classified] at rules
  | ok lane =>
    have leftMatched := matched_of_mem_matchingRules classified leftMember
    have rightMatched := matched_of_mem_matchingRules classified rightMember
    have placed : ∀ attempt, (input.reduceInput state).attempt = some attempt →
        attempt.reported = true → attempt.state ∉ unreportedStates :=
      fun _ present reported => report_placed reachable present reported
    have facts := factsHold_stateFacts placed lane.effectiveGeneration
    rcases eq_or_overlapping leftMatched rightMatched
      (otherwise_of_mem leftMember rightMember) facts with rfl | overlap | overlap
    · simp at distinct
    · exact unobserved (observes_of_overlapping classified leftMatched rightMatched overlap)
    · exact unobserved (observes_of_overlapping classified rightMatched leftMatched overlap)

theorem matchingRules_eq_singleton {state : LedgerState} (reachable : ledger.Reachable state)
    {input : LedgerInput} (kind : input.evidence.kind ≠ .noProgress) {rule : TransitionRule}
    (member : rule ∈ matchingRules (input.reduceInput state)) :
    matchingRules (input.reduceInput state) = [rule] := by
  have unobserved : ¬ ObservesReportedWhileParked (input.reduceInput state) := by
    rintro ⟨_, body, _, _, observed, _⟩
    apply kind
    have same : input.evidence.body = .noProgress body := observed
    rw [TurnEvidence.kind, same]
    rfl
  have single := length_matchingRules_le_one reachable unobserved
  rcases rules : matchingRules (input.reduceInput state) with _ | ⟨only, _ | ⟨other, rest⟩⟩
  · rw [rules] at member
    cases member
  · rw [rules, mem_singleton] at member
    rw [member]
  · simp [rules] at single

/-- In a reachable state the table is ambiguous for one kind of observation and
for nothing else. -/
theorem unambiguous_iff {state : LedgerState} (reachable : ledger.Reachable state)
    (input : LedgerInput) : Unambiguous (input.reduceInput state) ↔
      ¬ ObservesReportedWhileParked (input.reduceInput state) := by
  constructor
  · intro unambiguous observes
    rcases exists_overlapping observes with ⟨left, leftMember, right, rightMember, differ⟩
    have single := unambiguous.single
    rcases rules : matchingRules (input.reduceInput state) with _ | ⟨rule, _ | ⟨other, rest⟩⟩
    · rw [rules] at leftMember
      cases leftMember
    · rw [rules, List.mem_singleton] at leftMember rightMember
      exact differ (leftMember.trans rightMember.symm)
    · simp [rules] at single
  intro unobserved
  have single := length_matchingRules_le_one reachable unobserved
  exact ⟨single, fun table reordered => reduceOf_of_length_le_one reordered single⟩

/-- A worker that asks for an approval and reports while it waits. -/
def sampleParked : List LedgerInput :=
  sampleStarted ++
    [sampleInput 2 .fsmEdge (.suspension { modal := .approval }),
      sampleInput 3 .workerTool (.workerReport { outcome := .completed, hasHandoffNotes := false })]

def sampleStalled (finalAssistantPresent : Bool) : LedgerInput :=
  sampleInput 4 .meshStallWatchdog (.noProgress {
    stalledMs := 1, observedStatus := .waitingApproval
    finalAssistantPresent := finalAssistantPresent })

/-- It is then seen with its final message written: two rules match, and the one
written first commits the report where the other sends a reminder. -/
theorem ambiguous_parked :
    ((sampleParked ++ [sampleStalled true]).all fun input =>
        isTurnEvidence input.evidence) = true ∧
      (matchingRules ((sampleStalled true).reduceInput (ledger.run sampleParked))).map (·.id) =
        [.R9t, .R30p] ∧ ¬ Unambiguous ((sampleStalled true).reduceInput (ledger.run sampleParked)) ∧
      (reduceOf transitions.reverse
          ((sampleStalled true).reduceInput (ledger.run sampleParked))).effects ≠
        (reduce ((sampleStalled true).reduceInput (ledger.run sampleParked))).effects := by
  have both : (matchingRules ((sampleStalled true).reduceInput (ledger.run sampleParked))).map
      (·.id) = [.R9t, .R30p] := by decide
  refine ⟨by decide, both, ?_, by decide⟩
  intro unambiguous
  have two := congrArg List.length both
  rw [List.length_map] at two
  have single := unambiguous.single
  rw [two] at single
  exact absurd single (by decide)

theorem unambiguous_iff_stalled :
    Unambiguous ((sampleStalled false).reduceInput (ledger.run sampleParked)) := by
  refine (unambiguous_iff (Machine.reachable_run sampleParked) (sampleStalled false)).mpr ?_
  rintro ⟨_, body, _, _, observed, _, _, parked⟩
  cases observed
  cases parked.finalPresent

end Adhdev.TurnLedger
