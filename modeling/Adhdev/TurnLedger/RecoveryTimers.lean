import Adhdev.TurnLedger.HoldSets
import Adhdev.TurnLedger.RuleTable

/-! # Recovery timers

A mesh attempt that waits for its turn is watched by a timer of its state, except
while its provider is being set up. Resolving that setup arms the timers of a
delivered attempt, also where the attempt is only accepted. -/

namespace Adhdev.TurnLedger

open MeshShared List

def recoveryReasons : TurnState → List HoldReason
  | .accepted => [.awaitDelivery]
  | .delivered => [.awaitConsume, .awaitTurn]
  | _ => []

structure Waiting (attempt : TurnAttempt) : Prop where
  mesh : isMeshScope attempt = true
  state : attempt.state = .accepted ∨ attempt.state = .delivered
  free : underProviderSetup attempt = false

def Timed (attempt : TurnAttempt) (holds : List TurnHold) : Prop :=
  Waiting attempt → ∃ reason ∈ recoveryReasons attempt.state, (heldFor holds reason).isSome = true

structure ResumesAccepted (state : LedgerState) (input : LedgerInput) (attempt : TurnAttempt) :
    Prop where
  present : state.attempt = some attempt
  mesh : isMeshScope attempt = true
  accepted : attempt.state = .accepted
  resolved : input.evidence.kind = .suspensionResolved
  held : heldProviderSetup ((input.reduceInput state).guardCtx none) = true
  current : ∃ generation,
    classifyLane state.attempt input.evidence state.holds = .ok ⟨.current, generation⟩

/-! ## Provider setup -/

section Setup

variable {attempt next : TurnAttempt} {ctx : GuardCtx}

theorem underProviderSetup_congr
    (suspension : next.data.providerSuspension = attempt.data.providerSuspension)
    (generation : next.generation = attempt.generation) :
    underProviderSetup next = underProviderSetup attempt := by
  unfold underProviderSetup
  rw [suspension, generation]

theorem underProviderSetup_applyEffects {draft : Draft} {templates : List EffectTemplate}
    (continuing : ∀ template ∈ templates, template.isContinuing = true)
    (untouched : (effectsFootprint templates).suspension = false)
    (present : draft.attempt = some attempt) :
    ∃ next, (applyEffects ctx templates draft).attempt = some next ∧
      underProviderSetup next = underProviderSetup attempt := by
  rcases (continues_applyEffects ctx draft continuing).attempt present with
    ⟨next, nextPresent, within⟩
  refine ⟨next, nextPresent, ?_⟩
  rcases within.suspension with same | ⟨touched, _⟩
  · exact underProviderSetup_congr same within.generation
  · rw [untouched] at touched
    cases touched

theorem underProviderSetup_resumeSuspension (evidence : TurnEvidence) :
    underProviderSetup (resumeSuspension evidence false attempt) = false := by
  unfold underProviderSetup resumeSuspension
  cases recorded : attempt.data.providerSuspension with
  | none => rfl
  | some suspension =>
    by_cases current : suspension.generation = attempt.generation <;> simp [current]

theorem underProviderSetup_suspend {draft : Draft} (present : draft.attempt = some attempt)
    (confirmed : guards .confirmedProviderSetup ctx = true) :
    ∃ next, (suspend ctx draft).attempt = some next ∧ underProviderSetup next = true := by
  simp only [guards] at confirmed
  split at confirmed
  · rename_i body found
    simp only [Bool.and_eq_true] at confirmed
    simp [suspend, found, Draft.update, present, underProviderSetup, confirmed.1]
  · cases confirmed

end Setup

/-! ## Steps into a waiting state -/

inductive WaitingStep (input : ReduceInput) (attempt next : TurnAttempt) (result : ReduceResult) :
    Prop
  | unchanged (same : next = attempt) (sameHolds : result.holds = input.holds)
  | moved {lane : LaneClass} {rule : TransitionRule} (applied : Applied input lane rule)
      (moving : rule.isMoving = true) (moved : Moved rule attempt next)
      (fates : ∀ reason, (rule.fate (isMeshScope attempt) reason).Sound
        (input.guardCtx lane.effectiveGeneration) reason
        (heldFor input.holds reason) (heldFor result.holds reason))
      (ruled : result = applyRule input lane.effectiveGeneration rule)
  | requeued (accepted : next.state = .accepted) (free : underProviderSetup next = false)
      (armed : (heldFor result.holds .awaitDelivery).isSome = true)

section WaitingSteps

variable {input : ReduceInput} {attempt next : TurnAttempt} {result : ReduceResult}

theorem waitingStep_of_attemptStep (consistent : Consistent attempt input.holds)
    (step : AttemptStep input attempt result) (nextPresent : result.attempt = some next)
    (waiting : next.state = .accepted ∨ next.state = .delivered) :
    WaitingStep input attempt next result := by
  have notStopping : next.state ≠ .stopping := by
    rintro stopping
    rw [stopping] at waiting
    rcases waiting with wrong | wrong <;> cases wrong
  cases holdStep_of_attemptStep consistent step nextPresent with
  | unchanged same sameHolds => exact .unchanged same sameHolds
  | moved applied moving _ moved fates ruled => exact .moved applied moving moved fates ruled
  | ended terminal =>
    rcases waiting with accepted | delivered
    · rw [accepted] at terminal
      cases terminal
    · rw [delivered] at terminal
      cases terminal
  | stopBegun _ stopping =>
    subst stopping
    exact absurd rfl notStopping
  | waits stopping _ _ within => exact absurd ((within.state_eq rfl).trans stopping) notStopping
  | requeued _ _ _ requeued held =>
    subst requeued
    refine .requeued rfl ?_ ?_
    · rw [Bool.eq_false_iff]
      intro under
      simp only [underProviderSetup, Option.any_eq_true, Bool.and_eq_true, beq_iff_eq] at under
      rcases under with ⟨suspension, recorded, ⟨_, generation⟩, _⟩
      have le := consistent.dated.suspension suspension recorded
      have later : suspension.generation = attempt.generation + 1 := generation
      omega
    · rw [held .awaitDelivery]
      rfl

end WaitingSteps

/-! ## Accepted attempts under setup -/

/-- While an accepted attempt's provider is set up its delivery timer is off. -/
def Parked (attempt : TurnAttempt) (holds : List TurnHold) : Prop :=
  attempt.state = .accepted → underProviderSetup attempt = true →
    heldFor holds .awaitDelivery = none

section Parked

variable {input : ReduceInput} {attempt next : TurnAttempt} {result : ReduceResult}
  {lane : LaneClass} {rule : TransitionRule}

theorem parked_of_moved (present : input.attempt = some attempt)
    (matched : Matched input lane rule) (moving : rule.isMoving = true)
    (moved : Moved rule attempt next)
    (fates : ∀ reason, (rule.fate (isMeshScope attempt) reason).Sound
      (input.guardCtx lane.effectiveGeneration) reason
      (heldFor input.holds reason) (heldFor result.holds reason))
    (parked : Parked attempt input.holds) : Parked next result.holds := by
  intro accepted under
  have checked : tableCheck (fun rule state => !rule.isMoving || rule.nominal state != .accepted ||
      [true, false].all fun mesh => rule.fate mesh .awaitDelivery == .dropped ||
        state == .accepted && (rule.fate mesh .awaitDelivery).neverArms &&
          (!rule.footprint.suspension || requires rule.facts (.is .underSetup true))) = true := by
    decide
  have property := matched.of_tableCheck checked present
  have nominal : rule.nominal attempt.state = .accepted := by
    rcases moved.state with nominal | ⟨_, suspended⟩
    · exact nominal.symm.trans accepted
    · cases accepted.symm.trans suspended
  simp only [moving, nominal, Bool.not_true, bne_self_eq_false, Bool.false_or] at property
  have atScope := all_eq_true.mp property (isMeshScope attempt) (mem_bools _)
  simp only [Bool.or_eq_true, Bool.and_eq_true, beq_iff_eq, Bool.not_eq_true'] at atScope
  have sound := fates .awaitDelivery
  rcases atScope with dropped | ⟨⟨wasAccepted, neverArms⟩, setup⟩
  · rw [dropped] at sound
    exact sound
  have wasUnder : underProviderSetup attempt = true := by
    rcases moved.suspension with same | ⟨touched, _⟩
    · rw [← under]
      exact (underProviderSetup_congr same (congrArg AttemptCore.generation moved.core)).symm
    rcases setup with untouched | required
    · rw [untouched] at touched
      cases touched
    have fact : (input.guardCtx lane.effectiveGeneration).attempt.any underProviderSetup =
        true := matched.described.requires required
    rw [ReduceInput.guardCtx, present] at fact
    exact fact
  by_contra held
  have before := sound.held_before neverArms (Option.isSome_iff_ne_none.mpr held)
  have unheld := parked wasAccepted wasUnder
  rw [ReduceInput.guardCtx, unheld] at before
  cases before

theorem parked_of_reachable {state : LedgerState} (reachable : ledger.Reachable state)
    (present : state.attempt = some attempt) : Parked attempt state.holds := by
  refine attempt_invariant Parked ?_ ?_ reachable present
  · intro input result attempt step opened _ under
    cases step with
    | absent sameAttempt => cases sameAttempt.symm.trans opened
    | dispatched _ isOpened | plain isOpened =>
      cases isOpened.symm.trans opened
      cases under
  intro input attempt next result present consistent parked step nextPresent accepted under
  cases waitingStep_of_attemptStep consistent step nextPresent (.inl accepted) with
  | unchanged same sameHolds =>
    subst same
    rw [sameHolds]
    exact parked accepted under
  | moved applied moving moved fates =>
    exact parked_of_moved present applied.matched moving moved fates parked accepted under
  | requeued _ free => cases free.symm.trans under

end Parked

/-! ## Timers kept -/

namespace TransitionRule

def confirmsSetup (rule : TransitionRule) : Bool :=
  rule.guard == some .confirmedProviderSetup && rule.target == .same &&
    rule.effects.head? == some (.act .suspend) &&
    !(effectsFootprint rule.effects.tail).suspension

def resolvesSetup (rule : TransitionRule) : Bool :=
  rule.guard == some .heldProviderSetup && rule.on == [.suspensionResolved] && rule.lane == .current

def keepsTimers (rule : TransitionRule) (state : TurnState) : Bool :=
  (recoveryReasons (rule.nominal state)).isEmpty ||
    (recoveryReasons (rule.nominal state)).any (rule.fate true · == .armed) ||
    !rule.footprint.suspension && (requires rule.facts (.is .underSetup true) ||
      rule.nominal state == state && (recoveryReasons state).all (rule.fate true · == .kept)) ||
    rule.confirmsSetup || rule.resolvesSetup && state == .accepted

end TransitionRule

section Timed

variable {input : ReduceInput} {attempt next : TurnAttempt} {result : ReduceResult}
  {lane : LaneClass} {rule : TransitionRule}

theorem guards_of_guard {guard : GuardId} (matched : Matched input lane rule)
    (guarded : rule.guard = some guard) (specific : guard ≠ .otherwise) :
    guards guard (input.guardCtx lane.effectiveGeneration) = true := by
  rcases matched.guard with otherwise | passes
  · rw [guarded, Option.some.injEq] at otherwise
    exact absurd otherwise specific
  · rw [guarded, guardPasses_some] at passes
    exact passes

theorem underProviderSetup_of_confirmsSetup (present : input.attempt = some attempt)
    (matched : Matched input lane rule) (moving : rule.isMoving = true)
    (confirms : rule.confirmsSetup = true)
    (nextPresent : (ruleDraft input lane.effectiveGeneration rule).attempt = some next) :
    underProviderSetup next = true := by
  simp only [TransitionRule.confirmsSetup, Bool.and_eq_true, beq_iff_eq, Bool.not_eq_true']
    at confirms
  rcases confirms with ⟨⟨⟨guarded, same⟩, first⟩, untouched⟩
  have confirmed := guards_of_guard matched guarded (by decide)
  rcases head?_eq_some_iff.mp first with ⟨rest, effects⟩
  rw [effects, tail_cons] at untouched
  have continuing : ∀ template ∈ rest, template.isContinuing = true := by
    intro template member
    have inEffects : template ∈ rule.effects := effects ▸ .tail _ member
    exact (Bool.and_eq_true_iff.mp (all_eq_true.mp moving template inEffects)).1
  have current : (initialDraft input).attempt = some attempt := present
  rcases underProviderSetup_suspend current confirmed with ⟨suspended, isSuspended, under⟩
  have draft : ruleDraft input lane.effectiveGeneration rule =
      applyEffects (input.guardCtx lane.effectiveGeneration) rest
        (suspend (input.guardCtx lane.effectiveGeneration) (initialDraft input)) := by
    have target : ∀ draft, settleTarget input rule draft = draft := by
      intro draft
      unfold settleTarget
      rw [same]
      cases rule.verdict <;> rfl
    rw [ruleDraft, target, effects]
    rfl
  rcases underProviderSetup_applyEffects continuing untouched isSuspended with
    ⟨final, isFinal, kept⟩
  rw [draft, isFinal, Option.some.injEq] at nextPresent
  rw [← nextPresent, kept]
  exact under

theorem timed_of_moved (present : input.attempt = some attempt)
    (matched : Matched input lane rule) (moving : rule.isMoving = true)
    (moved : Moved rule attempt next)
    (fates : ∀ reason, (rule.fate (isMeshScope attempt) reason).Sound
      (input.guardCtx lane.effectiveGeneration) reason
      (heldFor input.holds reason) (heldFor result.holds reason))
    (nextPresent : (ruleDraft input lane.effectiveGeneration rule).attempt = some next)
    (unresolved : rule.resolvesSetup = true → attempt.state ≠ .accepted)
    (timed : Timed attempt input.holds) : Timed next result.holds := by
  intro waiting
  have checked : tableCheck (fun rule state => !rule.isMoving || rule.keepsTimers state) =
      true := by
    decide
  have property := matched.of_tableCheck checked present
  have nominal : rule.nominal attempt.state = next.state := by
    rcases moved.state with nominal | ⟨_, suspended⟩
    · exact nominal.symm
    · rcases waiting.state with state | state <;> cases state.symm.trans suspended
  have mesh : isMeshScope attempt = true := by
    have scope : next.scope = attempt.scope := congrArg AttemptCore.scope moved.core
    rw [← waiting.mesh, isMeshScope, isMeshScope, scope]
  have watched : (recoveryReasons next.state).isEmpty = false := by
    rcases waiting.state with state | state <;> rw [state] <;> rfl
  rw [mesh] at fates
  simp only [moving, Bool.not_true, Bool.false_or, TransitionRule.keepsTimers, nominal,
    watched, Bool.or_eq_true, Bool.and_eq_true, beq_iff_eq, any_eq_true,
    all_eq_true, Bool.not_eq_true'] at property
  rcases property with ((⟨reason, member, armed⟩ | ⟨untouched, setup⟩) | confirms) | resolves
  · have sound := fates reason
    rw [armed] at sound
    exact ⟨reason, member, sound⟩
  · have same : underProviderSetup next = underProviderSetup attempt := by
      rcases moved.suspension with same | ⟨touched, _⟩
      · exact underProviderSetup_congr same (congrArg AttemptCore.generation moved.core)
      · rw [untouched] at touched
        cases touched
    have free : underProviderSetup attempt = false := same.symm.trans waiting.free
    rcases setup with required | ⟨stays, kept⟩
    · have fact : (input.guardCtx lane.effectiveGeneration).attempt.any underProviderSetup =
          true := matched.described.requires required
      rw [ReduceInput.guardCtx, present] at fact
      cases free.symm.trans fact
    rw [stays]
    rcases timed ⟨mesh, stays ▸ waiting.state, free⟩ with ⟨reason, member, held⟩
    refine ⟨reason, member, ?_⟩
    have sound := fates reason
    rw [kept reason member] at sound
    rw [show heldFor result.holds reason = heldFor input.holds reason from sound]
    exact held
  · have under := underProviderSetup_of_confirmsSetup present matched moving confirms nextPresent
    cases waiting.free.symm.trans under
  · exact absurd resolves.2 (unresolved resolves.1)

end Timed

/-! ## Answered expiries -/

def recoveryRules : List RuleId := [.H1, .H2, .H2r, .H3]

def expiryInput (ctx : ExpireHoldsContext) (policy : TurnPolicy) (nowMs untilMs : Int)
    (hold : TurnHold) : LedgerInput where
  evidence := holdExpiredEvidence ctx nowMs hold untilMs
  policy := policy
  nowMs := nowMs

def Answered (state : LedgerState) (hold : TurnHold) : Prop :=
  ∀ (ctx : ExpireHoldsContext) (policy : TurnPolicy) (nowMs untilMs : Int),
    ∃ id ∈ recoveryRules,
      (matchingRules ((expiryInput ctx policy nowMs untilMs hold).reduceInput state)).map (·.id) =
        [id]

/-- A waiting attempt has a timer besides the ceiling whose expiry is answered. -/
def Recoverable (state : LedgerState) : Prop :=
  ∀ attempt, state.attempt = some attempt → Waiting attempt →
    ∃ hold ∈ state.holds, hold.reason ≠ .hardCeiling ∧ Answered state hold

section Expiry

variable {state : LedgerState} {attempt : TurnAttempt} {hold : TurnHold}

theorem expiredHold_of_mem (present : state.attempt = some attempt)
    (shaped : HoldsShaped attempt state.holds) (member : hold ∈ state.holds)
    (ctx : ExpireHoldsContext) (policy : TurnPolicy) (nowMs untilMs : Int)
    (effectiveGeneration : Option Int) :
    expiredHold (((expiryInput ctx policy nowMs untilMs hold).reduceInput state).guardCtx
      effectiveGeneration) = some hold := by
  have found : state.holds.find? (·.holdId == hold.holdId) = some hold := by
    apply KeyedMap.lookup_of_mem _ member
    intro other otherMember sameId
    exact inj_on_of_nodup_map shaped.nodup otherMember member sameId
  have own : hold.attemptId = attempt.attemptId := (shaped.shape hold member).attemptId
  simp [expiredHold, expiryInput, holdExpiredEvidence, LedgerInput.reduceInput,
    ReduceInput.guardCtx, found, present, own]

theorem answered_of_row (reachable : ledger.Reachable state)
    (present : state.attempt = some attempt) (member : hold ∈ state.holds)
    (ctx : ExpireHoldsContext) (policy : TurnPolicy) (nowMs untilMs : Int) (guard : GuardId)
    (row : ∃ rule ∈ transitions, rule.lane = .current ∧
      ruleAdmitsState rule.fromStates (some attempt.state) = true ∧ .holdExpired ∈ rule.on ∧
      rule.guard = some guard ∧ rule.id ∈ recoveryRules)
    (passes : guards guard (((expiryInput ctx policy nowMs untilMs hold).reduceInput state).guardCtx
      (some attempt.generation)) = true) :
    ∃ id ∈ recoveryRules,
      (matchingRules ((expiryInput ctx policy nowMs untilMs hold).reduceInput state)).map (·.id) =
        [id] := by
  have shaped := ((consistent_of_reachable reachable).of_present present).shaped
  rcases row with ⟨rule, isRule, current, admits, on, guarded, recovers⟩
  have classified : classifyLane
      ((expiryInput ctx policy nowMs untilMs hold).reduceInput state).attempt
      ((expiryInput ctx policy nowMs untilMs hold).reduceInput state).evidence
      ((expiryInput ctx policy nowMs untilMs hold).reduceInput state).holds =
        .ok ⟨.current, some attempt.generation⟩ := by
    have lane := shaped.classifyLane_expiry member ctx nowMs untilMs
    rw [← present] at lane
    exact lane
  have matching : rule ∈
      matchingRules ((expiryInput ctx policy nowMs untilMs hold).reduceInput state) := by
    apply mem_matchingRules_of_passes classified isRule current
    · have state : ((expiryInput ctx policy nowMs untilMs hold).reduceInput state).attempt =
          some attempt := present
      rw [state]
      exact admits
    · exact on
    · rw [guarded, guardPasses_some]
      exact passes
  have kind : (expiryInput ctx policy nowMs untilMs hold).evidence.kind ≠ .noProgress := by
    change TurnEvidenceKind.holdExpired ≠ .noProgress
    decide
  refine ⟨rule.id, recovers, ?_⟩
  rw [matchingRules_eq_singleton reachable kind matching]
  rfl

theorem answered_of_recoveryReason (reachable : ledger.Reachable state)
    (present : state.attempt = some attempt) (member : hold ∈ state.holds)
    (recovers : hold.reason ∈ recoveryReasons attempt.state) : Answered state hold := by
  intro ctx policy nowMs untilMs
  have shaped := ((consistent_of_reachable reachable).of_present present).shaped
  have expired := expiredHold_of_mem present shaped member ctx policy nowMs untilMs
    (some attempt.generation)
  have holdIs_reason : ∀ {reason : HoldReason}, hold.reason = reason →
      holdIs (((expiryInput ctx policy nowMs untilMs hold).reduceInput state).guardCtx
        (some attempt.generation)) [reason] = true := by
    intro reason same
    simp [holdIs, expired, same]
  have rows : ∀ pair ∈ [(GuardId.holdAwaitDelivery, TurnState.accepted),
      (.holdAwaitConsumeRedrive, .delivered), (.holdAwaitConsumeExhausted, .delivered),
      (.holdAwaitTurn, .delivered)],
      ∃ rule ∈ transitions, rule.lane = .current ∧
        ruleAdmitsState rule.fromStates (some pair.2) = true ∧ .holdExpired ∈ rule.on ∧
        rule.guard = some pair.1 ∧ rule.id ∈ recoveryRules := by decide
  cases waits : attempt.state <;> rw [waits] at recovers <;>
    simp only [recoveryReasons, mem_cons, not_mem_nil, or_false] at recovers
  case accepted =>
    exact answered_of_row reachable present member ctx policy nowMs untilMs .holdAwaitDelivery
      (waits ▸ rows (.holdAwaitDelivery, .accepted) (by decide)) (holdIs_reason recovers)
  case delivered =>
    rcases recovers with consume | turn
    · cases exhausted : redrivesExhausted (((expiryInput ctx policy nowMs untilMs
          hold).reduceInput state).guardCtx (some attempt.generation)) with
      | false =>
        apply answered_of_row reachable present member ctx policy nowMs untilMs
          .holdAwaitConsumeRedrive
          (waits ▸ rows (.holdAwaitConsumeRedrive, .delivered) (by decide))
        simp [guards, holdIs_reason consume, exhausted]
      | true =>
        apply answered_of_row reachable present member ctx policy nowMs untilMs
          .holdAwaitConsumeExhausted
          (waits ▸ rows (.holdAwaitConsumeExhausted, .delivered) (by decide))
        simp [guards, holdIs_reason consume, exhausted]
    · exact answered_of_row reachable present member ctx policy nowMs untilMs .holdAwaitTurn
        (waits ▸ rows (.holdAwaitTurn, .delivered) (by decide)) (holdIs_reason turn)

theorem awaitDelivery_of_answered (present : state.attempt = some attempt)
    (shaped : HoldsShaped attempt state.holds) (accepted : attempt.state = .accepted)
    (member : hold ∈ state.holds) (answered : Answered state hold) :
    hold.reason = .awaitDelivery := by
  let input := expiryInput ⟨"", fun _ => ""⟩ defaultTurnPolicy 0 0 hold
  rcases answered ⟨"", fun _ => ""⟩ defaultTurnPolicy 0 0 with ⟨id, recovers, only⟩
  have classified : classifyLane (input.reduceInput state).attempt
      (input.reduceInput state).evidence (input.reduceInput state).holds =
        .ok ⟨.current, some attempt.generation⟩ := by
    have lane := shaped.classifyLane_expiry member ⟨"", fun _ => ""⟩ 0 0
    rw [← present] at lane
    exact lane
  have matching : ∃ rule ∈ matchingRules (input.reduceInput state), rule.id = id :=
    mem_map.mp (only ▸ mem_singleton_self id)
  rcases matching with ⟨rule, isMatching, sameId⟩
  have matched := matched_of_mem_matchingRules classified isMatching
  have checked : tableCheck (fun rule state => state != .accepted ||
      !recoveryRules.contains rule.id || requires rule.facts (.expired .awaitDelivery)) = true := by
    decide
  have inputPresent : (input.reduceInput state).attempt = some attempt := present
  have property := matched.of_tableCheck checked inputPresent
  simp only [accepted, sameId, recovers, bne_self_eq_false, Bool.false_or, contains_eq_mem,
    decide_true, Bool.not_true] at property
  rcases matched.described.requires property with ⟨expired, found, reason⟩
  rw [expiredHold_of_mem present shaped member, Option.some.injEq] at found
  rw [found, reason]

end Expiry

/-! ## One step -/

section Step

variable {state : LedgerState} {input : LedgerInput} {attempt : TurnAttempt}

theorem timed_of_opening {input : ReduceInput} {result : ReduceResult}
    (step : OpeningStep input result) (opened : result.attempt = some attempt) :
    Timed attempt result.holds := by
  intro waiting
  cases step with
  | absent sameAttempt => cases sameAttempt.symm.trans opened
  | dispatched _ isOpened holds =>
    cases isOpened.symm.trans opened
    refine ⟨.awaitDelivery, .head _, ?_⟩
    rw [holds, heldFor_openingHolds]
    simp [waiting.mesh]
  | plain isOpened =>
    cases isOpened.symm.trans opened
    cases waiting.mesh

theorem resumes_of_resolvesSetup {lane : LaneClass} {rule : TransitionRule}
    (present : state.attempt = some attempt) (mesh : isMeshScope attempt = true)
    (accepted : attempt.state = .accepted) (applied : Applied (input.reduceInput state) lane rule)
    (resolves : rule.resolvesSetup = true) : ResumesAccepted state input attempt := by
  have matched := applied.matched
  simp only [TransitionRule.resolvesSetup, Bool.and_eq_true, beq_iff_eq] at resolves
  rcases resolves with ⟨⟨guarded, on⟩, current⟩
  refine ⟨present, mesh, accepted, ?_, ?_, lane.effectiveGeneration, ?_⟩
  · have kind := matched.on
    rw [on] at kind
    exact mem_singleton.mp kind
  · exact guards_of_guard matched guarded (by decide)
  have isCurrent : lane.lane = .current := matched.sameLane.symm.trans current
  rw [← isCurrent]
  exact applied.classified

theorem timed_next (reachable : ledger.Reachable state)
    (allowed : ∀ attempt, ¬ ResumesAccepted state input attempt)
    (timed : ∀ attempt, state.attempt = some attempt → Timed attempt state.holds)
    {next : TurnAttempt} (nextPresent : (ledger.next state input).attempt = some next) :
    Timed next (ledger.next state input).holds := by
  have consistent := consistent_of_reachable reachable
  cases present : state.attempt with
  | none => exact timed_of_opening (consistent.openingStep present input) nextPresent
  | some attempt =>
    intro waiting
    have step := consistent.attemptStep present input
    have consistentAttempt := consistent.of_present present
    cases waitingStep_of_attemptStep consistentAttempt step nextPresent waiting.state with
    | unchanged same sameHolds =>
      subst same
      rw [show (ledger.next state input).holds = state.holds from sameHolds]
      exact timed next present waiting
    | @moved lane rule applied moving moved fates ruled =>
      have drafted : (ruleDraft (input.reduceInput state) lane.effectiveGeneration
          rule).attempt = some next :=
        (congrArg ReduceResult.attempt ruled).symm.trans nextPresent
      have mesh : isMeshScope attempt = true := by
        have scope : next.scope = attempt.scope := congrArg AttemptCore.scope moved.core
        rw [← waiting.mesh, isMeshScope, isMeshScope, scope]
      refine timed_of_moved present applied.matched moving moved fates drafted ?_
        (timed attempt present) waiting
      intro resolves accepted
      exact allowed attempt (resumes_of_resolvesSetup present mesh accepted applied resolves)
    | requeued accepted _ armed => exact ⟨.awaitDelivery, by rw [accepted]; exact .head _, armed⟩

theorem recoverable_of_timed (reachable : ledger.Reachable state)
    (timed : ∀ attempt, state.attempt = some attempt → Timed attempt state.holds) :
    Recoverable state := by
  intro attempt present waiting
  rcases timed attempt present waiting with ⟨reason, recovers, held⟩
  rcases Option.isSome_iff_exists.mp held with ⟨hold, found⟩
  have member : hold ∈ state.holds := KeyedMap.mem_of_lookup found
  have sameReason : hold.reason = reason := KeyedMap.label_of_lookup found
  refine ⟨hold, member, ?_, ?_⟩
  · intro ceiling
    rw [← sameReason, ceiling] at recovers
    rcases waiting.state with waits | waits <;> rw [waits] at recovers <;>
      exact absurd recovers (by decide)
  · exact answered_of_recoveryReason reachable present member (sameReason ▸ recovers)

end Step

/-! ## Resolved setups -/

section Resolution

variable {state : LedgerState} {input : LedgerInput} {attempt : TurnAttempt}

theorem applyTemplate_act {ctx : GuardCtx} {draft : Draft} (uncommitted : draft.committed = false)
    (action : ActionId) : applyTemplate ctx draft (.act action) = actions action ctx draft := by
  simp [applyTemplate, uncommitted]

theorem underProviderSetup_of_resume {ctx : GuardCtx} {draft : Draft}
    {earlier : EffectTemplate} {later : List EffectTemplate}
    (continuing : ∀ template ∈ earlier :: .act .resume :: later, template.isContinuing = true)
    (untouched : (effectsFootprint later).suspension = false)
    (present : draft.attempt = some attempt) (uncommitted : draft.committed = false) :
    ∃ next, (applyEffects ctx (earlier :: .act .resume :: later) draft).attempt = some next ∧
      underProviderSetup next = false := by
  have first := continues_applyTemplate ctx draft (continuing earlier mem_cons_self)
  rcases first.attempt present with ⟨middle, middlePresent, _⟩
  have resumed : (applyTemplate ctx (applyTemplate ctx draft earlier) (.act .resume)).attempt =
      some (resumeSuspension ctx.evidence false middle) := by
    rw [applyTemplate_act (first.committed.trans uncommitted), actions, Draft.update, middlePresent]
    rfl
  have rest : ∀ template ∈ later, template.isContinuing = true := fun template member =>
    continuing template (.tail _ (.tail _ member))
  rcases underProviderSetup_applyEffects rest untouched resumed with ⟨next, isNext, same⟩
  exact ⟨next, isNext, same.trans (underProviderSetup_resumeSuspension ctx.evidence)⟩

section

variable (reachable : ledger.Reachable state)
include reachable

theorem respond_of_matching (kind : input.evidence.kind ≠ .noProgress) {lane : LaneClass}
    {rule : TransitionRule} (classified : classifyLane state.attempt input.evidence state.holds =
      .ok lane) (present : state.attempt = some attempt) (notStopping : attempt.state ≠
      .stopping) (matching : rule ∈ matchingRules (input.reduceInput state)) : ledger.respond state
    input = applyRule (input.reduceInput state) lane.effectiveGeneration rule := by
  have passed : stoppingStop (input.reduceInput state) lane.lane = none := by
    cases lane.lane <;> simp [stoppingStop, LedgerInput.reduceInput, present, notStopping]
  have known : classifyLane (input.reduceInput state).attempt (input.reduceInput state).evidence
      (input.reduceInput state).holds = .ok lane := classified
  have only := matchingRules_eq_singleton reachable kind matching
  simp only [ledger, reduce, known, passed, only, head?_cons]

theorem untimed_of_resumes (resumes : ResumesAccepted state input attempt) : ∃ next,
    (ledger.next state input).attempt = some next ∧ Waiting next ∧ next.state = .accepted ∧ heldFor
    (ledger.next state input).holds .awaitDelivery = none := by
  have row : ∃ rule ∈ transitions, rule.lane = .current ∧
      ruleAdmitsState rule.fromStates (some .accepted) = true ∧ .suspensionResolved ∈ rule.on ∧
      rule.guard = some .heldProviderSetup ∧ rule.target = .same ∧
      rule.effects = [.release (.reasons [.suspensionBeforeConsumed]), .act .resume,
        awaitConsumeHold, awaitTurnHold] ∧
      rule.isMoving = true ∧ rule.footprint.state = false ∧
      rule.fate true .awaitDelivery = .kept := by decide
  rcases row with ⟨rule, member, current, admits, on, guarded, same, effects, moving, steady, kept⟩
  rcases resumes.current with ⟨generation, classified⟩
  have present : (input.reduceInput state).attempt = some attempt := resumes.present
  have consistent := (consistent_of_reachable reachable).of_present resumes.present
  have kind : (input.reduceInput state).evidence.kind = .suspensionResolved := resumes.resolved
  have matching : rule ∈ matchingRules (input.reduceInput state) := by
    apply mem_matchingRules_of_passes classified member current
    · rw [present, Option.map_some, resumes.accepted]
      exact admits
    · rw [kind]
      exact on
    · rw [guarded, guardPasses_some]
      exact resumes.held
  have response := respond_of_matching reachable (by rw [resumes.resolved]; decide) classified
    resumes.present (by rw [resumes.accepted]; decide) matching
  have matched := matched_of_mem_matchingRules classified matching
  rcases moved_of_moving matched moving present consistent.shaped with
    ⟨next, nextPresent, moved, _, flows⟩
  have drafted : ruleDraft (input.reduceInput state) generation rule =
      applyEffects ((input.reduceInput state).guardCtx generation) rule.effects
        (initialDraft (input.reduceInput state)) := by
    unfold ruleDraft settleTarget
    rw [same]
    cases rule.verdict <;> rfl
  have free : underProviderSetup next = false := by
    have continuing : ∀ template ∈ [EffectTemplate.release (.reasons [.suspensionBeforeConsumed]),
        .act .resume, awaitConsumeHold, awaitTurnHold], template.isContinuing = true := by decide
    have current : (initialDraft (input.reduceInput state)).attempt = some attempt := present
    rcases underProviderSetup_of_resume continuing rfl current rfl with
      ⟨resumed, isResumed, free⟩
    rw [drafted, effects, isResumed, Option.some.injEq] at nextPresent
    rw [← nextPresent]
    exact free
  have accepted : next.state = .accepted := by
    rcases moved.state with nominal | ⟨touched, _⟩
    · rw [nominal, TransitionRule.nominal, same]
      cases rule.verdict <;> exact resumes.accepted
    · rw [steady] at touched
      cases touched
  have mesh : isMeshScope next = true := by
    have scope : next.scope = attempt.scope := congrArg AttemptCore.scope moved.core
    rw [← resumes.mesh, isMeshScope, isMeshScope, scope]
  have under : underProviderSetup attempt = true := by
    have held := resumes.held
    simp only [heldProviderSetup, ReduceInput.guardCtx, present, Option.any_some,
      Bool.and_eq_true] at held
    exact held.2
  have unheld := parked_of_reachable reachable resumes.present resumes.accepted under
  have sound := flows.fates .awaitDelivery
  rw [resumes.mesh, kept] at sound
  refine ⟨next, ?_, ⟨mesh, .inl accepted, free⟩, accepted, ?_⟩
  · rw [Machine.next, response]
    exact nextPresent
  rw [Machine.next, response]
  have entries : (initialDraft (input.reduceInput state)).holds.entries = state.holds :=
    consistent.shaped.entries_ofList
  have unchanged : heldFor (ruleDraft (input.reduceInput state) generation rule).holds.entries
      .awaitDelivery = heldFor state.holds .awaitDelivery := by
    rw [← entries]
    exact sound
  exact unchanged.trans unheld

theorem not_recoverable_of_resumes (resumes : ResumesAccepted state input attempt) : ¬ Recoverable
    (ledger.next state input) := by
  intro recoverable
  rcases untimed_of_resumes reachable resumes with ⟨next, present, waiting, accepted, unheld⟩
  rcases recoverable next present waiting with ⟨hold, member, _, answered⟩
  have shaped := ((consistent_of_reachable (reachable.next input)).of_present present).shaped
  have delivery := awaitDelivery_of_answered present shaped accepted member answered
  have held := held_of_mem member
  rw [delivery, unheld] at held
  cases held

end

end Resolution

/-- Every state of a run has a live recovery timer, if and only if no step of the
run resolves the setup of an accepted attempt. -/
theorem recoverable_iff (inputs : List LedgerInput) :
    (∀ step ∈ ledger.steps inputs, Recoverable step.after) ↔
      ∀ step ∈ ledger.steps inputs, ∀ attempt,
        ¬ ResumesAccepted step.before step.input attempt := by
  constructor
  · intro recoverable step member attempt resumes
    exact not_recoverable_of_resumes (Machine.reachable_of_mem_steps member) resumes
      (recoverable step member)
  intro allowed step member
  have timed : ∀ attempt, step.after.attempt = some attempt → Timed attempt step.after.holds := by
    refine Machine.after_of_mem_stepsFrom
      (fun step => ∀ attempt, ¬ ResumesAccepted step.before step.input attempt)
      (fun state => ∀ attempt, state.attempt = some attempt → Timed attempt state.holds)
      ?_ Machine.Reachable.run_initial ?_ allowed member
    · intro step reachable allowed timed next nextPresent
      exact timed_next reachable allowed timed nextPresent
    · intro attempt present
      cases present
  have reachable := Machine.reachable_of_mem_steps member
  exact recoverable_of_timed (reachable.next step.input) timed

def sampleSetup : List LedgerInput :=
  [sampleOpening,
    sampleInput 1 .approvalGate (.suspension {
      modal := .approval, modalKey := some "setup", providerSetup := some true }),
    sampleInput 2 .modalButton (.suspensionResolved .approved .modalButton (some "setup"))]

/-- The accepted attempt is left with the timers of a delivered one: no rule
answers them, and only the ceiling is left to end it. -/
theorem unrecoverable_setup :
    (sampleSetup.all fun input => isTurnEvidence input.evidence) = true ∧
      (ledger.run sampleSetup).holds.map (·.reason) = [.hardCeiling, .awaitConsume, .awaitTurn] ∧
      (ledger.run sampleSetup).attempt.map (·.state) = some .accepted ∧
      ¬ Recoverable (ledger.run sampleSetup) := by
  refine ⟨by decide, by decide, by decide, ?_⟩
  have known : (ledger.run (sampleSetup.take 2)).attempt.map (fun attempt =>
      (isMeshScope attempt, attempt.state)) = some (true, .accepted) := by decide
  rcases Option.map_eq_some_iff.mp known with ⟨attempt, present, equal⟩
  have resumes : ResumesAccepted (ledger.run (sampleSetup.take 2))
      (sampleInput 2 .modalButton (.suspensionResolved .approved .modalButton (some "setup")))
      attempt :=
    ⟨present, congrArg Prod.fst equal, congrArg Prod.snd equal, rfl, by decide, some 0,
      by decide⟩
  have reachable : ledger.Reachable (ledger.run (sampleSetup.take 2)) := Machine.reachable_run _
  exact not_recoverable_of_resumes reachable resumes

end Adhdev.TurnLedger
