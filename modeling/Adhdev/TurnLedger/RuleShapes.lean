import Adhdev.TurnLedger.Settlement

/-! # The shapes of the table's rules

A rule either moves the attempt, with continuing templates only, or ends it,
with one settling template after quiet ones, or opens it. Which of these a rule
is, and whether what its templates read is there, is checked over the table. -/

namespace Adhdev.TurnLedger

open MeshShared List Option Bool EffectTemplate

/-! ## Matched rules -/

variable {rule : TransitionRule} {input : ReduceInput} {lane : LaneClass}

theorem of_transitions {property : TransitionRule → Bool}
    (checked : transitions.all property = true)
    (member : rule ∈ transitions) : property rule = true :=
  all_eq_true.mp checked rule member

structure Matched (input : ReduceInput) (lane : LaneClass) (rule : TransitionRule) : Prop where
  member : rule ∈ transitions
  sameLane : rule.lane = lane.lane
  admits : ruleAdmitsState rule.fromStates (input.attempt.map (·.state)) = true
  on : input.evidence.kind ∈ rule.on
  guard : rule.guard = some .otherwise ∨
    guardPasses rule.guard (input.guardCtx lane.effectiveGeneration) = true

theorem matched_of_mem_matchingRules
    (classified : classifyLane input.attempt input.evidence input.holds = .ok lane)
    (member : rule ∈ matchingRules input) : Matched input lane rule := by
  simp only [matchingRules, classified] at member
  have candidate : rule ∈ laneCandidates lane.lane (input.attempt.map (·.state))
      input.evidence.kind ∧ (rule.guard = some .otherwise ∨
        guardPasses rule.guard (input.guardCtx lane.effectiveGeneration) = true) := by
    split at member
    · have found := mem_filter.mp member
      exact ⟨found.1, .inl (beq_iff_eq.mp found.2)⟩
    · have found := mem_filter.mp member
      exact ⟨found.1, .inr found.2⟩
  have filtered := mem_filter.mp candidate.1
  simp only [ruleIsCandidate, and_eq_true, beq_iff_eq, contains_eq_mem,
    decide_eq_true_eq] at filtered
  exact ⟨filtered.1, filtered.2.1.1, filtered.2.1.2, filtered.2.2, candidate.2⟩

def turnStates : List TurnState :=
  [.accepted, .delivered, .consumed, .generating, .suspended, .finalizing, .stopping,
    .completed, .blocked, .failed, .cancelled]

theorem mem_turnStates (state : TurnState) : state ∈ turnStates := by
  cases state <;> decide

/-- `property` holds of every rule of the table in every state it admits. -/
def tableCheck (property : TransitionRule → TurnState → Bool) : Bool :=
  transitions.all fun rule => turnStates.all fun state =>
    !ruleAdmitsState rule.fromStates (some state) || property rule state

theorem Matched.of_tableCheck {property : TransitionRule → TurnState → Bool}
    (checked : tableCheck property = true)
    (matched : Matched input lane rule) {attempt : TurnAttempt}
    (present : input.attempt = some attempt) : property rule attempt.state = true := by
  have admits := matched.admits
  rw [present, map_some] at admits
  have checkedState := all_eq_true.mp (of_transitions checked matched.member)
    attempt.state (mem_turnStates attempt.state)
  simpa [admits] using checkedState

def TransitionRule.facts (rule : TransitionRule) : List (List Fact) :=
  match rule.guard with
  | none => [[]]
  | some guard => guardFacts guard

theorem Matched.described (matched : Matched input lane rule) :
    Described (input.guardCtx lane.effectiveGeneration) rule.facts := by
  unfold TransitionRule.facts
  rcases matched.guard with otherwise | passes
  · simp [otherwise, guardFacts]
  cases guarded : rule.guard with
  | none => simp
  | some guard =>
    rw [guarded] at passes
    unfold guardPasses at passes
    split at passes
    · contradiction
    · cases passes
    rename_i equal
    cases equal
    exact described_of_guards passes

def requires (alternatives : List (List Fact)) (fact : Fact) : Bool :=
  alternatives.all (·.contains fact)

theorem Described.requires {ctx : GuardCtx} {alternatives : List (List Fact)}
    (described : Described ctx alternatives) {fact : Fact}
    (required : requires alternatives fact = true) : fact.Holds ctx := by
  rcases described with ⟨facts, member, hold⟩
  have contained := all_eq_true.mp required facts member
  exact hold fact (by simpa using contained)

/-! ## Which holds an expiry can name -/

def allHoldReasons : List HoldReason :=
  [.awaitDelivery, .awaitConsume, .awaitTurn, .liveness, .hardCeiling, .livePending,
    .transcriptQuiet, .weakCandidate, .suspensionBeforeConsumed, .awaitReport, .awaitEnd,
    .reportCorrection]

theorem mem_allHoldReasons (reason : HoldReason) : reason ∈ allHoldReasons := by
  cases reason <;> decide

def Fact.expiredReason? : Fact → Option HoldReason
  | .expired reason => some reason
  | _ => none

def factsExpired (facts : List Fact) : Option HoldReason :=
  facts.findSome? Fact.expiredReason?

def TransitionRule.expirable (rule : TransitionRule) : List HoldReason :=
  if rule.facts.all fun facts => (factsExpired facts).isSome then
    rule.facts.filterMap factsExpired
  else allHoldReasons

theorem expiredReason_of_factsExpired {ctx : GuardCtx} {facts : List Fact} {reason : HoldReason}
    (hold : FactsHold ctx facts) (named : factsExpired facts = some reason) :
    expiredReason ctx = some reason := by
  rcases exists_of_findSome?_eq_some named with ⟨fact, member, isExpiry⟩
  cases fact with
  | expired expired =>
    cases isExpiry
    rcases hold _ member with ⟨expiredHold, found, sameReason⟩
    rw [expiredReason_of_expiredHold found, sameReason]
  | _ => cases isExpiry

theorem Matched.expirable (matched : Matched input lane rule) {reason : HoldReason}
    (expired : expiredReason (input.guardCtx lane.effectiveGeneration) = some reason) :
    reason ∈ rule.expirable := by
  unfold TransitionRule.expirable
  split
  · rename_i named
    rcases matched.described with ⟨facts, member, hold⟩
    have isNamed := all_eq_true.mp named facts member
    rcases isSome_iff_exists.mp isNamed with ⟨other, found⟩
    have same := expiredReason_of_factsExpired hold found
    rw [expired, some.injEq] at same
    subst other
    exact mem_filterMap.mpr ⟨facts, member, found⟩
  · exact mem_allHoldReasons reason

/-! ## Shapes -/

/-- Continues the draft and leaves the fields of interest and the holds alone. -/
def EffectTemplate.isQuiet : EffectTemplate → Bool
  | .act action =>
    !action.opens && !action.writesHolds && !action.footprint.state &&
      !action.footprint.report && !action.footprint.suspension
  | .cancelDispatch .. | .record _ => true
  | _ => false

namespace TransitionRule

def onlyOn (rule : TransitionRule) (kinds : List TurnEvidenceKind) : Bool :=
  rule.on.all kinds.contains

def resolvesOutcome (rule : TransitionRule) : OutcomeExpr → Bool
  | .outcome _ => true
  | .fromReport => rule.onlyOn [.workerReport]
  | .fromRecordedReport => requires rule.facts (.is .reported true)
  | .fromOperator => rule.onlyOn [.operatorStatus]

def resolvesReason (rule : TransitionRule) : CommitReasonExpr → Bool
  | .reason _ => true
  | .fromCancel => rule.onlyOn [.cancel]
  | .fromOperator => rule.onlyOn [.operatorStatus]
  | .fromProviderFailure => rule.onlyOn [.processExit, .turnEnd]
  | .fromSessionError => rule.onlyOn [.sessionError]

def settles (rule : TransitionRule) : EffectTemplate → Bool
  | .commit template => rule.resolvesOutcome template.outcome && rule.resolvesReason template.reason
  | .reclaim (.reason reason) => reason != .hardCeiling
  | .reclaim .fromRefusal => rule.onlyOn [.deliveryRefused]
  | .reclaim .fromExitState => true
  | .adoptPrevGeneration => rule.guard == some .prevGenerationCompletion
  | _ => false

def isMoving (rule : TransitionRule) : Bool :=
  rule.effects.all fun template => template.isContinuing && template.shapesHolds

def isEnding (rule : TransitionRule) : Bool :=
  rule.effects.dropLast.all EffectTemplate.isQuiet && rule.effects.getLast?.any rule.settles

end TransitionRule

theorem moving_or_ending (member : rule ∈ transitions)
    (notOpening : rule.lane ≠ .none) : rule.isMoving = true ∨ rule.isEnding = true := by
  have checked : (transitions.all fun rule =>
      rule.lane == .none || rule.isMoving || rule.isEnding) = true := by decide
  have shape := of_transitions checked member
  simp only [or_eq_true, beq_iff_eq] at shape
  rcases shape with (opening | moving) | ending
  · exact absurd opening notOpening
  · exact .inl moving
  · exact .inr ending

/-! ## Moving rules -/

namespace TransitionRule

/-- The state the rule nominally leaves an attempt in `state` in. -/
def nominal (rule : TransitionRule) (state : TurnState) : TurnState :=
  match rule.verdict, rule.target with
  | .applied, .state target => target
  | _, _ => state

def footprint (rule : TransitionRule) : Footprint := effectsFootprint rule.effects

def fate (rule : TransitionRule) (mesh : Bool) (reason : HoldReason) : Fate :=
  effectsFate mesh rule.expirable rule.effects reason

end TransitionRule

/-- `next` is what a moving rule makes of `attempt`. -/
structure Moved (rule : TransitionRule) (attempt next : TurnAttempt) : Prop where
  core : next.core = attempt.core
  state : next.state = rule.nominal attempt.state ∨
    rule.footprint.state = true ∧ next.state = .suspended
  report : next.data.report = attempt.data.report ∨
    rule.footprint.report = true ∧ next.data.report.map (·.generation) = some attempt.generation
  suspension : next.data.providerSuspension = attempt.data.providerSuspension ∨
    rule.footprint.suspension = true ∧
      (next.data.providerSuspension.map (·.generation) =
          attempt.data.providerSuspension.map (·.generation) ∨
        next.data.providerSuspension.map (·.generation) = some attempt.generation)

theorem settleTarget_continues {attempt next : TurnAttempt} {draft : Draft}
    (present : input.attempt = some attempt) (uncommitted : draft.committed = false)
    (nextPresent : draft.attempt = some next) (within : Within rule.footprint attempt next) :
    ∃ final, (settleTarget input rule draft).attempt = some final ∧ Moved rule attempt final ∧
      (settleTarget input rule draft).holds = draft.holds ∧
      (settleTarget input rule draft).effects = draft.effects := by
  have staysMoved : rule.nominal attempt.state = attempt.state → Moved rule attempt next := by
    intro stays
    refine ⟨within.core, ?_, within.report, within.suspension⟩
    rw [stays]
    exact within.state
  unfold settleTarget
  split
  · rename_i target applied named
    have nominal : rule.nominal attempt.state = target := by
      simp [TransitionRule.nominal, applied, named]
    simp only [uncommitted, false_eq_true, if_false, Draft.update, nextPresent, present,
      map_some, getD_some, beq_iff_eq]
    split
    · exact ⟨_, rfl, ⟨within.core, .inl nominal.symm, within.report, within.suspension⟩,
        trivial, trivial⟩
    rename_i moved
    refine ⟨next, rfl, ⟨within.core, ?_, within.report, within.suspension⟩, trivial, trivial⟩
    rcases within.state with same | suspended
    · exact absurd same moved
    · exact .inr suspended
  rename_i notTarget
  refine ⟨next, nextPresent, staysMoved ?_, rfl, rfl⟩
  unfold TransitionRule.nominal
  split
  · rename_i target applied named
    exact absurd named (notTarget target applied)
  · rfl

section Moving

variable {input : ReduceInput} {lane : LaneClass} {rule : TransitionRule} {attempt : TurnAttempt}

structure HoldsShaped (attempt : TurnAttempt) (holds : List TurnHold) : Prop where
  shape : ∀ hold ∈ holds, HoldShape attempt hold
  nodup : (holds.map TurnHold.holdId).Nodup

theorem HoldsShaped.entries_ofList {holds : List TurnHold} (shaped : HoldsShaped attempt holds) :
    (KeyedMap.ofList TurnHold.holdId holds).entries = holds :=
  KeyedMap.entries_ofList shaped.nodup

theorem carriesHolds_initialDraft (present : input.attempt = some attempt)
    (shaped : HoldsShaped attempt input.holds) : CarriesHolds attempt (initialDraft input) where
  current := ⟨attempt, present, rfl, rfl, rfl⟩
  committed := rfl
  shaped := by
    intro hold member
    rw [KeyedMap.mem_def, initialDraft, shaped.entries_ofList] at member
    exact shaped.shape hold member

theorem Matched.expiryWithin (matched : Matched input lane rule)
    (shaped : HoldsShaped attempt input.holds) :
    ExpiryWithin (input.guardCtx lane.effectiveGeneration) attempt rule.expirable where
  shaped expired := shaped.shape _ (mem_of_expiredHold expired)
  expirable expired := matched.expirable expired

theorem moved_of_moving (matched : Matched input lane rule) (moving : rule.isMoving = true)
    (present : input.attempt = some attempt) (shaped : HoldsShaped attempt input.holds) :
    ∃ next, (ruleDraft input lane.effectiveGeneration rule).attempt = some next ∧
      Moved rule attempt next ∧
      settling (ruleDraft input lane.effectiveGeneration rule).effects = [] ∧
      Flows (input.guardCtx lane.effectiveGeneration) attempt (rule.fate (isMeshScope attempt))
        (initialDraft input) (ruleDraft input lane.effectiveGeneration rule) := by
  have templates := all_eq_true.mp moving
  have continuing : ∀ template ∈ rule.effects, template.isContinuing = true :=
    fun template member => (and_eq_true_iff.mp (templates template member)).1
  have shapes : ∀ template ∈ rule.effects, template.shapesHolds = true :=
    fun template member => (and_eq_true_iff.mp (templates template member)).2
  have continues := continues_applyEffects (input.guardCtx lane.effectiveGeneration)
    (initialDraft input) continuing
  have flows := flows_applyEffects (carriesHolds_initialDraft present shaped)
    (matched.expiryWithin shaped) continuing shapes
  rcases continues.attempt present with ⟨next, nextPresent, within⟩
  rcases settleTarget_continues present continues.committed nextPresent within with
    ⟨final, finalPresent, moved, holds, effects⟩
  refine ⟨final, finalPresent, moved, ?_, ?_, ?_⟩
  · rw [ruleDraft, effects]
    exact continues.settling
  · rw [ruleDraft, holds]
    exact flows.shaped
  · rw [ruleDraft, holds]
    exact flows.fates

end Moving

/-! ## Ending rules -/

section Quiet

variable (ctx : GuardCtx) (draft : Draft)

theorem continues_quiet {template : EffectTemplate} (quiet : template.isQuiet = true) :
    Continues .none draft (applyTemplate ctx draft template) ∧
      (applyTemplate ctx draft template).holds = draft.holds := by
  have continuing : template.isContinuing = true := by
    cases template <;> simp_all [isQuiet, isContinuing]
  have continues := continues_applyTemplate ctx draft continuing
  cases template with
  | act action =>
    simp only [isQuiet, and_eq_true, not_eq_true'] at quiet
    have untouched : action.footprint = .none := by
      have state := quiet.1.1.2
      have report := quiet.1.2
      have suspension := quiet.2
      cases footprint : action.footprint
      simp_all [Footprint.none]
    rw [footprint, untouched] at continues
    refine ⟨continues, ?_⟩
    unfold applyTemplate
    split
    · rfl
    · exact holds_actions ctx draft quiet.1.1.1.2
  | cancelDispatch target notIntentionalCleanup =>
    refine ⟨continues, ?_⟩
    unfold applyTemplate
    split
    · rfl
    · exact holds_applyCancelDispatch target notIntentionalCleanup ctx draft
  | record note =>
    refine ⟨continues, ?_⟩
    unfold applyTemplate
    split <;> rfl
  | hold | release | commit | reclaim | notify | adoptPrevGeneration | bus | redeliver | probe
  | reevaluate => cases quiet

theorem continues_quiets {templates : List EffectTemplate}
    (quiet : ∀ template ∈ templates, template.isQuiet = true) :
    Continues .none draft (applyEffects ctx templates draft) ∧
      (applyEffects ctx templates draft).holds = draft.holds := by
  induction templates generalizing draft with
  | nil => exact ⟨Continues.refl _ draft, rfl⟩
  | cons template templates induction =>
    have head := continues_quiet ctx draft (quiet template mem_cons_self)
    have tail := induction (applyTemplate ctx draft template) (forall_mem_cons.mp quiet).2
    exact ⟨head.1.trans tail.1, tail.2.trans head.2⟩

end Quiet

section Ending

variable {input : ReduceInput} {lane : LaneClass} {rule : TransitionRule} {attempt : TurnAttempt}

theorem mem_of_onlyOn {kinds : List TurnEvidenceKind} (only : rule.onlyOn kinds = true)
    (matched : Matched input lane rule) : input.evidence.kind ∈ kinds := by
  have contained := all_eq_true.mp only input.evidence.kind matched.on
  simpa using contained

section

variable (matched : Matched input lane rule)
include matched

theorem templateOutcome_resolves {expr : OutcomeExpr} (resolves : rule.resolvesOutcome expr = true)
    (present : input.attempt = some attempt) {current : TurnAttempt}
    (within : Within .none attempt current) : ∃ outcome, templateOutcome expr
    (input.guardCtx lane.effectiveGeneration) current = some outcome := by
  cases expr with
  | outcome outcome => exact ⟨outcome, rfl⟩
  | fromReport | fromOperator =>
    have kind := mem_singleton.mp (mem_of_onlyOn resolves matched)
    cases body : input.evidence.body <;>
      simp_all [TurnEvidence.kind, TurnEvidenceBody.kind, templateOutcome, ReduceInput.guardCtx]
  | fromRecordedReport =>
    have reported := matched.described.requires resolves
    simp only [Fact.Holds, GuardAtom.eval, reportedThisGeneration, ReduceInput.guardCtx,
      present, Option.any_some, Option.any_eq_true] at reported
    rcases reported with ⟨report, recorded, _⟩
    exact ⟨reportOutcome report.outcome, by
      simp [templateOutcome, within.report_eq rfl, recorded]⟩

theorem templateReason_resolves {expr : CommitReasonExpr}
    (resolves : rule.resolvesReason expr = true) : ∃ reason, templateReason expr
    (input.guardCtx lane.effectiveGeneration) = some reason := by
  cases expr with
  | reason reason => exact ⟨reason, rfl⟩
  | fromCancel | fromOperator | fromProviderFailure | fromSessionError =>
    have kind := mem_of_onlyOn resolves matched
    cases body : input.evidence.body <;>
      simp_all [TurnEvidence.kind, TurnEvidenceBody.kind, templateReason, ReduceInput.guardCtx]

theorem settled_applyTemplate (present : input.attempt = some attempt)
    (idle : attempt.data.writerStop = none)
    (prevMesh : attempt.prevGeneration.isSome = true → isMeshScope attempt = true)
    {template : EffectTemplate} (settles : rule.settles template = true) {draft : Draft}
    {current : TurnAttempt} (within : Within .none attempt current)
    (currentPresent : draft.attempt = some current) (uncommitted : draft.committed = false) :
    Settled (input.guardCtx lane.effectiveGeneration) attempt draft (applyTemplate
      (input.guardCtx lane.effectiveGeneration) draft template) := by
  have currentIdle : current.data.writerStop = none := within.writerStop.trans idle
  simp only [applyTemplate, uncommitted, false_eq_true, if_false]
  cases template with
  | commit template =>
    simp only [TransitionRule.settles, and_eq_true] at settles
    rcases templateOutcome_resolves matched settles.1 present within with ⟨outcome, hasOutcome⟩
    rcases templateReason_resolves matched settles.2 with ⟨reason, hasReason⟩
    simp only [applyCommit, Draft.onAttempt, currentPresent, hasOutcome, hasReason]
    exact settled_commit _ draft within currentPresent idle outcome _ reason _
  | reclaim reason =>
    apply Settled.of_within within
    cases reason with
    | reason reason =>
      exact settled_reclaim _ draft currentPresent currentIdle
        (by simpa [TransitionRule.settles] using settles)
    | fromRefusal =>
      have kind := mem_singleton.mp (mem_of_onlyOn settles matched)
      simp only [applyReclaim]
      split
      · exact settled_reclaim _ draft currentPresent currentIdle (by simp)
      rename_i other
      cases body : input.evidence.body <;>
        simp_all [TurnEvidence.kind, TurnEvidenceBody.kind, ReduceInput.guardCtx]
    | fromExitState =>
      simp only [applyReclaim, Draft.onAttempt, currentPresent]
      apply settled_reclaim _ draft currentPresent currentIdle
      cases current.state <;> decide
  | adoptPrevGeneration =>
    apply Settled.of_within within
    have guarded : rule.guard = some .prevGenerationCompletion := beq_iff_eq.mp settles
    have passes : prevGenerationCompletion (input.guardCtx lane.effectiveGeneration) = true := by
      rcases matched.guard with otherwise | passes
      · rw [guarded] at otherwise
        cases otherwise
      · rw [guarded] at passes
        exact passes
    simp only [prevGenerationCompletion, ReduceInput.guardCtx, present, any_some,
      Option.any_eq_true] at passes
    rcases passes with ⟨prev, previous, _⟩
    apply settled_adoptPrevGeneration _ draft currentPresent currentIdle
      (within.prevGeneration.trans previous)
    rw [within.isMeshScope]
    exact prevMesh (by simp [previous])
  | act | hold | release | notify | bus | record | cancelDispatch | redeliver | probe
  | reevaluate => cases settles

end

theorem settleTarget_of_committed {after : Draft} (committed : after.committed = true) :
    settleTarget input rule after = after := by
  unfold settleTarget
  split
  · simp [committed]
  · rfl

theorem settleTarget_settled {ctx : GuardCtx} {before after : Draft}
    (present : input.attempt = some attempt) (live : attempt.state ≠ .stopping)
    (settled : Settled ctx attempt before after) : settleTarget input rule after = after := by
  cases settled with
  | committed within committed => exact settleTarget_of_committed committed.committed
  | stopBegun within mesh ceiling begun =>
    unfold settleTarget
    split
    · split
      · rfl
      have stopping := begun.stopping
      rcases after with ⟨stopped, holds, effects, committed⟩
      subst stopping
      simp [Draft.update, present, stoppingAttempt, Ne.symm live]
    · rfl

theorem settled_of_ending (matched : Matched input lane rule) (ending : rule.isEnding = true)
    (present : input.attempt = some attempt) (idle : attempt.data.writerStop = none)
    (live : attempt.state ≠ .stopping)
    (prevMesh : attempt.prevGeneration.isSome = true → isMeshScope attempt = true) :
    ∃ before, before.holds = (initialDraft input).holds ∧ settling before.effects = [] ∧
      Settled (input.guardCtx lane.effectiveGeneration) attempt before
        (ruleDraft input lane.effectiveGeneration rule) := by
  simp only [TransitionRule.isEnding, Bool.and_eq_true, Option.any_eq_true] at ending
  rcases ending with ⟨quiet, last, isLast, settles⟩
  have split : rule.effects = rule.effects.dropLast ++ [last] :=
    (dropLast_append_getLast? last isLast).symm
  have quiets := continues_quiets (input.guardCtx lane.effectiveGeneration) (initialDraft input)
    (all_eq_true.mp quiet)
  rcases quiets.1.attempt present with ⟨current, currentPresent, within⟩
  have settled := settled_applyTemplate matched present idle prevMesh settles within
    currentPresent quiets.1.committed
  refine ⟨_, quiets.2, quiets.1.settling, ?_⟩
  have effects : applyEffects (input.guardCtx lane.effectiveGeneration) rule.effects
      (initialDraft input) = applyTemplate (input.guardCtx lane.effectiveGeneration)
        (applyEffects (input.guardCtx lane.effectiveGeneration) rule.effects.dropLast
          (initialDraft input)) last := by
    rw [split, applyEffects, foldl_append, dropLast_concat]
    rfl
  rw [ruleDraft, effects, settleTarget_settled present live settled]
  exact settled

end Ending

/-! ## Recorded rules -/

/-- Leaves the attempt and the holds exactly as they are. -/
def EffectTemplate.isInert : EffectTemplate → Bool
  | .record _ | .cancelDispatch .. => true
  | .notify template => template.due.isNone
  | _ => false

structure Untouched (before after : Draft) : Prop where
  sameAttempt : after.attempt = before.attempt
  sameHolds : after.holds = before.holds
  committed : after.committed = before.committed
  settling : settling after.effects = settling before.effects

namespace Untouched

theorem refl (draft : Draft) : Untouched draft draft := ⟨rfl, rfl, rfl, rfl⟩

theorem trans {before middle after : Draft} (first : Untouched before middle)
    (second : Untouched middle after) : Untouched before after where
  sameAttempt := second.sameAttempt.trans first.sameAttempt
  sameHolds := second.sameHolds.trans first.sameHolds
  committed := second.committed.trans first.committed
  settling := second.settling.trans first.settling

theorem emit (draft : Draft) {effect : TurnEffect} (mild : effect.isSettling = false) :
    Untouched draft (draft.emit effect) where
  sameAttempt := rfl
  sameHolds := rfl
  committed := rfl
  settling := by simp [mild]

theorem notify (draft : Draft) (kind : NotifyKind) (options : NotifyOptions) :
    Untouched draft (notify draft kind options) := by
  constructor <;> simp

theorem onAttempt {draft : Draft} {body : TurnAttempt → Draft}
    (untouched : ∀ attempt, Untouched draft (body attempt)) :
    Untouched draft (draft.onAttempt body) := by
  unfold Draft.onAttempt
  split
  · exact refl draft
  · exact untouched _

end Untouched

theorem untouched_applyTemplate (ctx : GuardCtx) (draft : Draft) {template : EffectTemplate}
    (inert : template.isInert = true) : Untouched draft (applyTemplate ctx draft template) := by
  unfold applyTemplate
  split
  · exact Untouched.refl draft
  cases template with
  | record note => exact Untouched.emit draft rfl
  | cancelDispatch target notIntentionalCleanup =>
    apply Untouched.onAttempt
    intro attempt
    dsimp only
    split
    · exact Untouched.refl draft
    split
    · exact Untouched.refl draft
    · cases target <;> exact Untouched.emit draft rfl
  | notify template =>
    have always : template.due = none := isNone_iff_eq_none.mp inert
    apply Untouched.onAttempt
    intro attempt
    rw [always]
    apply Untouched.onAttempt
    intro _
    exact Untouched.notify draft _ _
  | act | hold | release | commit | reclaim | adoptPrevGeneration | bus | redeliver | probe
  | reevaluate => cases inert

theorem untouched_applyEffects (ctx : GuardCtx) (draft : Draft) {templates : List EffectTemplate}
    (inert : ∀ template ∈ templates, template.isInert = true) :
    Untouched draft (applyEffects ctx templates draft) := by
  induction templates generalizing draft with
  | nil => exact Untouched.refl draft
  | cons template templates induction =>
    have head := untouched_applyTemplate ctx draft (inert template mem_cons_self)
    have tail := induction (applyTemplate ctx draft template) (forall_mem_cons.mp inert).2
    exact head.trans tail

theorem untouched_of_recorded (input : ReduceInput) (effectiveGeneration : Option Int)
    (member : rule ∈ transitions) (recorded : rule.verdict = .recorded) :
    Untouched (initialDraft input) (ruleDraft input effectiveGeneration rule) := by
  have checked : (transitions.all fun rule =>
      rule.verdict != .recorded || rule.effects.all isInert) = true := by
    decide
  have inert := of_transitions checked member
  simp only [recorded, bne_self_eq_false, Bool.false_or, List.all_eq_true] at inert
  have untouched := untouched_applyEffects (input.guardCtx effectiveGeneration)
    (initialDraft input) inert
  have target : ∀ draft, settleTarget input rule draft = draft := by
    intro draft
    simp [settleTarget, recorded]
  rw [ruleDraft, target]
  exact untouched

end Adhdev.TurnLedger
