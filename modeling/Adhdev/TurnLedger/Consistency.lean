import Adhdev.TurnLedger.Steps

/-! # Reachable states are consistent

How an attempt is opened, and that every step of the ledger keeps the invariant
of `Steps`. -/

namespace Adhdev.TurnLedger

open MeshShared List Option Bool KeyedMap AttemptCore

/-! ## Opening -/

def ceilingHold (ctx : GuardCtx) (attempt : TurnAttempt) : TurnHold where
  holdId := holdId attempt.attemptId .hardCeiling
  attemptId := attempt.attemptId
  generation := none
  reason := .hardCeiling
  untilMs := some (ctx.nowMs + ctx.policy.hardCeilingMs)
  onExpire := .escalate
  createdAt := ctx.nowMs

def openingHolds (ctx : GuardCtx) (attempt : TurnAttempt) : List TurnHold :=
  if isMeshScope attempt then [awaitDeliveryHold ctx attempt, ceilingHold ctx attempt] else []

def openedPlain (evidence : TurnEvidence) : TurnAttempt :=
  { consumeTurn evidence (openPlain evidence) with state := .generating }

inductive OpeningStep (input : ReduceInput) (result : ReduceResult) : Prop
  | absent (sameAttempt : result.attempt = none) (holds : result.holds = [])
      (settles : settling result.effects = [])
  | dispatched {body : DispatchAccepted} (accepts : input.evidence.body = .dispatchAccepted body)
      (opened : result.attempt = some (openDispatch input.evidence body))
      (holds : result.holds =
        openingHolds (input.guardCtx none) (openDispatch input.evidence body))
      (settles : settling result.effects = [])
  | plain (opened : result.attempt = some (openedPlain input.evidence)) (holds : result.holds = [])
      (settles : settling result.effects = [])

def dispatchEffects : List EffectTemplate :=
  [.act .openDispatch,
    .hold {
      reason := .reason .awaitDelivery, untilExpr := .awaitDelivery
      onExpire := .reclaim, meshOnly := true },
    .hold {
      reason := .reason .hardCeiling, untilExpr := .hardCeiling
      onExpire := .escalate, meshOnly := true, generationAgnostic := true }]

def plainEffects : List EffectTemplate := [.act .openPlain, .act .consume, .bus .started]

section Opening

variable {input : ReduceInput} {rule : TransitionRule}

theorem opening_rules (member : rule ∈ transitions) (opening : rule.lane = .none)
    (applied : rule.verdict = .applied) :
    rule.on = [.dispatchAccepted] ∧ rule.target = .state .accepted ∧
        rule.effects = dispatchEffects ∨
      rule.target = .state .generating ∧ rule.effects = plainEffects := by
  have checked : (transitions.all fun rule =>
      rule.lane != .none || rule.verdict != .applied ||
        rule.on == [.dispatchAccepted] && (rule.target == .state .accepted &&
          rule.effects == dispatchEffects) ||
        rule.target == .state .generating && rule.effects == plainEffects) = true := by
    decide
  simpa [opening, applied] using of_transitions checked member

theorem entries_openingHolds {attempt : TurnAttempt} (ctx : GuardCtx) :
    (((ofList TurnHold.holdId []).set (awaitDeliveryHold ctx attempt)).set
      (ceilingHold ctx attempt)).entries =
      [awaitDeliveryHold ctx attempt, ceilingHold ctx attempt] := by
  have differ : holdId attempt.attemptId .awaitDelivery ≠
      holdId attempt.attemptId .hardCeiling := by
    intro equal
    cases holdId_injective attempt.attemptId equal
  exact if_neg differ

theorem applyTemplate_meshHold {ctx : GuardCtx} {draft : Draft} {attempt : TurnAttempt}
    (present : draft.attempt = some attempt) (uncommitted : draft.committed = false)
    {template : HoldTemplate} {reason : HoldReason} (fixed : template.reason = .reason reason)
    (meshOnly : template.meshOnly = true) : applyTemplate ctx draft (.hold template) =
      if isMeshScope attempt then addHold draft (templateHold template ctx attempt reason)
      else draft := by
  simp only [applyTemplate, uncommitted, applyHold, Draft.onAttempt, present, meshOnly, fixed,
    holdTemplateReason]
  cases isMeshScope attempt <;> rfl

section

variable (absent : input.attempt = none)
include absent

theorem ruleDraft_dispatch (noHolds : input.holds = []) {body : DispatchAccepted}
    (accepts : input.evidence.body = .dispatchAccepted body) (applied : rule.verdict = .applied)
    (target : rule.target = .state .accepted) (effects : rule.effects = dispatchEffects) :
    (ruleDraft input none rule).attempt = some (openDispatch input.evidence body) ∧
    (ruleDraft input none rule).holds.entries = openingHolds (input.guardCtx none)
    (openDispatch input.evidence body) ∧ settling (ruleDraft input none rule).effects = [] := by
  let ctx := input.guardCtx none
  let attempt := openDispatch input.evidence body
  let fresh : Draft := ⟨some attempt, ofList TurnHold.holdId [], [], false⟩
  have opened : applyTemplate ctx (initialDraft input) (.act .openDispatch) = fresh := by
    have evidence : ctx.evidence.body = .dispatchAccepted body := accepts
    simp only [applyTemplate, initialDraft, actions, openDispatchAction, evidence, noHolds]
    rfl
  have armed : applyEffects ctx rule.effects (initialDraft input) =
      if isMeshScope attempt then
        addHold (addHold fresh (awaitDeliveryHold ctx attempt)) (ceilingHold ctx attempt)
      else fresh := by
    rw [effects, dispatchEffects, applyEffects, foldl_cons, opened, foldl_cons,
      applyTemplate_meshHold rfl rfl rfl rfl, foldl_cons, foldl_nil]
    cases mesh : isMeshScope attempt with
    | false =>
      simp only [false_eq_true, if_false]
      rw [applyTemplate_meshHold rfl rfl rfl rfl, mesh]
      rfl
    | true =>
      simp only [if_true]
      rw [applyTemplate_meshHold rfl rfl rfl rfl, mesh]
      rfl
  have settle : ∀ draft : Draft, draft.committed = false → draft.attempt = some attempt →
      settleTarget input rule draft = draft := by
    intro draft uncommitted present
    rcases draft with ⟨current, holds, emitted, committed⟩
    cases present
    cases uncommitted
    simp only [settleTarget, applied, target, Draft.update, absent]
    rfl
  rw [ruleDraft, armed]
  cases mesh : isMeshScope attempt with
  | false =>
    rw [if_neg Bool.false_ne_true, settle fresh rfl rfl, openingHolds, mesh]
    exact ⟨rfl, rfl, rfl⟩
  | true =>
    rw [if_pos rfl, settle _ rfl rfl, openingHolds, mesh]
    exact ⟨rfl, entries_openingHolds ctx, rfl⟩

theorem ruleDraft_plain (noHolds : input.holds = []) (applied : rule.verdict = .applied)
    (target : rule.target = .state .generating) (effects : rule.effects = plainEffects) :
    (ruleDraft input none rule).attempt = some (openedPlain input.evidence) ∧
    (ruleDraft input none rule).holds.entries = [] ∧ settling (ruleDraft input none rule).effects =
    [] := by
  simp only [ruleDraft, settleTarget, applied, target, effects, plainEffects, absent]
  rw [initialDraft, noHolds]
  exact ⟨rfl, rfl, rfl⟩

theorem openingStep_reduce (noHolds : input.holds = []) : OpeningStep input (reduce input) := by
  have classified : classifyLane input.attempt input.evidence input.holds = .ok ⟨.none, none⟩ := by
    rw [absent]
    rfl
  have passed : stoppingStop input .none = none := by simp [stoppingStop]
  simp only [reduce, classified, passed]
  split
  · exact .absent absent noHolds rfl
  rename_i rule first
  have matched := matched_of_mem_matchingRules classified (mem_of_head? first)
  rcases applied_or_recorded matched.member with applied | recorded
  · rcases opening_rules matched.member matched.sameLane applied with
      ⟨on, target, effects⟩ | ⟨target, effects⟩
    · have kind : input.evidence.kind = .dispatchAccepted := by
        have member := matched.on
        rw [on] at member
        exact mem_singleton.mp member
      cases accepts : input.evidence.body with
      | dispatchAccepted body =>
        rcases ruleDraft_dispatch absent noHolds accepts applied target effects with
          ⟨opened, holds, settles⟩
        exact .dispatched accepts opened holds settles
      | _ =>
        simp only [TurnEvidence.kind, accepts, TurnEvidenceBody.kind] at kind
        cases kind
    · rcases ruleDraft_plain absent noHolds applied target effects with
        ⟨opened, holds, settles⟩
      exact .plain opened holds settles
  have untouched := untouched_of_recorded input none matched.member recorded
  refine .absent (untouched.sameAttempt.trans absent) ?_ untouched.settling
  rw [applyRule, untouched.sameHolds, initialDraft, noHolds]
  rfl

end

end Opening

/-! ## Every step keeps the invariant -/

variable {holds : List TurnHold}
variable {before after : TurnAttempt}

theorem HoldsShaped.transport (shaped : HoldsShaped before holds)
    (sameId : after.attemptId = before.attemptId)
    (sameGeneration : after.generation = before.generation) : HoldsShaped after holds where
  shape hold member := (shaped.shape hold member).transport sameId sameGeneration
  nodup := shaped.nodup

theorem holdsShaped_nil (attempt : TurnAttempt) : HoldsShaped attempt [] where
  shape _ member := absurd member not_mem_nil
  nodup := nodup_nil

theorem holds_eq_nil (free : ∀ reason, heldFor holds reason = none) : holds = [] := by
  cases holds with
  | nil => rfl
  | cons hold holds =>
    have absent := lookup_eq_none.mp (free hold.reason) hold mem_cons_self
    exact absurd rfl absent

theorem generation_le {α : Type u} {generation : α → Int} {recorded : Option α}
    {current bound : Int} (known : recorded.map generation = some current)
    (le : current ≤ bound) : ∀ value, recorded = some value → generation value ≤ bound := by
  intro value present
  rw [present, map_some, some.injEq] at known
  rw [known]
  exact le

theorem Dated.of_changes {reports suspends : Prop}
    (dated : Dated before) (generation : after.generation = before.generation)
    (report : after.data.report = before.data.report ∨
      reports ∧ after.data.report.map (·.generation) = some before.generation)
    (suspension : after.data.providerSuspension = before.data.providerSuspension ∨
      suspends ∧
        (after.data.providerSuspension.map (·.generation) =
            before.data.providerSuspension.map (·.generation) ∨
          after.data.providerSuspension.map (·.generation) = some before.generation)) :
    Dated after where
  report := by
    rw [generation]
    rcases report with same | ⟨_, current⟩
    · rw [same]
      exact dated.report
    · exact generation_le current (Int.le_refl _)
  suspension := by
    rw [generation]
    rcases suspension with same | ⟨_, kept | current⟩
    · rw [same]
      exact dated.suspension
    · intro suspension present
      rw [present, map_some] at kept
      rcases map_eq_some_iff.mp kept.symm with ⟨earlier, recorded, sameGeneration⟩
      rw [← sameGeneration]
      exact dated.suspension earlier recorded
    · exact generation_le current (Int.le_refl _)

theorem Dated.of_within {footprint : Footprint}
    (dated : Dated before) (within : Within footprint before after) : Dated after :=
  dated.of_changes within.generation within.report within.suspension

section Preservation

variable {input : ReduceInput} {attempt : TurnAttempt} {result : ReduceResult}

variable {next : TurnAttempt}

theorem Phase.live_of_mem (phase : Phase attempt) (live : attempt.state ∈ nonterminalStates)
    (core : next.core = attempt.core) (nextLive : next.state ∈ nonterminalStates) : Phase next := by
  have idle := phase.idle_of_live live
  exact .running nextLive ((congrArg writerStop core).trans idle.1)
    ((congrArg terminal core).trans idle.2)

variable {rule : TransitionRule} {lane : LaneClass}

section

variable (present : input.attempt = some attempt)
include present

section

variable (matched : Matched input lane rule)
include matched

section

variable (moving : rule.isMoving = true)
include moving

theorem live_of_moved (moved : Moved rule attempt next) (live : attempt.state ∈ nonterminalStates)
    : next.state ∈ nonterminalStates := by
  have checked : tableCheck (fun rule state =>
      !rule.isMoving || !nonterminalStates.contains state ||
        nonterminalStates.contains (rule.nominal state)) = true := by decide
  have property := matched.of_tableCheck checked present
  rcases moved.state with nominal | ⟨_, suspended⟩
  · rw [nominal]
    simpa [moving, live] using property
  · rw [suspended]
    decide

theorem kept_of_ended (ended : attempt.state.isTerminal = true) : rule.footprint.state = false ∧
    rule.nominal attempt.state = attempt.state ∧ ∀ mesh reason, rule.fate mesh reason = .kept := by
  have checked : tableCheck (fun rule state =>
      !rule.isMoving || !state.isTerminal ||
        !rule.footprint.state && rule.nominal state == state &&
          [true, false].all fun mesh => allHoldReasons.all fun reason =>
            rule.fate mesh reason == .kept) = true := by
    decide
  have property := matched.of_tableCheck checked present
  simp only [moving, ended, Bool.not_true, Bool.false_or, Bool.and_eq_true, Bool.not_eq_true',
    beq_iff_eq, List.all_eq_true] at property
  refine ⟨property.1.1, property.1.2, ?_⟩
  intro mesh reason
  have member : mesh ∈ [true, false] := by cases mesh <;> decide
  exact property.2 mesh member reason (mem_allHoldReasons reason)

theorem state_of_ended (moved : Moved rule attempt next) (ended : attempt.state.isTerminal = true)
    : next.state = attempt.state := by
  rcases kept_of_ended present matched moving ended with ⟨untouched, nominal, _⟩
  rcases moved.state with same | ⟨touched, _⟩
  · exact same.trans nominal
  · rw [untouched] at touched
    cases touched

theorem isTerminal_of_moved (notStopping : attempt.state ≠ .stopping)
    (moved : Moved rule attempt next) : next.state.isTerminal = attempt.state.isTerminal := by
  cases ended : attempt.state.isTerminal with
  | false =>
    have live := mem_nonterminalStates.mpr ⟨notStopping, ended⟩
    exact (mem_nonterminalStates.mp (live_of_moved present matched moving moved live)).2
  | true => rw [state_of_ended present matched moving moved ended, ended]

end

end

end

theorem Consistent.of_moved (consistent : Consistent attempt input.holds)
    (present : input.attempt = some attempt) (matched : Matched input lane rule)
    (moving : rule.isMoving = true) (notStopping : attempt.state ≠ .stopping)
    (moved : Moved rule attempt next) (shaped : HoldsShaped attempt holds)
    (fates : ∀ reason, (rule.fate (isMeshScope attempt) reason).Sound (input.guardCtx
      lane.effectiveGeneration) reason (heldFor input.holds reason) (heldFor holds reason)) :
    Consistent next holds := by
  have sameId : next.attemptId = attempt.attemptId := congrArg attemptId moved.core
  have generation : next.generation = attempt.generation := congrArg generation moved.core
  have scope : next.scope = attempt.scope := congrArg scope moved.core
  have previous : next.prevGeneration = attempt.prevGeneration := congrArg prevGeneration moved.core
  have mesh : isMeshScope next = isMeshScope attempt := by simp [isMeshScope, scope]
  have nextShaped := shaped.transport sameId generation
  have nextPrevious : next.prevGeneration.isSome = true → isMeshScope next = true := by
    rw [previous, mesh]
    exact consistent.previous
  have dated := consistent.dated.of_changes generation moved.report moved.suspension
  by_cases live : attempt.state ∈ nonterminalStates
  · have nextLive := live_of_moved present matched moving moved live
    have notEnded := (mem_nonterminalStates.mp nextLive).2
    exact ⟨consistent.phase.live_of_mem live moved.core nextLive, nextShaped,
      fun ended => absurd ended (by simp [notEnded]), nextPrevious, dated⟩
  have ended : attempt.state.isTerminal = true := by
    simpa [mem_nonterminalStates, notStopping] using live
  rcases kept_of_ended present matched moving ended with ⟨_, _, kept⟩
  have state := state_of_ended present matched moving moved ended
  rcases consistent.phase.terminal_of_ended ended with ⟨terminal, recorded, outcome⟩
  have nextRecorded : next.terminal = some terminal :=
    (congrArg AttemptCore.terminal moved.core).trans recorded
  have released : holds = [] := by
    apply holds_eq_nil
    intro reason
    have sound := fates reason
    rw [kept, consistent.released ended] at sound
    exact sound
  exact ⟨.ended nextRecorded (state.trans outcome), nextShaped, fun _ => released,
    nextPrevious, dated⟩

variable {base : TurnAttempt} {before after : Draft} {reason : TurnReason}

theorem consistent_of_committed {outcome : TurnOutcome} {strength : CommitStrength}
    (committed : Committed base outcome strength reason before after) (dated : Dated base)
    (previous : base.prevGeneration.isSome = true → isMeshScope base = true) :
    ∃ next, after.attempt = some next ∧ Consistent next after.holds.entries := by
  rcases committed.ended with ⟨terminal, present, _⟩
  refine ⟨_, present, ?_⟩
  rw [committed.holds]
  exact ⟨.ended rfl rfl, holdsShaped_nil _, fun _ => rfl, previous,
    ⟨dated.report, dated.suspension⟩⟩

theorem shape_keepWhere_set {holds : HoldMap} {keep : TurnHold → Bool} {hold : TurnHold}
    (kept : ∀ other ∈ holds, keep other = true → HoldShape attempt other)
    (shape : HoldShape attempt hold) :
    HoldsShaped attempt ((holds.keepWhere keep).set hold).entries where
  shape other member := by
    rw [← KeyedMap.mem_def, KeyedMap.mem_set, KeyedMap.mem_keepWhere] at member
    rcases member with rfl | ⟨⟨member, passes⟩, _⟩
    · exact shape
    · exact kept other member passes
  nodup := nodup _

theorem consistent_of_stopBegun {ctx : GuardCtx} {terminal : Option WriterStopTerminal}
    (consistent : Consistent attempt before.holds.entries)
    (live : attempt.state ∈ nonterminalStates) (within : Within .none attempt base)
    (mesh : isMeshScope attempt = true) (begun : StopBegun ctx base reason terminal before after) :
    ∃ next, after.attempt = some next ∧ Consistent next after.holds.entries := by
  have baseMesh : isMeshScope base = true := within.isMeshScope ▸ mesh
  have unended : base.terminal = none :=
    within.terminal.trans (consistent.phase.idle_of_live live).2
  have dated := consistent.dated.of_within within
  have baseShaped := consistent.shaped.transport within.attemptId within.generation
  refine ⟨_, begun.stopping, ?_⟩
  constructor
  · exact .stopping rfl rfl rfl unended baseMesh
  · rw [begun.holds]
    refine shape_keepWhere_set ?_ ⟨rfl, rfl, rfl⟩
    intro other member _
    exact (baseShaped.shape other member).transport rfl rfl
  · intro ended
    cases ended
  · exact fun _ => baseMesh
  · exact ⟨dated.report, dated.suspension⟩

theorem HoldShape.nextGeneration {hold : TurnHold} (shape : HoldShape base hold)
    (ceiling : hold.reason = .hardCeiling) : HoldShape (nextGeneration base) hold where
  holdId := shape.holdId
  attemptId := shape.attemptId
  generation := by rw [shape.generation, if_pos ceiling, if_pos ceiling]

theorem consistent_of_requeued {ctx : GuardCtx} (shaped : HoldsShaped base before.holds.entries)
    (dated : Dated base) (unended : base.terminal = none) (mesh : isMeshScope base = true)
    (requeued : Requeued ctx base reason before after) :
    ∃ next, after.attempt = some next ∧ Consistent next after.holds.entries := by
  have later : (nextGeneration base).generation = base.generation + 1 := rfl
  have live : TurnState.accepted ∈ nonterminalStates := by decide
  refine ⟨_, requeued.next, ?_⟩
  constructor
  · exact .running live rfl unended
  · rw [requeued.holds]
    refine shape_keepWhere_set ?_ ⟨rfl, rfl, rfl⟩
    intro other member kept
    have ceiling : other.reason = .hardCeiling := by simpa [isReleased] using kept
    exact (shaped.shape other member).nextGeneration ceiling
  · intro ended
    cases ended
  · exact fun _ => mesh
  constructor
  · intro report recorded
    have le := dated.report report recorded
    rw [later]
    omega
  intro suspension recorded
  have le := dated.suspension suspension recorded
  rw [later]
  omega

theorem holdsShaped_stoppingBase {stop : WriterStop} (shaped : HoldsShaped attempt input.holds)
    (settled : WriterStop) :
    HoldsShaped (withStop attempt settled) (stoppingBase input attempt stop).holds.entries where
  shape hold member := (shape_stoppingBase input attempt stop shaped hold member).transport rfl rfl
  nodup := nodup _

theorem Dated.withStop (dated : Dated attempt) (stop : WriterStop) :
    Dated (withStop attempt stop) := ⟨dated.report, dated.suspension⟩

theorem consistent_of_stopStep {stop : WriterStop} {after : Draft}
    (consistent : Consistent attempt input.holds) (stopping : attempt.state = .stopping)
    (pending : attempt.data.writerStop = some stop) (step : StopStep input attempt stop after) :
    ∃ next, after.attempt = some next ∧ Consistent next after.holds.entries := by
  rcases consistent.phase.stop_of_stopping stopping with
    ⟨known, isPending, unconfirmed, unended, mesh⟩
  rw [pending, some.injEq] at isPending
  subst known
  have committedCase : ∀ {settled : WriterStop} {reason : TurnReason},
      StopCommitted attempt settled reason (stoppingBase input attempt stop) after →
        ∃ next, after.attempt = some next ∧ Consistent next after.holds.entries := by
    intro settled reason committed
    rcases committed.committed with ⟨base, strength, within, ended⟩
    refine consistent_of_committed ended ((consistent.dated.withStop settled).of_within within) ?_
    rw [within.prevGeneration, within.isMeshScope]
    exact consistent.previous
  cases step with
  | confirmed _ _ committed | unreachable _ _ committed => exact committedCase committed
  | @requeued settled _ queue _ requeued =>
    exact consistent_of_requeued (holdsShaped_stoppingBase consistent.shaped settled)
      (consistent.dated.withStop settled) unended mesh requeued
  | waits _ _ waits =>
    rcases waits.waits with ⟨waited, next, same, present, within⟩
    refine ⟨next, present, ?_⟩
    have state : next.state = .stopping := (within.state_eq rfl).trans stopping
    have nextMesh : isMeshScope next = true := within.isMeshScope.trans mesh
    have nextStop : next.data.writerStop = some waited := within.writerStop
    have nextUnended : next.terminal = none := within.terminal.trans unended
    have stillUnconfirmed : waited.confirmed = false := by
      rw [same.confirmed, stopAfterEvidence_confirmed]
      exact unconfirmed
    have shaped : HoldsShaped attempt after.holds.entries := ⟨waits.shaped, nodup _⟩
    constructor
    · exact .stopping state nextStop stillUnconfirmed nextUnended nextMesh
    · exact shaped.transport within.attemptId within.generation
    · intro ended
      rw [state] at ended
      cases ended
    · exact fun _ => nextMesh
    · exact (consistent.dated.withStop waited).of_within within

theorem consistent_of_attemptStep (present : input.attempt = some attempt)
    (consistent : Consistent attempt input.holds) (step : AttemptStep input attempt result) :
    ∃ next, result.attempt = some next ∧ Consistent next result.holds := by
  cases step with
  | unchanged sameAttempt sameHolds _ => exact ⟨attempt, sameAttempt, sameHolds ▸ consistent⟩
  | moved applied moving notStopping nextPresent moved _ shaped fates =>
    exact ⟨_, nextPresent, consistent.of_moved present applied.matched moving notStopping moved
      shaped fates⟩
  | settled _ _ live holds _ settled yields =>
    rw [yields.attempt, yields.holds]
    rw [← holds] at consistent
    cases settled with
    | committed within committed =>
      refine consistent_of_committed committed (consistent.dated.of_within within) ?_
      rw [within.prevGeneration, within.isMeshScope]
      exact consistent.previous
    | stopBegun within mesh _ begun =>
      exact consistent_of_stopBegun consistent live within mesh begun
  | stopping _ _ state pending step yields =>
    rw [yields.attempt, yields.holds]
    exact consistent_of_stopStep consistent state pending step

end Preservation

/-! ## Reachable states -/

theorem dated_newAttempt {attempt : TurnAttempt} (noReport : attempt.data.report = none)
    (noSuspension : attempt.data.providerSuspension = none) : Dated attempt where
  report _ recorded := by cases noReport.symm.trans recorded
  suspension _ recorded := by cases noSuspension.symm.trans recorded

theorem holdsShaped_openingHolds (ctx : GuardCtx) (attempt : TurnAttempt) :
    HoldsShaped attempt (openingHolds ctx attempt) := by
  unfold openingHolds
  split
  · rw [← entries_openingHolds ctx]
    refine ⟨?_, nodup _⟩
    rw [entries_openingHolds ctx]
    intro hold member
    rcases mem_cons.mp member with rfl | member
    · exact ⟨rfl, rfl, rfl⟩
    · cases mem_singleton.mp member
      exact ⟨rfl, rfl, rfl⟩
  · exact holdsShaped_nil attempt

theorem consistent_of_openingStep {input : ReduceInput} {result : ReduceResult}
    (step : OpeningStep input result) : LedgerState.Consistent ⟨result.attempt, result.holds⟩ := by
  cases step with
  | absent sameAttempt holds _ =>
    rw [sameAttempt, holds]
    exact rfl
  | dispatched _ opened holds _ =>
    have live : TurnState.accepted ∈ nonterminalStates := by decide
    rw [opened, holds]
    refine ⟨.running live rfl rfl, holdsShaped_openingHolds _ _, ?_, ?_, dated_newAttempt rfl rfl⟩
    · intro ended
      cases ended
    · intro previous
      cases previous
  | plain opened holds _ =>
    have live : TurnState.generating ∈ nonterminalStates := by decide
    rw [opened, holds]
    refine ⟨.running live rfl rfl, holdsShaped_nil _, ?_, ?_, dated_newAttempt rfl rfl⟩
    · intro ended
      cases ended
    · intro previous
      cases previous

namespace LedgerState.Consistent

variable {state : LedgerState}

section

variable (consistent : state.Consistent)
include consistent

theorem holds_of_absent (absent : state.attempt = none) : state.holds = [] := by
  unfold LedgerState.Consistent at consistent
  rw [absent] at consistent
  exact consistent

theorem of_present {attempt : TurnAttempt} (present : state.attempt = some attempt) :
    TurnLedger.Consistent attempt state.holds := by
  unfold LedgerState.Consistent at consistent
  rw [present] at consistent
  exact consistent

theorem openingStep (absent : state.attempt = none) (input : LedgerInput) : OpeningStep
    (input.reduceInput state) (ledger.respond state input) :=
  openingStep_reduce absent (consistent.holds_of_absent absent)

theorem attemptStep {attempt : TurnAttempt} (present : state.attempt = some attempt)
    (input : LedgerInput) : AttemptStep (input.reduceInput state) attempt
    (ledger.respond state input) :=
  attemptStep_reduce present (consistent.of_present present)

theorem next (input : LedgerInput) : (ledger.next state input).Consistent := by
  cases present : state.attempt with
  | none => exact consistent_of_openingStep (consistent.openingStep present input)
  | some attempt =>
    have before : TurnLedger.Consistent attempt (input.reduceInput state).holds :=
      consistent.of_present present
    rcases consistent_of_attemptStep present before (consistent.attemptStep present input) with
      ⟨next, nextPresent, after⟩
    unfold LedgerState.Consistent
    rw [show (ledger.next state input).attempt = some next from nextPresent]
    exact after

end

end LedgerState.Consistent

theorem consistent_of_reachable {state : LedgerState} (reachable : ledger.Reachable state) :
    state.Consistent := by
  apply reachable.induction
  · exact rfl
  · exact fun _ input consistent => LedgerState.Consistent.next consistent input

theorem attempt_invariant (Invariant : TurnAttempt → List TurnHold → Prop)
    (opened : ∀ {input : ReduceInput} {result : ReduceResult} {attempt : TurnAttempt},
      OpeningStep input result → result.attempt = some attempt → Invariant attempt result.holds)
    (stepped : ∀ {input : ReduceInput} {attempt next : TurnAttempt} {result : ReduceResult},
      input.attempt = some attempt → Consistent attempt input.holds →
      Invariant attempt input.holds → AttemptStep input attempt result →
      result.attempt = some next → Invariant next result.holds)
    {state : LedgerState} (reachable : ledger.Reachable state) {attempt : TurnAttempt}
    (present : state.attempt = some attempt) : Invariant attempt state.holds := by
  have invariant : ∀ attempt, state.attempt = some attempt → Invariant attempt state.holds := by
    apply Machine.Reachable.induction_reachable _ _ reachable
    · intro attempt present
      cases present
    intro before input reachableBefore holds next nextPresent
    have consistent := consistent_of_reachable reachableBefore
    cases beforePresent : before.attempt with
    | none => exact opened (consistent.openingStep beforePresent input) nextPresent
    | some attempt =>
      exact stepped beforePresent (consistent.of_present beforePresent)
        (holds attempt beforePresent) (consistent.attemptStep beforePresent input) nextPresent
  exact invariant attempt present

/-! ## The holds of a settled attempt -/

section SettledHolds

variable {input : ReduceInput} {attempt base : TurnAttempt} {ctx : GuardCtx} {cause : TurnReason}
  {before after : Draft}

theorem heldFor_keepOnly_set {holds : HoldMap} {keep : List HoldReason} {fresh : TurnHold}
    (kept : ∀ other ∈ holds, other.reason ∈ keep → HoldShape attempt other)
    (shape : HoldShape attempt fresh) (reason : HoldReason) :
    heldFor ((holds.keepWhere fun hold => !isReleased .all keep hold.reason).set fresh).entries
        reason =
      if fresh.reason = reason then some fresh
      else if reason ∈ keep then heldFor holds.entries reason else none := by
  have shaped : ∀ other ∈ holds.keepWhere fun hold => !isReleased .all keep hold.reason,
      HoldShape attempt other := by
    intro other member
    rw [mem_keepWhere] at member
    exact kept other member.1 (by simpa [isReleased] using member.2)
  rw [heldFor_set shaped shape, heldFor_keepWhere]
  by_cases member : reason ∈ keep <;> simp [isReleased, member]

theorem mem_holdsKeptByStop {reason : HoldReason} :
    reason ∈ holdsKeptByStop cause ↔ reason = .hardCeiling ∧ cause ≠ .hardCeiling := by
  unfold holdsKeptByStop
  by_cases ceiling : cause = .hardCeiling <;> simp [ceiling]

theorem StopBegun.heldFor {terminal : Option WriterStopTerminal}
    (begun : StopBegun ctx base cause terminal before after)
    (shaped : HoldsShaped base before.holds.entries) (reason : HoldReason) :
    heldFor after.holds.entries reason =
      if HoldReason.liveness = reason then some (livenessHold ctx base)
      else if reason ∈ holdsKeptByStop cause then TurnLedger.heldFor before.holds.entries reason
      else none := by
  rw [begun.holds]
  exact heldFor_keepOnly_set (fun other member _ => shaped.shape other member)
    (livenessHold_shape ctx base) reason

theorem Requeued.heldFor (requeued : Requeued ctx base cause before after)
    (shaped : HoldsShaped base before.holds.entries) (reason : HoldReason) :
    heldFor after.holds.entries reason =
      if HoldReason.awaitDelivery = reason then
        some (awaitDeliveryHold ctx (nextGeneration base))
      else if reason ∈ [HoldReason.hardCeiling] then
        TurnLedger.heldFor before.holds.entries reason
      else none := by
  have fresh : HoldShape (nextGeneration base) (awaitDeliveryHold ctx (nextGeneration base)) :=
    ⟨rfl, rfl, rfl⟩
  rw [requeued.holds]
  refine heldFor_keepOnly_set ?_ fresh reason
  intro other member ceiling
  exact (shaped.shape other member).nextGeneration (mem_singleton.mp ceiling)

theorem StopWaits.heldFor {stop : WriterStop}
    (waits : StopWaits attempt (stopAfterEvidence input attempt stop)
      (stoppingBase input attempt stop) after)
    (shaped : HoldsShaped attempt input.holds) {reason : HoldReason} (other : reason ≠ .liveness) :
    heldFor after.holds.entries reason =
      if ceilingReached input attempt = true ∧ reason = .hardCeiling then none
      else TurnLedger.heldFor input.holds reason := by
  rw [waits.holds reason other]
  exact heldFor_stoppingBase input attempt stop shaped reason

theorem heldFor_openingHolds (reason : HoldReason) : heldFor (openingHolds ctx attempt) reason =
      if isMeshScope attempt = true ∧ reason = .awaitDelivery then
        some (awaitDeliveryHold ctx attempt)
      else if isMeshScope attempt = true ∧ reason = .hardCeiling then
        some (ceilingHold ctx attempt)
      else none := by
  unfold openingHolds
  cases isMeshScope attempt <;> cases reason <;> rfl

end SettledHolds

/-! ## The holds of a stepped attempt -/

/-- What one step makes of `attempt` and of the hold of each reason. -/
inductive HoldStep (input : ReduceInput) (attempt next : TurnAttempt) (result : ReduceResult) :
    Prop
  | unchanged (same : next = attempt) (sameHolds : result.holds = input.holds)
  | moved {lane : LaneClass} {rule : TransitionRule} (applied : Applied input lane rule)
      (moving : rule.isMoving = true) (notStopping : attempt.state ≠ .stopping)
      (moved : Moved rule attempt next)
      (fates : ∀ reason, (rule.fate (isMeshScope attempt) reason).Sound
        (input.guardCtx lane.effectiveGeneration) reason
        (heldFor input.holds reason) (heldFor result.holds reason))
      (ruled : result = applyRule input lane.effectiveGeneration rule)
  | ended (terminal : next.state.isTerminal = true) (released : result.holds = [])
  | stopBegun {ctx : GuardCtx} {base : TurnAttempt} {cause : TurnReason}
      {terminal : Option WriterStopTerminal} (live : attempt.state ∈ nonterminalStates)
      (stopping : next = stoppingAttempt ctx base cause terminal)
      (mesh : isMeshScope next = true)
      (decided : cause = .hardCeiling → terminal.isSome = true)
      (held : ∀ reason, heldFor result.holds reason =
        if HoldReason.liveness = reason then some (livenessHold ctx base)
        else if reason ∈ holdsKeptByStop cause then heldFor input.holds reason
        else none)
  | waits {stop waited : WriterStop} (stopping : attempt.state = .stopping)
      (pending : attempt.data.writerStop = some stop)
      (same : SameStop (stopAfterEvidence input attempt stop) waited)
      (within : Within { report := true } (withStop attempt waited) next)
      (held : ∀ reason, reason ≠ .liveness → heldFor result.holds reason =
        if ceilingReached input attempt = true ∧ reason = .hardCeiling then none
        else heldFor input.holds reason)
  | requeued {stop settled : WriterStop} (stopping : attempt.state = .stopping)
      (pending : attempt.data.writerStop = some stop)
      (idle : (settlingStop input attempt stop).terminal = none)
      (requeued : next = nextGeneration (withStop attempt settled))
      (held : ∀ reason, heldFor result.holds reason =
        if HoldReason.awaitDelivery = reason then
          some (awaitDeliveryHold (input.guardCtx (some attempt.generation)) next)
        else if reason ∈ [HoldReason.hardCeiling] then
          heldFor (stoppingBase input attempt stop).holds.entries reason
        else none)

section HoldSteps

variable {input : ReduceInput} {attempt next : TurnAttempt} {result : ReduceResult}

theorem holdStep_of_committed {base : TurnAttempt} {outcome : TurnOutcome}
    {strength : CommitStrength} {reason : TurnReason} {before after : Draft}
    (committed : Committed base outcome strength reason before after) (yields : Yields result after)
    (nextPresent : result.attempt = some next) : HoldStep input attempt next result := by
  rcases committed.ended with ⟨terminal, isNext, _⟩
  cases isNext.symm.trans (yields.attempt.symm.trans nextPresent)
  exact .ended (isTerminal_outcomeState _) (yields.holds.trans committed.holds)

theorem holdStep_of_stopStep {stop : WriterStop} {after : Draft}
    (consistent : Consistent attempt input.holds) (stopping : attempt.state = .stopping)
    (pending : attempt.data.writerStop = some stop) (step : StopStep input attempt stop after)
    (yields : Yields result after) (nextPresent : result.attempt = some next) :
    HoldStep input attempt next result := by
  cases step with
  | confirmed _ _ committed | unreachable _ _ committed =>
    rcases committed.committed with ⟨_, _, _, ended⟩
    exact holdStep_of_committed ended yields nextPresent
  | waits _ _ waits =>
    rcases waits.waits with ⟨waited, _, same, isNext, within⟩
    cases isNext.symm.trans (yields.attempt.symm.trans nextPresent)
    refine .waits stopping pending same within ?_
    intro reason other
    rw [yields.holds, waits.heldFor consistent.shaped other]
  | @requeued settled _ _ idle requeued =>
    cases requeued.next.symm.trans (yields.attempt.symm.trans nextPresent)
    refine .requeued stopping pending idle rfl ?_
    intro reason
    rw [yields.holds, requeued.heldFor (holdsShaped_stoppingBase consistent.shaped settled)]

theorem holdStep_of_attemptStep (consistent : Consistent attempt input.holds)
    (step : AttemptStep input attempt result) (nextPresent : result.attempt = some next) :
    HoldStep input attempt next result := by
  cases step with
  | unchanged sameAttempt sameHolds =>
    exact .unchanged (mem_unique nextPresent sameAttempt) sameHolds
  | moved applied moving notStopping isNext moved _ _ fates ruled =>
    cases isNext.symm.trans nextPresent
    exact .moved applied moving notStopping moved fates ruled
  | settled _ _ live sameHolds _ settled yields =>
    cases settled with
    | committed _ committed => exact holdStep_of_committed committed yields nextPresent
    | stopBegun within mesh decided begun =>
      have shaped := consistent.shaped.transport within.attemptId within.generation
      rw [← sameHolds] at shaped
      cases begun.stopping.symm.trans (yields.attempt.symm.trans nextPresent)
      refine .stopBegun live rfl (within.isMeshScope.trans mesh) decided ?_
      intro reason
      rw [yields.holds, begun.heldFor shaped, sameHolds]
  | stopping _ _ state pending step yields =>
    exact holdStep_of_stopStep consistent state pending step yields nextPresent

end HoldSteps

end Adhdev.TurnLedger
