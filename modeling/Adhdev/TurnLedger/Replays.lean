import Adhdev.TurnLedger.Observe
import Adhdev.TurnLedger.RuleShapes

/-! # Replayed evidence

An observed event id stays in the event table, and an id that is there answers
every later observation of it. The one observation whose id is not stored is a
liveness sample that is folded into the row of an earlier one. -/

namespace Adhdev.TurnLedger

open MeshShared List Option Bool

/-! ## Event ids are kept -/

namespace TurnTables

theorem hasEvent_iff {tables : TurnTables} {eventId : String} :
    tables.hasEvent eventId = true ↔ ∃ row ∈ tables.events, row.eventId = eventId := by
  simp [hasEvent, KeyedMap.mem_def]

def RetainsEvents (before after : TurnTables) : Prop :=
  ∀ eventId, before.hasEvent eventId = true → after.hasEvent eventId = true

namespace RetainsEvents

theorem refl (tables : TurnTables) : RetainsEvents tables tables := fun _ present => present

theorem trans {before middle after : TurnTables} (first : RetainsEvents before middle)
    (second : RetainsEvents middle after) : RetainsEvents before after :=
  fun eventId present => second eventId (first eventId present)

theorem of_events {before after : TurnTables} (same : after.events = before.events) :
    RetainsEvents before after := by
  intro eventId present
  rw [hasEvent, same]
  exact present

end RetainsEvents

variable {tables after : TurnTables} {row : EventRow}

theorem hasEvent_setEvent (eventId : String) :
    ({ tables with events := tables.events.set row } : TurnTables).hasEvent eventId = true ↔
      row.eventId = eventId ∨ tables.hasEvent eventId = true := by
  simp only [hasEvent_iff, KeyedMap.mem_set]
  constructor
  · rintro ⟨other, rfl | ⟨member, _⟩, sameId⟩
    · exact .inl sameId
    · exact .inr ⟨other, member, sameId⟩
  rintro (sameId | ⟨other, member, sameId⟩)
  · exact ⟨row, .inl rfl, sameId⟩
  by_cases replaced : other.eventId = row.eventId
  · exact ⟨row, .inl rfl, replaced.symm.trans sameId⟩
  · exact ⟨other, .inr ⟨member, replaced⟩, sameId⟩

theorem retainsEvents_setEvent :
    RetainsEvents tables { tables with events := tables.events.set row } :=
  fun eventId present => (hasEvent_setEvent eventId).mpr (.inr present)

section

variable (inserted : tables.insertEvent row = some after)
include inserted

theorem eq_of_insertEvent : after = { tables with events := tables.events.set row } := by
  unfold insertEvent at inserted
  split at inserted
  · cases inserted
  · exact (some.inj inserted).symm

theorem retainsEvents_insertEvent : RetainsEvents tables after := by
  rw [eq_of_insertEvent inserted]
  exact retainsEvents_setEvent

theorem hasEvent_insertEvent : after.hasEvent row.eventId = true := by
  rw [eq_of_insertEvent inserted]
  exact (hasEvent_setEvent row.eventId).mpr (.inl rfl)

end

theorem retainsEvents_recordEvidence (recorded : tables.recordEvidence row = some after) :
    RetainsEvents tables after := by
  unfold recordEvidence at recorded
  split at recorded
  · split at recorded
    · cases recorded
    split at recorded
    · cases recorded
      exact retainsEvents_setEvent
    · cases recorded
  · exact retainsEvents_insertEvent recorded

theorem hasEvent_recordEvidence (recorded : tables.recordEvidence row = some after)
    (separate : tables.foldsInto row = none) : after.hasEvent row.eventId = true := by
  rw [recordEvidence, separate] at recorded
  exact hasEvent_insertEvent recorded

theorem foldsInto_of_events (same : after.events = tables.events) (row : EventRow) :
    after.foldsInto row = tables.foldsInto row := by
  simp only [foldsInto, latestEventOf, same]

theorem foldsInto_of_unkeyed (unkeyed : livenessSampleKey row = none) :
    tables.foldsInto row = none := by
  rw [foldsInto, unkeyed]

end TurnTables

open TurnTables

theorem retainsEvents_insertDerived {rows : List EventRow} {tables after : TurnTables}
    (derived : insertDerived tables rows = .ok after) : RetainsEvents tables after := by
  induction rows generalizing tables with
  | nil =>
    cases derived
    exact RetainsEvents.refl _
  | cons row rows induction =>
    unfold insertDerived at derived
    split at derived
    · rename_i inserted isInserted
      exact (retainsEvents_insertEvent isInserted).trans (induction derived)
    split at derived
    · cases derived
    · exact induction derived

/-! ## One persisted step -/

section Persist

variable {tables after : TurnTables} {result : LedgerResult} {nowMs : Int}

theorem events_persistAttempt (persisted : persistAttempt tables result nowMs = .ok after) :
    after.events = tables.events := by
  unfold persistAttempt at persisted
  split at persisted
  · split at persisted
    · cases persisted
    rename_i upserted isUpserted
    cases persisted
    unfold upsertAttempt at isUpserted
    split at isUpserted
    · cases isUpserted
    split at isUpserted
    · cases isUpserted
    · cases isUpserted
      rfl
  · cases persisted
    rfl

variable {evidence : TurnEvidence} {options : ObserveOptions} {hostThrows : Bool}
  {before : Option TurnAttempt}

structure PersistedStep (tables : TurnTables) (evidence : TurnEvidence)
    (options : ObserveOptions) (nowMs : Int) (before : Option TurnAttempt)
    (result : LedgerResult) (persisted recorded after : TurnTables) : Prop where
  attempts : persistAttempt tables result nowMs = .ok persisted
  records : persisted.recordEvidence (evidenceRow evidence options nowMs before result) =
    some recorded
  derived : ∃ rows, insertDerived recorded rows = .ok after ∧
    (rows = [] ∨ ∃ subject, rows = effectEventRows evidence subject nowMs result.effects)

section

variable (persists : persistStep tables evidence options nowMs hostThrows before result = .ok after)
include persists

theorem persistedStep_of_persistStep : ∃ persisted recorded, PersistedStep tables evidence options
    nowMs before result persisted recorded after := by
  unfold persistStep at persists
  split at persists
  · cases persists
  rename_i persisted isPersisted
  split at persists
  · cases persists
  rename_i recorded isRecorded
  refine ⟨persisted, recorded, isPersisted, isRecorded, ?_⟩
  split at persists
  · cases persists
    exact ⟨[], rfl, .inl rfl⟩
  split at persists
  · cases persists
    exact ⟨[], rfl, .inl rfl⟩
  split at persists
  · cases persists
  rename_i derived isDerived
  split at persists
  · cases persists
  · cases persists
    exact ⟨_, isDerived, .inr ⟨_, rfl⟩⟩

theorem retainsEvents_persistStep : RetainsEvents tables after := by
  rcases persistedStep_of_persistStep persists with ⟨persisted, recorded, step⟩
  rcases step.derived with ⟨rows, derived, _⟩
  have attempts := RetainsEvents.of_events (events_persistAttempt step.attempts)
  have stored := retainsEvents_recordEvidence step.records
  exact (attempts.trans stored).trans (retainsEvents_insertDerived derived)

theorem hasEvent_persistStep (separate : tables.foldsInto (evidenceRow evidence options nowMs
      before result) = none) : after.hasEvent evidence.eventId = true := by
  rcases persistedStep_of_persistStep persists with ⟨persisted, recorded, step⟩
  rcases step.derived with ⟨rows, derived, _⟩
  rw [← foldsInto_of_events (events_persistAttempt step.attempts)] at separate
  have stored := hasEvent_recordEvidence step.records separate
  exact retainsEvents_insertDerived derived _ stored

end

end Persist

/-! ## Samples stay on their session -/

theorem rule_of_reduce {input : ReduceInput} {id : RuleId}
    (ruled : (reduce input).rule = some (.table id)) (ordinary : id ≠ .WR) :
    ∃ lane rule, classifyLane input.attempt input.evidence input.holds = .ok lane ∧
      rule ∈ matchingRules input ∧ rule.id = id ∧
      reduce input = applyRule input lane.effectiveGeneration rule := by
  unfold reduce at ruled ⊢
  split at ruled
  · cases ruled
  rename_i lane classified
  split at ruled
  · rename_i stopping stop found
    simp only [reduceStopping, some.injEq] at ruled
    split at ruled
    · cases ruled
    split at ruled
    · cases ruled
    · exact absurd (ResultRule.table.inj ruled).symm ordinary
  rename_i passed
  split at ruled
  · cases ruled
  rename_i rule first
  have sameId : rule.id = id := ResultRule.table.inj (some.inj ruled)
  exact ⟨lane, rule, classified, mem_of_head? first, sameId, rfl⟩

def Draft.session (draft : Draft) : Option String := draft.attempt.map (·.sessionId)

section Session

variable (ctx : GuardCtx) (draft : Draft)

theorem session_update {change : TurnAttempt → TurnAttempt}
    (kept : ∀ attempt, (change attempt).sessionId = attempt.sessionId) :
    (draft.update change).session = draft.session := by
  simp only [Draft.session, Draft.update, Option.map_map]
  congr 1
  funext attempt
  exact kept attempt

theorem session_activity : (activity ctx draft).session = draft.session := by
  unfold activity
  split <;> exact session_update draft fun _ => rfl

theorem session_livenessUnknown : (livenessUnknown ctx draft).session = draft.session := by
  unfold livenessUnknown
  split
  · exact session_update draft fun _ => rfl
  · rfl

theorem session_applyHold (template : HoldTemplate) :
    (applyHold template ctx draft).session = draft.session := by
  unfold applyHold Draft.onAttempt
  split
  · rfl
  dsimp only
  split
  · rfl
  · split <;> rfl

def EffectTemplate.isSampling : EffectTemplate → Bool
  | .act .activity | .act .livenessUnknown | .hold _ => true
  | _ => false

theorem session_applyTemplate {template : EffectTemplate} (sampling : template.isSampling = true) :
    (applyTemplate ctx draft template).session = draft.session := by
  unfold applyTemplate
  split
  · rfl
  cases template with
  | act action =>
    cases action with
    | activity => exact session_activity ctx draft
    | livenessUnknown => exact session_livenessUnknown ctx draft
    | _ => cases sampling
  | hold template => exact session_applyHold ctx draft template
  | _ => cases sampling

theorem session_applyEffects {templates : List EffectTemplate}
    (sampling : ∀ template ∈ templates, template.isSampling = true) :
    (applyEffects ctx templates draft).session = draft.session := by
  induction templates generalizing draft with
  | nil => rfl
  | cons template templates induction =>
    have head := session_applyTemplate ctx draft (sampling template mem_cons_self)
    have tail := induction (applyTemplate ctx draft template) (forall_mem_cons.mp sampling).2
    exact tail.trans head

end Session

theorem sessionId_of_sample {input : ReduceInput} {id : RuleId}
    (ruled : (reduce input).rule = some (.table id)) (sample : id = .R32 ∨ id = .R32u) :
    ∃ attempt, input.attempt = some attempt ∧
      (reduce input).attempt.map (·.sessionId) = some attempt.sessionId := by
  have ordinary : id ≠ .WR := by rcases sample with rfl | rfl <;> decide
  rcases rule_of_reduce ruled ordinary with ⟨lane, rule, classified, selected, sameId, equal⟩
  have matched := matched_of_mem_matchingRules classified selected
  have checked : (transitions.all fun rule =>
      (rule.id != .R32 && rule.id != .R32u) ||
        (rule.lane == .current && rule.target == .same &&
          rule.effects.all EffectTemplate.isSampling)) = true := by decide
  have shape := of_transitions checked matched.member
  have notOther : (rule.id != .R32 && rule.id != .R32u) = false := by
    rw [sameId]
    rcases sample with rfl | rfl <;> rfl
  simp only [notOther, Bool.false_or, Bool.and_eq_true, beq_iff_eq, List.all_eq_true] at shape
  obtain ⟨⟨current, same⟩, sampling⟩ := shape
  have settled : ∀ draft, settleTarget input rule draft = draft := by
    intro draft
    simp [settleTarget, same]
  have kept : (reduce input).attempt.map (·.sessionId) = input.attempt.map (·.sessionId) := by
    rw [equal, applyRule, ruleDraft, settled]
    exact session_applyEffects _ (initialDraft input) sampling
  cases present : input.attempt with
  | none =>
    rw [present, classifyLane] at classified
    cases classified
    rw [matched.sameLane] at current
    cases current
  | some attempt =>
    rw [present] at kept
    exact ⟨attempt, rfl, kept⟩

/-! ## One observation -/

section Observe

variable (selfDaemonId : String) (policy : TurnPolicy)

def stepRow (tables : TurnTables) (attempt : Option TurnAttempt) (input : ObserveInput) :
    EventRow :=
  evidenceRow (gatedEvidence attempt input) input.options input.nowMs attempt
    (reduceStep selfDaemonId policy tables attempt input)

def FoldsSample (tables : TurnTables) (input : ObserveInput) : Prop :=
  (tables.foldsInto (stepRow selfDaemonId policy tables (resolveAttempt tables input.evidence)
    input)).isSome = true

variable {selfDaemonId policy}
variable {tables after : TurnTables} {attempt : Option TurnAttempt} {input : ObserveInput}
  {result : LedgerResult}

theorem rule_of_livenessSampleKey {row : EventRow} (keyed : (livenessSampleKey row).isSome = true) :
    row.verdict = .applied ∧ (row.rule = some (.table .R32) ∨ row.rule = some (.table .R32u)) := by
  unfold livenessSampleKey at keyed
  split at keyed
  · split at keyed
    · split at keyed
      · rename_i passes
        simp only [and_eq_true, or_eq_true, beq_iff_eq] at passes
        exact ⟨passes.1.1.1.1.1.1.1.2, passes.1.1.1.1.1.1.2⟩
      · cases keyed
    · cases keyed
  · cases keyed

theorem eventId_gatedEvidence : (gatedEvidence attempt input).eventId = input.evidence.eventId := by
  unfold gatedEvidence
  split
  · split
    · unfold withoutEnd
      split <;> rfl
    · rfl
  · rfl

theorem unkeyed_of_landsOn {landing : TurnAttempt}
    (lands : landsOn attempt (reduceStep selfDaemonId policy tables attempt input) =
      some landing) :
    livenessSampleKey (stepRow selfDaemonId policy tables attempt input) = none := by
  by_contra keyed
  rcases rule_of_livenessSampleKey (isSome_iff_ne_none.mpr keyed) with ⟨_, ruled⟩
  have sample : ∃ id, (reduce (stepInput policy tables attempt input)).rule = some (.table id) ∧
      (id = .R32 ∨ id = .R32u) := by
    rcases ruled with ruled | ruled
    · exact ⟨.R32, ruled, .inl rfl⟩
    · exact ⟨.R32u, ruled, .inr rfl⟩
  rcases sample with ⟨id, ruled, which⟩
  rcases sessionId_of_sample ruled which with ⟨before, present, kept⟩
  have isPresent : attempt = some before := present
  subst isPresent
  simp only [landsOn, reduceStep, ownOpened, Option.isNone_some, Bool.false_and,
    false_eq_true, if_false, filter_eq_some_iff] at lands
  rw [lands.1, Option.map_some, Option.some.injEq] at kept
  simp [kept] at lands

theorem landsOn_of_conflicting {landing : Option TurnAttempt} {other : TurnAttempt}
    (conflict : conflicting tables landing = some other) : ∃ attempt, landing = some attempt := by
  rcases bind_eq_some_iff.mp conflict with ⟨attempt, lands, _⟩
  exact ⟨attempt, lands⟩

inductive StepPersisted (selfDaemonId : String) (policy : TurnPolicy) (tables : TurnTables)
    (attempt : Option TurnAttempt) (input : ObserveInput) (after : TurnTables)
    (result : LedgerResult) : Prop
  | free
      (free : conflicting tables
        (landsOn attempt (reduceStep selfDaemonId policy tables attempt input)) = none)
      (reduced : result = reduceStep selfDaemonId policy tables attempt input)
      (persists : persistStep tables (gatedEvidence attempt input) input.options input.nowMs
        input.hostThrows attempt result = .ok after)
  | superseding {other : TurnAttempt} {superseded : TurnTables}
      (conflict : conflicting tables
        (landsOn attempt (reduceStep selfDaemonId policy tables attempt input)) = some other)
      (plain : other.scope = .plain)
      (supersedes : supersede selfDaemonId policy tables input other = .ok superseded)
      (reduced : result = reduceStep selfDaemonId policy tables attempt input)
      (persists : persistStep superseded (gatedEvidence attempt input) input.options input.nowMs
        input.hostThrows attempt result = .ok after)
  | refused {other : TurnAttempt}
      (conflict : conflicting tables
        (landsOn attempt (reduceStep selfDaemonId policy tables attempt input)) = some other)
      (mesh : other.scope ≠ .plain) (rejects : result = conflictRejection)
      (persists : persistStep tables (gatedEvidence attempt input) input.options input.nowMs
        input.hostThrows attempt result = .ok after)

theorem eq_of_map_ok {α β ε : Type} {answer : Except ε α} {change : α → β} {value : β}
    (mapped : answer.map change = .ok value) : ∃ inner, answer = .ok inner ∧ change inner =
      value := by
  cases answer with
  | error _ => cases mapped
  | ok inner => exact ⟨inner, rfl, Except.ok.inj mapped⟩

section

variable (applies : applyStep selfDaemonId policy tables attempt input = .ok (after, result))
include applies

theorem stepPersisted_of_applyStep : StepPersisted selfDaemonId policy tables attempt input after
    result := by
  unfold applyStep at applies
  dsimp only at applies
  split at applies
  · rename_i free
    rcases eq_of_map_ok applies with ⟨persisted, persists, equal⟩
    cases equal
    exact .free free rfl persists
  rename_i other conflict
  split at applies
  · rename_i plain
    split at applies
    · cases applies
    rename_i superseded supersedes
    rcases eq_of_map_ok applies with ⟨persisted, persists, equal⟩
    cases equal
    exact .superseding conflict (beq_iff_eq.mp plain) supersedes rfl persists
  rename_i mesh
  rcases eq_of_map_ok applies with ⟨persisted, persists, equal⟩
  cases equal
  exact .refused conflict (fun plain => mesh (beq_iff_eq.mpr plain)) rfl persists

theorem retainsEvents_applyStep : RetainsEvents tables after := by
  cases stepPersisted_of_applyStep applies with
  | free _ _ persists | refused _ _ _ persists => exact retainsEvents_persistStep persists
  | superseding _ _ supersedes _ persists =>
    exact (retainsEvents_persistStep supersedes).trans (retainsEvents_persistStep persists)

theorem hasEvent_applyStep (separate : tables.foldsInto (stepRow selfDaemonId policy tables attempt
      input) = none) : after.hasEvent input.evidence.eventId = true := by
  have sameId : (gatedEvidence attempt input).eventId = input.evidence.eventId :=
    eventId_gatedEvidence
  rw [← sameId]
  cases stepPersisted_of_applyStep applies with
  | free _ reduced persists =>
    subst reduced
    exact hasEvent_persistStep persists separate
  | superseding conflict _ _ reduced persists =>
    subst reduced
    rcases landsOn_of_conflicting conflict with ⟨landing, lands⟩
    exact hasEvent_persistStep persists (foldsInto_of_unkeyed (unkeyed_of_landsOn lands))
  | refused _ _ rejects persists =>
    subst rejects
    apply hasEvent_persistStep persists
    apply foldsInto_of_unkeyed
    by_contra keyed
    have applied := (rule_of_livenessSampleKey (isSome_iff_ne_none.mpr keyed)).1
    cases applied

end

/-- The cases of `observe`. -/
inductive ObserveStep (selfDaemonId : String) (policy : TurnPolicy) (tables : TurnTables)
    (input : ObserveInput) (observed : Observed) : Prop
  | malformed (malformed : isTurnEvidence input.evidence = false)
      (answer : observed.answer =
        .ok { verdict := .rejected, rejection := some .invalidEvidence })
      (same : observed.tables = tables)
  | seen (valid : isTurnEvidence input.evidence = true)
      (present : tables.hasEvent input.evidence.eventId = true)
      (answer : observed.answer = .ok duplicateAnswer) (same : observed.tables = tables)
  | forwarded {owner : EvidenceOwner}
      (unseen : tables.hasEvent input.evidence.eventId = false)
      (foreign : foreignOwner selfDaemonId (resolveAttempt tables input.evidence) input.options =
        some owner)
      (equal : observed = forward tables owner input)
  | persisted {result : LedgerResult}
      (own : foreignOwner selfDaemonId (resolveAttempt tables input.evidence) input.options = none)
      (applies : applyStep selfDaemonId policy tables (resolveAttempt tables input.evidence) input =
        .ok (observed.tables, result))
      (answer : observed.answer = .ok (observeResult result))
  | failed {failure : TxnFailure}
      (applies : applyStep selfDaemonId policy tables (resolveAttempt tables input.evidence) input =
        .error failure)
      (answer : observed.answer = .ok duplicateAnswer ∨ observed.answer = .error failure)
      (same : observed.tables = tables)

theorem observeStep_observe (selfDaemonId : String) (policy : TurnPolicy) (tables : TurnTables)
    (input : ObserveInput) :
    ObserveStep selfDaemonId policy tables input (observe selfDaemonId policy tables input) := by
  unfold observe
  split
  · rename_i malformed
    exact .malformed (by simpa using malformed) rfl rfl
  rename_i valid
  split
  · rename_i present
    exact .seen (by simpa using valid) present rfl rfl
  rename_i unseen
  dsimp only
  split
  · rename_i owner foreign
    exact .forwarded (by simpa using unseen) foreign rfl
  rename_i own
  split
  · rename_i persisted result applies
    exact .persisted own applies rfl
  · rename_i applies
    exact .failed applies (.inl rfl) rfl
  · rename_i failure _ applies
    exact .failed applies (.inr rfl) rfl

theorem retainsEvents_insertEventOrIgnore (row : EventRow) :
    RetainsEvents tables (tables.insertEventOrIgnore row) := by
  unfold insertEventOrIgnore
  cases inserted : tables.insertEvent row with
  | none => exact RetainsEvents.refl tables
  | some after => exact retainsEvents_insertEvent inserted

theorem retainsEvents_forward (owner : EvidenceOwner) :
    RetainsEvents tables (forward tables owner input).tables := by
  unfold forward
  split <;> exact retainsEvents_insertEventOrIgnore _

theorem retainsEvents_observe (tables : TurnTables) (input : ObserveInput) :
    RetainsEvents tables (observe selfDaemonId policy tables input).tables := by
  have kept : ∀ {after : TurnTables}, after = tables → RetainsEvents tables after := by
    intro after same
    rw [same]
    exact RetainsEvents.refl tables
  cases observeStep_observe selfDaemonId policy tables input with
  | malformed _ _ same | seen _ _ _ same | failed _ _ same => exact kept same
  | forwarded _ _ equal =>
    rw [equal]
    exact retainsEvents_forward _
  | persisted _ applies => exact retainsEvents_applyStep applies

theorem hasEvent_forward {owner : EvidenceOwner} {result : ObserveResult}
    (unseen : tables.hasEvent input.evidence.eventId = false)
    (answered : (forward tables owner input).answer = .ok result)
    (rejected : result.verdict ≠ .forwarded) :
    (forward tables owner input).tables.hasEvent input.evidence.eventId = true := by
  unfold forward at answered ⊢
  split at answered
  · rename_i detached
    have inserted : tables.insertEvent (forwardRow input.evidence input.options input.nowMs
        .rejected [.forwardWithoutAttemptRef] none) =
        some { tables with events := tables.events.set (forwardRow input.evidence input.options
          input.nowMs .rejected [.forwardWithoutAttemptRef] none) } := by
      simp [insertEvent, forwardRow, unseen, sameDedupe, detached]
    rw [insertEventOrIgnore, inserted]
    exact hasEvent_insertEvent inserted
  · cases answered
    exact absurd rfl rejected

theorem hasEvent_observe {result : ObserveResult} (valid : isTurnEvidence input.evidence = true)
    (answered : (observe selfDaemonId policy tables input).answer = .ok result)
    (reduced : result.verdict = .applied ∨ result.verdict = .recorded ∨
      result.verdict = .rejected)
    (separate : ¬FoldsSample selfDaemonId policy tables input) :
    (observe selfDaemonId policy tables input).tables.hasEvent input.evidence.eventId = true := by
  have fresh : result.verdict ≠ .duplicate ∧ result.verdict ≠ .forwarded := by
    rcases reduced with verdict | verdict | verdict <;> rw [verdict] <;> decide
  cases observeStep_observe selfDaemonId policy tables input with
  | malformed malformed => exact absurd (malformed.symm.trans valid) false_ne_true
  | seen _ present _ same =>
    rw [same]
    exact present
  | forwarded unseen _ equal =>
    rw [equal] at answered ⊢
    exact hasEvent_forward unseen answered fresh.2
  | persisted _ applies =>
    apply hasEvent_applyStep applies
    simpa [FoldsSample] using separate
  | failed _ answer =>
    rw [answered] at answer
    rcases answer with duplicate | failure
    · exact absurd (congrArg ObserveResult.verdict (Except.ok.inj duplicate)) fresh.1
    · cases failure

theorem observe_of_hasEvent (present : tables.hasEvent input.evidence.eventId = true) :
    (observe selfDaemonId policy tables input).tables = tables ∧
      (isTurnEvidence input.evidence = true →
        (observe selfDaemonId policy tables input).answer = .ok duplicateAnswer) := by
  cases valid : isTurnEvidence input.evidence with
  | false => simp [observe, valid]
  | true => simp [observe, valid, present]

variable (selfDaemonId policy)

/-- Evidence delivery is idempotent by event id, for evidence that was stored under
its own id. -/
theorem replay_is_duplicate (earlier later : List ObserveInput) (input replay : ObserveInput)
    {result : ObserveResult} (valid : isTurnEvidence input.evidence = true)
    (answered : (observe selfDaemonId policy
      ((turnLedger selfDaemonId policy).run earlier) input).answer = .ok result)
    (reduced : result.verdict = .applied ∨ result.verdict = .recorded ∨
      result.verdict = .rejected)
    (separate : ¬FoldsSample selfDaemonId policy
      ((turnLedger selfDaemonId policy).run earlier) input)
    (sameId : replay.evidence.eventId = input.evidence.eventId) :
    let tables := (turnLedger selfDaemonId policy).run (earlier ++ input :: later)
    (observe selfDaemonId policy tables replay).tables = tables ∧
      (isTurnEvidence replay.evidence = true →
        (observe selfDaemonId policy tables replay).answer = .ok duplicateAnswer) := by
  intro tables
  apply observe_of_hasEvent
  rw [sameId]
  have stored := hasEvent_observe valid answered reduced separate
  have equal : tables = (turnLedger selfDaemonId policy).runFrom
      (observe selfDaemonId policy ((turnLedger selfDaemonId policy).run earlier) input).tables
      later :=
    Machine.runFrom_append _ _ _
  rw [equal]
  have kept : ∀ (state : TurnTables) (other : ObserveInput),
      state.hasEvent input.evidence.eventId = true →
        ((turnLedger selfDaemonId policy).next state other).hasEvent input.evidence.eventId =
          true :=
    fun state other present => retainsEvents_observe state other _ present
  exact Machine.runFrom_induction kept later stored

end Observe

/-! ## Sample observations -/

def sampleObservation (eventId : String) (nowMs : Int) (source : EvidenceSourceId)
    (body : TurnEvidenceBody) : ObserveInput where
  evidence := { (sampleInput nowMs source body).evidence with eventId := eventId }
  nowMs := nowMs

def sampleDispatch : ObserveInput :=
  sampleObservation "dispatch" 0 .dispatch sampleOpening.evidence.body

def sampleProbed : List ObserveInput :=
  [sampleDispatch, sampleObservation "start" 1 .fsmEdge (.turnStarted false),
    sampleObservation "first" 2 .coordinatorProbe (.liveness .alive none)]

def sampleProbe : ObserveInput :=
  sampleObservation "second" 3 .coordinatorProbe (.liveness .alive none)

def sampleCommitSeen : ObserveInput :=
  sampleObservation "git" 4 .gitProbe (.gitSideEffect true 1 false)

def Observed.verdict (observed : Observed) : Option ObserveVerdict :=
  observed.answer.toOption.map (·.verdict)

/-- The second probe is folded into the row of the first. Once another row of the
attempt follows, its replay is applied again. -/
theorem folded_sample_applied_again :
    let ledger := turnLedger "daemon" defaultTurnPolicy
    (ledger.respond (ledger.run sampleProbed) sampleProbe).verdict = some .applied ∧
      (ledger.respond (ledger.run (sampleProbed ++ [sampleProbe, sampleCommitSeen]))
        sampleProbe).verdict = some .applied := by
  decide +kernel

theorem replay_is_duplicate_dispatch :
    let tables := (turnLedger "daemon" defaultTurnPolicy).run
      ([] ++ sampleDispatch :: [sampleCommitSeen, sampleProbe])
    (observe "daemon" defaultTurnPolicy tables sampleDispatch).tables = tables ∧
      (isTurnEvidence sampleDispatch.evidence = true →
        (observe "daemon" defaultTurnPolicy tables sampleDispatch).answer =
          .ok duplicateAnswer) :=
  replay_is_duplicate "daemon" defaultTurnPolicy [] [sampleCommitSeen, sampleProbe]
    sampleDispatch sampleDispatch (by decide) rfl (by decide)
    (by unfold FoldsSample; decide) rfl

end Adhdev.TurnLedger
