import Adhdev.TurnLedger.Persistence
import Adhdev.TurnLedger.RuleTable

/-! # One open attempt per session

An attempt lands on a session when it is opened there or moved to it. The ledger
looks for another open attempt before it writes: a plain one is closed first, a
mesh one refuses the landing. So the unique index on open sessions is never run
into. -/

namespace Adhdev.TurnLedger

open MeshShared TurnTables List Option Bool

/-! ## Superseding a plain attempt -/

def cancelEffects : List EffectTemplate :=
  [.cancelDispatch .current true,
    .commit { outcome := .outcome .cancelled, strength := .operator, reason := .fromCancel }]

section Cancel

variable {input : ReduceInput} {attempt : TurnAttempt}

section

variable (present : input.attempt = some attempt)
include present

theorem cancel_rule {lane : LaneClass} {rule : TransitionRule} (matched : Matched input lane rule)
    (current : lane.lane = .current) (cancels : input.evidence.kind = .cancel)
    (live : attempt.state ∈ nonterminalStates) : rule.effects = cancelEffects ∧ rule.verdict =
    .applied := by
  have checked : tableCheck (fun rule state =>
      rule.lane != .current || !rule.on.contains .cancel || !nonterminalStates.contains state ||
        rule.effects == cancelEffects && rule.verdict == .applied) = true := by decide
  have property := matched.of_tableCheck checked present
  have sameLane : rule.lane = .current := matched.sameLane.trans current
  have on : TurnEvidenceKind.cancel ∈ rule.on := cancels ▸ matched.on
  simpa [sameLane, on, live] using property

theorem exists_cancel_rule {lane : LaneClass} (classified : classifyLane input.attempt
      input.evidence input.holds = .ok lane) (current : lane.lane = .current) (cancels :
      input.evidence.kind = .cancel) (live : attempt.state ∈ nonterminalStates) : ∃ rule, rule ∈
    matchingRules input := by
  have checked : (transitions.any fun rule =>
      rule.lane == .current && rule.on.contains .cancel && rule.guard == none &&
        rule.fromStates == .nonterminal) = true := by decide
  rcases any_eq_true.mp checked with ⟨rule, member, shape⟩
  simp only [and_eq_true, beq_iff_eq, contains_iff_mem] at shape
  obtain ⟨⟨⟨isCurrent, on⟩, unguarded⟩, anywhere⟩ := shape
  refine ⟨rule, mem_matchingRules_of_passes classified member (isCurrent.trans current.symm) ?_
    (cancels ▸ on) ?_⟩
  · rw [present, anywhere]
    simpa [ruleAdmitsState] using live
  · rw [unguarded]
    rfl

theorem ended_of_cancel {reason : CancelReason} (body : input.evidence.body = .cancel reason)
    (ref : input.evidence.attemptRef = some ⟨attempt.attemptId, attempt.generation⟩)
    (live : attempt.state ∈ nonterminalStates) (plain : attempt.scope = .plain) :
    (reduce input).verdict = .applied ∧ ∃ terminal, (reduce input).attempt = some
    (terminalAttempt attempt terminal) ∧ terminal.outcome = .cancelled ∧ terminal.reason =
    cancelTurnReason reason := by
  have cancels : input.evidence.kind = .cancel := by rw [TurnEvidence.kind, body]; rfl
  have notSessionProduced : sessionProducedKinds.contains TurnEvidenceKind.cancel = false := by
    decide
  have classified : classifyLane input.attempt input.evidence input.holds =
      .ok ⟨.current, some attempt.generation⟩ := by
    simp only [classifyLane, present, body, livenessBeforeCut, classifySession, ref, cancels,
      notSessionProduced]
    simp
  have notStopping : attempt.state ≠ .stopping := (mem_nonterminalStates.mp live).1
  have passed : stoppingStop input .current = none := by
    simp [stoppingStop, present, notStopping]
  rcases exists_cancel_rule present classified rfl cancels live with ⟨_, member⟩
  have nonempty : matchingRules input ≠ [] := ne_nil_of_mem member
  rcases exists_cons_of_ne_nil nonempty with ⟨rule, rest, equal⟩
  have selected : rule ∈ matchingRules input := by
    rw [equal]
    exact mem_cons_self
  have first : (matchingRules input).head? = some rule := by
    rw [equal]
    rfl
  have matched := matched_of_mem_matchingRules classified selected
  rcases cancel_rule present matched rfl cancels live with ⟨effects, applied⟩
  have reduced : reduce input = applyRule input (some attempt.generation) rule := by
    simp only [reduce, classified, passed, first]
  let ctx := input.guardCtx (some attempt.generation)
  let cancelled := applyTemplate ctx (initialDraft input) (.cancelDispatch .current true)
  have untouched : Untouched (initialDraft input) cancelled := untouched_applyTemplate ctx _ rfl
  have cancelledPresent : cancelled.attempt = some attempt := untouched.sameAttempt.trans present
  have uncommitted : cancelled.committed = false := untouched.committed
  have free : commitAwaitsStop ctx attempt (cancelTurnReason reason) = false := by
    simp [commitAwaitsStop, isMeshScope, plain]
  have committed : Committed attempt .cancelled .operator (cancelTurnReason reason) cancelled
      (commit ctx cancelled .cancelled .operator (cancelTurnReason reason) none) :=
    committed_commit ctx cancelled cancelledPresent free
  have draft : ruleDraft input (some attempt.generation) rule =
      commit ctx cancelled .cancelled .operator (cancelTurnReason reason) none := by
    have applies : applyEffects ctx rule.effects (initialDraft input) =
        commit ctx cancelled .cancelled .operator (cancelTurnReason reason) none := by
      rw [effects]
      change applyTemplate ctx cancelled (.commit _) = _
      have bodyCtx : ctx.evidence.body = .cancel reason := body
      simp [applyTemplate, uncommitted, applyCommit, Draft.onAttempt, cancelledPresent,
        templateOutcome, templateReason, bodyCtx]
    rw [ruleDraft, applies]
    exact settleTarget_of_committed committed.committed
  rcases committed.ended with ⟨terminal, ended, outcome, _, isReason⟩
  rw [reduced]
  refine ⟨applied, terminal, ?_, outcome, isReason⟩
  rw [applyRule, draft]
  exact ended

end

end Cancel

def SupersededBy (other ended : TurnAttempt) : Prop :=
  ended.attemptId = other.attemptId ∧
    ∃ terminal, ended.terminal = some terminal ∧ terminal.outcome = .cancelled ∧
      terminal.reason = .superseded

section Supersede

variable {selfDaemonId : String} {policy : TurnPolicy} {tables superseded : TurnTables}
  {input : ObserveInput} {other : TurnAttempt}

theorem live_of_plain (sound : tables.Sound) (stored : tables.Stores other)
    (isOpen : other.terminal = none) (plain : other.scope = .plain) :
    other.state ∈ nonterminalStates := by
  cases (sound.consistent other stored).phase with
  | running live => exact live
  | stopping _ _ _ _ mesh =>
    rw [isMeshScope, plain] at mesh
    cases mesh
  | ended recorded =>
    rw [isOpen] at recorded
    cases recorded

theorem reduceStep_supersede (selfDaemonId : String) (policy : TurnPolicy)
    (input : ObserveInput) (sound : tables.Sound) (stored : tables.Stores other)
    (isOpen : other.terminal = none) (plain : other.scope = .plain) :
    let result := reduceStep selfDaemonId policy tables (some other) (supersedeInput input other)
    result.verdict = .applied ∧ ∃ ended, result.attempt = some ended ∧
      SupersededBy other ended := by
  have live := live_of_plain sound stored isOpen plain
  have body : (stepInput policy tables (some other) (supersedeInput input other)).evidence.body =
      .cancel .superseded := rfl
  rcases ended_of_cancel rfl body rfl live plain with ⟨applied, terminal, ended, outcome, reason⟩
  exact ⟨applied, _, ended, rfl, terminal, rfl, outcome, reason⟩

theorem written_supersede (sound : tables.Sound) (stored : tables.Stores other)
    (isOpen : other.terminal = none) (plain : other.scope = .plain)
    (supersedes : supersede selfDaemonId policy tables input other = .ok superseded) :
    superseded.Sound ∧ ∃ ended holds, SupersededBy other ended ∧
      Written tables ended holds superseded := by
  have reduced : Reduced (some other)
      (reduceStep selfDaemonId policy tables (some other) (supersedeInput input other)) := by
    apply reduced_reduceStep sound
    intro attempt isOther
    cases isOther
    exact stored
  rcases reduceStep_supersede selfDaemonId policy input sound stored isOpen plain with
    ⟨applied, ended, isEnded, closes⟩
  rcases attemptPersisted_of_persistStep sound (by exact reduced.consistent) supersedes with
    ⟨soundAfter, persisted⟩
  refine ⟨soundAfter, ended, ?_⟩
  cases persisted with
  | written _ present written =>
    have same : _ = ended := mem_unique present isEnded
    rw [same] at written
    exact ⟨_, closes, written⟩
  | skipped skips =>
    rcases skips with notApplied | absent
    · exact absurd applied notApplied
    · rw [absent] at isEnded
      cases isEnded

end Supersede

/-! ## Landing on a session -/

section Landing

variable {selfDaemonId : String} {policy : TurnPolicy} {tables after : TurnTables}
  {attempt : Option TurnAttempt} {input : ObserveInput} {result : LedgerResult}
  {landing other : TurnAttempt}

theorem conflicting_eq_some (conflict : conflicting tables (some landing) = some other) :
    tables.Stores other ∧ other.terminal = none ∧ other.sessionId = landing.sessionId ∧
      other.attemptId ≠ landing.attemptId := by
  rw [conflicting, bind_some, filter_eq_some_iff] at conflict
  rcases stores_of_findOpenAttemptForSession conflict.1 with ⟨stored, session, isOpen⟩
  exact ⟨stored, isOpen, session, by simpa using conflict.2⟩

theorem conflicting_of_stores (sound : tables.Sound) (stored : tables.Stores other)
    (isOpen : other.terminal = none) (session : other.sessionId = landing.sessionId)
    (differs : other.attemptId ≠ landing.attemptId) :
    conflicting tables (some landing) = some other := by
  rcases stored with ⟨row, member, rfl⟩
  have found : (tables.findOpenAttemptForSession landing.sessionId).isSome = true := by
    rw [findOpenAttemptForSession, isSome_map, find?_isSome]
    refine ⟨row, member, ?_⟩
    simp [AttemptRow.isOpen, isOpen, session]
  rcases isSome_iff_exists.mp found with ⟨holder, isHolder⟩
  rcases stores_of_findOpenAttemptForSession isHolder with ⟨holderStored, holderSession, holderOpen⟩
  have sameId : holder.attemptId = row.attempt.attemptId :=
    sound.oneOpen holder row.attempt holderStored ⟨row, member, rfl⟩ holderOpen isOpen
      (holderSession.trans session.symm)
  have same : holder = row.attempt := by
    have stored : tables.Stores row.attempt := ⟨row, member, rfl⟩
    have left := getAttempt_of_stores holderStored
    rw [sameId, getAttempt_of_stores stored] at left
    exact (some.inj left).symm
  rw [conflicting, bind_some, isHolder, same]
  simpa [filter] using differs

theorem free_of_not_landing (sound : tables.Sound) (stored : tables.StoresOption attempt)
    (reduced : Reduced attempt result) (applied : result.verdict = .applied)
    {next : TurnAttempt} (present : result.attempt = some next)
    (free : conflicting tables (landsOn attempt result) = none) :
    tables.openSessionTaken next = false := by
  apply openSessionTaken_eq_false.mpr
  intro unended rival isStored differs isOpen session
  have lands : landsOn attempt result = some next → False := by
    intro lands
    rw [lands, conflicting_of_stores sound isStored isOpen session differs] at free
    cases free
  cases isAttempt : attempt with
  | none =>
    apply lands
    simp [landsOn, isAttempt, present, applied]
  | some before =>
    rcases reduced.identity before isAttempt with ⟨same, isSame, sameId, wasOpen⟩
    rw [present, some.injEq] at isSame
    subst isSame
    by_cases moved : next.sessionId = before.sessionId
    · have owner := sound.oneOpen rival before isStored (stored before isAttempt) isOpen
        (wasOpen unended) (session.trans moved)
      exact differs (owner.trans sameId.symm)
    · apply lands
      simp [landsOn, isAttempt, present, applied, unended, moved]

theorem free_of_superseded {superseded : TurnTables} {ended : TurnAttempt}
    {holds : List TurnHold} (sound : tables.Sound) (stored : tables.Stores other)
    (isOpen : other.terminal = none) (session : other.sessionId = landing.sessionId)
    (closes : SupersededBy other ended) (written : Written tables ended holds superseded) :
    superseded.openSessionTaken landing = false := by
  apply openSessionTaken_eq_false.mpr
  intro _ rival isStored _ rivalOpen rivalSession
  rcases closes with ⟨sameId, terminal, isTerminal, _⟩
  rcases (written.stores rival).mp isStored with rfl | ⟨old, differs⟩
  · rw [rivalOpen] at isTerminal
    cases isTerminal
  have same := sound.oneOpen rival other old stored rivalOpen isOpen
    (rivalSession.trans session.symm)
  exact differs (same.trans sameId.symm)

theorem openSessionTaken_of_persistStep {evidence : TurnEvidence} {options : ObserveOptions}
    {nowMs : Int} {hostThrows : Bool} {before : Option TurnAttempt}
    (fails : persistStep tables evidence options nowMs hostThrows before result =
      .error (.index .openSession)) :
    ∃ next, result.verdict = .applied ∧ result.attempt = some next ∧
      tables.openSessionTaken next = true := by
  have derivedFails : ∀ (rows : List EventRow) (tables : TurnTables),
      insertDerived tables rows ≠ .error (.index .openSession) := by
    intro rows
    induction rows with
    | nil =>
      intro tables fails
      cases fails
    | cons row rows induction =>
      intro tables fails
      unfold insertDerived at fails
      split at fails
      · exact induction _ fails
      split at fails
      · cases fails
      · exact induction _ fails
  unfold persistStep at fails
  split at fails
  · rename_i failure isFailure
    cases fails
    unfold persistAttempt at isFailure
    split at isFailure
    · rename_i next applied present
      refine ⟨next, applied, present, ?_⟩
      split at isFailure
      · rename_i violation violates
        cases isFailure
        unfold upsertAttempt at violates
        split at violates
        · assumption
        · split at violates <;> cases violates
      · cases isFailure
    · cases isFailure
  split at fails
  · cases fails
  split at fails
  · cases fails
  split at fails
  · cases fails
  split at fails
  · rename_i failure isFailure
    cases fails
    exact absurd isFailure (derivedFails _ _)
  · split at fails <;> cases fails

end Landing

/-! ## Every step keeps the tables sound -/

section Steps

variable {selfDaemonId : String} {policy : TurnPolicy} {tables after : TurnTables}
  {attempt : Option TurnAttempt} {input : ObserveInput} {result : LedgerResult}

theorem landing_of_conflict {other : TurnAttempt}
    (conflict : conflicting tables (landsOn attempt result) = some other) :
    ∃ landing, landsOn attempt result = some landing ∧
      conflicting tables (some landing) = some other := by
  rcases landsOn_of_conflicting conflict with ⟨landing, lands⟩
  exact ⟨landing, lands, lands ▸ conflict⟩

theorem applied_of_landsOn {landing : TurnAttempt} (lands : landsOn attempt result = some landing) :
    result.attempt = some landing ∧ result.verdict = .applied := by
  rw [landsOn, filter_eq_some_iff] at lands
  refine ⟨lands.1, ?_⟩
  have both := lands.2
  rw [and_eq_true, beq_iff_eq] at both
  exact both.1

theorem sound_applyStep (sound : tables.Sound) (stored : tables.StoresOption attempt)
    (applies : applyStep selfDaemonId policy tables attempt input = .ok (after, result)) :
    after.Sound := by
  have reduced : Reduced attempt (reduceStep selfDaemonId policy tables attempt input) :=
    reduced_reduceStep sound stored
  cases stepPersisted_of_applyStep applies with
  | free _ isReduced persists =>
    subst isReduced
    exact (attemptPersisted_of_persistStep sound reduced.consistent persists).1
  | superseding conflict plain supersedes isReduced persists =>
    subst isReduced
    rcases landing_of_conflict conflict with ⟨landing, _, conflict⟩
    rcases conflicting_eq_some conflict with ⟨otherStored, isOpen, _⟩
    have soundSuperseded := (written_supersede sound otherStored isOpen plain supersedes).1
    exact (attemptPersisted_of_persistStep soundSuperseded reduced.consistent persists).1
  | refused _ _ rejects persists =>
    subst rejects
    refine (attemptPersisted_of_persistStep sound ?_ persists).1
    intro next present
    cases present

theorem sound_observe (sound : tables.Sound) :
    (observe selfDaemonId policy tables input).tables.Sound := by
  have kept : ∀ {after : TurnTables}, after = tables → after.Sound := by
    intro after same
    rw [same]
    exact sound
  cases observeStep_observe selfDaemonId policy tables input with
  | malformed _ _ same | seen _ _ _ same | failed _ _ same => exact kept same
  | forwarded _ _ equal =>
    have inserted : ∀ row : EventRow, row.Keyed → (tables.insertEventOrIgnore row).Sound := by
      intro row keyed
      unfold insertEventOrIgnore
      cases isInserted : tables.insertEvent row with
      | none => exact sound
      | some after => exact sound_insertEvent sound keyed isInserted
    rw [equal]
    unfold forward
    split <;> exact inserted _ fun _ _ => rfl
  | persisted _ applies =>
    exact sound_applyStep sound (fun _ resolved => stores_of_resolveAttempt resolved) applies

theorem sound_of_reachable (reachable : (turnLedger selfDaemonId policy).Reachable tables) :
    tables.Sound := by
  apply reachable.induction
  · exact sound_empty
  · exact fun _ _ sound => sound_observe sound

theorem applyStep_ne_openSession (sound : tables.Sound) (stored : tables.StoresOption attempt) :
    applyStep selfDaemonId policy tables attempt input ≠ .error (.index .openSession) := by
  intro fails
  have reduced : Reduced attempt (reduceStep selfDaemonId policy tables attempt input) :=
    reduced_reduceStep sound stored
  have mapped : ∀ {answer : Except TxnFailure TurnTables} {change : TurnTables → _},
      answer.map change = (.error (.index .openSession) :
        Except TxnFailure (TurnTables × LedgerResult)) →
        answer = .error (.index .openSession) := by
    intro answer change isError
    cases answer with
    | error failure => exact congrArg Except.error (Except.error.inj isError)
    | ok => cases isError
  unfold applyStep at fails
  dsimp only at fails
  split at fails
  · rename_i free
    rcases openSessionTaken_of_persistStep (mapped fails) with ⟨next, applied, present, taken⟩
    have isFree := free_of_not_landing sound stored reduced applied present free
    rw [taken] at isFree
    cases isFree
  rename_i other conflict
  rcases landing_of_conflict conflict with ⟨landing, lands, conflict⟩
  rcases conflicting_eq_some conflict with ⟨otherStored, isOpen, session, _⟩
  split at fails
  · rename_i plain
    have plain := beq_iff_eq.mp plain
    split at fails
    · rename_i failure supersedes
      cases fails
      rcases openSessionTaken_of_persistStep supersedes with ⟨next, _, present, taken⟩
      rcases reduceStep_supersede selfDaemonId policy input sound otherStored isOpen plain with
        ⟨_, ended, isEnded, closes⟩
      have same : next = ended := mem_unique present isEnded
      subst same
      rcases closes with ⟨_, terminal, isTerminal, _⟩
      simp [openSessionTaken, isTerminal] at taken
    rename_i superseded supersedes
    rcases openSessionTaken_of_persistStep (mapped fails) with ⟨next, _, present, taken⟩
    have same : next = landing := some.inj (present.symm.trans (applied_of_landsOn lands).1)
    subst same
    rcases written_supersede sound otherStored isOpen plain supersedes with
      ⟨_, ended, holds, closes, written⟩
    have isFree := free_of_superseded sound otherStored isOpen session closes written
    rw [taken] at isFree
    cases isFree
  · rcases openSessionTaken_of_persistStep (mapped fails) with ⟨_, applied, _⟩
    cases applied

end Steps

/-! ## Conflicts -/

/-- The observation would make `landing` open on a session that `other` holds. -/
structure LandsBeside (selfDaemonId : String) (policy : TurnPolicy) (tables : TurnTables)
    (input : ObserveInput) (landing other : TurnAttempt) : Prop where
  valid : isTurnEvidence input.evidence = true
  unseen : tables.hasEvent input.evidence.eventId = false
  own : foreignOwner selfDaemonId (resolveAttempt tables input.evidence) input.options = none
  lands : landsOn (resolveAttempt tables input.evidence)
    (reduceStep selfDaemonId policy tables (resolveAttempt tables input.evidence) input) =
      some landing
  stored : tables.Stores other
  isOpen : other.terminal = none
  session : other.sessionId = landing.sessionId
  differs : other.attemptId ≠ landing.attemptId

section Conflicts

variable {selfDaemonId : String} {policy : TurnPolicy} {tables : TurnTables}
  {input : ObserveInput} {landing other : TurnAttempt}

theorem observe_of_beside (beside : LandsBeside selfDaemonId policy tables input landing other) :
    (∃ result,
      applyStep selfDaemonId policy tables (resolveAttempt tables input.evidence) input =
        .ok ((observe selfDaemonId policy tables input).tables, result) ∧
      (observe selfDaemonId policy tables input).answer = .ok (observeResult result)) ∨
    ∃ failure, applyStep selfDaemonId policy tables (resolveAttempt tables input.evidence) input =
        .error failure ∧ (observe selfDaemonId policy tables input).tables = tables ∧
      ((observe selfDaemonId policy tables input).answer = .ok duplicateAnswer ∨
        (observe selfDaemonId policy tables input).answer = .error failure) := by
  cases observeStep_observe selfDaemonId policy tables input with
  | malformed malformed => exact absurd (malformed.symm.trans beside.valid) false_ne_true
  | seen _ present => exact absurd (beside.unseen.symm.trans present) false_ne_true
  | forwarded _ foreign =>
    rw [beside.own] at foreign
    cases foreign
  | persisted _ applies answer => exact .inl ⟨_, applies, answer⟩
  | failed applies answer same => exact .inr ⟨_, applies, same, answer⟩

theorem insertEvent_of_unseen (sound : tables.Sound) {row : EventRow} {kind : TurnEvidenceKind}
    (isEvidence : row.kind = .evidence kind) (keyed : row.Keyed)
    (unseen : tables.hasEvent row.eventId = false) :
    tables.insertEvent row = some { tables with events := tables.events.set row } := by
  have apart : (tables.events.entries.any (sameDedupe row)) = false := by
    rw [List.any_eq_false]
    intro other member same
    simp only [sameDedupe, and_eq_true, beq_iff_eq] at same
    have otherKeyed := sound.keyed other member kind (same.1.2.symm.trans isEvidence)
    have seen : tables.hasEvent row.eventId = true := by
      apply hasEvent_iff.mpr
      refine ⟨other, member, ?_⟩
      rw [← otherKeyed, ← same.2]
      exact keyed kind isEvidence
    rw [unseen] at seen
    cases seen
  simp [insertEvent, unseen, apart]

theorem observe_beside_mesh (sound : tables.Sound)
    (beside : LandsBeside selfDaemonId policy tables input landing other)
    (mesh : other.scope ≠ .plain) :
    (observe selfDaemonId policy tables input).answer = .ok (observeResult conflictRejection) ∧
      (observe selfDaemonId policy tables input).tables.attempts = tables.attempts ∧
      (observe selfDaemonId policy tables input).tables.holds = tables.holds := by
  have conflict := conflicting_of_stores sound beside.stored beside.isOpen beside.session
    beside.differs
  let attempt := resolveAttempt tables input.evidence
  let evidence := gatedEvidence attempt input
  let row := evidenceRow evidence input.options input.nowMs attempt conflictRejection
  have unseen : tables.hasEvent row.eventId = false :=
    (congrArg tables.hasEvent eventId_gatedEvidence).trans beside.unseen
  have unkeyed : livenessSampleKey row = none := by
    by_contra keyed
    have applied := (rule_of_livenessSampleKey (isSome_iff_ne_none.mpr keyed)).1
    cases applied
  have recorded : tables.recordEvidence row =
      some { tables with events := tables.events.set row } := by
    rw [recordEvidence, foldsInto_of_unkeyed unkeyed]
    exact insertEvent_of_unseen sound rfl (keyed_evidenceRow _ _ _ _ _) unseen
  have persists : persistStep tables evidence input.options input.nowMs input.hostThrows attempt
      conflictRejection = .ok { tables with events := tables.events.set row } := by
    have skips : persistAttempt tables conflictRejection input.nowMs = .ok tables := rfl
    simp only [persistStep, skips]
    rw [show tables.recordEvidence (evidenceRow evidence input.options input.nowMs attempt
      conflictRejection) = _ from recorded]
    cases attempt with
    | none => rfl
    | some before => rfl
  have applies : applyStep selfDaemonId policy tables attempt input =
      .ok ({ tables with events := tables.events.set row }, conflictRejection) := by
    have isMesh : (other.scope == TurnScope.plain) = false := by simpa using mesh
    simp only [applyStep]
    rw [beside.lands, conflict]
    simp only [isMesh, false_eq_true, if_false]
    rw [persists]
    rfl
  rcases observe_of_beside beside with ⟨result, isOk, answer⟩ | ⟨failure, isError, _⟩
  · have same := Except.ok.inj (isOk.symm.trans applies)
    rw [Prod.mk.injEq] at same
    rw [answer, same.2, same.1]
    exact ⟨rfl, rfl, rfl⟩
  · cases isError.symm.trans applies

theorem observe_beside_plain (sound : tables.Sound)
    (beside : LandsBeside selfDaemonId policy tables input landing other)
    (plain : other.scope = .plain) : (observe selfDaemonId policy tables input).tables = tables ∨
      (observe selfDaemonId policy tables input).verdict = some .applied ∧
        (observe selfDaemonId policy tables input).tables.Stores landing ∧
        ∃ ended, SupersededBy other ended ∧
          (observe selfDaemonId policy tables input).tables.Stores ended := by
  have conflict := conflicting_of_stores sound beside.stored beside.isOpen beside.session
    beside.differs
  have reduced : Reduced (resolveAttempt tables input.evidence) (reduceStep selfDaemonId policy
      tables (resolveAttempt tables input.evidence) input) :=
    reduced_reduceStep sound fun _ resolved => stores_of_resolveAttempt resolved
  rcases applied_of_landsOn beside.lands with ⟨present, applied⟩
  rcases observe_of_beside beside with ⟨result, applies, answer⟩ | ⟨failure, _, same, _⟩
  · right
    cases stepPersisted_of_applyStep applies with
    | free free =>
      rw [beside.lands, conflict] at free
      cases free
    | refused conflicts mesh =>
      rw [beside.lands, conflict] at conflicts
      cases conflicts
      exact absurd plain mesh
    | superseding conflicts _ supersedes isReduced persists =>
      subst isReduced
      rw [beside.lands, conflict] at conflicts
      cases conflicts
      rcases written_supersede sound beside.stored beside.isOpen plain supersedes with
        ⟨soundSuperseded, ended, holds, closes, writtenEnded⟩
      rcases attemptPersisted_of_persistStep soundSuperseded reduced.consistent persists with
        ⟨_, persisted⟩
      refine ⟨by rw [Observed.verdict, answer]; exact congrArg (some ∘ observeVerdict) applied, ?_⟩
      cases persisted with
      | skipped skips =>
        rcases skips with notApplied | absent
        · exact absurd applied notApplied
        · rw [present] at absent
          cases absent
      | written _ isNext written =>
        have same := mem_unique isNext present
        subst same
        refine ⟨(written.stores _).mpr (.inl rfl), ended, closes, ?_⟩
        apply (written.stores ended).mpr
        refine .inr ⟨(writtenEnded.stores ended).mpr (.inl rfl), ?_⟩
        rw [closes.1]
        exact beside.differs
  · exact .inl same

end Conflicts

theorem eq_of_attemptId {tables : TurnTables} {left right : TurnAttempt}
    (leftStored : tables.Stores left) (rightStored : tables.Stores right)
    (same : left.attemptId = right.attemptId) : left = right := by
  have found := getAttempt_of_stores leftStored
  rw [same, getAttempt_of_stores rightStored] at found
  exact (some.inj found).symm

/-- At most one open attempt per session, whatever is observed; no step fails on
the index for it; beside an open mesh attempt nothing lands and nothing changes;
beside an open plain attempt a landing closes that one first. -/
theorem one_open_attempt_per_session (selfDaemonId : String) (policy : TurnPolicy)
    {tables : TurnTables} (reachable : (turnLedger selfDaemonId policy).Reachable tables) :
    (∀ left right, tables.Stores left → tables.Stores right → left.terminal = none →
      right.terminal = none → left.sessionId = right.sessionId → left = right) ∧
    ∀ input : ObserveInput,
      (observe selfDaemonId policy tables input).answer ≠ .error (.index .openSession) ∧
      ∀ landing other, LandsBeside selfDaemonId policy tables input landing other →
        (other.scope ≠ .plain →
          (observe selfDaemonId policy tables input).answer =
              .ok (observeResult conflictRejection) ∧
            (observe selfDaemonId policy tables input).tables.attempts = tables.attempts ∧
            (observe selfDaemonId policy tables input).tables.holds = tables.holds) ∧
        (other.scope = .plain →
          (observe selfDaemonId policy tables input).tables = tables ∨
            (observe selfDaemonId policy tables input).verdict = some .applied ∧
              (observe selfDaemonId policy tables input).tables.Stores landing ∧
              ∃ ended, SupersededBy other ended ∧
                (observe selfDaemonId policy tables input).tables.Stores ended) := by
  have sound := sound_of_reachable reachable
  refine ⟨?_, fun input => ⟨?_, ?_⟩⟩
  · intro left right leftStored rightStored leftOpen rightOpen session
    exact eq_of_attemptId leftStored rightStored
      (sound.oneOpen left right leftStored rightStored leftOpen rightOpen session)
  · intro fails
    cases observeStep_observe selfDaemonId policy tables input with
    | malformed _ answer | seen _ _ answer | persisted _ _ answer => cases answer.symm.trans fails
    | forwarded _ _ equal =>
      rw [equal, forward] at fails
      split at fails <;> cases fails
    | failed applies answer =>
      rcases answer with duplicate | failed
      · cases duplicate.symm.trans fails
      have failure := Except.error.inj (failed.symm.trans fails)
      subst failure
      exact applyStep_ne_openSession sound
        (fun _ resolved => stores_of_resolveAttempt resolved) applies
  · intro landing other beside
    exact ⟨observe_beside_mesh sound beside, observe_beside_plain sound beside⟩

def samplePlainStart : ObserveInput :=
  let start := sampleObservation "start" 0 .fsmEdge (.turnStarted false)
  { start with evidence := { start.evidence with attemptRef := none, taskId := none } }

/-- A dispatch onto the session of an open plain turn. -/
theorem one_open_attempt_per_session_superseding : ∃ landing other ended,
      LandsBeside "daemon" defaultTurnPolicy
        ((turnLedger "daemon" defaultTurnPolicy).run [samplePlainStart]) sampleDispatch
        landing other ∧ other.scope = .plain ∧ SupersededBy other ended ∧
      ((turnLedger "daemon" defaultTurnPolicy).run [samplePlainStart, sampleDispatch]).Stores
        ended := by
  let tables := (turnLedger "daemon" defaultTurnPolicy).run [samplePlainStart]
  have lands : (landsOn (resolveAttempt tables sampleDispatch.evidence)
      (reduceStep "daemon" defaultTurnPolicy tables
        (resolveAttempt tables sampleDispatch.evidence) sampleDispatch)).map
        (fun landing => (landing.attemptId, landing.sessionId)) = some ("attempt", "session") := by
    decide
  have holder : (tables.findOpenAttemptForSession "session").map
      (fun holder => (holder.attemptId, holder.scope)) =
        some ("plain:session:start", .plain) := by decide
  rcases Option.map_eq_some_iff.mp lands with ⟨landing, isLanding, landingIs⟩
  rcases Option.map_eq_some_iff.mp holder with ⟨other, isOther, otherIs⟩
  rw [Prod.mk.injEq] at landingIs otherIs
  rcases stores_of_findOpenAttemptForSession isOther with ⟨stored, session, isOpen⟩
  have beside : LandsBeside "daemon" defaultTurnPolicy tables sampleDispatch landing other :=
    { valid := by decide
      unseen := by decide
      own := by decide
      lands := isLanding
      stored := stored
      isOpen := isOpen
      session := session.trans landingIs.2.symm
      differs := by
        rw [otherIs.1, landingIs.1]
        decide }
  have changed : (observe "daemon" defaultTurnPolicy tables sampleDispatch).tables ≠ tables := by
    intro same
    have lengths := congrArg (fun tables : TurnTables => tables.events.entries.length) same
    revert lengths
    decide
  have result := one_open_attempt_per_session "daemon" defaultTurnPolicy
    (Machine.reachable_run [samplePlainStart])
  rcases (result.2 sampleDispatch).2 landing other beside |>.2 otherIs.2 with same | superseded
  · exact absurd same changed
  · rcases superseded.2.2 with ⟨ended, closes, endedStored⟩
    exact ⟨landing, other, ended, beside, otherIs.2, closes, endedStored⟩

/-! ## The tables follow the reducer -/

theorem unchanged_of_not_applied {input : ReduceInput}
    (notApplied : (reduce input).verdict ≠ .applied) :
    (reduce input).attempt = input.attempt ∧
      ((reduce input).holds = input.holds ∨
        (reduce input).holds = (KeyedMap.ofList TurnHold.holdId input.holds).entries) := by
  unfold reduce at notApplied ⊢
  split at notApplied
  · exact ⟨rfl, .inl rfl⟩
  rename_i lane classified
  split at notApplied
  · exact absurd rfl notApplied
  split at notApplied
  · exact ⟨rfl, .inl rfl⟩
  rename_i rule first
  have matched := matched_of_mem_matchingRules classified (mem_of_head? first)
  have recorded := (applied_or_recorded matched.member).resolve_left notApplied
  have untouched := untouched_of_recorded input lane.effectiveGeneration matched.member recorded
  refine ⟨untouched.sameAttempt, .inr ?_⟩
  rw [applyRule, untouched.sameHolds]
  rfl

theorem ofList_entries {α κ : Type} [DecidableEq κ] {key : α → κ} (map : KeyedMap key) :
    KeyedMap.ofList key map.entries = map := by
  have same := KeyedMap.entries_ofList map.nodup
  cases map with
  | mk entries nodup =>
    cases built : KeyedMap.ofList key entries with
    | mk builtEntries _ =>
      rw [built] at same
      subst same
      rfl

theorem stored_of_applyStep {selfDaemonId : String} {policy : TurnPolicy}
    {tables after : TurnTables} {attempt : Option TurnAttempt} {input : ObserveInput}
    {result : LedgerResult} (sound : tables.Sound) (stored : tables.StoresOption attempt)
    (applies : applyStep selfDaemonId policy tables attempt input = .ok (after, result))
    {next : TurnAttempt} (present : result.attempt = some next) :
    after.getAttempt next.attemptId = some next ∧
      (after.activeHolds next.attemptId).Perm result.holds := by
  have reduced : Reduced attempt (reduceStep selfDaemonId policy tables attempt input) :=
    reduced_reduceStep sound stored
  have readBack : ∀ {earlier : TurnTables}, Consistent next result.holds →
      Written earlier next result.holds after → after.getAttempt next.attemptId = some next ∧
        (after.activeHolds next.attemptId).Perm result.holds := by
    intro earlier consistent written
    refine ⟨getAttempt_of_stores ((written.stores next).mpr (.inl rfl)), ?_⟩
    exact (perm_ext_iff_of_nodup (nodup_activeHolds _ _).of_map
      consistent.shaped.nodup.of_map).mpr written.own
  cases stepPersisted_of_applyStep applies with
  | refused _ _ rejects =>
    subst rejects
    cases present
  | superseding conflict plain supersedes isReduced persists =>
    subst isReduced
    rcases landing_of_conflict conflict with ⟨landing, lands, conflict⟩
    rcases conflicting_eq_some conflict with ⟨otherStored, isOpen, _⟩
    have soundSuperseded := (written_supersede sound otherStored isOpen plain supersedes).1
    rcases (attemptPersisted_of_persistStep soundSuperseded reduced.consistent persists).2 with
      ⟨_, isNext, written⟩ | ⟨skips, _, _⟩
    · have same := mem_unique isNext present
      subst same
      exact readBack (reduced.consistent _ present) written
    · rcases skips with notApplied | absent
      · exact absurd (applied_of_landsOn lands).2 notApplied
      · cases absent.symm.trans present
  | free _ isReduced persists =>
    subst isReduced
    rcases (attemptPersisted_of_persistStep sound reduced.consistent persists).2 with
      ⟨_, isNext, written⟩ | ⟨skips, sameAttempts, sameHolds⟩
    · have same := mem_unique isNext present
      subst same
      exact readBack (reduced.consistent _ present) written
    · rcases skips with notApplied | absent
      · have unchanged := unchanged_of_not_applied notApplied
        have isBefore : attempt = some next := by
          have owned : ownOpened selfDaemonId attempt
              (reduce (stepInput policy tables attempt input)) =
                (reduce (stepInput policy tables attempt input)).attempt := by
            have verdict : ((reduce (stepInput policy tables attempt input)).verdict ==
                ReduceVerdict.applied) = false := beq_eq_false_iff_ne.mpr notApplied
            simp [ownOpened, verdict]
          exact unchanged.1.symm.trans (owned.symm.trans present)
        subst isBefore
        have isStored := stored next rfl
        have distinct := (sound.consistent next isStored).shaped
        have holds : (reduceStep selfDaemonId policy tables (some next) input).holds =
            tables.activeHolds next.attemptId := by
          rcases unchanged.2 with same | rebuilt
          · exact same
          · exact rebuilt.trans distinct.entries_ofList
        constructor
        · apply getAttempt_of_stores
          rw [Stores, sameAttempts]
          exact isStored
        · rw [holds, activeHolds_of_holds sameHolds]
      · cases absent.symm.trans present

/-- A verdict other than applied leaves the attempt and its hold set, keyed by hold
id, as they were; so the tables, which are written for applied verdicts only, hold
what the reducer returned after every step. -/
theorem only_applied_steps_change_state :
    (∀ input : ReduceInput, (reduce input).verdict ≠ .applied →
      (reduce input).attempt = input.attempt ∧
        KeyedMap.ofList TurnHold.holdId (reduce input).holds =
          KeyedMap.ofList TurnHold.holdId input.holds ∧
        ((input.holds.map TurnHold.holdId).Nodup → (reduce input).holds = input.holds)) ∧
    ∀ (selfDaemonId : String) (policy : TurnPolicy) (tables : TurnTables),
      (turnLedger selfDaemonId policy).Reachable tables →
      ∀ (input : ObserveInput) (after : TurnTables) (result : LedgerResult),
        applyStep selfDaemonId policy tables (resolveAttempt tables input.evidence) input =
          .ok (after, result) → ∀ next, result.attempt = some next →
          after.getAttempt next.attemptId = some next ∧
            (after.activeHolds next.attemptId).Perm result.holds := by
  constructor
  · intro input notApplied
    rcases unchanged_of_not_applied notApplied with ⟨sameAttempt, same | rebuilt⟩
    · exact ⟨sameAttempt, by rw [same], fun _ => same⟩
    refine ⟨sameAttempt, by rw [rebuilt, ofList_entries], ?_⟩
    intro distinct
    rw [rebuilt]
    exact KeyedMap.entries_ofList distinct
  intro selfDaemonId policy tables reachable input after result applies next present
  exact stored_of_applyStep (sound_of_reachable reachable)
    (fun _ resolved => stores_of_resolveAttempt resolved) applies present

theorem only_applied_steps_change_state_redispatch :
    let input := (sampleInput 2 .dispatch sampleOpening.evidence.body).reduceInput
      (ledger.run sampleStarted)
    (reduce input).verdict = .rejected ∧ (reduce input).attempt = input.attempt ∧
      (reduce input).holds = input.holds := by
  intro input
  have rejects : (reduce input).verdict = .rejected := by decide
  have unchanged := only_applied_steps_change_state.1 input (by rw [rejects]; decide)
  exact ⟨rejects, unchanged.1, unchanged.2.2 (by decide)⟩

end Adhdev.TurnLedger
