import Adhdev.TurnLedger.RuleShapes

/-! # What a stopping attempt can do

While its writer's stop is pending an attempt waits, or the stop settles: it is
confirmed, or its writer is given up as unreachable. Only a confirmed stop can
requeue the task. -/

namespace Adhdev.TurnLedger

open MeshShared WriterStop

def WriterStop.pendingOutcome (stop : WriterStop) : TurnOutcome :=
  (stop.terminal.map (·.outcome)).getD .failed

section Stopping

variable (input : ReduceInput) (attempt : TurnAttempt) (stop : WriterStop)

@[simp] theorem attempt_stoppingBase : (stoppingBase input attempt stop).attempt =
      some (withStop attempt (stopAfterEvidence input attempt stop)) := by
  unfold stoppingBase
  dsimp only
  split
  · simp
  · rfl

@[simp] theorem settling_stoppingBase :
    settling (stoppingBase input attempt stop).effects = [] := by
  unfold stoppingBase
  dsimp only
  split
  · simp
  · rfl

theorem heldFor_stoppingBase (shaped : HoldsShaped attempt input.holds) (reason : HoldReason) :
    heldFor (stoppingBase input attempt stop).holds.entries reason =
      if ceilingReached input attempt = true ∧ reason = .hardCeiling then none
      else heldFor input.holds reason := by
  unfold stoppingBase
  dsimp only
  split
  · rename_i reached
    rw [holds_releaseHolds, heldFor_keepWhere, shaped.entries_ofList]
    by_cases ceiling : reason = .hardCeiling <;> simp [isReleased, reached, ceiling]
  · rename_i notReached
    simp [notReached, shaped.entries_ofList]

theorem shape_stoppingBase (shaped : HoldsShaped attempt input.holds) :
    ∀ hold ∈ (stoppingBase input attempt stop).holds, HoldShape attempt hold := by
  intro hold member
  have inList : hold ∈ KeyedMap.ofList TurnHold.holdId input.holds := by
    unfold stoppingBase at member
    dsimp only at member
    split at member
    · rw [holds_releaseHolds, KeyedMap.mem_keepWhere] at member
      exact member.1
    · exact member
  rw [KeyedMap.mem_def, shaped.entries_ofList] at inList
  exact shaped.shape hold inList

theorem stopAfterEvidence_confirmed :
    (stopAfterEvidence input attempt stop).confirmed = stop.confirmed := by
  unfold stopAfterEvidence
  dsimp only
  split <;> split <;> rfl

theorem adoptReportHeldDuringStop_confirmed :
    (adoptReportHeldDuringStop attempt stop).confirmed = stop.confirmed := by
  unfold adoptReportHeldDuringStop
  split
  · rfl
  · split <;> rfl

/-! ## Settled stops -/

variable {ctx : GuardCtx} {draft : Draft}

theorem committed_of_confirmed {base : TurnAttempt} {before : Draft}
    (present : draft.attempt = some base)
    (confirmed : base.data.writerStop.any (·.confirmed) = true)
    (sameEffects : settling draft.effects = settling before.effects) (outcome : TurnOutcome)
    (strength : CommitStrength) (reason : TurnReason) (text : Option CommitText) :
    Committed base outcome strength reason before
      (commit ctx draft outcome strength reason text) := by
  have committed : Committed base outcome strength reason draft
      (commit ctx draft outcome strength reason text) :=
    committed_commit ctx draft present (commitAwaitsStop_of_confirmed ctx confirmed)
  exact ⟨committed.ended, committed.holds, committed.committed, sameEffects ▸ committed.settling⟩

theorem reclaim_of_confirmed {base : TurnAttempt} (present : draft.attempt = some base)
    (confirmed : base.data.writerStop.any (·.confirmed) = true) (reason : TurnReason) :
    (∃ cause, Committed base .failed .genuine cause draft (reclaim ctx draft reason)) ∨
      base.scope = .meshQueue ∧ Requeued ctx base reason draft (reclaim ctx draft reason) := by
  have started : dispatchNeverStarted ctx base = false := by
    cases pending : base.data.writerStop with
    | none =>
      rw [pending] at confirmed
      cases confirmed
    | some stop => simp [dispatchNeverStarted, pending]
  simp only [reclaim, Draft.onAttempt, present, started, confirmed]
  split
  · exact .inl ⟨reason, committed_of_confirmed present confirmed rfl _ _ _ _⟩
  rename_i notPlain
  simp only [Bool.false_eq_true, if_false, Bool.not_true]
  split
  · exact .inl ⟨reason, committed_of_confirmed present confirmed rfl _ _ _ _⟩
  rename_i notDirect
  split
  · exact .inl ⟨_, committed_of_confirmed present confirmed rfl _ _ _ _⟩
  have queue : base.scope = .meshQueue := by
    cases scope : base.scope <;> simp_all
  exact .inr ⟨queue, requeued_requeue ctx draft reason⟩

theorem within_adoptStopSession (base : TurnAttempt) (terminal : WriterStopTerminal) :
    Within .none base (adoptStopSession base stop terminal) := by
  unfold adoptStopSession
  split <;> exact ⟨rfl, .inl rfl, .inl rfl, .inl rfl⟩

structure StopCommitted (settled : WriterStop) (reason : TurnReason) (before after : Draft) :
    Prop where
  confirmed : settled.confirmed = true
  committed : ∃ base strength, Within .none (withStop attempt settled) base ∧
    Committed base settled.pendingOutcome strength reason before after

def unreachableReason (stop : WriterStop) : TurnReason :=
  if stop.pendingOutcome = .failed then .writerUnreachable else stop.reason

theorem stopCommitted_of_unreachable (settledBy : WriterUnreachable) :
    ∃ settled, StopCommitted attempt settled (unreachableReason stop) draft
      (settleUnreachableWriter ctx draft attempt stop settledBy) ∧
      settled.pendingOutcome = stop.pendingOutcome := by
  cases standing : stop.terminal.filter (·.outcome != .failed) with
  | some terminal =>
    have found := Option.filter_eq_some_iff.mp standing
    have outcome : stop.pendingOutcome = terminal.outcome := by
      simp [pendingOutcome, found.1]
    have notFailed : stop.pendingOutcome ≠ .failed := by
      rw [outcome]
      simpa using found.2
    refine ⟨{ stop with confirmed := true, settledBy := some settledBy }, ⟨rfl, ?_⟩, rfl⟩
    refine ⟨_, terminal.strength, Within.refl .none _, ?_⟩
    have settledOutcome : pendingOutcome
        { stop with confirmed := true, settledBy := some settledBy } = terminal.outcome :=
      outcome
    simp only [settleUnreachableWriter, standing, settledOutcome, unreachableReason, notFailed,
      if_false]
    apply committed_of_confirmed
    all_goals rfl
  | none =>
    have failed : stop.pendingOutcome = .failed := by
      cases pending : stop.terminal with
      | none => simp [pendingOutcome, pending]
      | some terminal =>
        have refused := Option.filter_eq_none_iff.mp standing terminal pending
        simpa [pendingOutcome, pending] using refused
    refine ⟨{ stop with
      confirmed := true, settledBy := some settledBy, terminal := some ceilingTerminal },
      ⟨rfl, ?_⟩, failed.symm ▸ rfl⟩
    refine ⟨_, .genuine, Within.refl .none _, ?_⟩
    simp only [settleUnreachableWriter, standing, unreachableReason, failed, if_true]
    apply committed_of_confirmed
    all_goals rfl

theorem settled_of_confirmed (confirmed : stop.confirmed = true) :
    (∃ reason, StopCommitted attempt stop reason draft
      (settleConfirmedStop ctx draft attempt stop)) ∨
    attempt.scope = .meshQueue ∧ stop.terminal = none ∧
      Requeued ctx (withStop attempt stop) stop.reason draft
        (settleConfirmedStop ctx draft attempt stop) := by
  have baseConfirmed : (withStop attempt stop).data.writerStop.any (·.confirmed) = true := by
    simpa [withStop] using confirmed
  unfold settleConfirmedStop
  split
  · rename_i terminal pending
    have within := within_adoptStopSession stop (withStop attempt stop) terminal
    have outcome : stop.pendingOutcome = terminal.outcome := by
      simp [pendingOutcome, pending]
    refine .inl ⟨stop.reason, confirmed, _, terminal.strength, within, ?_⟩
    rw [outcome]
    apply committed_of_confirmed
    · rfl
    · rw [within.writerStop]
      exact baseConfirmed
    · rfl
  rename_i pending
  have outcome : stop.pendingOutcome = .failed := by simp [pendingOutcome, pending]
  dsimp only
  split
  · refine .inl ⟨stop.reason, confirmed, _, .genuine, Within.refl .none _, ?_⟩
    rw [outcome]
    apply committed_of_confirmed
    · rfl
    · exact baseConfirmed
    · rfl
  have reclaimed :
      (∃ cause, Committed (withStop attempt stop) .failed .genuine cause
        { draft with attempt := some (withStop attempt stop) }
        (reclaim ctx { draft with attempt := some (withStop attempt stop) } stop.reason)) ∨
      (withStop attempt stop).scope = .meshQueue ∧
        Requeued ctx (withStop attempt stop) stop.reason
          { draft with attempt := some (withStop attempt stop) }
          (reclaim ctx { draft with attempt := some (withStop attempt stop) } stop.reason) :=
    reclaim_of_confirmed rfl baseConfirmed stop.reason
  rcases reclaimed with ⟨cause, committed⟩ | ⟨queue, requeued⟩
  · refine .inl ⟨cause, confirmed, _, .genuine, Within.refl .none _, ?_⟩
    rw [outcome]
    exact ⟨committed.ended, committed.holds, committed.committed, committed.settling⟩
  · exact .inr ⟨queue, pending, requeued.next, requeued.holds, requeued.committed,
      requeued.settling⟩

/-! ## Waiting stops -/

/-- `waited` is `stop` up to its bookkeeping of retries. -/
structure SameStop (stop waited : WriterStop) : Prop where
  confirmed : waited.confirmed = stop.confirmed
  terminal : waited.terminal = stop.terminal
  reason : waited.reason = stop.reason
  requestedAt : waited.requestedAt = stop.requestedAt

/-- The stop is still waited for: only a report may be written down, and only the
retry timer moves. -/
structure StopWaits (before after : Draft) : Prop where
  waits : ∃ waited next, SameStop stop waited ∧ after.attempt = some next ∧
    Within { report := true } (withStop attempt waited) next
  settling : settling after.effects = settling before.effects
  committed : after.committed = before.committed
  holds : ∀ reason, reason ≠ .liveness →
    heldFor after.holds.entries reason = heldFor before.holds.entries reason
  shaped : ∀ hold ∈ after.holds, HoldShape attempt hold

variable {attempt stop}

theorem SameStop.refl (stop : WriterStop) : SameStop stop stop := ⟨rfl, rfl, rfl, rfl⟩

theorem livenessHold_shape (ctx : GuardCtx) (attempt : TurnAttempt) :
    HoldShape attempt (livenessHold ctx attempt) := ⟨rfl, rfl, rfl⟩

section Waiting

variable {ctx : GuardCtx} {draft : Draft}

theorem stopWaits_emit (present : draft.attempt = some (withStop attempt stop))
    (shaped : ∀ hold ∈ draft.holds, HoldShape attempt hold) {effect : TurnEffect}
    (mild : effect.isSettling = false) : StopWaits attempt stop draft (draft.emit effect) where
  waits := ⟨stop, withStop attempt stop, SameStop.refl stop, present, Within.refl _ _⟩
  settling := by simp [mild]
  committed := rfl
  holds _ _ := rfl
  shaped := shaped

theorem stopWaits_recordReport (present : draft.attempt = some (withStop attempt stop))
    (shaped : ∀ hold ∈ draft.holds, HoldShape attempt hold) :
    StopWaits attempt stop draft (recordReport ctx draft) := by
  have continues := @continues_actions ctx draft .recordReport rfl
  rcases continues.attempt present with ⟨next, nextPresent, within⟩
  have untouched : ActionId.recordReport.writesHolds = false := rfl
  have holds : (recordReport ctx draft).holds = draft.holds := holds_actions ctx draft untouched
  refine ⟨⟨stop, next, SameStop.refl stop, nextPresent, within⟩, continues.settling,
    continues.committed, ?_, ?_⟩
  · intro reason _
    rw [holds]
  · rw [holds]
    exact shaped

theorem heldFor_releaseLiveness {reason : HoldReason} (other : reason ≠ .liveness) :
    heldFor (releaseHolds draft (.reasons [.liveness])).holds.entries reason =
      heldFor draft.holds.entries reason := by
  rw [holds_releaseHolds, heldFor_keepWhere]
  simp [isReleased, other]

theorem shape_releaseHolds (shaped : ∀ hold ∈ draft.holds, HoldShape attempt hold)
    (reasons : ReleasedReasons) (keep : List HoldReason) :
    ∀ hold ∈ (releaseHolds draft reasons keep).holds, HoldShape attempt hold := by
  intro hold member
  rw [holds_releaseHolds, KeyedMap.mem_keepWhere] at member
  exact shaped hold member.1

theorem stopWaits_retryWriterStop (present : draft.attempt = some (withStop attempt stop))
    (shaped : ∀ hold ∈ draft.holds, HoldShape attempt hold) :
    StopWaits attempt stop draft (retryWriterStop ctx draft attempt stop) := by
  have released := shape_releaseHolds shaped (.reasons [.liveness]) []
  unfold retryWriterStop
  dsimp only
  split
  · have shape := livenessHold_shape ctx (withStop attempt { stop with tries := stop.tries + 1 })
    have armed : HoldShape attempt
        (livenessHold ctx (withStop attempt { stop with tries := stop.tries + 1 })) :=
      shape.transport rfl rfl
    simp only [requestWriterStop, Draft.onAttempt]
    refine ⟨⟨{ stop with tries := stop.tries + 1 }, _, ⟨rfl, rfl, rfl, rfl⟩, rfl,
      Within.refl _ _⟩, ?_, ?_, ?_, ?_⟩
    · simp [TurnEffect.isSettling]
    · simp
    · intro reason other
      rw [holds_addHold, Draft.holds_emit, heldFor_set released armed,
        heldFor_releaseLiveness other]
      exact if_neg other.symm
    · intro hold member
      rw [holds_addHold, KeyedMap.mem_set] at member
      rcases member with rfl | ⟨member, _⟩
      · exact armed
      · exact released hold member
  split
  · refine ⟨⟨{ stop with escalated := true }, _, ⟨rfl, rfl, rfl, rfl⟩, by simp,
      Within.refl _ _⟩, ?_, ?_, ?_, ?_⟩
    · simp [TurnEffect.isSettling]
    · simp
    · intro reason other
      rw [Draft.holds_emit, holds_notify]
      exact heldFor_releaseLiveness other
    · rw [Draft.holds_emit, holds_notify]
      exact released
  exact ⟨⟨stop, _, SameStop.refl stop, by simpa using present, Within.refl _ _⟩,
    settling_releaseHolds .., committed_releaseHolds ..,
    fun reason other => heldFor_releaseLiveness other, released⟩

end Waiting

/-! ## One step -/

def settlingStop (input : ReduceInput) (attempt : TurnAttempt) (stop : WriterStop) : WriterStop :=
  adoptReportHeldDuringStop attempt (stopAfterEvidence input attempt stop)

inductive StopStep (attempt : TurnAttempt) (stop : WriterStop) (after : Draft) : Prop
  | waits (unconfirmed : input.stopConfirmed = false)
      (reachable : unreachableSettlement input = none)
      (waits : StopWaits attempt (stopAfterEvidence input attempt stop)
        (stoppingBase input attempt stop) after)
  | confirmed {settled : WriterStop} {reason : TurnReason} (confirmed : input.stopConfirmed = true)
      (outcome : settled.pendingOutcome = (settlingStop input attempt stop).pendingOutcome)
      (committed : StopCommitted attempt settled reason (stoppingBase input attempt stop) after)
  | unreachable {settled : WriterStop} {settledBy : WriterUnreachable}
      (unreachable : unreachableSettlement input = some settledBy)
      (outcome : settled.pendingOutcome = (settlingStop input attempt stop).pendingOutcome)
      (committed : StopCommitted attempt settled
        (unreachableReason (settlingStop input attempt stop)) (stoppingBase input attempt stop)
        after)
  | requeued {settled : WriterStop} (confirmed : input.stopConfirmed = true)
      (queue : attempt.scope = .meshQueue)
      (idle : (settlingStop input attempt stop).terminal = none)
      (requeued : Requeued (input.guardCtx (some attempt.generation)) (withStop attempt settled)
        settled.reason (stoppingBase input attempt stop) after)

theorem adoptReportHeldDuringStop_confirm (attempt : TurnAttempt) (stop : WriterStop) :
    adoptReportHeldDuringStop attempt { stop with confirmed := true } =
      { adoptReportHeldDuringStop attempt stop with confirmed := true } := by
  have held : reportHeldDuringStop attempt { stop with confirmed := true } =
      reportHeldDuringStop attempt stop := rfl
  have stands : stopTerminalStands { stop with confirmed := true } = stopTerminalStands stop := rfl
  simp only [adoptReportHeldDuringStop, held, stands]
  split
  · rfl
  · split <;> rfl

variable {input} in
theorem unreachableSettlement_isSome : (unreachableSettlement input).isSome = true ↔
      input.stopConfirmed = false ∧ input.evidence.kind ≠ .cancel ∧
        input.writerUnreachable.isSome = true := by
  unfold unreachableSettlement
  cases confirmed : input.stopConfirmed with
  | true => simp
  | false => by_cases cancel : input.evidence.kind = .cancel <;> simp [cancel]

theorem unreachableSettlement_of_confirmed (confirmed : input.stopConfirmed = true) :
    unreachableSettlement input = none := by
  simp [unreachableSettlement, confirmed]

theorem stopStep_stoppingDraft (shaped : HoldsShaped attempt input.holds) :
    StopStep input attempt stop (stoppingDraft input attempt stop) := by
  have baseShaped := shape_stoppingBase input attempt stop shaped
  have present := attempt_stoppingBase input attempt stop
  unfold stoppingDraft
  dsimp only
  split
  · rename_i settledBy unreachable
    rcases stopCommitted_of_unreachable attempt (settlingStop input attempt stop) settledBy with
      ⟨settled, committed, outcome⟩
    exact .unreachable unreachable outcome committed
  rename_i reachable
  split
  · rename_i confirmed
    have known : (adoptReportHeldDuringStop attempt
        { stopAfterEvidence input attempt stop with confirmed := true }).confirmed = true := by
      rw [adoptReportHeldDuringStop_confirmed]
    have outcome : (adoptReportHeldDuringStop attempt
        { stopAfterEvidence input attempt stop with confirmed := true }).pendingOutcome =
          (settlingStop input attempt stop).pendingOutcome := by
      rw [adoptReportHeldDuringStop_confirm]
      rfl
    have terminal : (adoptReportHeldDuringStop attempt
        { stopAfterEvidence input attempt stop with confirmed := true }).terminal =
          (settlingStop input attempt stop).terminal := by
      rw [adoptReportHeldDuringStop_confirm]
      rfl
    rcases settled_of_confirmed attempt _ known with ⟨reason, committed⟩ | ⟨queue, idle, requeued⟩
    · exact .confirmed confirmed outcome committed
    · exact .requeued confirmed queue (terminal ▸ idle) requeued
  rename_i unconfirmed
  have waiting : input.stopConfirmed = false := by simpa using unconfirmed
  split
  · exact .waits waiting reachable (stopWaits_retryWriterStop present baseShaped)
  split
  · exact .waits waiting reachable (stopWaits_recordReport present baseShaped)
  · exact .waits waiting reachable (stopWaits_emit present baseShaped rfl)

end Stopping

end Adhdev.TurnLedger
