import Adhdev.TurnLedger.Consistency

/-! # Retries

A task is handed to a writer again in two ways: a reclaim gives it to a new
generation, and a redelivery repeats the dispatch of the current one. The
attempt counts both. Every function of the reducer but `requeue` keeps the
counters, every template but that of rule H2 redelivers nothing, and from that
the retries of a whole run are bounded. -/

namespace Adhdev.TurnLedger

open MeshShared List Option Bool

/-! ## Counters and effects -/

structure Retries where
  generation : Int
  reclaimCount : Int
  redriveCount : Int

def TurnAttempt.retries (attempt : TurnAttempt) : Retries where
  generation := attempt.generation
  reclaimCount := attempt.reclaimCount
  redriveCount := attempt.redriveCount

def TurnEffect.isRetry : TurnEffect → Bool
  | .reclaim .. | .redeliver .. => true
  | _ => false

def retrying (effects : List TurnEffect) : List TurnEffect :=
  effects.filter TurnEffect.isRetry

@[simp] theorem retrying_append (left right : List TurnEffect) :
    retrying (left ++ right) = retrying left ++ retrying right :=
  filter_append ..

@[simp] theorem retrying_singleton (effect : TurnEffect) :
    retrying [effect] = if effect.isRetry then [effect] else [] := by
  cases effect <;> rfl

/-! ## Keeping the counters -/

/-- `after` has the counters of `before` and hands nothing to a writer. -/
structure KeepsRetries (before after : Draft) : Prop where
  counters : after.attempt.map TurnAttempt.retries = before.attempt.map TurnAttempt.retries
  silent : retrying after.effects = retrying before.effects

namespace KeepsRetries

variable {before after : Draft}

theorem refl (draft : Draft) : KeepsRetries draft draft := ⟨rfl, rfl⟩

theorem trans {middle : Draft} (first : KeepsRetries before middle)
    (second : KeepsRetries middle after) : KeepsRetries before after where
  counters := second.counters.trans first.counters
  silent := second.silent.trans first.silent

section

variable (keeps : KeepsRetries before after)
include keeps

theorem emit {effect : TurnEffect} (quiet : effect.isRetry = false) : KeepsRetries before
    (after.emit effect) where
  counters := keeps.counters
  silent := by simp [Draft.emit, quiet, keeps.silent]

theorem addHold {hold : TurnHold} : KeepsRetries before (addHold after hold) where
  counters := keeps.counters
  silent := by simp [TurnLedger.addHold, Draft.emit, TurnEffect.isRetry, keeps.silent]

theorem releaseHolds {reasons : ReleasedReasons} {keep : List HoldReason} : KeepsRetries before
    (releaseHolds after reasons keep) where
  counters := by simpa using keeps.counters
  silent := by
    simp only [TurnLedger.releaseHolds, Draft.onAttempt]
    split
    · exact keeps.silent
    split
    · exact keeps.silent
    · simpa [Draft.emit, TurnEffect.isRetry] using keeps.silent

theorem notify {kind : NotifyKind} {options : NotifyOptions} : KeepsRetries before
    (notify after kind options) where
  counters := by simpa using keeps.counters
  silent := by
    simp only [TurnLedger.notify, Draft.onAttempt]
    split
    · exact keeps.silent
    split
    · simpa [Draft.emit, TurnEffect.isRetry] using keeps.silent
    · exact keeps.silent

theorem update {change : TurnAttempt → TurnAttempt} (same : ∀ attempt, (change attempt).retries =
      attempt.retries) : KeepsRetries before (after.update change) where
  counters := by
    rw [← keeps.counters]
    simp only [Draft.update, Option.map_map]
    congr 1
    funext attempt
    exact same attempt
  silent := keeps.silent

end

theorem write {attempt next : TurnAttempt} (present : before.attempt = some attempt)
    (same : next.retries = attempt.retries) :
    KeepsRetries before { before with attempt := some next } where
  counters := by simp [present, same]
  silent := rfl

theorem ending (keeps : KeepsRetries before after) :
    KeepsRetries before { after with committed := true } :=
  ⟨keeps.counters, keeps.silent⟩

theorem onAttempt {body : TurnAttempt → Draft}
    (keeps : ∀ attempt, before.attempt = some attempt → KeepsRetries before (body attempt)) :
    KeepsRetries before (before.onAttempt body) := by
  unfold Draft.onAttempt
  cases present : before.attempt with
  | none => exact refl before
  | some attempt => exact keeps attempt present

end KeepsRetries

section Keeping

variable (ctx : GuardCtx) (draft : Draft)

/-! ## Stops and commits -/

theorem keepsRetries_requestWriterStop : KeepsRetries draft (requestWriterStop ctx draft) := by
  apply KeepsRetries.onAttempt
  intro attempt _
  apply KeepsRetries.addHold
  exact (KeepsRetries.refl draft).emit rfl

theorem keepsRetries_beginWriterStop (reason : TurnReason) :
    KeepsRetries draft (beginWriterStop ctx draft reason) := by
  apply KeepsRetries.onAttempt
  intro attempt present
  split
  · exact KeepsRetries.refl draft
  refine KeepsRetries.trans ?_ (keepsRetries_requestWriterStop ctx _)
  apply KeepsRetries.releaseHolds
  exact KeepsRetries.write present rfl

theorem keepsRetries_setStopTerminal (terminal : WriterStopTerminal) :
    KeepsRetries draft (setStopTerminal draft terminal) :=
  (KeepsRetries.refl draft).update fun _ => rfl

theorem retrying_commitQueueEffects (attempt : TurnAttempt) (outcome : TurnOutcome)
    (reason : TurnReason) : retrying (commitQueueEffects attempt outcome reason) = [] := by
  unfold commitQueueEffects
  split
  · rfl
  split
  · split <;> rfl
  · split <;> rfl

theorem keepsRetries_reportEnd {released : Draft} (keeps : KeepsRetries draft released)
    (attempt : TurnAttempt) (outcome : TurnOutcome) (reason : TurnReason) (event : TurnBusEvent) :
    KeepsRetries draft { released with
      effects := released.effects ++ commitQueueEffects attempt outcome reason ++
        [.bus event] } where
  counters := keeps.counters
  silent := by
    rw [retrying_append, retrying_append, retrying_commitQueueEffects, append_nil]
    exact (append_nil _).trans keeps.silent

theorem keepsRetries_commitNow {attempt : TurnAttempt} (present : draft.attempt = some attempt)
    (outcome : TurnOutcome) (strength : CommitStrength) (reason : TurnReason)
    (text : Option CommitText) :
    KeepsRetries draft (commitNow ctx draft attempt outcome strength reason text) := by
  have released : ∀ (ended : TurnAttempt) (effect : CommitEffect),
      ended.retries = attempt.retries →
      KeepsRetries draft
        (releaseHolds ({ draft with attempt := some ended }.emit (.commit effect)) .all) := by
    intro ended effect same
    apply KeepsRetries.releaseHolds
    refine KeepsRetries.emit ?_ rfl
    exact KeepsRetries.write present same
  unfold commitNow
  dsimp only
  split
  · apply KeepsRetries.ending
    refine KeepsRetries.emit ?_ rfl
    apply keepsRetries_reportEnd
    exact released _ _ rfl
  apply KeepsRetries.ending
  refine KeepsRetries.emit ?_ rfl
  apply KeepsRetries.notify
  apply keepsRetries_reportEnd
  exact released _ _ rfl

theorem keepsRetries_commit (outcome : TurnOutcome) (strength : CommitStrength)
    (reason : TurnReason) (text : Option CommitText) :
    KeepsRetries draft (commit ctx draft outcome strength reason text) := by
  apply KeepsRetries.onAttempt
  intro attempt present
  split
  · exact (keepsRetries_beginWriterStop ctx draft reason).trans (keepsRetries_setStopTerminal _ _)
  · exact keepsRetries_commitNow ctx draft present outcome strength reason text

/-! ## Actions and templates -/

theorem keepsRetries_applyHeldSuspension : KeepsRetries draft (applyHeldSuspension draft) := by
  apply KeepsRetries.onAttempt
  intro attempt present
  split
  · exact KeepsRetries.refl draft
  apply KeepsRetries.notify
  refine KeepsRetries.emit ?_ rfl
  apply KeepsRetries.releaseHolds
  exact KeepsRetries.write present rfl

theorem keepsRetries_deferUnconfirmedEnd : KeepsRetries draft (deferUnconfirmedEnd ctx draft) := by
  apply KeepsRetries.onAttempt
  intro attempt present
  split
  · exact KeepsRetries.refl draft
  · apply KeepsRetries.addHold
    exact KeepsRetries.write present rfl

theorem keepsRetries_openReportCorrection :
    KeepsRetries draft (openReportCorrection ctx draft) := by
  apply KeepsRetries.onAttempt
  intro attempt present
  split
  · exact KeepsRetries.refl draft
  · apply KeepsRetries.addHold
    exact KeepsRetries.write present rfl

theorem keepsRetries_actions {action : ActionId} (continuing : action.opens = false)
    (notRedrive : action ≠ .redrive) : KeepsRetries draft (actions action ctx draft) := by
  cases writes : action.writesHolds with
  | false =>
    obtain ⟨change, same, rewrites⟩ := actions_rewrites ctx draft continuing writes
    rw [same]
    refine (KeepsRetries.refl draft).update fun attempt => ?_
    obtain ⟨within, counts⟩ := rewrites attempt
    have generation := congrArg AttemptCore.generation within.core
    have reclaims := congrArg AttemptCore.reclaimCount within.core
    exact (Retries.mk.injEq ..).mpr ⟨generation, reclaims, counts notRedrive⟩
  | true =>
    cases action with
    | applyHeldSuspension => exact keepsRetries_applyHeldSuspension draft
    | deferUnconfirmedEnd => exact keepsRetries_deferUnconfirmedEnd ctx draft
    | openReportCorrection => exact keepsRetries_openReportCorrection ctx draft
    | _ => cases writes

theorem keepsRetries_recordReport : KeepsRetries draft (recordReport ctx draft) :=
  @keepsRetries_actions ctx draft .recordReport rfl (by decide)

theorem keepsRetries_applyHold (template : HoldTemplate) :
    KeepsRetries draft (applyHold template ctx draft) := by
  apply KeepsRetries.onAttempt
  intro attempt _
  split
  · exact KeepsRetries.refl draft
  split
  · exact KeepsRetries.refl draft
  · exact (KeepsRetries.refl draft).addHold

theorem keepsRetries_applyRelease (reasons : ReleaseExpr) :
    KeepsRetries draft (applyRelease reasons ctx draft) := by
  unfold applyRelease
  split
  · exact (KeepsRetries.refl draft).releaseHolds
  · exact (KeepsRetries.refl draft).releaseHolds
  split
  · exact (KeepsRetries.refl draft).releaseHolds
  · exact KeepsRetries.refl draft

theorem keepsRetries_applyCommit (template : CommitTemplate) :
    KeepsRetries draft (applyCommit template ctx draft) := by
  apply KeepsRetries.onAttempt
  intro attempt _
  split
  · exact keepsRetries_commit ctx draft _ _ _ _
  · exact KeepsRetries.refl draft

theorem keepsRetries_sendNotice (template : NotifyTemplate) :
    KeepsRetries draft (sendNotice template ctx draft) := by
  apply KeepsRetries.onAttempt
  intro attempt _
  exact (KeepsRetries.refl draft).notify

theorem keepsRetries_remindSuspension {attempt : TurnAttempt}
    (present : draft.attempt = some attempt) :
    KeepsRetries draft (remindSuspension ctx draft attempt) := by
  unfold remindSuspension
  split
  · dsimp only
    split
    · exact (KeepsRetries.refl draft).emit rfl
    · apply KeepsRetries.notify
      exact KeepsRetries.write present rfl
  · exact KeepsRetries.refl draft

theorem keepsRetries_noticeStall (template : NotifyTemplate) (attempt : TurnAttempt) :
    KeepsRetries draft (noticeStall template ctx draft attempt) := by
  unfold noticeStall
  split
  · exact (KeepsRetries.refl draft).emit rfl
  split
  · split
    · exact (KeepsRetries.refl draft).emit rfl
    have stamped : KeepsRetries draft (stampNoProgressNotice ctx draft) :=
      (KeepsRetries.refl draft).update fun _ => rfl
    exact stamped.trans (keepsRetries_sendNotice ctx _ template)
  · exact KeepsRetries.refl draft

theorem keepsRetries_applyNotify (template : NotifyTemplate) :
    KeepsRetries draft (applyNotify template ctx draft) := by
  apply KeepsRetries.onAttempt
  intro attempt present
  split
  · exact keepsRetries_sendNotice ctx draft template
  · split
    · exact KeepsRetries.refl draft
    · refine KeepsRetries.trans ?_ (keepsRetries_sendNotice ctx _ template)
      exact (KeepsRetries.refl draft).update fun _ => rfl
  · exact keepsRetries_remindSuspension ctx draft present
  · exact keepsRetries_noticeStall ctx draft template attempt

theorem keepsRetries_adoptPrevGeneration : KeepsRetries draft (adoptPrevGeneration ctx draft) := by
  apply KeepsRetries.onAttempt
  intro attempt _
  split
  · exact KeepsRetries.refl draft
  dsimp only
  split
  · exact (keepsRetries_beginWriterStop ctx draft _).trans (keepsRetries_setStopTerminal _ _)
  · refine KeepsRetries.trans ?_ (keepsRetries_commit ctx _ _ _ _ _)
    exact (KeepsRetries.refl draft).update fun _ => rfl

theorem keepsRetries_applyCancelDispatch (target : CancelTarget) (notIntentionalCleanup : Bool) :
    KeepsRetries draft (applyCancelDispatch target notIntentionalCleanup ctx draft) := by
  apply KeepsRetries.onAttempt
  intro attempt _
  dsimp only
  split
  · exact KeepsRetries.refl draft
  split
  · exact KeepsRetries.refl draft
  · split <;> exact (KeepsRetries.refl draft).emit rfl

def EffectTemplate.keepsRetries : EffectTemplate → Bool
  | .act action => !action.opens && action != .redrive
  | .reclaim _ | .redeliver => false
  | _ => true

theorem keepsRetries_applyTemplate {template : EffectTemplate}
    (keeping : template.keepsRetries = true) :
    KeepsRetries draft (applyTemplate ctx draft template) := by
  have emitted : ∀ body : TurnAttempt → TurnEffect,
      (∀ attempt, (body attempt).isRetry = false) →
        KeepsRetries draft (draft.onAttempt fun attempt => draft.emit (body attempt)) := by
    intro body quiet
    apply KeepsRetries.onAttempt
    intro attempt _
    exact (KeepsRetries.refl draft).emit (quiet attempt)
  unfold applyTemplate
  split
  · exact KeepsRetries.refl draft
  cases template with
  | act action =>
    have both : action.opens = false ∧ action ≠ .redrive := by
      simpa [EffectTemplate.keepsRetries] using keeping
    exact keepsRetries_actions ctx draft both.1 both.2
  | hold template => exact keepsRetries_applyHold ctx draft template
  | release reasons => exact keepsRetries_applyRelease ctx draft reasons
  | commit template => exact keepsRetries_applyCommit ctx draft template
  | reclaim reason | redeliver => cases keeping
  | adoptPrevGeneration => exact keepsRetries_adoptPrevGeneration ctx draft
  | notify template => exact keepsRetries_applyNotify ctx draft template
  | bus phase | probe | reevaluate => exact emitted _ fun _ => rfl
  | record note => exact (KeepsRetries.refl draft).emit rfl
  | cancelDispatch target notIntentionalCleanup =>
    exact keepsRetries_applyCancelDispatch ctx draft target notIntentionalCleanup

theorem keepsRetries_applyEffects {templates : List EffectTemplate}
    (keeping : ∀ template ∈ templates, template.keepsRetries = true) :
    KeepsRetries draft (applyEffects ctx templates draft) := by
  induction templates generalizing draft with
  | nil => exact KeepsRetries.refl draft
  | cons template templates induction =>
    have head := keepsRetries_applyTemplate ctx draft (keeping template mem_cons_self)
    have tail := induction (applyTemplate ctx draft template) (forall_mem_cons.mp keeping).2
    exact head.trans tail

theorem keepsRetries_settleTarget (input : ReduceInput) (rule : TransitionRule) :
    KeepsRetries draft (settleTarget input rule draft) := by
  unfold settleTarget
  split
  · split
    · exact KeepsRetries.refl draft
    · refine (KeepsRetries.refl draft).update fun attempt => ?_
      split <;> rfl
  · exact KeepsRetries.refl draft

end Keeping

/-! ## Reclaims -/

/-- `after` gives the task of `before` to its next generation, within the
budget. -/
structure Reclaims (before after : Draft) : Prop where
  spends : ∃ retries attemptId reason,
    before.attempt.map TurnAttempt.retries = some retries ∧
    retries.reclaimCount < reclaimBudget ∧
    after.attempt.map TurnAttempt.retries =
      some ⟨retries.generation + 1, retries.reclaimCount + 1, 0⟩ ∧
    retrying after.effects = retrying before.effects ++
      [.reclaim attemptId retries.generation (retries.generation + 1) reason]

variable {before middle after : Draft}

theorem Reclaims.trans (reclaims : Reclaims before middle)
    (keeps : KeepsRetries middle after) : Reclaims before after := by
  rcases reclaims.spends with ⟨retries, attemptId, reason, present, within, next, emits⟩
  exact ⟨retries, attemptId, reason, present, within, keeps.counters.trans next,
    keeps.silent.trans emits⟩

theorem KeepsRetries.reclaims (keeps : KeepsRetries before middle)
    (reclaims : Reclaims middle after) : Reclaims before after := by
  rcases reclaims.spends with ⟨retries, attemptId, reason, present, within, next, emits⟩
  exact ⟨retries, attemptId, reason, keeps.counters.symm.trans present, within, next,
    emits.trans (by rw [keeps.silent])⟩

def KeepsOrReclaims (before after : Draft) : Prop :=
  KeepsRetries before after ∨ Reclaims before after

theorem KeepsRetries.keepsOrReclaims (keeps : KeepsRetries before middle)
    (either : KeepsOrReclaims middle after) : KeepsOrReclaims before after := by
  rcases either with kept | reclaims
  · exact .inl (keeps.trans kept)
  · exact .inr (keeps.reclaims reclaims)

theorem KeepsOrReclaims.trans (either : KeepsOrReclaims before middle)
    (keeps : KeepsRetries middle after) : KeepsOrReclaims before after := by
  rcases either with kept | reclaims
  · exact .inl (kept.trans keeps)
  · exact .inr (reclaims.trans keeps)

section Reclaiming

variable (ctx : GuardCtx) (draft : Draft)

theorem reclaims_requeue {attempt : TurnAttempt} (present : draft.attempt = some attempt)
    (within : attempt.reclaimCount < reclaimBudget) (reason : TurnReason) :
    Reclaims draft (requeue ctx draft attempt reason) := by
  have advanced : Reclaims draft ({ draft with attempt := some (nextGeneration attempt) }.emit
      (.reclaim (nextGeneration attempt).attemptId attempt.generation
        (nextGeneration attempt).generation reason)) := by
    refine ⟨attempt.retries, attempt.attemptId, reason, by simp [present], within, rfl, ?_⟩
    exact retrying_append _ _
  unfold requeue
  dsimp only
  apply advanced.trans
  apply KeepsRetries.addHold
  split
  · split
    · exact (KeepsRetries.refl _).releaseHolds.emit rfl
    · exact (KeepsRetries.refl _).releaseHolds
  · exact (KeepsRetries.refl _).releaseHolds

theorem keepsOrReclaims_reclaim (reason : TurnReason) :
    KeepsOrReclaims draft (reclaim ctx draft reason) := by
  unfold reclaim Draft.onAttempt
  split
  · exact .inl (KeepsRetries.refl draft)
  rename_i attempt present
  dsimp only
  split
  · exact .inl (keepsRetries_commit ctx draft _ _ _ _)
  split
  · exact .inl (keepsRetries_commit ctx draft _ _ _ _)
  split
  · exact .inl (keepsRetries_beginWriterStop ctx draft reason)
  split
  · exact .inl (keepsRetries_commit ctx draft _ _ _ _)
  split
  · exact .inl (keepsRetries_commit ctx draft _ _ _ _)
  · rename_i unspent
    exact .inr (reclaims_requeue ctx draft present (Int.not_le.mp unspent) reason)

theorem keepsOrReclaims_applyReclaim (reason : ReclaimReasonExpr) :
    KeepsOrReclaims draft (applyReclaim reason ctx draft) := by
  unfold applyReclaim
  split
  · exact keepsOrReclaims_reclaim ctx draft _
  · split
    · exact keepsOrReclaims_reclaim ctx draft _
    · exact .inl (KeepsRetries.refl draft)
  unfold Draft.onAttempt
  split
  · exact .inl (KeepsRetries.refl draft)
  · exact keepsOrReclaims_reclaim ctx draft _

theorem keepsOrReclaims_applyEffects {templates : List EffectTemplate}
    (keeping : ∀ template ∈ templates.dropLast, template.keepsRetries = true)
    (last : ∀ template ∈ templates.getLast?,
      template.keepsRetries = true ∨ ∃ reason, template = .reclaim reason) :
    KeepsOrReclaims draft (applyEffects ctx templates draft) := by
  cases templates using reverseRecOn with
  | nil => exact .inl (KeepsRetries.refl draft)
  | append_singleton initial final =>
    rw [dropLast_concat] at keeping
    have before := keepsRetries_applyEffects ctx draft keeping
    have split : applyEffects ctx (initial ++ [final]) draft =
        applyTemplate ctx (applyEffects ctx initial draft) final := by
      simp [applyEffects]
    rw [split]
    apply before.keepsOrReclaims
    rcases last final (by simp) with keeps | ⟨reason, rfl⟩
    · exact .inl (keepsRetries_applyTemplate ctx _ keeps)
    unfold applyTemplate
    split
    · exact .inl (KeepsRetries.refl _)
    · exact keepsOrReclaims_applyReclaim ctx _ reason

end Reclaiming

/-! ## Stopping -/

section Stopping

variable (input : ReduceInput) {attempt : TurnAttempt} (stop : WriterStop)

theorem keepsRetries_stoppingBase (present : input.attempt = some attempt) :
    KeepsRetries (initialDraft input) (stoppingBase input attempt stop) := by
  unfold stoppingBase
  dsimp only
  split
  · apply KeepsRetries.releaseHolds
    exact KeepsRetries.write present rfl
  · exact KeepsRetries.write present rfl

variable (ctx : GuardCtx) {draft : Draft}

section

variable (present : draft.attempt.map TurnAttempt.retries = some attempt.retries)
include present

theorem keepsRetries_settleUnreachableWriter (settledBy : WriterUnreachable) : KeepsRetries draft
    (settleUnreachableWriter ctx draft attempt stop settledBy) := by
  have written : ∀ settled : WriterStop,
      KeepsRetries draft { draft with attempt := some (withStop attempt settled) } :=
    fun settled => ⟨present.symm, rfl⟩
  unfold settleUnreachableWriter
  dsimp only
  split <;> exact (written _).trans (keepsRetries_commit ctx _ _ _ _ _)

theorem keepsOrReclaims_settleConfirmedStop : KeepsOrReclaims draft
    (settleConfirmedStop ctx draft attempt stop) := by
  have written : ∀ next : TurnAttempt, next.retries = attempt.retries →
      KeepsRetries draft { draft with attempt := some next } := by
    intro next same
    refine ⟨?_, rfl⟩
    rw [present]
    exact congrArg some same
  unfold settleConfirmedStop
  split
  · refine .inl ((written _ ?_).trans (keepsRetries_commit ctx _ _ _ _ _))
    unfold adoptStopSession
    split <;> rfl
  have stopped := written (withStop attempt stop) rfl
  dsimp only
  split
  · exact .inl (stopped.trans (keepsRetries_commit ctx _ _ _ _ _))
  · exact stopped.keepsOrReclaims (keepsOrReclaims_reclaim ctx _ _)

theorem keepsRetries_retryWriterStop : KeepsRetries draft (retryWriterStop ctx draft attempt stop)
    := by
  have released : KeepsRetries draft (releaseHolds draft (.reasons [.liveness])) :=
    (KeepsRetries.refl draft).releaseHolds
  have written : ∀ settled : WriterStop,
      KeepsRetries draft { releaseHolds draft (.reasons [.liveness]) with
        attempt := some (withStop attempt settled) } :=
    fun settled => ⟨present.symm, released.silent⟩
  unfold retryWriterStop
  dsimp only
  split
  · exact (written _).trans (keepsRetries_requestWriterStop ctx _)
  split
  · refine KeepsRetries.emit ?_ rfl
    exact (written _).notify
  · exact released

end

theorem keepsOrReclaims_stoppingDraft (present : input.attempt = some attempt) :
    KeepsOrReclaims (initialDraft input) (stoppingDraft input attempt stop) := by
  have base := keepsRetries_stoppingBase input stop present
  have counters : (stoppingBase input attempt stop).attempt.map TurnAttempt.retries =
      some attempt.retries := by
    rw [base.counters]
    simp [initialDraft, present]
  unfold stoppingDraft
  dsimp only
  split
  · exact .inl (base.trans (keepsRetries_settleUnreachableWriter _ _ counters _))
  split
  · exact base.keepsOrReclaims (keepsOrReclaims_settleConfirmedStop _ _ counters)
  split
  · exact .inl (base.trans (keepsRetries_retryWriterStop _ _ counters))
  split
  · exact .inl (base.trans (keepsRetries_recordReport _ _))
  · exact .inl (base.emit rfl)

end Stopping

/-! ## One step -/

inductive RetryStep (before after : Retries) (effects : List TurnEffect) : Prop
  | kept (same : after = before) (silent : retrying effects = [])
  | reclaimed {attemptId : String} {reason : TurnReason}
      (within : before.reclaimCount < reclaimBudget)
      (next : after = ⟨before.generation + 1, before.reclaimCount + 1, 0⟩)
      (emits : retrying effects =
        [.reclaim attemptId before.generation (before.generation + 1) reason])
  | redriven {attemptId : String} {messageId : Option String} {sessionId : String}
      (unspent : before.redriveCount < maxRedrivesPerGeneration)
      (next : after = { before with redriveCount := before.redriveCount + 1 })
      (emits : retrying effects =
        [.redeliver attemptId before.generation messageId sessionId])

section OneStep

variable {input : ReduceInput} {attempt : TurnAttempt} {lane : LaneClass} {rule : TransitionRule}

theorem retryStep_of_draft {after : Draft} (present : input.attempt = some attempt)
    (either : KeepsOrReclaims (initialDraft input) after) :
    ∃ next, after.attempt = some next ∧ RetryStep attempt.retries next.retries after.effects := by
  have start : (initialDraft input).attempt.map TurnAttempt.retries = some attempt.retries := by
    simp [initialDraft, present]
  rcases either with kept | reclaims
  · rcases map_eq_some_iff.mp (kept.counters.trans start) with ⟨next, isNext, same⟩
    exact ⟨next, isNext, .kept same kept.silent⟩
  rcases reclaims.spends with ⟨retries, attemptId, reason, counted, within, advanced, emits⟩
  cases start.symm.trans counted
  rcases map_eq_some_iff.mp advanced with ⟨next, isNext, same⟩
  exact ⟨next, isNext, .reclaimed within same emits⟩

def redriveEffects : List EffectTemplate := [.act .redrive, .redeliver, awaitConsumeHold]

def TransitionRule.reclaimsLast (rule : TransitionRule) : Bool :=
  rule.effects.dropLast.all EffectTemplate.keepsRetries &&
    rule.effects.getLast?.all fun template =>
      template.keepsRetries || match template with | .reclaim _ => true | _ => false

theorem redrives_or_reclaimsLast (member : rule ∈ transitions) (notOpening : rule.lane ≠ .none) :
    rule.guard = some .holdAwaitConsumeRedrive ∧ rule.effects = redriveEffects ∨
      rule.reclaimsLast = true := by
  have checked : (transitions.all fun rule => rule.lane == .none ||
      rule.guard == some .holdAwaitConsumeRedrive && rule.effects == redriveEffects ||
      rule.reclaimsLast) = true := by decide
  have property := of_transitions checked member
  simp only [or_eq_true, and_eq_true, beq_iff_eq] at property
  rcases property with (opening | redrives) | reclaims
  · exact absurd opening notOpening
  · exact .inl redrives
  · exact .inr reclaims

section

variable (present : input.attempt = some attempt)
include present

theorem retryStep_of_reclaimsLast (effectiveGeneration : Option Int)
    (reclaims : rule.reclaimsLast = true) : ∃ next, (applyRule input effectiveGeneration
      rule).attempt = some next ∧ RetryStep attempt.retries next.retries (applyRule input
      effectiveGeneration rule).effects := by
  rw [TransitionRule.reclaimsLast, and_eq_true] at reclaims
  apply retryStep_of_draft present
  refine KeepsOrReclaims.trans ?_ (keepsRetries_settleTarget _ input rule)
  apply keepsOrReclaims_applyEffects
  · exact all_eq_true.mp reclaims.1
  intro template isLast
  have property := reclaims.2
  rw [mem_def.mp isLast, all_some, or_eq_true] at property
  rcases property with keeps | isReclaim
  · exact .inl keeps
  cases template with
  | reclaim reason => exact .inr ⟨reason, rfl⟩
  | _ => cases isReclaim

theorem retryStep_of_redrives (matched : Matched input lane rule)
    (guarded : rule.guard = some .holdAwaitConsumeRedrive)
    (redrives : rule.effects = redriveEffects) : ∃ next, (applyRule input lane.effectiveGeneration
      rule).attempt = some next ∧ RetryStep attempt.retries next.retries (applyRule input
      lane.effectiveGeneration rule).effects := by
  have passed : redrivesExhausted (input.guardCtx lane.effectiveGeneration) = false := by
    rcases matched.guard with otherwise | passes
    · cases guarded.symm.trans otherwise
    rw [guarded] at passes
    simp only [guardPasses, guards, and_eq_true, not_eq_true'] at passes
    exact passes.2
  have unspent : attempt.redriveCount < maxRedrivesPerGeneration := by
    simpa [redrivesExhausted, ReduceInput.guardCtx, present] using passed
  let ctx := input.guardCtx lane.effectiveGeneration
  let redriven := { attempt with redriveCount := attempt.redriveCount + 1 }
  let redelivered : Draft := {
    attempt := some redriven
    holds := (initialDraft input).holds
    effects := [.redeliver attempt.attemptId attempt.generation attempt.messageId
      attempt.sessionId]
    committed := false }
  have split : ruleDraft input lane.effectiveGeneration rule =
      settleTarget input rule (applyTemplate ctx redelivered awaitConsumeHold) := by
    rw [ruleDraft, redrives, redriveEffects]
    simp [applyEffects, applyTemplate, actions, initialDraft, present, Draft.update,
      Draft.onAttempt, Draft.emit, redelivered, redriven, ctx]
  have keeps : KeepsRetries redelivered (ruleDraft input lane.effectiveGeneration rule) := by
    rw [split]
    exact (keepsRetries_applyTemplate ctx redelivered rfl).trans
      (keepsRetries_settleTarget _ input rule)
  rcases map_eq_some_iff.mp keeps.counters with ⟨next, isNext, same⟩
  exact ⟨next, isNext, .redriven unspent same keeps.silent⟩

theorem retryStep_reduce : ∃ next, (reduce input).attempt = some next ∧ RetryStep attempt.retries
    next.retries (reduce input).effects := by
  unfold reduce
  split
  · exact ⟨attempt, present, .kept rfl rfl⟩
  rename_i lane classified
  split
  · rename_i stopping stop found
    rcases stoppingStop_eq_some present found with ⟨rfl, _⟩
    exact retryStep_of_draft present (keepsOrReclaims_stoppingDraft input stop present)
  split
  · exact ⟨attempt, present, .kept rfl rfl⟩
  rename_i rule first
  have matched := matched_of_mem_matchingRules classified (mem_of_head? first)
  have notOpening : rule.lane ≠ .none := matched.sameLane ▸ lane_of_attempt present classified
  rcases redrives_or_reclaimsLast matched.member notOpening with ⟨guarded, redrives⟩ | reclaims
  · exact retryStep_of_redrives present matched guarded redrives
  · exact retryStep_of_reclaimsLast present _ reclaims

end

end OneStep

/-! ## Opening -/

theorem silent_applyTemplate (ctx : GuardCtx) (draft : Draft) {template : EffectTemplate}
    (quiet : template.keepsRetries = true ∨ ∃ action, template = .act action ∧
      action.opens = true) :
    retrying (applyTemplate ctx draft template).effects = retrying draft.effects := by
  rcases quiet with keeps | ⟨action, rfl, opens⟩
  · exact (keepsRetries_applyTemplate ctx draft keeps).silent
  unfold applyTemplate
  split
  · rfl
  cases action with
  | openDispatch =>
    simp only [actions, openDispatchAction]
    split <;> rfl
  | openPlain => rfl
  | _ => cases opens

theorem silent_applyEffects (ctx : GuardCtx) (draft : Draft) {templates : List EffectTemplate}
    (quiet : ∀ template ∈ templates, template.keepsRetries = true ∨
      ∃ action, template = .act action ∧ action.opens = true) :
    retrying (applyEffects ctx templates draft).effects = retrying draft.effects := by
  induction templates generalizing draft with
  | nil => rfl
  | cons template templates induction =>
    have head := silent_applyTemplate ctx draft (quiet template mem_cons_self)
    have tail := induction (applyTemplate ctx draft template) (forall_mem_cons.mp quiet).2
    exact tail.trans head

theorem quiet_of_opening {rule : TransitionRule} (member : rule ∈ transitions)
    (opening : rule.fromStates = .none) : ∀ template ∈ rule.effects, template.keepsRetries = true ∨
      ∃ action, template = .act action ∧ action.opens = true := by
  have checked : (transitions.all fun rule => rule.fromStates != .none ||
      rule.effects.all fun template => template.keepsRetries ||
        match template with | .act action => action.opens | _ => false) = true := by
    decide
  have property := of_transitions checked member
  simp only [opening, bne_self_eq_false, Bool.false_or, List.all_eq_true, Bool.or_eq_true]
    at property
  intro template isTemplate
  rcases property template isTemplate with keeps | opens
  · exact .inl keeps
  cases template with
  | act action => exact .inr ⟨action, rfl, opens⟩
  | _ => cases opens

theorem retrying_of_absent {input : ReduceInput} (absent : input.attempt = none) :
    retrying (reduce input).effects = [] := by
  unfold reduce
  split
  · rfl
  rename_i lane classified
  have passed : stoppingStop input lane.lane = none := by simp [stoppingStop, absent]
  rw [passed]
  dsimp only
  split
  · rfl
  rename_i rule first
  have matched := matched_of_mem_matchingRules classified (mem_of_head? first)
  have opening : rule.fromStates = .none := by
    simpa [absent, ruleAdmitsState] using matched.admits
  have silent := silent_applyEffects (input.guardCtx lane.effectiveGeneration)
    (initialDraft input) (quiet_of_opening matched.member opening)
  exact (keepsRetries_settleTarget _ input rule).silent.trans silent

/-! ## Runs -/

def TurnEffect.isReclaim : TurnEffect → Bool
  | .reclaim .. => true
  | _ => false

def TurnEffect.isRedeliver : TurnEffect → Bool
  | .redeliver .. => true
  | _ => false

def TurnEffect.redelivers (generation : Int) : TurnEffect → Bool
  | .redeliver _ redelivered _ _ => redelivered == generation
  | _ => false

def runEffects (state : LedgerState) (inputs : List LedgerInput) : List TurnEffect :=
  (ledger.stepsFrom state inputs).flatMap fun step => step.output.effects

theorem runEffects_cons (state : LedgerState) (input : LedgerInput) (inputs : List LedgerInput) :
    runEffects state (input :: inputs) =
      (ledger.respond state input).effects ++ runEffects (ledger.next state input) inputs :=
  flatMap_cons

theorem countP_retrying (counted : TurnEffect → Bool)
    (retries : ∀ effect, counted effect = true → effect.isRetry = true)
    (effects : List TurnEffect) : (retrying effects).countP counted = effects.countP counted := by
  rw [retrying, countP_filter]
  congr 1
  funext effect
  cases isCounted : counted effect with
  | false => rfl
  | true => exact retries effect isCounted

/-- How a run from the counters `start` spent its retries. -/
structure Spent (start final : Retries) (effects : List TurnEffect) : Prop where
  generation : final.generation - final.reclaimCount = start.generation - start.reclaimCount
  within : start.reclaimCount ≤ reclaimBudget → final.reclaimCount ≤ reclaimBudget
  reclaims : (effects.countP TurnEffect.isReclaim : Int) = final.reclaimCount - start.reclaimCount
  redelivers : ∀ generation, (effects.countP (TurnEffect.redelivers generation) : Int) ≤
    if generation < start.generation then 0
    else if generation = start.generation then max 0 (maxRedrivesPerGeneration - start.redriveCount)
    else maxRedrivesPerGeneration
  total : (effects.countP TurnEffect.isRedeliver : Int) ≤
    (final.reclaimCount - start.reclaimCount) + max 0
    (maxRedrivesPerGeneration - start.redriveCount)

theorem Spent.refl (retries : Retries) : Spent retries retries [] where
  generation := rfl
  within := id
  reclaims := by simp
  redelivers generation := by
    rw [countP_nil, maxRedrivesPerGeneration]
    split_ifs <;> omega
  total := by
    rw [countP_nil]
    omega

theorem Spent.cons {before middle final : Retries} {effects rest : List TurnEffect}
    (step : RetryStep before middle effects) (spent : Spent middle final rest) :
    Spent before final (effects ++ rest) := by
  have generation := spent.generation
  have within := spent.within
  have reclaims := spent.reclaims
  have redelivers := spent.redelivers
  have total := spent.total
  have countReclaims := countP_retrying TurnEffect.isReclaim
    (fun effect => by cases effect <;> simp [TurnEffect.isReclaim, TurnEffect.isRetry]) effects
  have countTotal := countP_retrying TurnEffect.isRedeliver
    (fun effect => by cases effect <;> simp [TurnEffect.isRedeliver, TurnEffect.isRetry]) effects
  have countAt : ∀ generation, (retrying effects).countP (TurnEffect.redelivers generation) =
      effects.countP (TurnEffect.redelivers generation) := fun generation =>
    countP_retrying _
      (fun effect => by cases effect <;> simp [TurnEffect.redelivers, TurnEffect.isRetry]) effects
  simp only [maxRedrivesPerGeneration] at redelivers total
  cases step with
  | kept same silent =>
    subst same
    simp only [silent, countP_nil] at countReclaims countTotal countAt
    refine ⟨generation, within, ?_, ?_, ?_⟩
    · rw [countP_append, ← countReclaims]
      omega
    · intro generation
      rw [countP_append, ← countAt, Nat.zero_add]
      exact redelivers generation
    · rw [countP_append, ← countTotal, Nat.zero_add]
      exact total
  | reclaimed unspent next emits =>
    subst next
    simp only [emits, countP_singleton, TurnEffect.isReclaim, TurnEffect.isRedeliver,
      TurnEffect.redelivers] at countReclaims countTotal countAt
    dsimp only at generation within reclaims redelivers total
    refine ⟨by omega, by omega, ?_, ?_, ?_⟩
    · rw [countP_append, ← countReclaims]
      simp only [↓reduceIte]
      omega
    · intro generation
      have later := redelivers generation
      rw [countP_append, ← countAt, maxRedrivesPerGeneration]
      simp only [false_eq_true, ↓reduceIte]
      split_ifs at later ⊢ <;> omega
    rw [countP_append, ← countTotal, maxRedrivesPerGeneration]
    simp only [false_eq_true, ↓reduceIte]
    omega
  | redriven unspent next emits =>
    subst next
    simp only [emits, countP_singleton, TurnEffect.isReclaim, TurnEffect.isRedeliver,
      TurnEffect.redelivers] at countReclaims countTotal countAt
    dsimp only at generation within reclaims redelivers total
    rw [maxRedrivesPerGeneration] at unspent
    refine ⟨by omega, by omega, ?_, ?_, ?_⟩
    · rw [countP_append, ← countReclaims]
      simp only [false_eq_true, ↓reduceIte]
      omega
    · intro generation
      have later := redelivers generation
      rw [countP_append, ← countAt, maxRedrivesPerGeneration]
      simp only [beq_iff_eq]
      split_ifs at later ⊢ <;> omega
    rw [countP_append, ← countTotal, maxRedrivesPerGeneration]
    simp only [↓reduceIte]
    omega

theorem spent_runFrom (inputs : List LedgerInput) {state : LedgerState} {attempt : TurnAttempt}
    (present : state.attempt = some attempt) :
    ∃ final, (ledger.runFrom state inputs).attempt = some final ∧
      Spent attempt.retries final.retries (runEffects state inputs) := by
  induction inputs generalizing state attempt with
  | nil => exact ⟨attempt, present, Spent.refl _⟩
  | cons input inputs induction =>
    have inputPresent : (input.reduceInput state).attempt = some attempt := present
    rcases retryStep_reduce inputPresent with ⟨next, isNext, step⟩
    have nextPresent : (ledger.next state input).attempt = some next := isNext
    rcases induction nextPresent with ⟨final, isFinal, spent⟩
    refine ⟨final, isFinal, ?_⟩
    rw [runEffects_cons]
    exact spent.cons step

theorem retries_of_openingStep {input : ReduceInput} {result : ReduceResult}
    {opened : TurnAttempt} (step : OpeningStep input result)
    (opens : result.attempt = some opened) : opened.reclaimCount = 0 ∧ opened.redriveCount = 0 := by
  cases step with
  | absent sameAttempt => cases sameAttempt.symm.trans opens
  | dispatched _ isOpened | plain isOpened =>
    cases isOpened.symm.trans opens
    exact ⟨rfl, rfl⟩

/-- In every run from an opening the generation counts the reclaims, the reclaims
stay within the budget, no generation is redelivered twice, and so the task is
handed on only boundedly often. -/
theorem retries_of_opening (earlier : List LedgerInput) (opening : LedgerInput)
    (later : List LedgerInput) {opened : TurnAttempt} (absent : (ledger.run earlier).attempt = none)
    (opens : (ledger.run (earlier ++ [opening])).attempt = some opened) :
    ∃ attempt, (ledger.run (earlier ++ opening :: later)).attempt = some attempt ∧
      attempt.generation = opened.generation + attempt.reclaimCount ∧
      0 ≤ attempt.reclaimCount ∧ attempt.reclaimCount ≤ reclaimBudget ∧
      (∀ generation, (runEffects (ledger.run earlier) (opening :: later)).countP
        (TurnEffect.redelivers generation) ≤ 1) ∧
      ((runEffects (ledger.run earlier) (opening :: later)).countP
        TurnEffect.isReclaim : Int) = attempt.reclaimCount ∧
      ((runEffects (ledger.run earlier) (opening :: later)).countP
        TurnEffect.isRedeliver : Int) ≤ reclaimBudget + 1 := by
  have consistent := consistent_of_reachable (Machine.reachable_run earlier)
  rw [Machine.run_append, Machine.runFrom] at opens ⊢
  rw [Machine.runFrom] at opens
  have fresh := retries_of_openingStep (consistent.openingStep absent opening) opens
  have silent : retrying (ledger.respond (ledger.run earlier) opening).effects = [] :=
    retrying_of_absent absent
  rcases spent_runFrom later opens with ⟨attempt, present, spent⟩
  have whole := spent.cons (.kept rfl silent)
  rw [← runEffects_cons] at whole
  have generation := whole.generation
  have within := whole.within
  have reclaims := whole.reclaims
  have redelivers := whole.redelivers
  have total := whole.total
  simp only [TurnAttempt.retries, fresh.1, fresh.2, maxRedrivesPerGeneration, reclaimBudget]
    at generation within reclaims redelivers total
  refine ⟨attempt, present, by omega, by omega, within (by decide), ?_, by omega, ?_⟩
  · intro generation
    have bound := redelivers generation
    split_ifs at bound <;> omega
  have within := within (by decide)
  rw [reclaimBudget]
  omega

def sampleUnconsumed : List LedgerInput :=
  [sampleInput 1 .dispatch (.delivered "message" .delivered .local),
    sampleInput 90001 .scheduler (.holdExpired (holdId "attempt" .awaitConsume) .awaitConsume)]

/-- Its dispatch is repeated once. -/
theorem retries_of_opening_unconsumed :
    ∃ attempt, (ledger.run (sampleOpening :: sampleUnconsumed)).attempt = some attempt ∧
      attempt.reclaimCount ≤ reclaimBudget ∧
      (runEffects (ledger.run []) (sampleOpening :: sampleUnconsumed)).countP
        (TurnEffect.redelivers 0) = 1 ∧
      (runEffects (ledger.run []) (sampleOpening :: sampleUnconsumed)).countP
        (TurnEffect.redelivers 0) ≤ 1 := by
  have opened : (ledger.run ([] ++ [sampleOpening])).attempt.map isMeshScope = some true := by
    decide
  rcases Option.map_eq_some_iff.mp opened with ⟨first, opens, _⟩
  rcases retries_of_opening [] sampleOpening sampleUnconsumed rfl opens with
    ⟨attempt, present, _, _, within, once, _⟩
  exact ⟨attempt, present, within, by decide, once 0⟩

end Adhdev.TurnLedger
