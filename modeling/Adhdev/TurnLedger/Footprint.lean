import Adhdev.TurnLedger.Ledger

/-! # What the templates of a rule can change

A rule runs its templates one after another on a draft. Three of them settle the
attempt (commit, reclaim, adoption of the previous generation) and two open it.
All the others continue it: they keep its identity, its generation and its
terminal, and emit no effect that ends or requeues the task. Which of the
remaining fields a template may write is its footprint. -/

namespace Adhdev.TurnLedger

open MeshShared

/-! ## Settling effects -/

/-- Effects that end the attempt, requeue it or write its task's queue row. -/
def TurnEffect.isSettling : TurnEffect → Bool
  | .commit _ | .reclaim .. | .queueStatus .. | .taskTerminal .. => true
  | _ => false

def settling (effects : List TurnEffect) : List TurnEffect :=
  effects.filter TurnEffect.isSettling

@[simp] theorem settling_nil : settling [] = [] := rfl

@[simp] theorem settling_append (left right : List TurnEffect) :
    settling (left ++ right) = settling left ++ settling right :=
  List.filter_append ..

@[simp] theorem settling_singleton (effect : TurnEffect) :
    settling [effect] = if effect.isSettling then [effect] else [] := by
  cases effect <;> rfl

theorem mem_settling {effect : TurnEffect} {effects : List TurnEffect} :
    effect ∈ settling effects ↔ effect ∈ effects ∧ effect.isSettling = true :=
  List.mem_filter

/-! ## The draft operations -/

namespace Draft

@[simp] theorem attempt_emit (draft : Draft) (effect : TurnEffect) :
    (draft.emit effect).attempt = draft.attempt := rfl

@[simp] theorem holds_emit (draft : Draft) (effect : TurnEffect) :
    (draft.emit effect).holds = draft.holds := rfl

@[simp] theorem committed_emit (draft : Draft) (effect : TurnEffect) :
    (draft.emit effect).committed = draft.committed := rfl

@[simp] theorem settling_emit (draft : Draft) (effect : TurnEffect) :
    settling (draft.emit effect).effects =
      settling draft.effects ++ if effect.isSettling then [effect] else [] := by
  simp [emit]

end Draft

section AddHold

variable (draft : Draft) (hold : TurnHold)

@[simp] theorem attempt_addHold : (addHold draft hold).attempt = draft.attempt := rfl

@[simp] theorem holds_addHold : (addHold draft hold).holds = draft.holds.set hold := rfl

@[simp] theorem committed_addHold : (addHold draft hold).committed = draft.committed := rfl

@[simp] theorem settling_addHold :
    settling (addHold draft hold).effects = settling draft.effects := by
  simp [addHold, TurnEffect.isSettling]

end AddHold

section ReleaseHolds

variable (draft : Draft) (reasons : ReleasedReasons) (keep : List HoldReason)

theorem releaseHolds_eq : ∃ extra, settling extra = [] ∧ releaseHolds draft reasons keep =
        { draft with
          holds := draft.holds.keepWhere fun hold => !isReleased reasons keep hold.reason
          effects := draft.effects ++ extra } := by
  simp only [releaseHolds, Draft.onAttempt]
  split
  · exact ⟨[], rfl, by simp⟩
  split
  · exact ⟨[], rfl, by simp⟩
  · exact ⟨[.releaseHold _ _], rfl, rfl⟩

@[simp] theorem attempt_releaseHolds :
    (releaseHolds draft reasons keep).attempt = draft.attempt := by
  rcases releaseHolds_eq draft reasons keep with ⟨extra, _, equal⟩
  rw [equal]

@[simp] theorem committed_releaseHolds :
    (releaseHolds draft reasons keep).committed = draft.committed := by
  rcases releaseHolds_eq draft reasons keep with ⟨extra, _, equal⟩
  rw [equal]

@[simp] theorem settling_releaseHolds :
    settling (releaseHolds draft reasons keep).effects = settling draft.effects := by
  rcases releaseHolds_eq draft reasons keep with ⟨extra, mild, equal⟩
  simp [equal, mild]

@[simp] theorem holds_releaseHolds : (releaseHolds draft reasons keep).holds =
      draft.holds.keepWhere fun hold => !isReleased reasons keep hold.reason := by
  rcases releaseHolds_eq draft reasons keep with ⟨extra, _, equal⟩
  rw [equal]

theorem entries_keepWhere_all (holds : HoldMap) :
    (holds.keepWhere fun hold => !isReleased .all [] hold.reason).entries = [] :=
  List.filter_eq_nil_iff.mpr fun hold _ => by simp [isReleased]

end ReleaseHolds

section Notify

variable (draft : Draft) (kind : NotifyKind) (options : NotifyOptions)

theorem notify_eq : ∃ extra, settling extra = [] ∧
      notify draft kind options = { draft with effects := draft.effects ++ extra } := by
  simp only [notify, Draft.onAttempt]
  split
  · exact ⟨[], rfl, by simp⟩
  split
  · exact ⟨[_], rfl, rfl⟩
  · exact ⟨[], rfl, by simp⟩

@[simp] theorem attempt_notify : (notify draft kind options).attempt = draft.attempt := by
  rcases notify_eq draft kind options with ⟨extra, _, equal⟩
  rw [equal]

@[simp] theorem holds_notify : (notify draft kind options).holds = draft.holds := by
  rcases notify_eq draft kind options with ⟨extra, _, equal⟩
  rw [equal]

@[simp] theorem committed_notify : (notify draft kind options).committed = draft.committed := by
  rcases notify_eq draft kind options with ⟨extra, _, equal⟩
  rw [equal]

@[simp] theorem settling_notify :
    settling (notify draft kind options).effects = settling draft.effects := by
  rcases notify_eq draft kind options with ⟨extra, mild, equal⟩
  simp [equal, mild]

end Notify

/-! ## Footprints -/

structure AttemptCore where
  attemptId : String
  scope : TurnScope
  meshId : Option String
  taskId : Option String
  generation : Int
  prevGeneration : Option PrevGeneration
  reclaimCount : Int
  acceptedAt : Int
  terminal : Option TurnTerminal
  writerStop : Option WriterStop

def TurnAttempt.core (attempt : TurnAttempt) : AttemptCore where
  attemptId := attempt.attemptId
  scope := attempt.scope
  meshId := attempt.meshId
  taskId := attempt.taskId
  generation := attempt.generation
  prevGeneration := attempt.prevGeneration
  reclaimCount := attempt.reclaimCount
  acceptedAt := attempt.acceptedAt
  terminal := attempt.terminal
  writerStop := attempt.data.writerStop

/-- The fields of interest outside the core that a template may write. -/
structure Footprint where
  state : Bool := false
  report : Bool := false
  suspension : Bool := false

namespace Footprint

def none : Footprint := {}

def union (left right : Footprint) : Footprint where
  state := left.state || right.state
  report := left.report || right.report
  suspension := left.suspension || right.suspension

end Footprint

/-- `after` differs from `before` only inside the footprint. The one state a
continuing template writes by itself is `suspended`; a report or a suspension it
writes is of the current generation, unless it was there before. -/
structure Within (footprint : Footprint) (before after : TurnAttempt) : Prop where
  core : after.core = before.core
  state : after.state = before.state ∨ footprint.state = true ∧ after.state = .suspended
  report : after.data.report = before.data.report ∨
    footprint.report = true ∧ after.data.report.map (·.generation) = some before.generation
  suspension : after.data.providerSuspension = before.data.providerSuspension ∨
    footprint.suspension = true ∧
      (after.data.providerSuspension.map (·.generation) =
          before.data.providerSuspension.map (·.generation) ∨
        after.data.providerSuspension.map (·.generation) = some before.generation)

namespace Within

variable {footprint : Footprint} {before after : TurnAttempt}

theorem refl (footprint : Footprint) (attempt : TurnAttempt) : Within footprint attempt attempt :=
  ⟨rfl, .inl rfl, .inl rfl, .inl rfl⟩

theorem trans {left right : Footprint} {middle : TurnAttempt} (first : Within left before middle)
    (second : Within right middle after) : Within (left.union right) before after where
  core := second.core.trans first.core
  state := by
    rcases second.state with same | ⟨touched, suspended⟩
    · rcases first.state with first | ⟨touched, suspended⟩
      · exact .inl (same.trans first)
      · exact .inr ⟨by simp [Footprint.union, touched], same.trans suspended⟩
    · exact .inr ⟨by simp [Footprint.union, touched], suspended⟩
  report := by
    have generation : middle.generation = before.generation :=
      congrArg AttemptCore.generation first.core
    rcases second.report with same | ⟨touched, current⟩
    · rcases first.report with first | ⟨touched, current⟩
      · exact .inl (same.trans first)
      · exact .inr ⟨by simp [Footprint.union, touched], same ▸ current⟩
    · exact .inr ⟨by simp [Footprint.union, touched], generation ▸ current⟩
  suspension := by
    have generation : middle.generation = before.generation :=
      congrArg AttemptCore.generation first.core
    rcases second.suspension with same | ⟨touched, kept | current⟩
    · rw [same]
      rcases first.suspension with first | ⟨touched, either⟩
      · exact .inl first
      · exact .inr ⟨by simp [Footprint.union, touched], either⟩
    · refine .inr ⟨by simp [Footprint.union, touched], ?_⟩
      rw [kept]
      rcases first.suspension with first | ⟨_, either⟩
      · exact .inl (congrArg _ first)
      · exact either
    · exact .inr ⟨by simp [Footprint.union, touched], .inr (generation ▸ current)⟩

theorem weaken (within : Within .none before after) (footprint : Footprint) :
    Within footprint before after where
  core := within.core
  state := by
    rcases within.state with same | ⟨touched, _⟩
    · exact .inl same
    · cases touched
  report := by
    rcases within.report with same | ⟨touched, _⟩
    · exact .inl same
    · cases touched
  suspension := by
    rcases within.suspension with same | ⟨touched, _⟩
    · exact .inl same
    · cases touched

section

variable (within : Within footprint before after)
include within

theorem attemptId : after.attemptId = before.attemptId :=
  congrArg AttemptCore.attemptId within.core

theorem scope : after.scope = before.scope :=
  congrArg AttemptCore.scope within.core

theorem generation : after.generation = before.generation :=
  congrArg AttemptCore.generation within.core

theorem prevGeneration : after.prevGeneration = before.prevGeneration :=
  congrArg AttemptCore.prevGeneration within.core

theorem terminal : after.terminal = before.terminal :=
  congrArg AttemptCore.terminal within.core

theorem writerStop : after.data.writerStop = before.data.writerStop :=
  congrArg AttemptCore.writerStop within.core

theorem isMeshScope : isMeshScope after = isMeshScope before := by
  simp [TurnLedger.isMeshScope, within.scope]

theorem state_eq (untouched : footprint.state = false) : after.state = before.state := by
  rcases within.state with same | ⟨touched, _⟩
  · exact same
  · rw [untouched] at touched
    cases touched

theorem report_eq (untouched : footprint.report = false) : after.data.report = before.data.report
    := by
  rcases within.report with same | ⟨touched, _⟩
  · exact same
  · rw [untouched] at touched
    cases touched

end

end Within

/-! ## Continuing a draft -/

/-- `after` continues `before`: same attempt within the footprint, nothing
settled. -/
structure Continues (footprint : Footprint) (before after : Draft) : Prop where
  attempt : ∀ {attempt}, before.attempt = some attempt →
    ∃ next, after.attempt = some next ∧ Within footprint attempt next
  committed : after.committed = before.committed
  settling : settling after.effects = settling before.effects

namespace Continues

variable {footprint : Footprint} {before after : Draft}

theorem refl (footprint : Footprint) (draft : Draft) : Continues footprint draft draft where
  attempt {attempt} present := ⟨attempt, present, Within.refl footprint attempt⟩
  committed := rfl
  settling := rfl

theorem trans {left right : Footprint} {middle : Draft} (first : Continues left before middle)
    (second : Continues right middle after) : Continues (left.union right) before after where
  attempt := by
    intro attempt present
    rcases first.attempt present with ⟨next, nextPresent, within⟩
    rcases second.attempt nextPresent with ⟨final, finalPresent, withinNext⟩
    exact ⟨final, finalPresent, within.trans withinNext⟩
  committed := second.committed.trans first.committed
  settling := second.settling.trans first.settling

theorem weaken (continues : Continues .none before after) (footprint : Footprint) :
    Continues footprint before after where
  attempt := by
    intro attempt present
    rcases continues.attempt present with ⟨next, nextPresent, within⟩
    exact ⟨next, nextPresent, within.weaken footprint⟩
  committed := continues.committed
  settling := continues.settling

theorem emit {effect : TurnEffect} (mild : effect.isSettling = false)
    (continues : Continues footprint before after) :
    Continues footprint before (after.emit effect) where
  attempt := continues.attempt
  committed := continues.committed
  settling := by simp [mild, continues.settling]

section

variable (continues : Continues footprint before after)
include continues

theorem addHold {hold : TurnHold} : Continues footprint before (addHold after hold) where
  attempt := continues.attempt
  committed := continues.committed
  settling := by simp [continues.settling]

theorem releaseHolds {reasons : ReleasedReasons} {keep : List HoldReason} : Continues footprint
    before (releaseHolds after reasons keep) where
  attempt := by
    intro attempt present
    simpa using continues.attempt present
  committed := by simp [continues.committed]
  settling := by simp [continues.settling]

theorem notify {kind : NotifyKind} {options : NotifyOptions} : Continues footprint before
    (notify after kind options) where
  attempt := by
    intro attempt present
    simpa using continues.attempt present
  committed := by simp [continues.committed]
  settling := by simp [continues.settling]

end

theorem write {attempt next : TurnAttempt} (present : before.attempt = some attempt)
    (within : Within footprint attempt next) :
    Continues footprint before { before with attempt := some next } where
  attempt := by
    intro found foundPresent
    rw [present] at foundPresent
    cases foundPresent
    exact ⟨next, rfl, within⟩
  committed := rfl
  settling := rfl

theorem update {change : TurnAttempt → TurnAttempt}
    (within : ∀ attempt, Within footprint attempt (change attempt)) :
    Continues footprint before (before.update change) where
  attempt := by
    intro attempt present
    exact ⟨change attempt, by simp [Draft.update, present], within attempt⟩
  committed := rfl
  settling := rfl

theorem onAttempt {body : TurnAttempt → Draft}
    (continues : ∀ attempt, before.attempt = some attempt →
      Continues footprint before (body attempt)) :
    Continues footprint before (before.onAttempt body) := by
  unfold Draft.onAttempt
  cases present : before.attempt with
  | none => exact refl footprint before
  | some attempt => exact continues attempt present

end Continues

/-! ## Actions -/

def ActionId.footprint : ActionId → Footprint
  | .applyHeldSuspension => { state := true, suspension := true }
  | .suspend | .resume | .resumeByActivity => { suspension := true }
  | .recordReport => { report := true }
  | _ => .none

/-- Only opening an attempt replaces it. -/
def ActionId.opens : ActionId → Bool
  | .openDispatch | .openPlain => true
  | _ => false

def ActionId.writesHolds : ActionId → Bool
  | .applyHeldSuspension | .deferUnconfirmedEnd | .openReportCorrection => true
  | _ => false

section Actions

variable (ctx : GuardCtx) (draft : Draft)

theorem within_bindLivenessSession (sessionId : String) (rebound : Bool) (attempt : TurnAttempt) :
    Within .none attempt (bindLivenessSession ctx sessionId rebound attempt) := by
  unfold bindLivenessSession
  split <;> exact ⟨rfl, .inl rfl, .inl rfl, .inl rfl⟩

theorem within_resumeSuspension (evidence : TurnEvidence) (onlyUnresolved : Bool)
    (attempt : TurnAttempt) : Within { suspension := true } attempt
      (resumeSuspension evidence onlyUnresolved attempt) where
  core := rfl
  state := .inl rfl
  report := .inl rfl
  suspension := by
    refine .inr ⟨rfl, .inl ?_⟩
    cases recorded : attempt.data.providerSuspension with
    | none => simp [resumeSuspension, recorded]
    | some suspension =>
      simp only [resumeSuspension, recorded, Option.map_some]
      split <;> rfl

theorem continues_applyHeldSuspension :
    Continues ActionId.applyHeldSuspension.footprint draft (applyHeldSuspension draft) := by
  apply Continues.onAttempt
  intro attempt present
  split
  · exact Continues.refl _ draft
  apply Continues.notify
  apply Continues.emit rfl
  apply Continues.releaseHolds
  exact Continues.write present ⟨rfl, .inr ⟨rfl, rfl⟩, .inl rfl, .inr ⟨rfl, .inr rfl⟩⟩

theorem continues_deferUnconfirmedEnd : Continues .none draft (deferUnconfirmedEnd ctx draft) := by
  apply Continues.onAttempt
  intro attempt present
  split
  · exact Continues.refl _ draft
  · apply Continues.addHold
    exact Continues.write present ⟨rfl, .inl rfl, .inl rfl, .inl rfl⟩

theorem continues_openReportCorrection :
    Continues .none draft (openReportCorrection ctx draft) := by
  apply Continues.onAttempt
  intro attempt present
  split
  · exact Continues.refl _ draft
  · apply Continues.addHold
    exact Continues.write present ⟨rfl, .inl rfl, .inl rfl, .inl rfl⟩

/-- The attempt is rewritten where it stands, if at all; only a redrive counts one. -/
def Rewrites (action : ActionId) (before after : Draft) : Prop :=
  ∃ change : TurnAttempt → TurnAttempt, after = before.update change ∧
    ∀ attempt, Within action.footprint attempt (change attempt) ∧
      (action ≠ .redrive → (change attempt).redriveCount = attempt.redriveCount)

variable {action : ActionId}

theorem Rewrites.refl : Rewrites action draft draft :=
  ⟨id, by rw [Draft.update, Option.map_id, id], fun _ => ⟨Within.refl _ _, fun _ => rfl⟩⟩

theorem Rewrites.update {change : TurnAttempt → TurnAttempt}
    (within : ∀ attempt, Within action.footprint attempt (change attempt))
    (counts : ∀ attempt, (change attempt).redriveCount = attempt.redriveCount) :
    Rewrites action draft (draft.update change) :=
  ⟨change, rfl, fun attempt => ⟨within attempt, fun _ => counts attempt⟩⟩

theorem actions_rewrites (continuing : action.opens = false)
    (untouched : action.writesHolds = false) :
      Rewrites action draft (actions action ctx draft) := by
  have counts (sessionId : String) (rebound : Bool) (attempt : TurnAttempt) :
      (bindLivenessSession ctx sessionId rebound attempt).redriveCount = attempt.redriveCount := by
    unfold bindLivenessSession
    split <;> rfl
  have bound := within_bindLivenessSession ctx ctx.evidence.sessionId false
  cases action with
  | openDispatch | openPlain => cases continuing
  | applyHeldSuspension | deferUnconfirmedEnd | openReportCorrection => cases untouched
  | redrive =>
    exact ⟨_, rfl, fun _ => ⟨⟨rfl, .inl rfl, .inl rfl, .inl rfl⟩, fun other => absurd rfl other⟩⟩
  | rebindDispatch | markDelivered =>
    simp only [actions, rebindDispatch, markDelivered]
    split
    · refine ⟨_, rfl, fun attempt => ?_⟩
      have within := bound attempt
      have counted := counts ctx.evidence.sessionId false attempt
      generalize bindLivenessSession ctx ctx.evidence.sessionId false attempt =
        next at within counted ⊢
      exact ⟨⟨within.core, within.state, within.report, within.suspension⟩, fun _ => counted⟩
    · exact .refl draft
  | rebindToHolder | rebind =>
    simp only [actions, rebindToHolder, rebind]
    split
    · exact .update draft (within_bindLivenessSession ctx _ _) (counts _ _)
    · exact .refl draft
  | suspend =>
    simp only [actions, suspend]
    split
    · exact .update draft (fun _ => ⟨rfl, .inl rfl, .inl rfl, .inr ⟨rfl, .inr rfl⟩⟩) fun _ => rfl
    · exact .refl draft
  | recordReport =>
    simp only [actions, recordReport]
    split
    · exact .update draft (fun _ => ⟨rfl, .inl rfl, .inr ⟨rfl, rfl⟩, .inl rfl⟩) fun _ => rfl
    · exact .refl draft
  | resume => exact .update draft (within_resumeSuspension ctx.evidence false) fun _ => rfl
  | resumeByActivity =>
    refine .update draft (fun attempt => ?_) fun _ => rfl
    have resumed := within_resumeSuspension ctx.evidence true attempt
    exact ⟨resumed.core, resumed.state, resumed.report, resumed.suspension⟩
  | markNotified =>
    simp only [actions, markNotified]
    split
    · refine .update draft (fun _ => ?_) fun _ => ?_ <;> split
      all_goals first | rfl | exact ⟨rfl, .inl rfl, .inl rfl, .inl rfl⟩
    · exact .refl draft
  | workerAbsent =>
    simp only [actions, workerAbsent]
    split
    · split
      · exact .update draft (fun _ => ⟨rfl, .inl rfl, .inl rfl, .inl rfl⟩) fun _ => rfl
      · exact .refl draft
    · exact .refl draft
  | activity =>
    simp only [actions, activity]
    split <;> exact .update draft (fun _ => ⟨rfl, .inl rfl, .inl rfl, .inl rfl⟩) fun _ => rfl
  | livenessUnknown | livenessFailure | storeGit =>
    simp only [actions, livenessUnknown, livenessFailure, storeGit]
    split
    · exact .update draft (fun _ => ⟨rfl, .inl rfl, .inl rfl, .inl rfl⟩) fun _ => rfl
    · exact .refl draft
  | consume | weakCandidate | awaitReport | clearWeak | falseIdle | hollow
  | stampNoProgressNotice =>
    exact .update draft (fun _ => ⟨rfl, .inl rfl, .inl rfl, .inl rfl⟩) fun _ => rfl

theorem continues_actions (continuing : action.opens = false) :
    Continues action.footprint draft (actions action ctx draft) := by
  cases writes : action.writesHolds with
  | false =>
    obtain ⟨change, same, rewrites⟩ := actions_rewrites ctx draft continuing writes
    rw [same]
    exact Continues.update fun attempt => (rewrites attempt).1
  | true =>
    cases action with
    | applyHeldSuspension => exact continues_applyHeldSuspension draft
    | deferUnconfirmedEnd => exact continues_deferUnconfirmedEnd ctx draft
    | openReportCorrection => exact continues_openReportCorrection ctx draft
    | _ => cases writes

end Actions

/-! ## Templates -/

namespace EffectTemplate

/-- Neither opens nor settles the attempt. -/
def isContinuing : EffectTemplate → Bool
  | .act action => !action.opens
  | .commit _ | .reclaim _ | .adoptPrevGeneration => false
  | _ => true

def footprint : EffectTemplate → Footprint
  | .act action => action.footprint
  | .notify template => { suspension := template.due == some .suspensionReminderDue }
  | _ => .none

end EffectTemplate

def effectsFootprint (templates : List EffectTemplate) : Footprint :=
  templates.foldr (fun template rest => template.footprint.union rest) .none

section Templates

variable (ctx : GuardCtx) (draft : Draft)

theorem continues_sendNotice (template : NotifyTemplate) (footprint : Footprint) :
    Continues footprint draft (sendNotice template ctx draft) := by
  apply Continues.onAttempt
  intro attempt present
  exact (Continues.refl footprint draft).notify

theorem continues_remindSuspension {attempt : TurnAttempt}
    (present : draft.attempt = some attempt) :
    Continues { suspension := true } draft (remindSuspension ctx draft attempt) := by
  unfold remindSuspension
  split
  · rename_i suspension modal recorded _
    dsimp only
    split
    · exact (Continues.refl _ draft).emit rfl
    apply Continues.notify
    exact Continues.write present
      ⟨rfl, .inl rfl, .inl rfl, .inr ⟨rfl, .inl (by rw [recorded]; rfl)⟩⟩
  · exact Continues.refl _ draft

theorem continues_noticeStall (template : NotifyTemplate) (attempt : TurnAttempt) :
    Continues .none draft (noticeStall template ctx draft attempt) := by
  unfold noticeStall
  split
  · exact (Continues.refl _ draft).emit rfl
  split
  · split
    · exact (Continues.refl _ draft).emit rfl
    have stamped : Continues .none draft (stampNoProgressNotice ctx draft) :=
      Continues.update fun attempt => ⟨rfl, .inl rfl, .inl rfl, .inl rfl⟩
    exact stamped.trans (continues_sendNotice ctx _ template .none)
  · exact Continues.refl _ draft

theorem continues_applyNotify (template : NotifyTemplate) :
    Continues (EffectTemplate.notify template).footprint draft
      (applyNotify template ctx draft) := by
  apply Continues.onAttempt
  intro attempt present
  cases due : template.due with
  | none => exact continues_sendNotice ctx draft template _
  | some condition =>
    cases condition with
    | candidateOnce =>
      dsimp only
      split
      · exact Continues.refl _ draft
      have stamped : Continues .none draft (draft.update fun attempt =>
          { attempt with candidateNotifiedGeneration := some attempt.generation }) :=
        Continues.update fun attempt => ⟨rfl, .inl rfl, .inl rfl, .inl rfl⟩
      have sent : Continues .none draft _ :=
        stamped.trans (continues_sendNotice ctx _ template .none)
      exact sent.weaken _
    | suspensionReminderDue =>
      have reminded := continues_remindSuspension ctx draft present
      simpa [EffectTemplate.footprint, due] using reminded
    | noProgressDue => exact (continues_noticeStall ctx draft template attempt).weaken _

theorem continues_applyHold (template : HoldTemplate) :
    Continues .none draft (applyHold template ctx draft) := by
  apply Continues.onAttempt
  intro attempt present
  split
  · exact Continues.refl _ draft
  split
  · exact Continues.refl _ draft
  · exact (Continues.refl _ draft).addHold

theorem continues_applyRelease (reasons : ReleaseExpr) :
    Continues .none draft (applyRelease reasons ctx draft) := by
  unfold applyRelease
  split
  · exact (Continues.refl _ draft).releaseHolds
  · exact (Continues.refl _ draft).releaseHolds
  split
  · exact (Continues.refl _ draft).releaseHolds
  · exact Continues.refl _ draft

theorem continues_applyCancelDispatch (target : CancelTarget) (notIntentionalCleanup : Bool) :
    Continues .none draft (applyCancelDispatch target notIntentionalCleanup ctx draft) := by
  apply Continues.onAttempt
  intro attempt present
  dsimp only
  split
  · exact Continues.refl _ draft
  split
  · exact Continues.refl _ draft
  · split <;> exact (Continues.refl _ draft).emit rfl

theorem continues_applyTemplate {template : EffectTemplate}
    (continuing : template.isContinuing = true) :
    Continues template.footprint draft (applyTemplate ctx draft template) := by
  have emitted : ∀ body : TurnAttempt → TurnEffect,
      (∀ attempt, (body attempt).isSettling = false) →
        Continues .none draft (draft.onAttempt fun attempt => draft.emit (body attempt)) := by
    intro body mild
    apply Continues.onAttempt
    intro attempt _
    exact (Continues.refl _ draft).emit (mild attempt)
  unfold applyTemplate
  split
  · exact Continues.refl _ draft
  cases template with
  | act action =>
    exact continues_actions ctx draft (by simpa [EffectTemplate.isContinuing] using continuing)
  | hold template => exact continues_applyHold ctx draft template
  | release reasons => exact continues_applyRelease ctx draft reasons
  | commit template | reclaim reason | adoptPrevGeneration => cases continuing
  | notify template => exact continues_applyNotify ctx draft template
  | bus phase | redeliver | probe | reevaluate => exact emitted _ fun _ => rfl
  | record note => exact (Continues.refl _ draft).emit rfl
  | cancelDispatch target notIntentionalCleanup =>
    exact continues_applyCancelDispatch ctx draft target notIntentionalCleanup

theorem continues_applyEffects {templates : List EffectTemplate}
    (continuing : ∀ template ∈ templates, template.isContinuing = true) :
    Continues (effectsFootprint templates) draft (applyEffects ctx templates draft) := by
  induction templates generalizing draft with
  | nil => exact Continues.refl _ draft
  | cons template templates induction =>
    have head := continues_applyTemplate ctx draft (continuing template List.mem_cons_self)
    have tail := induction (applyTemplate ctx draft template) (List.forall_mem_cons.mp continuing).2
    exact head.trans tail

end Templates

end Adhdev.TurnLedger
