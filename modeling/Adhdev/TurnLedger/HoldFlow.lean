import Adhdev.TurnLedger.Footprint

/-! # What the templates of a rule do to the holds

A hold id is the attempt id and the hold's reason, so the active holds are a
partial function of the reason. Each template has a fate for every reason, and
the fates of a rule's templates compose. -/

namespace Adhdev.TurnLedger

open MeshShared List Option Bool EffectTemplate

/-! ## Shaped holds -/

structure HoldShape (attempt : TurnAttempt) (hold : TurnHold) : Prop where
  holdId : hold.holdId = holdId attempt.attemptId hold.reason
  attemptId : hold.attemptId = attempt.attemptId
  generation :
    hold.generation = if hold.reason = .hardCeiling then none else some attempt.generation

variable {hold : TurnHold}

theorem HoldShape.transport {before after : TurnAttempt} (shape : HoldShape before hold)
    (sameId : after.attemptId = before.attemptId)
    (sameGeneration : after.generation = before.generation) : HoldShape after hold where
  holdId := by rw [sameId, shape.holdId]
  attemptId := by rw [sameId, shape.attemptId]
  generation := by rw [sameGeneration, shape.generation]

def heldFor (holds : List TurnHold) (reason : HoldReason) : Option TurnHold :=
  KeyedMap.lookup TurnHold.reason holds reason

theorem HoldShape.sameId_iff {attempt : TurnAttempt} {left right : TurnHold}
    (leftShape : HoldShape attempt left) (rightShape : HoldShape attempt right) :
    left.holdId = right.holdId ↔ left.reason = right.reason := by
  rw [leftShape.holdId, rightShape.holdId]
  exact (holdId_injective attempt.attemptId).eq_iff

section Operations

variable {attempt : TurnAttempt} {holds : HoldMap}

theorem heldFor_set (shaped : ∀ hold ∈ holds, HoldShape attempt hold)
    (shape : HoldShape attempt hold) (reason : HoldReason) :
    heldFor (holds.set hold).entries reason =
      if hold.reason = reason then some hold else heldFor holds.entries reason := by
  apply KeyedMap.lookup_insertEntry
  intro other member
  exact (shaped other member).sameId_iff shape

theorem heldFor_keepWhere (released : HoldReason → Bool) (reason : HoldReason) :
    heldFor (holds.keepWhere fun hold => !released hold.reason).entries reason =
      if released reason then none else heldFor holds.entries reason := by
  rw [heldFor, KeyedMap.keepWhere, KeyedMap.lookup_filter holds.entries
    (fun other => !released other)]
  cases released reason <;> rfl

end Operations

/-! ## Fates -/

/-- What becomes of the hold of one reason. `rearmed` puts the expired hold
back. -/
inductive Fate
  | kept | freed | dropped | armed | rearmed | unknown
  deriving DecidableEq

namespace Fate

def Sound (ctx : GuardCtx) (reason : HoldReason) (fate : Fate)
    (before after : Option TurnHold) : Prop :=
  match fate with
  | .kept => after = before
  | .freed => after = before ∨ after = none
  | .dropped => after = none
  | .armed => after.isSome = true
  | .rearmed =>
    after = before ∨
      after.isSome = true ∧ ∃ hold, expiredHold ctx = some hold ∧ hold.reason = reason
  | .unknown => True

def andThen : Fate → Fate → Fate
  | first, .kept => first
  | _, .dropped => .dropped
  | _, .armed => .armed
  | .kept, .freed | .freed, .freed => .freed
  | .dropped, .freed => .dropped
  | .kept, .rearmed => .rearmed
  | _, _ => .unknown

theorem Sound.andThen {ctx : GuardCtx} {reason : HoldReason} {first second : Fate}
    {before middle after : Option TurnHold} (firstSound : first.Sound ctx reason before middle)
    (secondSound : second.Sound ctx reason middle after) :
    (first.andThen second).Sound ctx reason before after := by
  cases second with
  | kept =>
    cases (show after = middle from secondSound)
    cases first <;> exact firstSound
  | dropped | armed => cases first <;> exact secondSound
  | freed =>
    cases first with
    | kept =>
      cases (show middle = before from firstSound)
      exact secondSound
    | freed =>
      rcases secondSound with same | empty
      · exact same ▸ firstSound
      · exact .inr empty
    | dropped =>
      rcases secondSound with same | empty
      · exact same.trans firstSound
      · exact empty
    | armed | rearmed | unknown => trivial
  | rearmed =>
    cases first with
    | kept =>
      cases (show middle = before from firstSound)
      exact secondSound
    | freed | dropped | armed | rearmed | unknown => trivial
  | unknown => cases first <;> trivial

/-- The hold of a reason is there afterwards only if it was there before, or its
expiry is the evidence. -/
def neverArms : Fate → Bool
  | .kept | .freed | .dropped | .rearmed => true
  | _ => false

theorem Sound.origin {ctx : GuardCtx} {reason : HoldReason} {fate : Fate}
    {before after : Option TurnHold} (sound : fate.Sound ctx reason before after)
    (neverArms : fate.neverArms = true) (present : after.isSome = true) :
    before.isSome = true ∨ ∃ hold, expiredHold ctx = some hold ∧ hold.reason = reason := by
  cases fate with
  | kept =>
    cases (show after = before from sound)
    exact .inl present
  | freed =>
    rcases sound with same | empty
    · exact .inl (same ▸ present)
    · rw [empty] at present
      cases present
  | dropped =>
    rw [show after = none from sound] at present
    cases present
  | rearmed =>
    rcases sound with same | ⟨_, expired⟩
    · exact .inl (same ▸ present)
    · exact .inr expired
  | armed | unknown => cases neverArms

end Fate

def expiredReason (ctx : GuardCtx) : Option HoldReason :=
  match ctx.evidence.body with
  | .holdExpired _ reason => some reason
  | _ => none

theorem expiredReason_of_expiredHold {ctx : GuardCtx} (expired : expiredHold ctx = some hold) :
    expiredReason ctx = some hold.reason := by
  unfold expiredHold at expired
  split at expired
  case h_1 expiredId reason body =>
    have named : expiredReason ctx = some reason := by simp [expiredReason, body]
    have passes := (filter_eq_some_iff.mp expired).2
    simp only [and_eq_true, beq_iff_eq] at passes
    rw [named, passes.1]
  case h_2 => cases expired

theorem mem_of_expiredHold {ctx : GuardCtx} (expired : expiredHold ctx = some hold) :
    hold ∈ ctx.holds := by
  unfold expiredHold at expired
  split at expired
  · exact mem_of_find?_eq_some (filter_eq_some_iff.mp expired).1
  · cases expired

namespace HoldTemplate

def fate (template : HoldTemplate) (mesh : Bool) (reason : HoldReason) : Fate :=
  match template.reason with
  | .reason armed =>
    if armed == reason && (mesh || !template.meshOnly) then .armed else .kept
  | .fromAdmission =>
    if reason == .livePending || reason == .transcriptQuiet then .unknown else .kept

/-- Exactly the ceiling is armed for every generation. -/
def shaped (template : HoldTemplate) : Bool :=
  template.generationAgnostic == (template.reason == .reason .hardCeiling)

end HoldTemplate

namespace EffectTemplate

/-- The fate of a reason's hold under a continuing template, for a mesh attempt
or not, when an expiry evidence can only name one of `expirable`. -/
def fate (mesh : Bool) (expirable : List HoldReason) (template : EffectTemplate)
    (reason : HoldReason) : Fate :=
  match template with
  | .hold template => template.fate mesh reason
  | .release (.reasons reasons) => if reasons.contains reason then .dropped else .kept
  | .release .all => .dropped
  | .release .expiredHold => if expirable.contains reason then .freed else .kept
  | .act .applyHeldSuspension =>
    if reason == .suspensionBeforeConsumed then .dropped else .kept
  | .act .deferUnconfirmedEnd => if expirable.contains reason then .rearmed else .kept
  | .act .openReportCorrection => if reason == .reportCorrection then .unknown else .kept
  | _ => .kept

def shapesHolds : EffectTemplate → Bool
  | .hold template => template.shaped
  | _ => true

end EffectTemplate

def effectsFate (mesh : Bool) (expirable : List HoldReason) (templates : List EffectTemplate)
    (reason : HoldReason) : Fate :=
  templates.foldl (fun fate template => fate.andThen (template.fate mesh expirable reason)) .kept

/-! ## Soundness -/

/-- The holds of `after` are shaped and came from those of `before` as the fates
say. -/
structure Flows (ctx : GuardCtx) (attempt : TurnAttempt) (fate : HoldReason → Fate)
    (before after : Draft) : Prop where
  shaped : ∀ hold ∈ after.holds, HoldShape attempt hold
  fates : ∀ reason, (fate reason).Sound ctx reason
    (heldFor before.holds.entries reason) (heldFor after.holds.entries reason)

namespace Flows

variable {ctx : GuardCtx} {attempt : TurnAttempt} {before after : Draft}

theorem of_holds_eq (shaped : ∀ hold ∈ before.holds, HoldShape attempt hold)
    (same : after.holds = before.holds) : Flows ctx attempt (fun _ => .kept) before after where
  shaped := by rw [same]; exact shaped
  fates reason := by rw [same]; exact rfl

variable {first second : HoldReason → Fate}

theorem trans {middle : Draft} (firstFlows : Flows ctx attempt first before middle)
    (secondFlows : Flows ctx attempt second middle after) :
    Flows ctx attempt (fun reason => (first reason).andThen (second reason)) before after where
  shaped := secondFlows.shaped
  fates reason := (firstFlows.fates reason).andThen (secondFlows.fates reason)

theorem addHold (shaped : ∀ hold ∈ before.holds, HoldShape attempt hold)
    (shape : HoldShape attempt hold) (same : after.holds = before.holds.set hold) :
    Flows ctx attempt (fun reason => if hold.reason = reason then .armed else .kept)
      before after where
  shaped := by
    intro other member
    rw [same, KeyedMap.mem_set] at member
    rcases member with rfl | ⟨member, _⟩
    · exact shape
    · exact shaped other member
  fates reason := by
    rw [same, heldFor_set shaped shape]
    by_cases armed : hold.reason = reason <;> simp [armed, Fate.Sound]

theorem keepWhere (shaped : ∀ hold ∈ before.holds, HoldShape attempt hold)
    {released : HoldReason → Bool}
    (same : after.holds = before.holds.keepWhere fun hold => !released hold.reason) :
    Flows ctx attempt (fun reason => if released reason then .dropped else .kept) before after where
  shaped := by
    intro hold member
    rw [same, KeyedMap.mem_keepWhere] at member
    exact shaped hold member.1
  fates reason := by
    rw [same, heldFor_keepWhere]
    by_cases gone : released reason = true <;> simp [gone, Fate.Sound]

theorem weaken (flows : Flows ctx attempt first before after)
    (weaker : ∀ reason {old new : Option TurnHold}, (first reason).Sound ctx reason old new →
      (second reason).Sound ctx reason old new) :
    Flows ctx attempt second before after where
  shaped := flows.shaped
  fates reason := weaker reason (flows.fates reason)

end Flows

theorem holds_actions (ctx : GuardCtx) (draft : Draft) {action : ActionId}
    (untouched : action.writesHolds = false) : (actions action ctx draft).holds = draft.holds := by
  cases opens : action.opens with
  | false =>
    obtain ⟨change, same, -⟩ := actions_rewrites ctx draft opens untouched
    rw [same]
    rfl
  | true =>
    cases action with
    | openDispatch => simp only [actions, openDispatchAction]; split <;> rfl
    | openPlain => rfl
    | _ => cases opens

theorem holds_onAttempt_emit (draft : Draft) (body : TurnAttempt → TurnEffect) :
    (draft.onAttempt fun attempt => draft.emit (body attempt)).holds = draft.holds := by
  unfold Draft.onAttempt
  split <;> rfl

theorem holds_sendNotice (template : NotifyTemplate) (ctx : GuardCtx) (draft : Draft) :
    (sendNotice template ctx draft).holds = draft.holds := by
  unfold sendNotice Draft.onAttempt
  split
  · rfl
  · simp

theorem holds_remindSuspension (ctx : GuardCtx) (draft : Draft) (attempt : TurnAttempt) :
    (remindSuspension ctx draft attempt).holds = draft.holds := by
  unfold remindSuspension
  split
  · dsimp only
    split
    · rfl
    · simp
  · rfl

theorem holds_noticeStall (template : NotifyTemplate) (ctx : GuardCtx) (draft : Draft)
    (attempt : TurnAttempt) : (noticeStall template ctx draft attempt).holds = draft.holds := by
  unfold noticeStall
  split
  · rfl
  split
  · split
    · rfl
    · exact holds_sendNotice template ctx _
  · rfl

theorem holds_applyNotify (template : NotifyTemplate) (ctx : GuardCtx) (draft : Draft) :
    (applyNotify template ctx draft).holds = draft.holds := by
  cases present : draft.attempt with
  | none => simp [applyNotify, Draft.onAttempt, present]
  | some attempt =>
    simp only [applyNotify, Draft.onAttempt, present]
    split
    · exact holds_sendNotice template ctx draft
    · split
      · rfl
      · exact holds_sendNotice template ctx _
    · exact holds_remindSuspension ctx draft attempt
    · exact holds_noticeStall template ctx draft attempt

theorem holds_applyCancelDispatch (target : CancelTarget) (notIntentionalCleanup : Bool)
    (ctx : GuardCtx) (draft : Draft) :
    (applyCancelDispatch target notIntentionalCleanup ctx draft).holds = draft.holds := by
  unfold applyCancelDispatch Draft.onAttempt
  split
  · rfl
  dsimp only
  split
  · rfl
  split
  · rfl
  · split <;> rfl

structure ExpiryWithin (ctx : GuardCtx) (attempt : TurnAttempt) (expirable : List HoldReason) :
    Prop where
  shaped : ∀ {hold}, expiredHold ctx = some hold → HoldShape attempt hold
  expirable : ∀ {reason}, expiredReason ctx = some reason → reason ∈ expirable

/-- The draft's attempt is still `attempt`, as far as holds are concerned. -/
structure CarriesHolds (attempt : TurnAttempt) (draft : Draft) : Prop where
  current : ∃ current, draft.attempt = some current ∧
    current.attemptId = attempt.attemptId ∧ current.generation = attempt.generation ∧
    isMeshScope current = isMeshScope attempt
  committed : draft.committed = false
  shaped : ∀ hold ∈ draft.holds, HoldShape attempt hold

section Soundness

variable {ctx : GuardCtx} {attempt : TurnAttempt} {expirable : List HoldReason} {draft : Draft}

theorem templateHold_shape {template : HoldTemplate} {current : TurnAttempt}
    (sameId : current.attemptId = attempt.attemptId)
    (sameGeneration : current.generation = attempt.generation) {reason : HoldReason}
    (agnosticIff : template.generationAgnostic = true ↔ reason = .hardCeiling) :
    HoldShape attempt (templateHold template ctx current reason) where
  holdId := by rw [← sameId]; rfl
  attemptId := sameId
  generation := by
    by_cases ceiling : reason = .hardCeiling
    · simp [templateHold, ceiling, agnosticIff.mpr ceiling]
    have specific : template.generationAgnostic = false :=
      eq_false_of_not_eq_true fun agnostic => ceiling (agnosticIff.mp agnostic)
    simp [templateHold, ceiling, specific, sameGeneration]

section

variable (carries : CarriesHolds attempt draft)
include carries

theorem flows_applyHold {template : HoldTemplate} (shaped : template.shaped = true) : Flows ctx
    attempt (template.fate (isMeshScope attempt)) draft (applyHold template ctx draft) := by
  rcases carries.current with ⟨current, present, sameId, sameGeneration, sameScope⟩
  have shapedIff : template.generationAgnostic = true ↔
      template.reason = .reason .hardCeiling := by
    have agreed : template.generationAgnostic = (template.reason == .reason .hardCeiling) :=
      beq_iff_eq.mp shaped
    rw [agreed, beq_iff_eq]
  simp only [applyHold, Draft.onAttempt, present, sameScope]
  split
  case isTrue skipped =>
    simp only [and_eq_true, not_eq_true'] at skipped
    apply (Flows.of_holds_eq carries.shaped rfl).weaken
    intro reason old new sound
    unfold HoldTemplate.fate
    split
    · simpa [skipped] using sound
    split
    · trivial
    · exact sound
  case isFalse armed =>
    have arms : (isMeshScope attempt || !template.meshOnly) = true := by
      cases mesh : isMeshScope attempt <;> simp_all
    cases named : template.reason with
    | reason armedReason =>
      have agnosticIff : template.generationAgnostic = true ↔ armedReason = .hardCeiling := by
        rw [shapedIff, named, HoldReasonExpr.reason.injEq]
      apply (Flows.addHold carries.shaped
        (templateHold_shape sameId sameGeneration agnosticIff) rfl).weaken
      intro reason old new sound
      simpa [HoldTemplate.fate, named, arms, templateHold] using sound
    | fromAdmission =>
      have specific : template.generationAgnostic = false := by
        apply eq_false_of_not_eq_true
        rw [shapedIff, named]
        decide
      split
      · apply (Flows.of_holds_eq carries.shaped rfl).weaken
        intro reason old new sound
        simp only [HoldTemplate.fate, named]
        split
        · trivial
        · exact sound
      rename_i armedReason admitted
      have admissionReason : armedReason = .livePending ∨ armedReason = .transcriptQuiet := by
        simp only [holdTemplateReason] at admitted
        split at admitted
        · rename_i holdReason _
          cases holdReason
          · exact .inl (some.inj admitted).symm
          · exact .inr (some.inj admitted).symm
        · cases admitted
      have agnosticIff :
          template.generationAgnostic = true ↔ armedReason = .hardCeiling := by
        rcases admissionReason with rfl | rfl <;> simp [specific]
      apply (Flows.addHold carries.shaped
        (templateHold_shape sameId sameGeneration agnosticIff) rfl).weaken
      intro reason old new sound
      simp only [HoldTemplate.fate, named]
      split
      · trivial
      rename_i other
      have different : armedReason ≠ reason := by
        rintro rfl
        rcases admissionReason with rfl | rfl <;> simp at other
      simpa [templateHold, different] using sound

theorem flows_releaseHolds (reasons : ReleasedReasons) (keep : List HoldReason) : Flows ctx attempt
    (fun reason => if isReleased reasons keep reason then .dropped else .kept) draft
    (releaseHolds draft reasons keep) :=
  Flows.keepWhere carries.shaped (holds_releaseHolds draft reasons keep)

theorem flows_applyRelease (expiry : ExpiryWithin ctx attempt expirable) (reasons : ReleaseExpr)
    (mesh : Bool) : Flows ctx attempt ((release reasons).fate mesh expirable) draft
    (applyRelease reasons ctx draft) := by
  cases reasons with
  | reasons reasons =>
    apply (flows_releaseHolds carries (.reasons reasons) []).weaken
    intro reason old new sound
    simpa [fate, isReleased] using sound
  | all =>
    apply (flows_releaseHolds carries .all []).weaken
    intro reason old new sound
    simpa [fate, isReleased] using sound
  | expiredHold =>
    simp only [applyRelease]
    split
    case h_1 expiredId expired body =>
      have possible : expired ∈ expirable := expiry.expirable (by simp [expiredReason, body])
      apply (flows_releaseHolds carries (.reasons [expired]) []).weaken
      intro reason old new sound
      by_cases released : reason = expired
      · subst reason
        have gone : new = none := by simpa [isReleased, Fate.Sound] using sound
        simp [fate, possible, Fate.Sound, gone]
      have same : new = old := by simpa [isReleased, released, Fate.Sound] using sound
      simp only [fate]
      split <;> simp [Fate.Sound, same]
    case h_2 =>
      apply (Flows.of_holds_eq carries.shaped rfl).weaken
      intro reason old new sound
      have same : new = old := sound
      simp only [fate]
      split <;> simp [Fate.Sound, same]

theorem flows_applyHeldSuspension (mesh : Bool) : Flows ctx attempt
    ((act .applyHeldSuspension).fate mesh expirable) draft (applyHeldSuspension draft) := by
  rcases carries.current with ⟨current, present, sameId, _⟩
  simp only [applyHeldSuspension, Draft.onAttempt, present]
  split
  case h_1 missing =>
    have absent : heldFor draft.holds.entries .suspensionBeforeConsumed = none := by
      apply KeyedMap.lookup_eq_none.mpr
      intro hold member sameReason
      have shape := carries.shaped hold member
      have differs := find?_eq_none.mp missing hold member
      rw [shape.holdId, sameReason, sameId] at differs
      simp at differs
    constructor
    · exact carries.shaped
    intro reason
    simp only [fate]
    split
    · rename_i asked
      rw [beq_iff_eq.mp asked]
      exact absent
    · exact rfl
  case h_2 held found =>
    apply (Flows.keepWhere carries.shaped (show _ = draft.holds.keepWhere fun hold =>
      !isReleased (.reasons [.suspensionBeforeConsumed]) [] hold.reason from ?_)).weaken
    · intro reason old new sound
      simpa [fate, isReleased] using sound
    · simp

theorem flows_deferUnconfirmedEnd (expiry : ExpiryWithin ctx attempt expirable) (mesh : Bool) :
    Flows ctx attempt ((act .deferUnconfirmedEnd).fate mesh expirable) draft
    (deferUnconfirmedEnd ctx draft) := by
  rcases carries.current with ⟨current, present, _⟩
  simp only [deferUnconfirmedEnd, Draft.onAttempt, present]
  cases expired : expiredHold ctx with
  | none =>
    apply (Flows.of_holds_eq carries.shaped rfl).weaken
    intro reason old new sound
    have same : new = old := sound
    simp only [fate]
    split <;> simp [Fate.Sound, same]
  | some hold =>
    have shape := expiry.shaped expired
    have possible := expiry.expirable (expiredReason_of_expiredHold expired)
    have rearmedShape : HoldShape attempt { hold with
        untilMs := some (ctx.nowMs + ctx.policy.endProbeGraceMs), createdAt := ctx.nowMs } :=
      ⟨shape.holdId, shape.attemptId, shape.generation⟩
    apply (Flows.addHold carries.shaped rearmedShape rfl).weaken
    intro reason old new sound
    by_cases named : hold.reason = reason
    · subst reason
      have present : new.isSome = true := by simpa [Fate.Sound] using sound
      simp [fate, possible, Fate.Sound, present, expired]
    have same : new = old := by simpa [named, Fate.Sound] using sound
    simp only [fate]
    split <;> simp [Fate.Sound, same]

theorem flows_openReportCorrection (mesh : Bool) : Flows ctx attempt
    ((act .openReportCorrection).fate mesh expirable) draft (openReportCorrection ctx draft) := by
  rcases carries.current with ⟨current, present, sameId, sameGeneration, _⟩
  simp only [openReportCorrection, Draft.onAttempt, present]
  split
  · apply (Flows.of_holds_eq carries.shaped rfl).weaken
    intro reason old new sound
    simp only [fate]
    split
    · trivial
    · exact sound
  refine (Flows.addHold carries.shaped
    (show HoldShape attempt _ from ⟨?_, sameId, ?_⟩) rfl).weaken ?_
  · simp [sameId]
  · simp [sameGeneration]
  · intro reason old new sound
    simp only [fate]
    split
    · trivial
    rename_i other
    have different : HoldReason.reportCorrection ≠ reason := by
      rintro rfl
      exact other rfl
    simpa [different] using sound

end

variable {template : EffectTemplate}

section

variable (carries : CarriesHolds attempt draft)
include carries

theorem flows_applyTemplate (expiry : ExpiryWithin ctx attempt expirable)
    (continuing : template.isContinuing = true) (shaped : template.shapesHolds = true) : Flows ctx
    attempt (template.fate (isMeshScope attempt) expirable) draft
    (applyTemplate ctx draft template) := by
  have unchanged : ∀ {after : Draft}, after.holds = draft.holds →
      Flows ctx attempt (fun _ => .kept) draft after :=
    fun same => Flows.of_holds_eq carries.shaped same
  simp only [applyTemplate, carries.committed, false_eq_true, if_false]
  cases template with
  | act action =>
    cases writes : action.writesHolds with
    | true =>
      cases action with
      | applyHeldSuspension => exact flows_applyHeldSuspension carries _
      | deferUnconfirmedEnd => exact flows_deferUnconfirmedEnd carries expiry _
      | openReportCorrection => exact flows_openReportCorrection carries _
      | _ => cases writes
    | false =>
      have kept := unchanged (holds_actions ctx draft writes)
      cases action <;> first | exact kept | cases writes
  | hold template => exact flows_applyHold carries shaped
  | release reasons => exact flows_applyRelease carries expiry reasons _
  | commit template | reclaim reason | adoptPrevGeneration => cases continuing
  | notify template => exact unchanged (holds_applyNotify template ctx draft)
  | bus phase | redeliver | probe | reevaluate => exact unchanged (holds_onAttempt_emit draft _)
  | record note => exact unchanged rfl
  | cancelDispatch target notIntentionalCleanup =>
    exact unchanged (holds_applyCancelDispatch target notIntentionalCleanup ctx draft)

theorem CarriesHolds.applyTemplate (expiry : ExpiryWithin ctx attempt expirable)
    (continuing : template.isContinuing = true) (shaped : template.shapesHolds = true) :
    CarriesHolds attempt (applyTemplate ctx draft template) := by
  rcases carries.current with ⟨current, present, sameId, sameGeneration, sameScope⟩
  have continues := continues_applyTemplate ctx draft continuing
  rcases continues.attempt present with ⟨next, nextPresent, within⟩
  exact {
    current := ⟨next, nextPresent, within.attemptId.trans sameId,
      within.generation.trans sameGeneration, within.isMeshScope.trans sameScope⟩
    committed := continues.committed.trans carries.committed
    shaped := (flows_applyTemplate carries expiry continuing shaped).shaped }

theorem flows_applyEffects (expiry : ExpiryWithin ctx attempt expirable)
    {templates : List EffectTemplate} (continuing : ∀ template ∈ templates, template.isContinuing =
      true) (shaped : ∀ template ∈ templates, template.shapesHolds =
      true) : Flows ctx attempt (effectsFate (isMeshScope attempt) expirable
      templates) draft (applyEffects ctx templates draft) := by
  have general : ∀ (fate : HoldReason → Fate) (start : Draft),
      Flows ctx attempt fate start draft →
        Flows ctx attempt (fun reason => templates.foldl (fun fate template =>
            fate.andThen (template.fate (isMeshScope attempt) expirable reason)) (fate reason))
          start (applyEffects ctx templates draft) := by
    induction templates generalizing draft with
    | nil => exact fun fate start flows => flows
    | cons template templates induction =>
      intro fate start flows
      have headContinuing := continuing template mem_cons_self
      have headShaped := shaped template mem_cons_self
      exact induction (carries.applyTemplate expiry headContinuing headShaped)
        (forall_mem_cons.mp continuing).2
        (forall_mem_cons.mp shaped).2
        _ start (flows.trans (flows_applyTemplate carries expiry headContinuing headShaped))
  exact general (fun _ => .kept) draft (Flows.of_holds_eq carries.shaped rfl)

end

end Soundness

end Adhdev.TurnLedger
