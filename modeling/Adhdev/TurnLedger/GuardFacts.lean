import Adhdev.TurnLedger.HoldFlow

/-! # What a passing guard tells

Every guard is over-approximated by a disjunction of lists of facts about the
evidence and the attempt. Two guards whose lists conflict pairwise never pass
together, and a rule's guard fixes what its templates may rely on. -/

namespace Adhdev.TurnLedger

open MeshShared List Option Bool TurnEvidenceBody

inductive AdmissionKind
  | strong | weak | hold | decline
  deriving DecidableEq

def EvidenceAdmission.kind : EvidenceAdmission → AdmissionKind
  | .strong => .strong
  | .weak => .weak
  | .hold .. => .hold
  | .decline _ => .decline

inductive GuardAtom
  | bound | reported | awaitReportHeld | admissionHeld
  | endFailed | hollow | weakEnd | timedOut | reportAwaited | retriesExhausted
  | ownerProbed | ownerScraped | afterWeak
  | streakReached | exitFailed | exitAfterReport
  | staleModal | underSetup | confirmedSetup
  | redrivesExhausted | direct | correction | nativeProbe | queueMissing
  | freshAlive | freshProbe | deferralsExhausted
  deriving DecidableEq

@[simp] def GuardAtom.eval (atom : GuardAtom) (ctx : GuardCtx) : Bool :=
  match atom with
  | .bound => ctx.evidence.attemptRef.isSome || truthy ctx.evidence.taskId
  | .reported => reportedThisGeneration ctx
  | .awaitReportHeld => TurnLedger.awaitReportHeld ctx
  | .admissionHeld => (admissionOf ctx).any (·.isHold)
  | .endFailed => (turnEnd ctx).any TurnLedger.endFailed
  | .hollow => (turnEnd ctx).any isHollow
  | .weakEnd => (turnEnd ctx).any (·.strength == .weak)
  | .timedOut => (turnEnd ctx).any (·.afterFinalizationTimeout == some true)
  | .reportAwaited => reportAwaitedEnd ctx
  | .retriesExhausted => hollowRetriesExhausted ctx
  | .ownerProbed => ownerProbedQueueNativeCompletion ctx
  | .ownerScraped => ownerScrapedMeshFinal ctx
  | .afterWeak => afterWeakSince ctx
  | .streakReached => failStreakReached ctx
  | .exitFailed => guards .providerFailure ctx
  | .exitAfterReport => TurnLedger.exitAfterReport ctx
  | .staleModal => staleModalResolution ctx
  | .underSetup => ctx.attempt.any underProviderSetup
  | .confirmedSetup => guards .confirmedProviderSetup ctx
  | .redrivesExhausted => TurnLedger.redrivesExhausted ctx
  | .direct => ctx.inScope .meshDirect
  | .correction => correctionPending ctx
  | .nativeProbe => nativeProbeReportOnly ctx
  | .queueMissing => queueReportMissing ctx
  | .freshAlive => TurnLedger.freshAlive ctx
  | .freshProbe => freshEndProbe ctx
  | .deferralsExhausted => maxUnconfirmedEndDeferrals ≤ unconfirmedEndDeferrals ctx

inductive Fact
  | kind (kind : TurnEvidenceKind)
  | state (state : TurnState)
  | expired (reason : HoldReason)
  | admission (kind : AdmissionKind)
  | liveness (result : LivenessResult)
  | is (atom : GuardAtom) (value : Bool)
  deriving DecidableEq

namespace Fact

@[simp] def Holds (ctx : GuardCtx) : Fact → Prop
  | .kind expected => ctx.evidence.kind = expected
  | .state expected => ctx.inState expected = true
  | .expired reason => ∃ hold, expiredHold ctx = some hold ∧ hold.reason = reason
  | .admission expected => (admissionOf ctx).map (·.kind) = some expected
  | .liveness result => livenessIs ctx result = true
  | .is atom value => atom.eval ctx = value

def conflicts : Fact → Fact → Bool
  | .kind left, .kind right => left != right
  | .state left, .state right => left != right
  | .expired left, .expired right => left != right
  | .admission left, .admission right => left != right
  | .liveness left, .liveness right => left != right
  | .is left value, .is right other => left == right && value != other
  | _, _ => false

theorem not_both {ctx : GuardCtx} {left right : Fact} (conflict : left.conflicts right = true)
    (leftHolds : left.Holds ctx) (rightHolds : right.Holds ctx) : False := by
  cases left <;> cases right <;>
    simp only [conflicts, false_eq_true, bne_iff_ne, ne_eq, and_eq_true, beq_iff_eq] at conflict <;>
    simp only [Holds] at leftHolds rightHolds
  case kind.kind => exact conflict (leftHolds.symm.trans rightHolds)
  case state.state =>
    unfold GuardCtx.inState at leftHolds rightHolds
    cases present : ctx.attempt with
    | none =>
      rw [present] at leftHolds
      cases leftHolds
    | some attempt =>
      rw [present, any_some, beq_iff_eq] at leftHolds rightHolds
      exact conflict (leftHolds.symm.trans rightHolds)
  case expired.expired =>
    rcases leftHolds with ⟨leftHold, leftExpired, leftReason⟩
    rcases rightHolds with ⟨rightHold, rightExpired, rightReason⟩
    rw [leftExpired, some.injEq] at rightExpired
    subst rightExpired
    exact conflict (leftReason.symm.trans rightReason)
  case admission.admission =>
    exact conflict (mem_unique leftHolds rightHolds)
  case liveness.liveness =>
    unfold livenessIs at leftHolds rightHolds
    split at leftHolds
    · rename_i observed _ body
      rw [body] at rightHolds
      exact conflict ((beq_iff_eq.mp leftHolds).symm.trans (beq_iff_eq.mp rightHolds))
    · cases leftHolds
  case is.is =>
    rcases conflict with ⟨rfl, differ⟩
    exact differ (leftHolds.symm.trans rightHolds)

end Fact

def FactsHold (ctx : GuardCtx) (facts : List Fact) : Prop :=
  ∀ fact ∈ facts, fact.Holds ctx

@[simp] theorem factsHold_nil (ctx : GuardCtx) : FactsHold ctx [] := by
  simp [FactsHold]

variable {ctx : GuardCtx}

@[simp] theorem factsHold_cons {fact : Fact} {facts : List Fact} :
    FactsHold ctx (fact :: facts) ↔ fact.Holds ctx ∧ FactsHold ctx facts :=
  forall_mem_cons

@[simp] theorem factsHold_append {left right : List Fact} :
    FactsHold ctx (left ++ right) ↔ FactsHold ctx left ∧ FactsHold ctx right :=
  forall_mem_append

def Described (ctx : GuardCtx) (alternatives : List (List Fact)) : Prop :=
  ∃ facts ∈ alternatives, FactsHold ctx facts

@[simp] theorem not_described_nil (ctx : GuardCtx) : ¬ Described ctx [] := by
  simp [Described]

@[simp] theorem described_cons {facts : List Fact} {alternatives : List (List Fact)} :
    Described ctx (facts :: alternatives) ↔ FactsHold ctx facts ∨ Described ctx alternatives := by
  simp [Described]

def factsConflict (left right : List Fact) : Bool :=
  left.any fun fact => right.any fact.conflicts

theorem not_both_of_factsConflict {left right : List Fact}
    (conflict : factsConflict left right = true) (leftHold : FactsHold ctx left)
    (rightHold : FactsHold ctx right) : False := by
  simp only [factsConflict, List.any_eq_true] at conflict
  rcases conflict with ⟨fact, member, other, otherMember, conflict⟩
  exact Fact.not_both conflict (leftHold fact member) (rightHold other otherMember)

/-! ## The facts of each guard -/

def completionEndFacts : List Fact :=
  [.kind .turnEnd, .is .endFailed false, .is .admissionHeld false, .is .reported false]

def endGenuineFacts : List Fact :=
  completionEndFacts ++ [.is .weakEnd false, .is .hollow false, .is .reportAwaited false]

def endWeakFacts (timedOut : Bool) : List Fact :=
  completionEndFacts ++ [.is .weakEnd true, .is .hollow false, .is .timedOut timedOut]

def endReportAwaitedFacts (held : Bool) : List Fact :=
  completionEndFacts ++
    [.is .weakEnd false, .is .hollow false, .is .reportAwaited true, .is .awaitReportHeld held]

def hollowFacts (exhausted : Bool) : List Fact :=
  completionEndFacts ++ [.is .hollow true, .is .retriesExhausted exhausted]

def finalFacts (kind : AdmissionKind) : List Fact :=
  [.kind .transcriptFinal, .admission kind]

def endTimerFacts (reason : HoldReason) : List Fact :=
  [.expired reason, .is .direct false, .is .nativeProbe false, .is .correction false,
    .is .queueMissing false]

def endTimerReasons : List HoldReason := [.weakCandidate, .awaitReport]

def guardFacts (guard : GuardId) : List (List Fact) :=
  match guard with
  | .unbound => [[.is .bound false]]
  | .bound => [[.is .bound true]]
  | .staleModalResolution => [[.is .staleModal true]]
  | .heldProviderSetup => [[.is .staleModal false, .is .underSetup true]]
  | .confirmedProviderSetup => [[.is .confirmedSetup true]]
  | .endGenuine => [endGenuineFacts]
  | .endReportAwaited => [endReportAwaitedFacts false]
  | .endReportAwaitedHeld => [endReportAwaitedFacts true]
  | .finalStrongReportAwaited =>
    [finalFacts .strong ++ [.is .awaitReportHeld true, .is .reported false]]
  | .finishedAfterReport =>
    [[.is .reported true, .kind .noProgress], [.is .reported true, .admission .strong],
      [.is .reported true, .admission .weak], [.is .reported true, .admission .decline]]
  | .endProviderFailure =>
    [[.kind .turnEnd, .is .endFailed true, .is .admissionHeld false, .is .reported false]]
  | .falseIdleResumed => [[.is .afterWeak true, .is .awaitReportHeld true]]
  | .endWeak => [endWeakFacts false]
  | .endWeakAfterTimeout => [endWeakFacts true]
  | .hollowRetry => [hollowFacts false]
  | .hollowExhausted => [hollowFacts true]
  | .finalStrong => [finalFacts .strong ++ [.is .ownerProbed false, .is .reported false]]
  | .finalWeak => [finalFacts .weak ++ [.is .ownerScraped false, .is .reported false]]
  | .finalWeakProbe =>
    [finalFacts .weak ++ [.is .ownerScraped true, .is .reported false],
      finalFacts .strong ++ [.is .ownerProbed true, .is .reported false]]
  | .genuineEndOrStrongFinal =>
    [endGenuineFacts,
      finalFacts .strong ++
        [.is .ownerProbed false, .is .reported false, .is .awaitReportHeld false]]
  | .weakEndOrFinal =>
    [endWeakFacts false, finalFacts .weak ++ [.is .reported false],
      finalFacts .strong ++ [.is .ownerProbed true, .is .awaitReportHeld false]]
  | .admissionHold => [[.admission .hold, .is .admissionHeld true]]
  | .admissionDecline => [[.admission .decline, .is .reported false]]
  | .afterWeakSince => [[.is .afterWeak true, .is .awaitReportHeld false]]
  | .activityKeepsState =>
    [[.kind .liveness, .liveness .alive],
      [.kind .transcriptActivity, .state .consumed],
      [.kind .transcriptActivity, .state .generating],
      [.kind .transcriptActivity, .state .finalizing, .is .afterWeak false],
      [.kind .turnStarted, .state .generating],
      [.kind .turnStarted, .state .finalizing, .is .afterWeak false]]
  | .livenessUnknown => [[.liveness .unknown]]
  | .livenessFatal => [[.liveness .dead], [.liveness .readFailed, .is .streakReached true]]
  | .livenessFailedNonfatal => [[.liveness .readFailed, .is .streakReached false]]
  | .providerFailure => [[.is .exitFailed true]]
  | .noProviderFailure => [[.is .exitFailed false, .is .exitAfterReport false]]
  | .exitAfterReport => [[.is .exitFailed false, .is .exitAfterReport true, .is .reported true]]
  | .finalPresent => [[.kind .noProgress, .is .reported false]]
  | .holdAwaitDelivery => [[.expired .awaitDelivery]]
  | .holdAwaitConsumeRedrive => [[.expired .awaitConsume, .is .redrivesExhausted false]]
  | .holdAwaitConsumeExhausted => [[.expired .awaitConsume, .is .redrivesExhausted true]]
  | .holdAwaitTurn => [[.expired .awaitTurn]]
  | .holdLiveness => [[.expired .liveness]]
  | .holdHardCeiling => [[.expired .hardCeiling]]
  | .holdSuspensionBeforeConsumed => [[.expired .suspensionBeforeConsumed]]
  | .holdDirectReportMissing =>
    endTimerReasons.map fun reason =>
      [.expired reason, .is .direct true, .is .correction false, .is .reported false]
  | .holdWeakCandidate =>
    [[.expired .weakCandidate, .is .direct false, .is .correction false,
      .is .freshAlive true, .is .freshProbe true]]
  | .holdAdmission => [[.expired .livePending], [.expired .transcriptQuiet]]
  | .settleIdleReportOwed => [[.kind .operatorStatus, .is .reported false]]
  | .holdQueueReportMissing =>
    [[.expired .awaitReport, .is .direct false, .is .queueMissing true,
      .is .nativeProbe false, .is .correction false, .is .reported false]]
  | .holdAwaitReport => [endTimerFacts .awaitReport ++ [.is .freshAlive true, .is .freshProbe true]]
  | .holdNativeProbeReportOnly =>
    [[.expired .awaitReport, .is .direct false, .is .nativeProbe true,
      .is .correction false, .is .reported false]]
  | .holdEndUnconfirmedDefer =>
    endTimerReasons.map fun reason =>
      endTimerFacts reason ++ [.is .freshAlive false, .is .deferralsExhausted false]
  | .holdEndUnconfirmedExhausted =>
    endTimerReasons.map fun reason =>
      endTimerFacts reason ++
        [.is .freshAlive false, .is .deferralsExhausted true, .is .freshProbe true]
  | .holdEndProbeMissing =>
    endTimerReasons.map fun reason =>
      endTimerFacts reason ++ [.is .freshProbe false, .is .deferralsExhausted true]
  | .holdReportCorrection => [[.expired .reportCorrection, .is .reported false]]
  | .holdAwaitEnd => [[.expired .awaitEnd, .is .reported true]]
  | .otherwise | .prevGenerationCompletion | .staleSessionDistinct | .reclaimingRefusal
  | .suspensionChanged | .reportedTerminal | .holderIsThisAttempt
  | .parkedSuspensionObservation => [[]]

/-! ## Soundness -/

section Soundness

variable {ctx : GuardCtx}

theorem expired_of_holdIs {reasons : List HoldReason} (holds : holdIs ctx reasons = true) :
    ∃ hold, expiredHold ctx = some hold ∧ hold.reason ∈ reasons := by
  simp only [holdIs, Option.any_eq_true, List.contains_eq_mem, decide_eq_true_eq] at holds
  exact holds

theorem expired_of_holdIs_singleton {reason : HoldReason} (holds : holdIs ctx [reason] = true) :
    Fact.Holds ctx (.expired reason) := by
  rcases expired_of_holdIs holds with ⟨hold, expired, member⟩
  exact ⟨hold, expired, mem_singleton.mp member⟩

theorem kind_of_turnEnd {body : TurnEnd} (ended : turnEnd ctx = some body) :
    ctx.evidence.kind = .turnEnd := by
  unfold turnEnd at ended
  split at ended
  · rename_i found
    simp [TurnEvidence.kind, kind, found]
  · cases ended

variable {accepts : TurnEnd → Bool}

theorem turnEnd_of_completionEnd (ended : (completionEnd ctx).any accepts = true) :
    ∃ body, turnEnd ctx = some body ∧ endFailed body = false ∧ accepts body = true := by
  rw [Option.any_eq_true] at ended
  rcases ended with ⟨body, found, accepted⟩
  have filtered := filter_eq_some_iff.mp found
  exact ⟨body, filtered.1, by simpa using filtered.2, accepted⟩

theorem admission_kind {kind : AdmissionKind} {test : EvidenceAdmission → Bool}
    (agrees : ∀ admission, test admission = true → admission.kind = kind)
    (admitted : (admissionOf ctx).any test = true) : Fact.Holds ctx (.admission kind) := by
  rw [Option.any_eq_true] at admitted
  rcases admitted with ⟨admission, found, passes⟩
  simp [found, agrees admission passes]

section

variable (admission : EvidenceAdmission)
include admission

theorem kind_of_isStrong (strong : admission.isStrong = true) : admission.kind = .strong := by
  cases admission <;> first | rfl | cases strong

theorem kind_of_isWeak (weak : admission.isWeak = true) : admission.kind = .weak := by
  cases admission <;> first | rfl | cases weak

theorem kind_of_isHold (held : admission.isHold = true) : admission.kind = .hold := by
  cases admission <;> first | rfl | cases held

theorem kind_of_isDecline (declined : admission.isDecline = true) : admission.kind = .decline := by
  cases admission <;> first | rfl | cases declined

end

theorem completionEnd_facts (ended : (completionEnd ctx).any accepts = true)
    (notHeld : notHeld ctx = true) (unreported : reportedThisGeneration ctx = false) :
    FactsHold ctx completionEndFacts ∧ ∃ body, turnEnd ctx = some body ∧ accepts body = true := by
  rcases turnEnd_of_completionEnd ended with ⟨body, found, completes, accepted⟩
  have kind := kind_of_turnEnd found
  refine ⟨?_, body, found, accepted⟩
  simp_all [completionEndFacts, TurnLedger.notHeld]

theorem endGenuine_facts (passes : endGenuine ctx = true) : FactsHold ctx endGenuineFacts := by
  simp only [endGenuine, and_eq_true, not_eq_true'] at passes
  rcases passes with ⟨⟨⟨ended, notHeld⟩, notAwaited⟩, unreported⟩
  rcases completionEnd_facts ended notHeld unreported with ⟨common, body, found, accepted⟩
  simp_all [endGenuineFacts]

theorem endWeak_facts (passes : endWeak ctx = true) : FactsHold ctx (endWeakFacts false) := by
  simp only [endWeak, and_eq_true, not_eq_true'] at passes
  rcases passes with ⟨⟨ended, notHeld⟩, unreported⟩
  rcases completionEnd_facts ended notHeld unreported with ⟨common, body, found, accepted⟩
  simp_all [endWeakFacts]

theorem endWeakAfterTimeout_facts (passes : endWeakAfterTimeout ctx = true) :
    FactsHold ctx (endWeakFacts true) := by
  simp only [endWeakAfterTimeout, and_eq_true, not_eq_true'] at passes
  rcases passes with ⟨⟨ended, notHeld⟩, unreported⟩
  rcases completionEnd_facts ended notHeld unreported with ⟨common, body, found, accepted⟩
  simp_all [endWeakFacts]

theorem reportAwaited_facts {held : Bool} (awaited : reportAwaitedEnd ctx = true)
    (notHeld : notHeld ctx = true) (heldIs : awaitReportHeld ctx = held)
    (unreported : reportedThisGeneration ctx = false) :
    FactsHold ctx (endReportAwaitedFacts held) := by
  have ended := (and_eq_true_iff.mp awaited).1
  rcases completionEnd_facts ended notHeld unreported with ⟨common, body, found, accepted⟩
  simp_all [endReportAwaitedFacts]

theorem hollowEnd_facts {exhausted : Bool} (passes : hollowEnd ctx = true)
    (retries : hollowRetriesExhausted ctx = exhausted) : FactsHold ctx (hollowFacts exhausted) := by
  simp only [hollowEnd, and_eq_true, not_eq_true'] at passes
  rcases passes with ⟨⟨ended, notHeld⟩, unreported⟩
  rcases completionEnd_facts ended notHeld unreported with ⟨common, body, found, accepted⟩
  simp_all [hollowFacts]

theorem finalWeak_facts (passes : finalWeak ctx = true) :
    FactsHold ctx (finalFacts .weak) ∧ reportedThisGeneration ctx = false := by
  simp only [finalWeak, GuardCtx.isKind, and_eq_true, not_eq_true', beq_iff_eq] at passes
  have admitted := admission_kind kind_of_isWeak passes.1.2
  simp_all [finalFacts]

theorem finalStrong_facts (kind : ctx.isKind .transcriptFinal = true)
    (strong : (admissionOf ctx).any (·.isStrong) = true) : FactsHold ctx (finalFacts .strong) := by
  have admitted := admission_kind kind_of_isStrong strong
  simp_all [finalFacts, GuardCtx.isKind]

theorem ownerProbed_facts (probed : ownerProbedQueueNativeCompletion ctx = true) :
    FactsHold ctx (finalFacts .strong) := by
  have strong : (admissionOf ctx).any (·.isStrong) = true := by
    simp only [ownerProbedQueueNativeCompletion, and_eq_true] at probed
    exact probed.2
  apply finalStrong_facts _ strong
  unfold ownerProbedQueueNativeCompletion at probed
  split at probed
  · rename_i found
    simp [GuardCtx.isKind, TurnEvidence.kind, kind, found]
  · simp at probed

theorem endTimer_facts (passes : endTimer ctx = true) :
    ∃ reason ∈ endTimerReasons, FactsHold ctx (endTimerFacts reason) := by
  simp only [endTimer, and_eq_true, not_eq_true'] at passes
  rcases passes with ⟨⟨⟨⟨held, scope⟩, native⟩, correction⟩, queue⟩
  rcases expired_of_holdIs held with ⟨hold, expired, member⟩
  refine ⟨hold.reason, member, ?_⟩
  simp_all [endTimerFacts]

theorem freshProbe_of_freshAlive (alive : freshAlive ctx = true) : freshEndProbe ctx = true :=
  (and_eq_true_iff.mp alive).1

theorem activityKeepsState_facts (passes : activityKeepsState ctx = true) :
    Described ctx (guardFacts .activityKeepsState) := by
  unfold activityKeepsState at passes
  split at passes
  · rename_i found
    simp_all [guardFacts, TurnEvidence.kind, kind, livenessIs]
  · rename_i found
    simp only [or_eq_true, and_eq_true, not_eq_true'] at passes
    rcases passes with (inState | inState) | ⟨inState, notAfter⟩ <;>
      simp_all [guardFacts, TurnEvidence.kind, kind]
  · rename_i found
    simp only [or_eq_true, and_eq_true, not_eq_true'] at passes
    rcases passes with inState | ⟨inState, notAfter⟩ <;>
      simp_all [guardFacts, TurnEvidence.kind, kind]
  · cases passes

theorem finishedAfterReport_facts (passes : finishedAfterReport ctx = true) :
    Described ctx (guardFacts .finishedAfterReport) := by
  have admitted : (admissionOf ctx).any (fun admission =>
      admission.isStrong || admission.isWeak || admission.isDecline) = true →
        Fact.Holds ctx (.admission .strong) ∨ Fact.Holds ctx (.admission .weak) ∨
          Fact.Holds ctx (.admission .decline) := by
    intro admitted
    rw [Option.any_eq_true] at admitted
    rcases admitted with ⟨admission, found, passes⟩
    cases admission <;> simp_all [EvidenceAdmission.kind,
      EvidenceAdmission.isStrong, EvidenceAdmission.isWeak, EvidenceAdmission.isDecline]
  simp only [finishedAfterReport, and_eq_true] at passes
  rcases passes with ⟨reported, idle⟩
  have reportedFact : Fact.Holds ctx (.is .reported true) := reported
  split at idle
  · rcases admitted idle with strong | weak | decline <;> simp_all [guardFacts]
  · rcases admitted idle with strong | weak | decline <;> simp_all [guardFacts]
  · rename_i found
    have kind : Fact.Holds ctx (.kind .noProgress) := by
      simp [TurnEvidence.kind, kind, found]
    simp_all [guardFacts]
  · cases idle

theorem exitFailed_of_exitAfterReport (passes : exitAfterReport ctx = true) :
    guards .providerFailure ctx = false := by
  simp only [exitAfterReport, and_eq_true] at passes
  simp only [guards]
  split
  · rename_i found
    rw [found] at passes
    simpa using passes.1.1
  · rfl

theorem described_of_guards {guard : GuardId} (passes : guards guard ctx = true) :
    Described ctx (guardFacts guard) := by
  cases guard with
  | activityKeepsState => exact activityKeepsState_facts passes
  | finishedAfterReport => exact finishedAfterReport_facts passes
  | endGenuine => exact ⟨_, .head _, endGenuine_facts passes⟩
  | endWeak => exact ⟨_, .head _, endWeak_facts passes⟩
  | endWeakAfterTimeout => exact ⟨_, .head _, endWeakAfterTimeout_facts passes⟩
  | endReportAwaited | endReportAwaitedHeld =>
    simp only [guards, and_eq_true, not_eq_true'] at passes
    exact ⟨_, .head _, reportAwaited_facts passes.1.1.1 passes.1.1.2 passes.1.2 passes.2⟩
  | hollowRetry =>
    simp only [guards, and_eq_true, not_eq_true'] at passes
    exact ⟨_, .head _, hollowEnd_facts passes.1 passes.2⟩
  | hollowExhausted =>
    simp only [guards, and_eq_true] at passes
    exact ⟨_, .head _, hollowEnd_facts passes.1 passes.2⟩
  | endProviderFailure =>
    simp only [guards, and_eq_true, not_eq_true'] at passes
    have ended := passes.1.1
    rw [Option.any_eq_true] at ended
    rcases ended with ⟨body, found, failed⟩
    have kind := kind_of_turnEnd found
    simp_all [guardFacts, GuardAtom.eval, notHeld]
  | finalStrongReportAwaited =>
    simp only [guards, and_eq_true, not_eq_true'] at passes
    have facts := finalStrong_facts passes.1.1.1 passes.1.1.2
    simp_all [guardFacts]
  | finalStrong =>
    simp only [guards, finalStrong, and_eq_true, not_eq_true'] at passes
    have facts := finalStrong_facts passes.1.1.1 passes.1.1.2
    simp_all [guardFacts]
  | finalWeak =>
    simp only [guards, and_eq_true, not_eq_true'] at passes
    have facts := finalWeak_facts passes.1
    simp_all [guardFacts]
  | finalWeakProbe =>
    simp only [guards, and_eq_true, or_eq_true, not_eq_true'] at passes
    rcases passes with ⟨unreported, ⟨weak, scraped⟩ | probed⟩
    · have facts := finalWeak_facts weak
      simp_all [guardFacts]
    · have facts := ownerProbed_facts probed
      simp_all [guardFacts]
  | genuineEndOrStrongFinal =>
    simp only [guards, finalStrong, and_eq_true, or_eq_true, not_eq_true'] at passes
    rcases passes with genuine | ⟨⟨⟨⟨kind, strong⟩, notProbed⟩, unreported⟩, notHeld⟩
    · have facts := endGenuine_facts genuine
      simp_all [guardFacts]
    · have facts := finalStrong_facts kind strong
      simp_all [guardFacts]
  | weakEndOrFinal =>
    simp only [guards, and_eq_true, or_eq_true, not_eq_true'] at passes
    rcases passes with (weak | weak) | ⟨probed, notHeld⟩
    · have facts := endWeak_facts weak
      simp_all [guardFacts]
    · have facts := finalWeak_facts weak
      simp_all [guardFacts]
    · have facts := ownerProbed_facts probed
      simp_all [guardFacts]
  | admissionHold =>
    have admitted := admission_kind kind_of_isHold passes
    simp_all [guards, guardFacts]
  | admissionDecline =>
    simp only [guards, and_eq_true, not_eq_true'] at passes
    have admitted := admission_kind kind_of_isDecline passes.1
    simp_all [guardFacts]
  | heldProviderSetup =>
    have current : staleModalResolution ctx = false ∧
        ctx.attempt.any underProviderSetup = true := by
      simp only [guards, heldProviderSetup, and_eq_true, not_eq_true'] at passes
      refine ⟨?_, passes.2⟩
      unfold staleModalResolution
      split
      · rename_i found
        rw [found] at passes
        have sameModal := passes.1
        simp only [and_eq_false_iff] at sameModal ⊢
        rcases sameModal with absent | same
        · exact .inl (.inl absent)
        · exact .inr same
      · rfl
    simp_all [guardFacts]
  | livenessFatal =>
    simp only [guards, and_eq_true, or_eq_true] at passes
    rcases passes with dead | ⟨failed, reached⟩ <;> simp_all [guardFacts]
  | finalPresent =>
    simp only [guards, and_eq_true, not_eq_true'] at passes
    rcases passes with ⟨present, unreported⟩
    split at present
    · rename_i found
      simp_all [guardFacts, TurnEvidence.kind, kind]
    · cases present
  | exitAfterReport =>
    have exit := exitFailed_of_exitAfterReport passes
    have reported : reportedThisGeneration ctx = true := by
      simp only [guards, exitAfterReport, and_eq_true] at passes
      exact passes.1.2
    simp_all [guards, guardFacts]
  | noProviderFailure =>
    have exit : guards .providerFailure ctx = false := by
      simp only [guards, and_eq_true] at passes ⊢
      split
      · rename_i found
        rw [found] at passes
        simpa using passes.1
      · rfl
    simp only [guards, and_eq_true, not_eq_true'] at passes
    simp_all [guardFacts]
  | holdDirectReportMissing =>
    simp only [guards, and_eq_true, not_eq_true'] at passes
    rcases passes with ⟨⟨⟨direct, held⟩, correction⟩, unreported⟩
    rcases expired_of_holdIs held with ⟨hold, expired, member⟩
    refine ⟨_, mem_map_of_mem member, ?_⟩
    simp_all
  | holdAdmission =>
    rcases expired_of_holdIs passes with ⟨hold, expired, member⟩
    simp_all [guardFacts]
  | holdWeakCandidate =>
    simp only [guards, and_eq_true, not_eq_true'] at passes
    have expired := expired_of_holdIs_singleton passes.1.1.1
    have probed := freshProbe_of_freshAlive passes.2
    simp_all [guardFacts]
  | holdQueueReportMissing =>
    simp only [guards, and_eq_true, not_eq_true'] at passes
    have missing := passes.1.1
    simp only [queueReportMissing, and_eq_true, not_eq_true'] at missing
    have expired := expired_of_holdIs_singleton missing.1.2
    have notDirect : ctx.inScope .meshDirect = false := by
      have queue := missing.1.1
      unfold GuardCtx.inScope at queue ⊢
      cases present : ctx.attempt with
      | none => rfl
      | some attempt =>
        rw [present, any_some, beq_iff_eq] at queue
        simp [queue]
    simp_all [guardFacts]
  | holdAwaitReport =>
    simp only [guards, and_eq_true, not_eq_true'] at passes
    have expired := expired_of_holdIs_singleton passes.1.1.1.1.1
    have probed := freshProbe_of_freshAlive passes.2
    simp_all [guardFacts, endTimerFacts]
  | holdNativeProbeReportOnly =>
    simp only [guards, and_eq_true, not_eq_true'] at passes
    have expired := expired_of_holdIs_singleton passes.1.1.1.1
    simp_all [guardFacts]
  | holdEndUnconfirmedDefer =>
    simp only [guards, and_eq_true, not_eq_true', decide_eq_true_eq] at passes
    rcases endTimer_facts passes.1.1 with ⟨reason, member, facts⟩
    refine ⟨_, mem_map_of_mem member, ?_⟩
    have remaining : ¬ maxUnconfirmedEndDeferrals ≤ unconfirmedEndDeferrals ctx := by
      have fewer := passes.2
      omega
    simp_all
  | holdEndUnconfirmedExhausted =>
    simp only [guards, and_eq_true, not_eq_true', decide_eq_true_eq] at passes
    rcases endTimer_facts passes.1.1.1 with ⟨reason, member, facts⟩
    refine ⟨_, mem_map_of_mem member, ?_⟩
    simp_all
  | holdEndProbeMissing =>
    simp only [guards, and_eq_true, not_eq_true', decide_eq_true_eq] at passes
    rcases endTimer_facts passes.1.1 with ⟨reason, member, facts⟩
    refine ⟨_, mem_map_of_mem member, ?_⟩
    simp_all
  | settleIdleReportOwed =>
    simp only [guards, settleIdleReportOwed, GuardCtx.isKind, and_eq_true,
      not_eq_true', beq_iff_eq] at passes
    simp_all [guardFacts]
  | holdAwaitDelivery | holdAwaitTurn | holdLiveness | holdHardCeiling
  | holdSuspensionBeforeConsumed =>
    exact ⟨_, .head _, by simpa using expired_of_holdIs_singleton passes⟩
  | holdAwaitConsumeRedrive | holdAwaitConsumeExhausted | holdReportCorrection | holdAwaitEnd =>
    simp only [guards, and_eq_true, not_eq_true'] at passes
    have expired := expired_of_holdIs_singleton passes.1
    simp_all [guardFacts]
  | unbound | bound | staleModalResolution | confirmedProviderSetup | falseIdleResumed
  | afterWeakSince | livenessUnknown | livenessFailedNonfatal | providerFailure =>
    simp_all [guards, guardFacts]
  | otherwise | prevGenerationCompletion | staleSessionDistinct | reclaimingRefusal
  | suspensionChanged | reportedTerminal | holderIsThisAttempt | parkedSuspensionObservation =>
    simp [guardFacts]

end Soundness

end Adhdev.TurnLedger
