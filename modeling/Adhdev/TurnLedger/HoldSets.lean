import Adhdev.TurnLedger.Consistency

/-! # The active holds

Which reasons can be held in which states, and the one timer that is armed once
for the whole life of an attempt. -/

namespace Adhdev.TurnLedger

open MeshShared

/-! ## Where a hold can come from -/

variable {reason : HoldReason}

theorem Fate.Sound.held_before {ctx : GuardCtx} {fate : Fate} {after : Option TurnHold}
    (sound : fate.Sound ctx reason (heldFor ctx.holds reason) after)
    (neverArms : fate.neverArms = true) (held : after.isSome = true) :
    (heldFor ctx.holds reason).isSome = true := by
  rcases sound.origin neverArms held with before | ⟨hold, expired, sameReason⟩
  · exact before
  · rw [← sameReason]
    exact KeyedMap.lookup_isSome_of_mem (mem_of_expiredHold expired)

theorem awaitReportHeld_iff {ctx : GuardCtx} {attempt : TurnAttempt}
    (present : ctx.attempt = some attempt) (shaped : HoldsShaped attempt ctx.holds) :
    awaitReportHeld ctx = (heldFor ctx.holds .awaitReport).isSome := by
  rw [Bool.eq_iff_iff]
  simp only [awaitReportHeld, present, Option.any_some, List.any_eq_true, Bool.and_eq_true,
    beq_iff_eq]
  constructor
  · rintro ⟨hold, member, sameReason, _⟩
    rw [← sameReason]
    exact KeyedMap.lookup_isSome_of_mem member
  intro held
  rcases Option.isSome_iff_exists.mp held with ⟨hold, found⟩
  have member : hold ∈ ctx.holds := KeyedMap.mem_of_lookup found
  exact ⟨hold, member, KeyedMap.label_of_lookup found, (shaped.shape hold member).attemptId⟩

/-! ## The invariant -/

/-- The timers of an idle worker whose turn may have ended. -/
def endReasons : List HoldReason := [.weakCandidate, .awaitReport]

def meshReasons : List HoldReason :=
  [.awaitDelivery, .awaitConsume, .awaitTurn, .awaitReport, .awaitEnd]

structure HoldsPlaced (attempt : TurnAttempt) (holds : List TurnHold) : Prop where
  finalizing : ∀ reason ∈ endReasons, (heldFor holds reason).isSome = true →
    attempt.state = .finalizing
  exclusive : (heldFor holds .weakCandidate).isSome = true → heldFor holds .awaitReport = none
  mesh : ∀ reason ∈ meshReasons, (heldFor holds reason).isSome = true → isMeshScope attempt = true

section Moving

variable {input : ReduceInput} {attempt next : TurnAttempt} {lane : LaneClass}
  {rule : TransitionRule} {holds : List TurnHold}

/-- How a moving rule of state `state` treats the end timer of `reason`. -/
def placesEndTimer (rule : TransitionRule) (state : TurnState) (reason : HoldReason) : Bool :=
  [true, false].all fun mesh =>
    !rule.footprint.state && rule.nominal state == .finalizing ||
      rule.fate mesh reason == .dropped ||
      (rule.fate mesh reason).neverArms &&
        (state != .finalizing ||
          requires rule.facts (.is .awaitReportHeld (reason == .weakCandidate)))

theorem placesEndTimer_of_matched (present : input.attempt = some attempt)
    (matched : Matched input lane rule) (moving : rule.isMoving = true)
    (notStopping : attempt.state ≠ .stopping) (member : reason ∈ endReasons) :
    placesEndTimer rule attempt.state reason = true := by
  have checked : tableCheck (fun rule state => !rule.isMoving || state == .stopping ||
      endReasons.all (placesEndTimer rule state)) = true := by
    decide
  have property := matched.of_tableCheck checked present
  simp only [moving, Bool.not_true, Bool.false_or, Bool.or_eq_true, beq_iff_eq, notStopping,
    false_or, List.all_eq_true] at property
  exact property reason member

def separatesEndTimers (rule : TransitionRule) (state : TurnState) : Bool :=
  [true, false].all fun mesh =>
    rule.fate mesh .weakCandidate == .dropped || rule.fate mesh .awaitReport == .dropped ||
      (rule.fate mesh .weakCandidate).neverArms && (rule.fate mesh .awaitReport).neverArms ||
      state != .finalizing &&
        ((rule.fate mesh .weakCandidate).neverArms || (rule.fate mesh .awaitReport).neverArms)

theorem separatesEndTimers_of_matched (present : input.attempt = some attempt)
    (matched : Matched input lane rule) (moving : rule.isMoving = true) :
    separatesEndTimers rule attempt.state = true := by
  have checked : tableCheck (fun rule state => !rule.isMoving || separatesEndTimers rule state) =
      true := by decide
  simpa [moving] using matched.of_tableCheck checked present

theorem neverArms_of_plain (present : input.attempt = some attempt)
    (matched : Matched input lane rule) (moving : rule.isMoving = true)
    (member : reason ∈ meshReasons) : (rule.fate false reason).neverArms = true := by
  have checked : tableCheck (fun rule _ => !rule.isMoving ||
      meshReasons.all fun reason => (rule.fate false reason).neverArms) = true := by
    decide
  have property := matched.of_tableCheck checked present
  simp only [moving, Bool.not_true, Bool.false_or, List.all_eq_true] at property
  exact property reason member

theorem mem_bools (value : Bool) : value ∈ [true, false] := by
  cases value <;> decide

theorem HoldsPlaced.of_moved (placed : HoldsPlaced attempt input.holds)
    (consistent : Consistent attempt input.holds) (present : input.attempt = some attempt)
    (matched : Matched input lane rule) (moving : rule.isMoving = true)
    (notStopping : attempt.state ≠ .stopping) (moved : Moved rule attempt next)
    (fates : ∀ reason, (rule.fate (isMeshScope attempt) reason).Sound
      (input.guardCtx lane.effectiveGeneration) reason
      (heldFor input.holds reason) (heldFor holds reason)) : HoldsPlaced next holds := by
  have before : ∀ reason, (rule.fate (isMeshScope attempt) reason).neverArms = true →
      (heldFor holds reason).isSome = true → (heldFor input.holds reason).isSome = true :=
    fun reason neverArms held => (fates reason).held_before neverArms held
  have dropped : ∀ reason, rule.fate (isMeshScope attempt) reason = .dropped →
      heldFor holds reason = none := by
    intro reason isDropped
    have sound := fates reason
    rw [isDropped] at sound
    exact sound
  have waiting : awaitReportHeld (input.guardCtx lane.effectiveGeneration) =
      (heldFor input.holds .awaitReport).isSome := awaitReportHeld_iff present consistent.shaped
  constructor
  · intro reason member held
    have property := List.all_eq_true.mp
      (placesEndTimer_of_matched present matched moving notStopping member)
      (isMeshScope attempt) (mem_bools _)
    simp only [Bool.or_eq_true, Bool.and_eq_true, Bool.not_eq_true', beq_iff_eq, bne_iff_ne,
      ne_eq] at property
    rcases property with (⟨untouched, target⟩ | isDropped) | ⟨neverArms, elsewhere | required⟩
    · rcases moved.state with nominal | ⟨touched, _⟩
      · exact nominal.trans target
      · rw [untouched] at touched
        cases touched
    · rw [dropped reason isDropped] at held
      cases held
    · exact absurd (placed.finalizing reason member (before reason neverArms held)) elsewhere
    have heldBefore := before reason neverArms held
    have fact : awaitReportHeld (input.guardCtx lane.effectiveGeneration) =
        (reason == .weakCandidate) := matched.described.requires required
    rw [waiting] at fact
    rcases List.mem_cons.mp member with rfl | member
    · rw [placed.exclusive heldBefore] at fact
      cases fact
    cases List.mem_singleton.mp member
    rw [heldBefore] at fact
    cases fact
  · intro weak
    have property := List.all_eq_true.mp
      (separatesEndTimers_of_matched present matched moving) (isMeshScope attempt) (mem_bools _)
    simp only [Bool.or_eq_true, Bool.and_eq_true, beq_iff_eq, bne_iff_ne, ne_eq] at property
    by_contra both
    have report : (heldFor holds .awaitReport).isSome = true := Option.isSome_iff_ne_none.mpr both
    rcases property with ((weakDropped | reportDropped) | ⟨weakKept, reportKept⟩) |
      ⟨elsewhere, weakKept | reportKept⟩
    · rw [dropped _ weakDropped] at weak
      cases weak
    · exact both (dropped _ reportDropped)
    · have reportBefore := before _ reportKept report
      rw [placed.exclusive (before _ weakKept weak)] at reportBefore
      cases reportBefore
    · exact elsewhere (placed.finalizing .weakCandidate (by decide) (before _ weakKept weak))
    · exact elsewhere (placed.finalizing .awaitReport (by decide) (before _ reportKept report))
  · intro reason member held
    have scope : isMeshScope next = isMeshScope attempt := by
      have same : next.scope = attempt.scope := congrArg AttemptCore.scope moved.core
      simp [isMeshScope, same]
    rw [scope]
    by_contra plain
    have notMesh : isMeshScope attempt = false := by simpa using plain
    have neverArms := neverArms_of_plain present matched moving member
    rw [← notMesh] at neverArms
    exact plain (placed.mesh reason member (before reason neverArms held))

end Moving

/-! ## Every step keeps it -/

section Preservation

variable {input : ReduceInput} {attempt next : TurnAttempt} {result : ReduceResult}
  {holds : List TurnHold}

theorem holdsPlaced_of_absent (absent : ∀ reason ∈ endReasons, heldFor holds reason = none)
    (mesh : ∀ reason ∈ meshReasons, (heldFor holds reason).isSome = true →
      isMeshScope attempt = true) : HoldsPlaced attempt holds where
  finalizing reason member held := by
    rw [absent reason member] at held
    cases held
  exclusive _ := absent .awaitReport (by decide)
  mesh := mesh

theorem holdsPlaced_nil : HoldsPlaced attempt [] :=
  holdsPlaced_of_absent (fun _ _ => rfl) nofun

theorem endReasons_cases (member : reason ∈ endReasons) :
    reason = .weakCandidate ∨ reason = .awaitReport := by
  simpa [endReasons] using member

theorem holdsPlaced_of_opening (step : OpeningStep input result)
    (present : result.attempt = some attempt) : HoldsPlaced attempt result.holds := by
  cases step with
  | absent sameAttempt => cases sameAttempt.symm.trans present
  | dispatched _ opened holds =>
    cases opened.symm.trans present
    rw [holds]
    apply holdsPlaced_of_absent
    · intro reason member
      rw [heldFor_openingHolds]
      rcases endReasons_cases member with rfl | rfl <;> simp
    intro reason member held
    by_contra plain
    rw [heldFor_openingHolds] at held
    simp [plain] at held
  | plain opened holds =>
    rw [holds]
    exact holdsPlaced_nil

theorem HoldsPlaced.of_step (present : input.attempt = some attempt)
    (consistent : Consistent attempt input.holds) (placed : HoldsPlaced attempt input.holds)
    (step : AttemptStep input attempt result) (nextPresent : result.attempt = some next) :
    HoldsPlaced next result.holds := by
  cases holdStep_of_attemptStep consistent step nextPresent with
  | unchanged same sameHolds =>
    rw [same, sameHolds]
    exact placed
  | moved applied moving notStopping moved fates =>
    exact placed.of_moved consistent present applied.matched moving notStopping moved fates
  | ended _ released =>
    rw [released]
    exact holdsPlaced_nil
  | stopBegun _ _ mesh _ held =>
    apply holdsPlaced_of_absent
    · intro reason member
      rw [held reason]
      rcases endReasons_cases member with rfl | rfl <;> simp [mem_holdsKeptByStop]
    · exact fun _ _ _ => mesh
  | waits stopping _ _ within held =>
    rcases consistent.phase.stop_of_stopping stopping with ⟨_, _, _, _, mesh⟩
    apply holdsPlaced_of_absent
    · intro reason member
      have unheld : heldFor input.holds reason = none := by
        by_contra held
        have finalizing := placed.finalizing reason member (Option.isSome_iff_ne_none.mpr held)
        rw [stopping] at finalizing
        cases finalizing
      have other : reason ≠ .liveness := by
        rcases endReasons_cases member with rfl | rfl <;> decide
      rw [held reason other, unheld, ite_self]
    · exact fun _ _ _ => within.isMeshScope.trans mesh
  | requeued stopping _ _ requeued held =>
    rcases consistent.phase.stop_of_stopping stopping with ⟨_, _, _, _, mesh⟩
    apply holdsPlaced_of_absent
    · intro reason member
      rw [held reason]
      rcases endReasons_cases member with rfl | rfl <;> simp
    intro _ _ _
    rw [requeued]
    exact mesh

theorem holdsPlaced_of_reachable {state : LedgerState} (reachable : ledger.Reachable state)
    (present : state.attempt = some attempt) : HoldsPlaced attempt state.holds :=
  attempt_invariant HoldsPlaced (fun step opened => holdsPlaced_of_opening step opened)
    (fun present consistent placed step nextPresent =>
      placed.of_step present consistent step nextPresent) reachable present

end Preservation

/-! ## The hold set of a reachable state -/

section HoldSet

variable {attempt : TurnAttempt} {holds : List TurnHold}

theorem HoldsShaped.nodup_reasons (shaped : HoldsShaped attempt holds) :
    (holds.map TurnHold.reason).Nodup := by
  have ids : holds.map TurnHold.holdId =
      (holds.map TurnHold.reason).map (holdId attempt.attemptId) := by
    rw [List.map_map]
    exact List.map_congr_left fun hold member => (shaped.shape hold member).holdId
  have nodup := shaped.nodup
  rw [ids] at nodup
  exact List.Nodup.of_map _ nodup

variable {hold : TurnHold}

theorem HoldShape.generation_iff (shape : HoldShape attempt hold) :
    (hold.generation = none ↔ hold.reason = .hardCeiling) ∧
      (hold.reason ≠ .hardCeiling → hold.generation = some attempt.generation) := by
  rw [shape.generation]
  by_cases ceiling : hold.reason = .hardCeiling <;> simp [ceiling]

theorem HoldsShaped.classifyLane_expiry (shaped : HoldsShaped attempt holds)
    (member : hold ∈ holds) (ctx : ExpireHoldsContext) (nowMs untilMs : Int) :
    classifyLane (some attempt) (holdExpiredEvidence ctx nowMs hold untilMs) holds =
      .ok ⟨.current, some attempt.generation⟩ := by
  have shape := shaped.shape hold member
  have found : holds.find? (·.holdId == hold.holdId) = some hold := by
    apply KeyedMap.lookup_of_mem _ member
    intro other otherMember sameId
    exact List.inj_on_of_nodup_map shaped.nodup otherMember member sameId
  simp only [classifyLane, holdExpiredEvidence, classifyHoldExpired, found, shape.generation,
    shape.attemptId]
  by_cases ceiling : hold.reason = .hardCeiling <;> simp [ceiling, shape.generation]

theorem held_of_mem (member : hold ∈ holds) : (heldFor holds hold.reason).isSome = true :=
  KeyedMap.lookup_isSome_of_mem member

end HoldSet

/-- The hold set of every reachable attempt. -/
theorem holdSet_of_reachable {state : LedgerState} (reachable : ledger.Reachable state)
    {attempt : TurnAttempt} (present : state.attempt = some attempt) :
    (∀ hold ∈ state.holds,
      hold.holdId = holdId attempt.attemptId hold.reason ∧
        (hold.generation = none ↔ hold.reason = .hardCeiling) ∧
        (hold.reason ≠ .hardCeiling → hold.generation = some attempt.generation)) ∧
      (state.holds.map TurnHold.reason).Nodup ∧
      (attempt.state.isTerminal = true → state.holds = []) ∧
      (∀ hold ∈ state.holds, hold.reason ∈ endReasons → attempt.state = .finalizing) ∧
      (∀ hold ∈ state.holds, ∀ other ∈ state.holds,
        ¬ (hold.reason = .weakCandidate ∧ other.reason = .awaitReport)) ∧
      (∀ hold ∈ state.holds, hold.reason ∈ meshReasons → isMeshScope attempt = true) ∧
      ∀ hold ∈ state.holds, ∀ (ctx : ExpireHoldsContext) (nowMs untilMs : Int),
        classifyLane state.attempt (holdExpiredEvidence ctx nowMs hold untilMs) state.holds =
          .ok ⟨.current, some attempt.generation⟩ := by
  have consistent := (consistent_of_reachable reachable).of_present present
  have shaped := consistent.shaped
  have placed := holdsPlaced_of_reachable reachable present
  refine ⟨?_, shaped.nodup_reasons, consistent.released, ?_, ?_, ?_, ?_⟩
  · intro hold member
    have shape := shaped.shape hold member
    exact ⟨shape.holdId, shape.generation_iff.1, shape.generation_iff.2⟩
  · exact fun hold member isEnd => placed.finalizing hold.reason isEnd (held_of_mem member)
  · rintro hold member other otherMember ⟨weak, report⟩
    have weakHeld := held_of_mem member
    have reportHeld := held_of_mem otherMember
    rw [weak] at weakHeld
    rw [report, placed.exclusive weakHeld] at reportHeld
    cases reportHeld
  · exact fun hold member isMesh => placed.mesh hold.reason isMesh (held_of_mem member)
  intro hold member ctx nowMs untilMs
  rw [present]
  exact shaped.classifyLane_expiry member ctx nowMs untilMs

/-- A started queue attempt holds its liveness timer and its ceiling. -/
theorem holdSet_of_reachable_started :
    ∃ attempt, (ledger.run sampleStarted).attempt = some attempt ∧
      (ledger.run sampleStarted).holds.map TurnHold.reason = [.hardCeiling, .liveness] ∧
      ∀ hold ∈ (ledger.run sampleStarted).holds,
        hold.holdId = holdId attempt.attemptId hold.reason := by
  have started : (ledger.run sampleStarted).attempt.map (·.state) = some .generating := by
    decide
  rcases Option.map_eq_some_iff.mp started with ⟨attempt, present, _⟩
  have holdSet := holdSet_of_reachable (Machine.reachable_run sampleStarted) present
  exact ⟨attempt, present, by decide, fun hold member => (holdSet.1 hold member).1⟩

end Adhdev.TurnLedger
