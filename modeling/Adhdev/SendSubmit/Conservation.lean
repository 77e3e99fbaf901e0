import Adhdev.SendSubmit.Engine

/-! # No accepted send is lost or begun twice

Every accepted body that nobody claimed is in the queue, with the drain timer, or
begun, unless a drain armed the drain timer over a body that it still held.
-/

namespace Adhdev.SendSubmit

open List Option Bool

/-! ## Gates keep the bodies -/

/-- The gates change neither the queue nor the drain timer. -/
structure SameBodies (engine later : Engine) : Prop where
  pendingSends : later.pendingSends = engine.pendingSends
  drainTimer : later.pendingSendDrainTimer = engine.pendingSendDrainTimer

namespace SameBodies

variable {engine middle later : Engine} {host : Host}

theorem refl (engine : Engine) : SameBodies engine engine := ⟨rfl, rfl⟩

theorem trans (one : SameBodies engine middle) (two : SameBodies middle later) :
    SameBodies engine later :=
  ⟨two.pendingSends.trans one.pendingSends, two.drainTimer.trans one.drainTimer⟩

theorem isSendInFlight (engine : Engine) (host : Host) :
    SameBodies engine (engine.isSendInFlight host).1 := by
  unfold Engine.isSendInFlight
  split
  · exact .refl engine
  split
  · exact .refl engine
  · split <;> exact ⟨rfl, rfl⟩

theorem isDrainReserved (engine : Engine) (host : Host) :
    SameBodies engine (engine.isDrainReserved host).1 := by
  unfold Engine.isDrainReserved
  split
  · exact .refl engine
  · split <;> exact ⟨rfl, rfl⟩

theorem releaseConsumed (engine : Engine) (host : Host) :
    SameBodies engine (engine.releaseConsumed host) := by
  unfold Engine.releaseConsumed
  split <;> exact ⟨rfl, rfl⟩

theorem mayDrain (engine : Engine) (host : Host) : SameBodies engine (engine.mayDrain host).1 := by
  unfold Engine.mayDrain
  split
  · exact .refl engine
  dsimp only
  split
  · exact .isDrainReserved engine host
  · exact (isDrainReserved engine host).trans (.isSendInFlight _ host)

theorem canSendNow (engine : Engine) (host : Host) :
    SameBodies engine (engine.canSendNow host).1 := by
  have cleared : SameBodies engine { engine with lastPreSendAuthBlocked := false } := ⟨rfl, rfl⟩
  have checked := cleared.trans (.isSendInFlight _ host)
  have marked : ∀ {engine : Engine}, SameBodies engine (engine.isPreSendAuthRequired host).1 :=
    ⟨rfl, rfl⟩
  unfold Engine.canSendNow
  dsimp only
  split
  · exact cleared
  split
  · exact checked
  split
  · exact checked.trans marked
  split
  · exact checked
  · exact checked.trans marked

theorem sendMessageDuringGeneration (engine : Engine) (host : Host) :
    SameBodies engine (engine.sendMessageDuringGeneration host).1 := by
  unfold Engine.sendMessageDuringGeneration
  split
  · exact .refl engine
  split
  · exact .refl engine
  split
  · exact .refl engine
  · exact .isSendInFlight engine host

end SameBodies

/-! ## Drains -/

namespace Engine

def waiting (engine : Engine) : List QueuedSendEntry :=
  engine.pendingSends ++ engine.pendingSendDrainTimer.toList

def takesNext (engine : Engine) (host : Host) : Bool :=
  host.readySeenOnce && ((engine.releaseConsumed host).mayDrain host).2 &&
    !engine.pendingSends.isEmpty && !host.signInViewport

/-- The drain takes the next body while the drain timer still holds one. -/
def Overwrites (engine : Engine) (host : Host) : Prop :=
  engine.takesNext host = true ∧ engine.pendingSendDrainTimer.isSome = true

/-- The body whose timer a drain replaces. -/
def overwritten (engine : Engine) (host : Host) : List QueuedSendEntry :=
  if engine.takesNext host then engine.pendingSendDrainTimer.toList else []

theorem overwritten_eq_nil {engine : Engine} {host : Host} :
    engine.overwritten host = [] ↔ ¬ engine.Overwrites host := by
  unfold overwritten Overwrites
  cases engine.takesNext host <;> cases engine.pendingSendDrainTimer <;> simp

theorem waiting_of_same {engine later : Engine} (same : SameBodies engine later) :
    later.waiting = engine.waiting := by
  rw [waiting, waiting, same.pendingSends, same.drainTimer]

theorem waiting_drain (engine : Engine) (host : Host) :
    engine.waiting.Perm ((engine.drainPendingSends host).waiting ++ engine.overwritten host) := by
  have same := (SameBodies.releaseConsumed engine host).trans (.mayDrain _ host)
  unfold drainPendingSends overwritten takesNext
  cases ready : host.readySeenOnce with
  | false => simp
  | true =>
    simp only [Bool.not_true, Bool.false_eq_true, if_false, Bool.true_and]
    generalize (engine.releaseConsumed host).mayDrain host = gate at same ⊢
    obtain ⟨gated, mayDrain⟩ := gate
    rw [← waiting_of_same same]
    cases mayDrain with
    | false => simp
    | true =>
      simp only [Bool.true_and]
      rw [← same.pendingSends, ← same.drainTimer]
      cases queue : gated.pendingSends with
      | nil => simp
      | cons next rest =>
        by_cases authRequired : host.signInViewport = true
        · simp [isPreSendAuthRequired, authRequired, waiting, queue]
        simp only [not_eq_true] at authRequired
        simp only [isEmpty_cons, isPreSendAuthRequired, authRequired,
          Bool.false_eq_true, if_false, Bool.not_false, Bool.true_and, if_true, waiting,
          queue, armDrainTimer, armLatchWatchdog, toList_some]
        rw [List.cons_append, List.append_assoc, List.singleton_append]
        exact perm_middle.symm

end Engine

/-! ## Places -/

namespace SendState

def timerBodies (state : SendState) : List QueuedSendEntry :=
  state.engine.pendingSendDrainTimer.toList ++ state.interrupted.toList

/-- Every accepted body is with a caller that claimed it, or in exactly one of the
queue, the drain timer and the bodies begun. -/
def InOnePlace (state : SendState) : Prop :=
  state.accepted.Perm (state.claimed.map (·.entry) ++
    (state.engine.pendingSends ++ state.timerBodies ++ state.begun))

def drainsOn (state : SendState) : SendEvent → Option Engine
  | .drainPendingSends => some state.engine
  | .latchWatchdogFires =>
    if state.engine.latchWatchdogTimer.isNone then none
    else some { state.engine with latchWatchdogTimer := none }
  | .releaseDrain =>
    if state.engine.drainReservedUntil = 0 then none
    else some { state.engine with drainReservedUntil := 0 }
  | .restoreQueuedSend position =>
    match state.claimed[position]? with
    | none => none
    | some claimed =>
      if state.engine.hasQueuedSend claimed.entry.messageId then none
      else some (state.engine.reinsert claimed)
  | _ => none

/-- The event drains a queued body while the drain timer still holds one. -/
def Overwrites (state : SendState) (event : SendEvent) : Prop :=
  state.enabled event = true ∧
    ∃ engine, state.drainsOn event = some engine ∧ engine.Overwrites state.host

def lost (state : SendState) (event : SendEvent) : List QueuedSendEntry :=
  if state.enabled event then
    match state.drainsOn event with
    | none => []
    | some engine => engine.overwritten state.host
  else []

variable {event : SendEvent}
variable {state : SendState}

theorem lost_eq_nil : state.lost event = [] ↔ ¬ state.Overwrites event := by
  unfold lost Overwrites
  cases state.enabled event with
  | false => simp
  | true =>
    cases state.drainsOn event with
    | none => simp
    | some engine => simp [Engine.overwritten_eq_nil]

theorem lost_of_quiet (quiet : state.drainsOn event = none) : state.lost event = [] := by
  simp [lost, quiet]

theorem lost_of_drains {engine : Engine} (free : state.enabled event = true)
    (drains : state.drainsOn event = some engine) :
    state.lost event = engine.overwritten state.host := by
  simp [lost, free, drains]

/-- The bodies that are somewhere. -/
def places (state : SendState) : List QueuedSendEntry :=
  state.claimed.map (·.entry) ++ (state.engine.waiting ++ state.interrupted.toList ++ state.begun)

theorem inOnePlace_iff : state.InOnePlace ↔ state.accepted.Perm state.places := by
  simp only [InOnePlace, places, timerBodies, Engine.waiting, append_assoc]

structure Balanced (state later : SendState) (added lost : List QueuedSendEntry) : Prop where
  accepted : later.accepted = state.accepted ++ added
  places : (state.places ++ added).Perm (later.places ++ lost)

namespace Balanced

variable {state : SendState} {engine : Engine}

theorem refl (state : SendState) : Balanced state state [] [] :=
  ⟨(append_nil _).symm, .refl _⟩

theorem of_waiting (same : engine.waiting.Perm state.engine.waiting) :
    Balanced state { state with engine } [] [] := by
  refine ⟨(append_nil _).symm, ?_⟩
  rw [append_nil, append_nil]
  exact ((same.symm.append_right _).append_right _).append_left _

theorem of_same (same : SameBodies state.engine engine) :
    Balanced state { state with engine } [] [] :=
  of_waiting (by rw [Engine.waiting_of_same same])

theorem drain {claimed : List ClaimedQueuedSend} {back : List QueuedSendEntry}
    (waiting : engine.waiting.Perm (back ++ state.engine.waiting))
    (held : (state.claimed.map (·.entry)).Perm (back ++ claimed.map (·.entry))) :
    Balanced state { state with engine := engine.drainPendingSends state.host, claimed } []
      (engine.overwritten state.host) := by
  refine ⟨(append_nil _).symm, ?_⟩
  have drained := waiting.symm.trans (engine.waiting_drain state.host)
  rw [perm_iff_count] at drained held ⊢
  intro body
  have counted := drained body
  have heldBody := held body
  simp only [SendState.places, count_append, count_nil] at counted heldBody ⊢
  omega

theorem handleSendMessage (state : SendState) (text : String) (bracketedPaste : Bool)
    (messageId : Option String) :
    ∃ added, Balanced state (state.happens (.handleSendMessage text bracketedPaste messageId))
      added [] := by
  have same := SameBodies.canSendNow state.engine state.host
  dsimp only [happens, Engine.handleSendMessage]
  generalize state.engine.canSendNow state.host = gate at same ⊢
  obtain ⟨engine, canSend⟩ := gate
  have waiting := Engine.waiting_of_same same
  cases canSend with
  | false =>
    refine ⟨_, rfl, ?_⟩
    rw [perm_iff_count]
    intro body
    have counted := congrArg (count body) waiting
    simp only [SendState.places, Engine.waiting, count_append, count_nil] at counted ⊢
    omega
  | true =>
    refine ⟨_, rfl, ?_⟩
    rw [perm_iff_count]
    intro body
    have counted := congrArg (count body) waiting
    simp only [SendState.places, Engine.waiting, Engine.beginSend, Engine.armLatchWatchdog,
      count_append, count_nil] at counted ⊢
    omega

theorem fireDrainTimer (free : state.interrupted = none) :
    Balanced state state.fireDrainTimer [] [] := by
  unfold SendState.fireDrainTimer
  split
  · exact .refl state
  rename_i next armed
  dsimp only
  split
  · refine ⟨(append_nil _).symm, ?_⟩
    rw [perm_iff_count]
    intro body
    simp only [SendState.places, Engine.waiting, Engine.putBack, armed, count_append,
      count_cons, count_nil, toList_some, toList_none]
    omega
  split
  all_goals
    refine ⟨(append_nil _).symm, ?_⟩
    rw [perm_iff_count]
    intro body
    simp only [SendState.places, Engine.waiting, Engine.beginSend, Engine.armLatchWatchdog,
      Engine.isPreSendAuthRequired, armed, free, count_append, count_cons,
      count_nil, toList_some, toList_none]
    omega

theorem drainTimerReturns (state : SendState) :
    Balanced state (state.happens .drainTimerReturns) [] [] := by
  dsimp only [happens]
  split
  · exact .refl state
  rename_i next interrupted
  refine ⟨(append_nil _).symm, ?_⟩
  rw [perm_iff_count]
  intro body
  simp only [SendState.places, Engine.waiting, Engine.putBack, interrupted, count_append,
    count_cons, count_nil, toList_some, toList_none]
  omega

theorem claimQueuedSend (state : SendState) (messageId : String) :
    Balanced state (state.happens (.claimQueuedSend messageId)) [] [] := by
  dsimp only [happens, Engine.claimQueuedSend]
  split
  · exact .refl state
  rename_i claimed engine claims
  split at claims
  · cases claims
  obtain ⟨entry, found, same⟩ := map_eq_some_iff.mp claims
  cases same
  obtain ⟨bound, rfl⟩ := List.getElem?_eq_some_iff.mp found
  have taken := getElem_cons_eraseIdx_perm bound
  refine ⟨(append_nil _).symm, ?_⟩
  rw [perm_iff_count] at taken ⊢
  intro body
  have counted := taken body
  simp only [SendState.places, Engine.waiting, map_append, map_cons, map_nil,
    count_append, count_cons, count_nil] at counted ⊢
  omega

theorem drainInPlace (state : SendState) (engine : Engine)
    (same : engine.waiting = state.engine.waiting) :
    Balanced state { state with engine := engine.drainPendingSends state.host } []
      (engine.overwritten state.host) :=
  @drain state engine state.claimed [] (.of_eq same) (.refl _)

theorem latchWatchdogFires (state : SendState) (free : state.enabled .latchWatchdogFires = true) :
    Balanced state (state.happens .latchWatchdogFires) [] (state.lost .latchWatchdogFires) := by
  by_cases armed : state.engine.latchWatchdogTimer.isNone = true
  · rw [lost_of_quiet (by simp only [drainsOn, armed, if_true])]
    simp only [happens, armed, if_true]
    exact .refl state
  rw [lost_of_drains free (by simp only [drainsOn, armed]; rfl)]
  simp only [happens, armed, false_eq_true, if_false]
  exact drainInPlace state _ rfl

theorem releaseDrain (state : SendState) (free : state.enabled .releaseDrain = true) :
    Balanced state (state.happens .releaseDrain) [] (state.lost .releaseDrain) := by
  by_cases reserved : state.engine.drainReservedUntil = 0
  · rw [lost_of_quiet (by simp only [drainsOn, reserved, if_true])]
    simp only [happens, Engine.releaseDrain, reserved, if_true]
    exact .refl state
  rw [lost_of_drains free (by simp only [drainsOn, reserved]; rfl)]
  simp only [happens, Engine.releaseDrain, reserved, if_false]
  exact drainInPlace state _ rfl

theorem restoreQueuedSend (state : SendState) (position : Nat)
    (free : state.enabled (.restoreQueuedSend position) = true) :
    Balanced state (state.happens (.restoreQueuedSend position)) []
      (state.lost (.restoreQueuedSend position)) := by
  cases found : state.claimed[position]? with
  | none =>
    rw [lost_of_quiet (by simp only [drainsOn, found])]
    simp only [happens, found]
    exact .refl state
  | some claimed =>
    by_cases queued : state.engine.hasQueuedSend claimed.entry.messageId = true
    · rw [lost_of_quiet (by simp only [drainsOn, found, queued, if_true])]
      simp only [happens, found, queued, if_true]
      exact .refl state
    rw [lost_of_drains free (by simp only [drainsOn, found, queued]; rfl)]
    simp only [happens, found, Engine.restoreQueuedSend, queued, false_eq_true, if_false]
    obtain ⟨bound, rfl⟩ := List.getElem?_eq_some_iff.mp found
    refine @drain state _ _ [state.claimed[position].entry] ?_ ?_
    · exact (perm_insertIdx _ _ (Nat.min_le_right _ _)).append_right _
    · exact ((getElem_cons_eraseIdx_perm bound).map _).symm

end Balanced

theorem balanced_next (state : SendState) (event : SendEvent) :
    ∃ added, Balanced state (state.next event) added (state.lost event) := by
  unfold next
  split
  · rename_i free
    cases event with
    | hostChanges host => exact ⟨[], (append_nil _).symm, by rw [lost_of_quiet rfl]; exact .refl _⟩
    | handleSendMessage text bracketedPaste messageId =>
      rw [lost_of_quiet rfl]
      exact Balanced.handleSendMessage state text bracketedPaste messageId
    | sendMessageDuringGeneration =>
      rw [lost_of_quiet rfl]
      exact ⟨[], .of_same (.sendMessageDuringGeneration state.engine state.host)⟩
    | drainPendingSends =>
      rw [lost_of_drains free rfl]
      exact ⟨[], .drainInPlace state _ rfl⟩
    | drainTimerFires =>
      rw [lost_of_quiet rfl]
      exact ⟨[], .fireDrainTimer (isNone_iff_eq_none.mp free)⟩
    | drainTimerReturns =>
      rw [lost_of_quiet rfl]
      exact ⟨[], .drainTimerReturns state⟩
    | latchWatchdogFires => exact ⟨[], .latchWatchdogFires state free⟩
    | releaseDrain => exact ⟨[], .releaseDrain state free⟩
    | claimQueuedSend messageId =>
      rw [lost_of_quiet rfl]
      exact ⟨[], .claimQueuedSend state messageId⟩
    | restoreQueuedSend position => exact ⟨[], .restoreQueuedSend state position free⟩
    | reserveDrain | verdictHolds | slotReleased | rewritten =>
      rw [lost_of_quiet rfl]
      exact ⟨[], .of_same ⟨rfl, rfl⟩⟩
  · rename_i disabled
    refine ⟨[], ?_⟩
    rw [show state.lost event = [] from if_neg disabled]
    exact .refl state

end SendState

/-! ## Runs -/

def lostFrom (host : Host) (state : SendState) (events : List SendEvent) : List QueuedSendEntry :=
  ((sendMachine host).stepsFrom state events).flatMap fun step => step.before.lost step.input

theorem accounted_runFrom (host : Host) (events : List SendEvent) {state : SendState}
    {before : List QueuedSendEntry} (accounted : state.accepted.Perm (state.places ++ before)) :
    ((sendMachine host).runFrom state events).accepted.Perm
      (((sendMachine host).runFrom state events).places ++
        (before ++ lostFrom host state events)) := by
  induction events generalizing state before with
  | nil => simpa [lostFrom, Machine.runFrom, Machine.stepsFrom] using accounted
  | cons event events induction =>
    obtain ⟨added, balanced⟩ := state.balanced_next event
    have step : (state.next event).accepted.Perm
        ((state.next event).places ++ (before ++ state.lost event)) := by
      have moved := balanced.places
      rw [balanced.accepted]
      rw [perm_iff_count] at accounted moved ⊢
      intro body
      have accountedBody := accounted body
      have movedBody := moved body
      simp only [count_append] at accountedBody movedBody ⊢
      omega
    have rest := induction step
    rw [append_assoc] at rest
    exact rest

theorem accounted_run (host : Host) (events : List SendEvent) :
    ((sendMachine host).run events).accepted.Perm
      (((sendMachine host).run events).places ++ lostFrom host { host } events) := by
  have accounted := @accounted_runFrom host events { host } [] (.refl _)
  rw [nil_append] at accounted
  exact accounted

theorem inOnePlace_run_iff (host : Host) (events : List SendEvent) :
    ((sendMachine host).run events).InOnePlace ↔
      ∀ step ∈ (sendMachine host).steps events, ¬ step.before.Overwrites step.input := by
  have accounted := accounted_run host events
  have silent : (∀ step ∈ (sendMachine host).steps events,
      ¬ step.before.Overwrites step.input) ↔ lostFrom host { host } events = [] := by
    rw [lostFrom, flatMap_eq_nil_iff]
    exact forall₂_congr fun step _ => SendState.lost_eq_nil.symm
  rw [silent, SendState.inOnePlace_iff]
  constructor
  · intro placed
    have lengths := (placed.symm.trans accounted).length_eq
    rw [length_append] at lengths
    exact length_eq_zero_iff.mp (by omega)
  intro nothing
  rw [nothing, append_nil] at accounted
  exact accounted

/-- Each accepted body is in one place at every moment of exactly the runs in which no
drain replaces a drain timer that still holds a body. -/
theorem inOnePlace_iff_no_overwrite (host : Host) (events : List SendEvent) :
    (∀ earlier, earlier <+: events → ((sendMachine host).run earlier).InOnePlace) ↔
      ∀ step ∈ (sendMachine host).steps events, ¬ step.before.Overwrites step.input := by
  constructor
  · intro placed
    exact (inOnePlace_run_iff host events).mp (placed events (List.prefix_refl events))
  rintro kept earlier ⟨later, rfl⟩
  refine (inOnePlace_run_iff host earlier).mpr fun step member => kept step ?_
  rw [Machine.steps, Machine.stepsFrom_append]
  exact List.mem_append_left _ member

namespace Scenario

def idle : Host := {
  readySeenOnce := true, status := .idle, inSigningIn := false, signInViewport := false
  now := 0, win32 := false }

def generating : Host := { idle with status := .generating }

/-- Two bodies are queued; the drain timer holds the first one while the session
starts and ends a turn. -/
def quickTurn : List SendEvent := [
  .hostChanges generating, .handleSendMessage "one" false (some "m1"),
  .handleSendMessage "two" false (some "m2"), .hostChanges idle, .drainPendingSends,
  .hostChanges generating, .drainPendingSends, .hostChanges idle, .drainPendingSends]

end Scenario

open Scenario in
/-- The second drain arms the timer for the second body, and the first one is gone. -/
theorem quickTurn_not_inOnePlace :
    ¬ ∀ earlier, earlier <+: quickTurn → ((sendMachine idle).run earlier).InOnePlace := by
  intro placed
  have lengths := (placed quickTurn (List.prefix_refl _)).length_eq
  revert lengths
  decide

end Adhdev.SendSubmit
