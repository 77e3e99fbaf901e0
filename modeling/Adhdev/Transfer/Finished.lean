import Adhdev.Transfer.Moves

/-! # Finished transfers

What a step can do to a transfer that has ended. The authorisation guard finds no
problem with a record that has no approval, so work that an end does not stop goes on
as if nothing had happened.
-/

namespace Adhdev.Transfer

namespace Engine

variable {engine after : Engine} {env : Env}

/-! ## Ended records have no approval -/

def Closed (engine : Engine) : Prop :=
  engine.record.state.isTerminal = true → engine.record.localApproval = none

theorem Closed.of_eq (closed : engine.Closed) (state : after.record.state = engine.record.state)
    (approval : after.record.localApproval = engine.record.localApproval) : after.Closed := by
  rw [Closed, state, approval]
  exact closed

theorem closed_of_open (goesOn : engine.record.state.isTerminal = false) : engine.Closed :=
  fun ended => absurd (goesOn.symm.trans ended) Bool.false_ne_true

theorem closed_moves : Moves fun before after : Engine => before.Closed → after.Closed where
  trans earlier later closed := later (earlier closed)
  same _ state approval _ closed := closed.of_eq state approval
  opens _ _ goesOn _ := closed_of_open goesOn
  terminates before env termination code closed := by
    rw [terminate]
    split
    · exact closed
    · exact fun _ => rfl

theorem act_closed (action : Action) (closed : engine.Closed) : (engine.act env action).1.Closed :=
  act_moves closed_moves engine env action (fun _ _ _ _ => rfl) closed

/-! ## Steps after an end -/

/-- No change of state, no link and no receipt. -/
structure Unmoved (before after : Engine) : Prop where
  state : after.record.state = before.record.state
  linksOpened : after.linksOpened = before.linksOpened
  receipts : after.receipts = before.receipts

instance (before after : Engine) : Decidable (Unmoved before after) :=
  decidable_of_iff (after.record.state = before.record.state ∧
      after.linksOpened = before.linksOpened ∧ after.receipts = before.receipts)
    ⟨fun ⟨state, links, receipts⟩ => ⟨state, links, receipts⟩,
      fun unmoved => ⟨unmoved.state, unmoved.linksOpened, unmoved.receipts⟩⟩

theorem Unmoved.refl (engine : Engine) : Unmoved engine engine := ⟨rfl, rfl, rfl⟩

theorem Unmoved.trans {first second third : Engine} (earlier : Unmoved first second)
    (later : Unmoved second third) : Unmoved first third :=
  ⟨later.state.trans earlier.state, later.linksOpened.trans earlier.linksOpened,
    later.receipts.trans earlier.receipts⟩

/-- The steps that an end does not stop: a freeze past its last check for a cancel, an
accepted link attempt, and a receiving session that has finished. -/
def overruns (engine : Engine) (env : Env) : Action → Bool
  | .resume (.freezing runId 0) (.frozen (.ok _)) =>
    engine.pending.contains (.freezing runId 0) && env.linkFactory &&
      !((engine.run? runId).any (·.relay) && engine.exceedsRelayLimits env)
  | .resume (.sending runId opener) (.replied (.ok _)) =>
    engine.pending.contains (.sending runId opener)
  | .sessionFinished runId _ _ =>
    engine.record.role == .target && (engine.run? runId).any (·.awaited)
  | _ => false

theorem revert_unmoved (result : Except String Nat) :
    Unmoved engine (engine.revert env result).1 := by
  rw [revert]
  split
  · exact Unmoved.refl _
  split
  · exact Unmoved.refl _
  split
  · exact Unmoved.refl _
  split
  · exact Unmoved.refl _
  split
  · exact Unmoved.refl _
  split
  · exact Unmoved.refl _
  · exact ⟨rfl, rfl, rfl⟩

section Ended

variable (ended : engine.record.state.isTerminal = true)
include ended

theorem terminate_ended (termination : Termination) (code : String) :
    engine.terminate env termination code = engine := by
  rw [terminate, if_pos ended]

theorem terminate_unmoved (termination : Termination) (code : String) :
    Unmoved engine (engine.terminate env termination code) := by
  rw [terminate_ended ended]
  exact Unmoved.refl _

theorem guard_ended (closed : engine.Closed) : engine.guard env = (engine, none) := by
  rw [guard, authorizationProblem, closed ended]

theorem onSessionFailure_ended (runId : Nat) (code : String) :
    engine.onSessionFailure env runId code = engine := by
  rw [onSessionFailure]
  split
  · rfl
  · rw [if_pos (by simp [ended])]

theorem caught_ended (runId : Nat) (code : String) (opener : Opener) :
    Unmoved engine (engine.caught env runId code opener) := by
  cases opener with
  | start =>
    rw [caught, terminate_ended ended]
    exact ⟨rfl, rfl, rfl⟩
  | retry =>
    rw [caught, onSessionFailure_ended ended]
    exact Unmoved.refl _

theorem maybeStart_ended : engine.maybeStart env = engine := by
  rw [maybeStart, if_pos (by simp [ended])]

theorem maybeStart_unmoved : Unmoved engine (engine.maybeStart env) := by
  rw [maybeStart_ended ended]
  exact Unmoved.refl _

theorem accountRelay_ended (runId : Nat) : Unmoved engine (engine.accountRelay env runId) := by
  rw [accountRelay]
  split
  · exact Unmoved.refl _
  dsimp only
  split
  · exact Unmoved.refl _
  split
  · refine Unmoved.trans ?_ (terminate_unmoved ?_ _ _)
    · exact ⟨rfl, rfl, rfl⟩
    · exact ended
  · exact ⟨rfl, rfl, rfl⟩

theorem approve_ended (digest : String) (replaceDigest : Option String) :
    (engine.approve env digest replaceDigest).1 = engine := by
  rw [approve, if_pos ended]

theorem restart_ended : Unmoved engine (engine.restart env) := by
  have read : (engine.record.withProgress engine.saved).state.isTerminal = true := ended
  rw [restart, sweep]
  simp only [read, Bool.true_or, if_true]
  exact ⟨rfl, rfl, rfl⟩

theorem onPeerApproval_ended (digest : String) (approved : Bool) :
    Unmoved engine (engine.onPeerApproval env digest approved).1 := by
  rw [onPeerApproval]
  split
  · exact Unmoved.refl _
  dsimp only
  split
  · refine Unmoved.trans ?_ (maybeStart_unmoved ?_)
    · exact ⟨rfl, rfl, rfl⟩
    · exact ended
  split
  · refine Unmoved.trans ?_ (terminate_unmoved ?_ _ _)
    · exact ⟨rfl, rfl, rfl⟩
    · exact ended
  · exact ⟨rfl, rfl, rfl⟩

theorem onContent_ended (closed : engine.Closed) (offer : ContentOffer) :
    (engine.onContent env offer).1 = engine := by
  rw [onContent]
  split
  · rfl
  · rw [if_pos (by simp [closed ended])]

theorem onPeerState_ended (state : PeerState) : (engine.onPeerState env state).1 = engine := by
  cases state with
  | completed name =>
    rw [onPeerState.eq_def]
    dsimp only
    split
    · rfl
    rw [if_pos]
    revert ended
    cases engine.record.state <;> simp [TransferState.isTerminal]
  | failed code =>
    rw [onPeerState.eq_def]
    dsimp only
    split
    · rfl
    · exact terminate_ended ended _ _
  | other => rfl

theorem handlePeerOp_ended (closed : engine.Closed) (op : PeerOp) :
    Unmoved engine (engine.handlePeerOp env op).1 := by
  rw [handlePeerOp.eq_def]
  split
  · exact Unmoved.refl _
  cases op with
  | approval digest approved => exact onPeerApproval_ended ended digest approved
  | agentApprove digest =>
    dsimp only
    rw [onAgentApprove]
    split
    · exact Unmoved.refl _
    split
    · exact Unmoved.refl _
    · rw [approve_ended ended]
      exact Unmoved.refl _
  | content offer =>
    dsimp only
    rw [onContent_ended ended closed]
    exact Unmoved.refl _
  | cancel =>
    dsimp only
    rw [terminate_ended ended]
    exact Unmoved.refl _
  | state state =>
    dsimp only
    rw [onPeerState_ended ended]
    exact Unmoved.refl _

theorem openSourceLink_ended (closed : engine.Closed) (runId : Nat) (opener : Opener)
    (refused : (env.linkFactory &&
      !((engine.run? runId).any (·.relay) && engine.exceedsRelayLimits env)) = false) :
    Unmoved engine (engine.openSourceLink env runId opener) := by
  rw [openSourceLink, guard_ended ended closed]
  dsimp only
  split
  · exact caught_ended ended _ _ _
  next factory =>
    split
    · exact caught_ended ended _ _ _
    next fits => simp_all

theorem openSourceLink_links (closed : engine.Closed) (runId : Nat) (opener : Opener)
    (goesOn : (env.linkFactory &&
      !((engine.run? runId).any (·.relay) && engine.exceedsRelayLimits env)) = true) :
    (engine.openSourceLink env runId opener).record.state = .linking := by
  rw [openSourceLink, guard_ended ended closed]
  dsimp only
  split
  next factory => simp_all
  · split
    next exceeds => simp_all
    · rfl

theorem not_unmoved_of_open (goesOn : after.record.state.isTerminal = false) :
    ¬ Unmoved engine after := by
  intro unmoved
  rw [unmoved.state, ended] at goesOn
  cases goesOn

end Ended

theorem terminate_receipts (goesOn : engine.record.state.isTerminal = false)
    (termination : Termination) (code : String) :
    (engine.terminate env termination code).receipts ≠ engine.receipts := by
  rw [terminate, if_neg (by simp [goesOn])]
  dsimp only
  rw [teardownRun_receipts, cancelRun_receipts]
  simp

theorem completeRecord_receipts : (engine.completeRecord env).receipts ≠ engine.receipts := by
  rw [completeRecord]
  dsimp only
  rw [teardownRun_receipts]
  simp

theorem finishTarget_receipts (approval : engine.record.localApproval = none)
    (verified : Except String Unit) (published : Except String String) :
    (engine.finishTarget env verified published).receipts ≠ engine.receipts := by
  have guards : (engine.setState env .verifying).guard env =
      (engine.setState env .verifying, none) := by
    rw [guard, authorizationProblem, show (engine.setState env .verifying).record.localApproval =
      none from approval]
  rw [finishTarget.eq_def]
  dsimp only
  split
  · refine terminate_receipts ?_ _ _
    rfl
  rw [guards]
  dsimp only
  split
  · refine terminate_receipts ?_ _ _
    rfl
  split
  · refine terminate_receipts ?_ _ _
    rfl
  · exact completeRecord_receipts

theorem sessionFinished_unmoved_iff (ended : engine.record.state.isTerminal = true)
    (closed : engine.Closed) (runId : Nat) (verified : Except String Unit)
    (published : Except String String) :
    Unmoved engine (engine.sessionFinished env runId verified published) ↔
      overruns engine env (.sessionFinished runId verified published) = false := by
  rw [sessionFinished, overruns]
  cases awaited : (engine.run? runId).any (·.awaited) with
  | false =>
    simp only [Bool.not_false, if_true, Bool.and_false]
    exact iff_of_true (Unmoved.refl _) trivial
  | true =>
    simp only [Bool.not_true, Bool.false_eq_true, if_false, Bool.and_true]
    cases role : engine.record.role with
    | source =>
      refine iff_of_true ?_ rfl
      dsimp only
      rw [if_pos (show (engine.changeRun runId _).record.state.isTerminal = true from ended)]
      exact ⟨rfl, rfl, rfl⟩
    | target =>
      refine iff_of_false ?_ (by simp)
      intro unmoved
      have wrote := @finishTarget_receipts
        (engine.changeRun runId fun run => { run with awaited := false }) env
        (closed ended) verified published
      exact wrote unmoved.receipts

theorem frozen_unmoved_iff (ended : engine.record.state.isTerminal = true) (closed : engine.Closed)
    {runId left : Nat} (waits : engine.pending.contains (.freezing runId left) = true)
    (result : Except String (List ContentFileInfo)) : Unmoved engine ({ engine with
        pending := engine.pending.erase (.freezing runId left) }.frozen env runId left result) ↔
      overruns engine env (.resume (.freezing runId left) (.frozen result)) = false := by
  cases result with
  | error code =>
    rw [frozen.eq_def]
    refine iff_of_true (Unmoved.trans ?_ (caught_ended ?_ _ _ _)) ?_
    · exact ⟨rfl, rfl, rfl⟩
    · exact ended
    · cases left <;> rfl
  | ok files =>
    cases left with
    | succ left =>
      refine iff_of_true ?_ rfl
      rw [frozen]
      split
      · refine Unmoved.trans ?_ (caught_ended ?_ _ _ _)
        · exact ⟨rfl, rfl, rfl⟩
        · exact ended
      · exact ⟨rfl, rfl, rfl⟩
    | zero =>
      rw [frozen]
      dsimp only
      cases goesOn : env.linkFactory &&
          !((engine.run? runId).any (·.relay) && engine.exceedsRelayLimits env) with
      | false =>
        refine iff_of_true (Unmoved.trans ?_ (openSourceLink_ended ?_ ?_ _ _ ?_)) ?_
        · exact ⟨rfl, rfl, rfl⟩
        · exact ended
        · exact closed.of_eq rfl rfl
        · exact goesOn
        · rw [overruns, Bool.and_assoc, goesOn, Bool.and_false]
      | true =>
        refine iff_of_false (not_unmoved_of_open ended ?_) ?_
        · rw [openSourceLink_links]
          · rfl
          · exact ended
          · exact closed.of_eq rfl rfl
          · exact goesOn
        · rw [overruns, Bool.and_assoc, goesOn, waits]
          simp

theorem resume_unmoved_iff (ended : engine.record.state.isTerminal = true) (closed : engine.Closed)
    (work : Work) (answer : Answer) : Unmoved engine (engine.resume env work answer) ↔
      overruns engine env (.resume work answer) = false := by
  rw [resume]
  by_cases waits : work ∈ engine.pending
  · rw [if_neg (by simpa using waits)]
    dsimp only
    have contains : engine.pending.contains work = true := by simpa using waits
    cases work with
    | approving =>
      cases answer with
      | frozen | replied => exact iff_of_true (Unmoved.refl _) rfl
      | dispatched =>
        refine iff_of_true (Unmoved.trans ?_ (maybeStart_unmoved ?_)) rfl
        · exact ⟨rfl, rfl, rfl⟩
        · exact ended
    | sending runId opener =>
      cases answer with
      | frozen | dispatched => exact iff_of_true (Unmoved.refl _) rfl
      | replied result =>
        cases result with
        | error code =>
          refine iff_of_true (Unmoved.trans ?_ (caught_ended ?_ _ _ _)) rfl
          · exact ⟨rfl, rfl, rfl⟩
          · exact ended
        | ok =>
          refine iff_of_false ?_ (by simp [overruns, waits])
          intro unmoved
          have opened : engine.linksOpened ++ [engine.record.linkGen] =
              engine.linksOpened := unmoved.linksOpened
          simp at opened
    | freezing runId left =>
      cases answer with
      | replied | dispatched => exact iff_of_true (Unmoved.refl _) (by cases left <;> rfl)
      | frozen result => exact frozen_unmoved_iff ended closed contains result
  · rw [if_pos (by simpa using waits)]
    refine iff_of_true (Unmoved.refl _) ?_
    have absent : engine.pending.contains work = false := by simpa using waits
    rw [overruns.eq_def]
    split <;> simp_all

theorem act_unmoved_iff (ended : engine.record.state.isTerminal = true)
    (closed : engine.Closed) (action : Action) :
    Unmoved engine (engine.act env action).1 ↔ overruns engine env action = false := by
  have still : Unmoved engine engine := Unmoved.refl engine
  cases action with
  | resume work answer => exact resume_unmoved_iff ended closed work answer
  | sessionFinished runId verified published =>
    exact sessionFinished_unmoved_iff ended closed runId verified published
  | approve digest replaceDigest =>
    refine iff_of_true ?_ rfl
    rw [act, approve_ended ended]
    exact still
  | revokeApproval =>
    refine iff_of_true ?_ rfl
    rw [act, revokeApproval, closed ended]
    exact still
  | cancel =>
    refine iff_of_true ?_ rfl
    rw [act, cancel, if_pos ended]
    exact still
  | revert result => exact iff_of_true (revert_unmoved result) rfl
  | sweep =>
    refine iff_of_true ?_ rfl
    rw [act, sweep, if_pos ended]
    exact still
  | authorityChanged =>
    refine iff_of_true ?_ rfl
    rw [act, onAuthorityChanged, if_pos ended]
    exact still
  | restart => exact iff_of_true (restart_ended ended) rfl
  | shutdown =>
    refine iff_of_true ?_ rfl
    rw [act, teardownRun]
    split
    · exact still
    · exact ⟨rfl, rfl, rfl⟩
  | peer op => exact iff_of_true (handlePeerOp_ended ended closed op) rfl
  | sessionFailed runId code =>
    refine iff_of_true ?_ rfl
    rw [act, sessionFailed]
    dsimp only
    split
    · exact still
    rw [onSessionFailure_ended]
    · exact ⟨rfl, rfl, rfl⟩
    · exact ended
  | established runId linkGen relayed =>
    refine iff_of_true ?_ rfl
    rw [act, established, if_pos (by simp [ended])]
    exact still
  | progressed runId file block | checkpointed runId file blocks =>
    refine iff_of_true (Unmoved.trans ?_ (accountRelay_ended ?_ _)) rfl
    · exact ⟨rfl, rfl, rfl⟩
    · exact ended
  | watchdog runId =>
    refine iff_of_true ?_ rfl
    rw [act, watchdogFires]
    split
    · exact still
    · exact ⟨rfl, rfl, rfl⟩
  | retryFires runId =>
    refine iff_of_true ?_ rfl
    rw [act, retryFires]
    split
    · exact still
    dsimp only
    rw [if_pos]
    · exact ⟨rfl, rfl, rfl⟩
    · exact ended

end Engine

/-! ## Runs -/

section Runs

variable {offered : Offered}

open Engine

theorem reachable_closed {engine : Engine}
    (reachable : (transferMachine offered).Reachable engine) : engine.Closed := by
  have preserved : ∀ (before : Engine) (input : Env × Action), before.Closed →
      ((transferMachine offered).next before input).Closed :=
    fun before input closed => act_closed input.2 closed
  refine Machine.Reachable.induction ?_ preserved reachable
  refine closed_of_open ?_
  cases role : offered.role <;> simp [transferMachine, offeredEngine, offeredRecord, role,
    TransferState.isTerminal]

/-- A finished transfer stays finished in a run exactly when no step of it is work that
the end has not stopped. -/
theorem stays_finished_iff (offered : Offered) (inputs : List (Env × Action)) :
    (∀ step ∈ (transferMachine offered).steps inputs,
        step.before.record.state.isTerminal = true → Unmoved step.before step.after) ↔
      ∀ step ∈ (transferMachine offered).steps inputs, step.before.record.state.isTerminal = true →
          overruns step.before step.input.1 step.input.2 = false := by
  refine forall_congr' fun step => forall_congr' fun member => forall_congr' fun ended => ?_
  exact act_unmoved_iff ended (reachable_closed (Machine.reachable_of_mem_steps member))
    step.input.2

end Runs

namespace CancelledFreeze

open OneFile

/-- Both owners approve, and the source's cancels while its only file is read. -/
def inputs : List (Env × Action) := [
  (env, .approve "d" none), (env, .peer (.approval "d" true)), (env, .cancel),
  (env, .resume (.freezing 0 0) (.frozen (.ok files)))]

end CancelledFreeze

open OneFile CancelledFreeze in
/-- The cancelled transfer is linking again. -/
theorem cancelled_freeze_links : ¬ ∀ step ∈ (transferMachine (offer .source)).steps inputs,
    step.before.record.state.isTerminal = true → Engine.Unmoved step.before step.after := by
  decide

end Adhdev.Transfer
