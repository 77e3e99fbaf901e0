import Adhdev.Transfer.Engine

/-! # What the operations of a transfer are made of

Every operation ends the record, changes it to an open state, completes it, or leaves
its state, approval and receipts as they are. A relation that these keep holds across
every step.
-/

namespace Adhdev.Transfer

namespace Engine

/-- The relation is kept by whatever the operations are made of, completion apart. -/
structure Moves (R : Engine → Engine → Prop) : Prop where
  trans : ∀ {first second third : Engine}, R first second → R second third → R first third
  same : ∀ {before after : Engine}, after.record.role = before.record.role →
    after.record.state = before.record.state →
    after.record.localApproval = before.record.localApproval →
    after.receipts = before.receipts → R before after
  opens : ∀ {before after : Engine}, after.record.role = before.record.role →
    after.receipts = before.receipts → after.record.state.isTerminal = false → R before after
  terminates : ∀ (before : Engine) (env : Env) (termination : Termination) (code : String),
    R before (before.terminate env termination code)

def Completes (engine : Engine) : Action → Prop
  | .sessionFinished _ _ _ => engine.record.role = .target
  | .peer (.state (.completed _)) => engine.record.role = .source
  | _ => False

section Records

variable {engine : Engine}

theorem teardownRun_record : engine.teardownRun.record = engine.record := by
  rw [teardownRun]
  split <;> rfl

theorem cancelRun_record : engine.cancelRun.record = engine.record := by
  rw [cancelRun]
  split <;> rfl

theorem currentRun_record : engine.currentRun.1.record = engine.record := by
  rw [currentRun]
  split <;> rfl

theorem supersede_record : engine.supersede.record = engine.record := by
  rw [supersede]
  split <;> rfl

theorem teardownRun_receipts : engine.teardownRun.receipts = engine.receipts := by
  rw [teardownRun]
  split <;> rfl

theorem cancelRun_receipts : engine.cancelRun.receipts = engine.receipts := by
  rw [cancelRun]
  split <;> rfl

theorem currentRun_receipts : engine.currentRun.1.receipts = engine.receipts := by
  rw [currentRun]
  split <;> rfl

theorem supersede_receipts : engine.supersede.receipts = engine.receipts := by
  rw [supersede]
  split <;> rfl

end Records

section Moves

variable {R : Engine → Engine → Prop} (moves : Moves R) {before engine after : Engine} {env : Env}
include moves

theorem Moves.refl (engine : Engine) : R engine engine := moves.same rfl rfl rfl rfl

theorem Moves.on (earlier : R before engine) (role : after.record.role = engine.record.role)
    (state : after.record.state = engine.record.state)
    (approval : after.record.localApproval = engine.record.localApproval)
    (receipts : after.receipts = engine.receipts) : R before after :=
  moves.trans earlier (moves.same role state approval receipts)

theorem Moves.opened (earlier : R before engine) (role : after.record.role = engine.record.role)
    (receipts : after.receipts = engine.receipts) (goesOn : after.record.state.isTerminal = false) :
    R before after :=
  moves.trans earlier (moves.opens role receipts goesOn)

variable {code : String}

theorem Moves.ends {termination : Termination} (earlier : R before engine) :
    R before (engine.terminate env termination code) :=
  moves.trans earlier (moves.terminates engine env termination code)

theorem endForProblem_moves {problem : AuthorizationProblem} (earlier : R before engine) :
    R before (engine.endForProblem env problem) := by
  cases problem <;> exact moves.ends earlier

theorem guard_moves (earlier : R before engine) : R before (engine.guard env).1 := by
  rw [guard]
  split
  · exact earlier
  · exact endForProblem_moves moves earlier

theorem moves_of_guard {guarded : Engine} {code : Option String}
    (guards : engine.guard env = (guarded, code)) (earlier : R before engine) :
      R before guarded := by
  have kept : R before (engine.guard env).1 := guard_moves moves earlier
  rw [guards] at kept
  exact kept

variable {runId : Nat}

theorem accountRelay_moves (earlier : R before engine) :
    R before (engine.accountRelay env runId) := by
  rw [accountRelay]
  split
  · exact earlier
  dsimp only
  split
  · exact earlier
  split
  · exact moves.ends (moves.on earlier rfl rfl rfl rfl)
  · exact moves.on earlier rfl rfl rfl rfl

theorem scheduleRetry_moves {run : RunCtx} (earlier : R before engine) :
    R before (engine.scheduleRetry env run) := by
  rw [scheduleRetry]
  split
  · exact moves.on earlier rfl rfl rfl rfl
  split
  · exact moves.ends earlier
  · exact moves.on earlier rfl rfl rfl rfl

theorem pauseRun_moves (runId : Nat) (earlier : R before engine) :
    R before (engine.pauseRun env runId) :=
  moves.opened earlier rfl rfl rfl

theorem escalateToRelay_moves (earlier : R before engine) :
    R before (engine.escalateToRelay runId) :=
  moves.on earlier rfl rfl rfl rfl

theorem onSessionFailure_moves (earlier : R before engine) :
    R before (engine.onSessionFailure env runId code) := by
  have paused : R before (engine.pauseRun env runId) := pauseRun_moves moves runId earlier
  rw [onSessionFailure]
  split
  · exact earlier
  split
  · exact earlier
  split
  · split
    · exact escalateToRelay_moves moves paused
    · exact paused
  split
  · split
    · exact scheduleRetry_moves moves paused
    · exact paused
  · exact moves.ends earlier

variable {opener : Opener}

section

variable (earlier : R before engine)
include earlier

theorem caught_moves : R before (engine.caught env runId code opener) := by
  cases opener with
  | start => exact moves.on (moves.ends earlier) rfl rfl rfl rfl
  | retry => exact onSessionFailure_moves moves earlier

theorem openSourceLink_moves : R before (engine.openSourceLink env runId opener) := by
  rw [openSourceLink]
  split
  next guards => exact caught_moves moves (moves_of_guard moves guards earlier)
  next guards =>
    have guarded := moves_of_guard moves guards earlier
    split
    · exact caught_moves moves guarded
    split
    · exact caught_moves moves guarded
    · exact moves.opened guarded rfl rfl rfl

theorem startSource_moves : R before (engine.startSource env runId) := by
  rw [startSource]
  split
  next guards => exact caught_moves moves (moves_of_guard moves guards earlier)
  next guards =>
    have guarded := moves_of_guard moves guards earlier
    split
    · exact caught_moves moves guarded
    split
    · exact caught_moves moves guarded
    split
    · exact openSourceLink_moves moves guarded
    · exact moves.opened guarded rfl rfl rfl

theorem maybeStart_moves : R before (engine.maybeStart env) := by
  rw [maybeStart]
  split
  · exact earlier
  have started : R before engine.currentRun.1 := by
    refine moves.on earlier ?_ ?_ ?_ currentRun_receipts <;> rw [currentRun_record]
  dsimp only
  split
  · exact started
  · exact startSource_moves moves (moves.on started rfl rfl rfl rfl)

theorem frozen_moves {runId left : Nat} {result : Except String (List ContentFileInfo)} : R before
    (engine.frozen env runId left result) := by
  rw [frozen.eq_def]
  split
  · exact caught_moves moves earlier
  · split
    · exact caught_moves moves earlier
    · exact moves.on earlier rfl rfl rfl rfl
  · exact openSourceLink_moves moves (moves.on earlier rfl rfl rfl rfl)

theorem contentReplied_moves {result : Except String Unit} : R before
    (engine.contentReplied env runId opener result) := by
  cases result with
  | error code => exact caught_moves moves earlier
  | ok => exact moves.on earlier rfl rfl rfl rfl

end

variable {replaceDigest : Option String}

theorem checkOverwriteApproval_moves (earlier : R before engine) :
    R before (engine.checkOverwriteApproval env replaceDigest).1 := by
  rw [checkOverwriteApproval]
  split
  · exact earlier
  split
  · exact earlier
  split
  · exact earlier
  split
  · exact earlier
  split
  · exact earlier
  next plan scans =>
    dsimp only
    split
    · exact moves.ends (moves.on earlier rfl rfl rfl rfl)
    · exact earlier

theorem moves_of_check {checked : Engine} {replaceDigest code : Option String}
    (checks : engine.checkOverwriteApproval env replaceDigest = (checked, code))
    (earlier : R before engine) : R before checked := by
  have kept : R before (engine.checkOverwriteApproval env replaceDigest).1 :=
    checkOverwriteApproval_moves moves earlier
  rw [checks] at kept
  exact kept

variable {digest : String}

section

variable (earlier : R before engine)
include earlier

theorem approve_moves : R before (engine.approve env digest replaceDigest).1 := by
  rw [approve]
  split
  · exact earlier
  split
  · exact earlier
  split
  next checks => exact moves_of_check moves checks earlier
  next checks =>
    have checked := moves_of_check moves checks earlier
    dsimp only
    split
    · exact moves.ends checked
    split
    · exact checked
    split
    · exact checked
    split
    · exact checked
    · exact moves.opened checked rfl rfl rfl

theorem revert_moves {result : Except String Nat} : R before (engine.revert env result).1 := by
  rw [revert]
  split
  · exact earlier
  split
  · exact earlier
  split
  · exact earlier
  split
  · exact earlier
  split
  · exact earlier
  split
  · exact earlier
  · exact moves.on earlier rfl rfl rfl rfl

theorem sweepConsent_moves : R before (engine.sweepConsent env) := by
  rw [sweepConsent]
  split
  · exact moves.ends earlier
  split
  · exact moves.ends earlier
  split
  · exact moves.ends earlier
  · exact earlier

theorem sweep_moves : R before (engine.sweep env) := by
  rw [sweep]
  split
  · exact earlier
  dsimp only
  split
  · exact moves.ends (sweepConsent_moves moves earlier)
  · exact sweepConsent_moves moves earlier

theorem onAuthorityChanged_moves : R before (engine.onAuthorityChanged env) := by
  rw [onAuthorityChanged]
  split
  · exact earlier
  split
  · exact earlier
  · exact endForProblem_moves moves earlier

theorem restart_moves : R before (engine.restart env) := by
  rw [restart]
  refine sweep_moves moves ?_
  generalize isRead : engine.record.withProgress engine.saved = read
  have role : read.role = engine.record.role := by rw [← isRead]; rfl
  have state : read.state = engine.record.state := by rw [← isRead]; rfl
  have approval : read.localApproval = engine.record.localApproval := by rw [← isRead]; rfl
  cases keeps : read.state.isTerminal || read.state.isFirst with
  | true => exact moves.on earlier role state approval rfl
  | false => exact moves.opened earlier role rfl rfl

theorem onPeerApproval_moves {approved : Bool} : R before
    (engine.onPeerApproval env digest approved).1 := by
  rw [onPeerApproval]
  split
  · exact earlier
  dsimp only
  split
  · exact maybeStart_moves moves (moves.on earlier rfl rfl rfl rfl)
  split
  · exact moves.ends (moves.on earlier rfl rfl rfl rfl)
  · exact moves.on earlier rfl rfl rfl rfl

theorem openTargetLink_moves {offer : ContentOffer} {content : List ContentFileInfo} : R before
    (engine.openTargetLink env offer content).1 := by
  have superseded : R before engine.supersede := by
    refine moves.on earlier ?_ ?_ ?_ supersede_receipts <;> rw [supersede_record]
  rw [openTargetLink]
  dsimp only
  split
  · exact moves.on superseded rfl rfl rfl rfl
  · exact moves.opened superseded rfl rfl rfl

theorem onContent_moves {offer : ContentOffer} : R before (engine.onContent env offer).1 := by
  rw [onContent]
  split
  · exact earlier
  split
  · exact earlier
  split
  next guards => exact moves_of_guard moves guards earlier
  next guards =>
    have guarded := moves_of_guard moves guards earlier
    split
    · exact guarded
    split
    · exact guarded
    split
    next checks => exact moves_of_check moves checks guarded
    next checks =>
      have kept := moves_of_check moves checks guarded
      split
      · exact kept
      split
      · exact kept
      split
      · exact kept
      split
      · exact kept
      split
      · exact kept
      split
      · exact kept
      split
      · exact kept
      · exact openTargetLink_moves moves kept

theorem onPeerState_moves {state : PeerState} (completes : ∀ name, state = .completed name →
      engine.record.role = .source → ∀ middle : Engine, R middle
      (middle.completeRecord env)) : R before (engine.onPeerState env state).1 := by
  cases state with
  | completed name =>
    rw [onPeerState.eq_def]
    dsimp only
    split
    · exact earlier
    next isSource =>
      have role : engine.record.role = .source := by simpa using isSource
      have completed := completes name rfl role
      split
      · exact earlier
      split
      · exact earlier
      split
      · exact earlier
      · refine moves.trans ?_ (completed _)
        exact moves.on earlier rfl rfl rfl rfl
      · exact moves.trans earlier (completed _)
  | failed code =>
    rw [onPeerState.eq_def]
    dsimp only
    split
    · exact earlier
    · exact moves.ends earlier
  | other => exact earlier

theorem onAgentApprove_moves : R before (engine.onAgentApprove env digest).1 := by
  rw [onAgentApprove]
  split
  · exact earlier
  split
  · exact earlier
  · exact approve_moves moves earlier

theorem handlePeerOp_moves {op : PeerOp} (completes : ∀ name, op = .state (.completed name) →
      engine.record.role = .source → ∀ middle : Engine, R middle
      (middle.completeRecord env)) : R before (engine.handlePeerOp env op).1 := by
  rw [handlePeerOp.eq_def]
  split
  · exact earlier
  cases op with
  | approval => exact onPeerApproval_moves moves earlier
  | agentApprove => exact onAgentApprove_moves moves earlier
  | content => exact onContent_moves moves earlier
  | cancel => exact moves.ends earlier
  | state state =>
    exact onPeerState_moves moves earlier fun name named =>
      completes name (congrArg PeerOp.state named)

end

variable {published : Except String String} {verified : Except String Unit}

section

variable (earlier : R before engine)
include earlier

theorem finishTarget_moves (completes : ∀ middle : Engine, R middle (middle.completeRecord env)) :
    R before (engine.finishTarget env verified published) := by
  have verifying : R before (engine.setState env .verifying) := moves.opened earlier rfl rfl rfl
  rw [finishTarget.eq_def]
  dsimp only
  split
  · exact moves.ends verifying
  split
  next guards => exact moves.ends (moves_of_guard moves guards verifying)
  next guarded guards =>
    have publishing : R before (guarded.setState env .publishing) :=
      moves.opened (moves_of_guard moves guards verifying) rfl rfl rfl
    split
    · exact moves.ends publishing
    split
    · exact moves.ends publishing
    · refine moves.trans ?_ (completes _)
      exact moves.on publishing rfl rfl rfl rfl

theorem sessionFinished_moves (completes : engine.record.role = .target → ∀ middle : Engine, R
      middle (middle.completeRecord env)) : R before (engine.sessionFinished env runId verified
      published) := by
  rw [sessionFinished]
  split
  · exact earlier
  dsimp only
  cases role : engine.record.role with
  | source =>
    dsimp only
    split
    · exact moves.on earlier rfl rfl rfl rfl
    · exact moves.opened earlier rfl rfl rfl
  | target => exact finishTarget_moves moves (moves.on earlier rfl rfl rfl rfl) (completes role)

theorem established_moves {runId linkGen : Nat} {relayed : Option Bool} : R before
    (engine.established env runId linkGen relayed) := by
  rw [established]
  split
  · exact earlier
  dsimp only
  split
  · exact moves.opened earlier rfl rfl rfl
  · exact moves.on earlier rfl rfl rfl rfl

theorem watchdogFires_moves : R before (engine.watchdogFires env runId) := by
  rw [watchdogFires]
  split
  · exact earlier
  split
  · exact moves.on earlier rfl rfl rfl rfl
  split
  · exact earlier
  · exact endForProblem_moves moves earlier

theorem retryFires_moves : R before (engine.retryFires env runId) := by
  rw [retryFires]
  split
  · exact earlier
  dsimp only
  split
  · exact moves.on earlier rfl rfl rfl rfl
  · exact openSourceLink_moves moves (moves.on earlier rfl rfl rfl rfl)

theorem resume_moves {work : Work} {answer : Answer} : R before (engine.resume env work answer) :=
    by
  have resumed : R before { engine with pending := engine.pending.erase work } :=
    moves.on earlier rfl rfl rfl rfl
  rw [resume]
  split
  · exact earlier
  dsimp only
  split
  · exact frozen_moves moves resumed
  · exact contentReplied_moves moves resumed
  · exact maybeStart_moves moves resumed
  · exact earlier

end

theorem act_moves (engine : Engine) (env : Env) (action : Action)
    (completes : Completes engine action →
      ∀ middle : Engine, R middle (middle.completeRecord env)) :
    R engine (engine.act env action).1 := by
  have still : R engine engine := moves.refl engine
  cases action with
  | approve => exact approve_moves moves still
  | revokeApproval =>
    rw [act, revokeApproval]
    split
    · exact still
    · exact moves.ends still
  | cancel =>
    rw [act, cancel]
    split
    · exact still
    · exact moves.ends still
  | revert => exact revert_moves moves still
  | sweep => exact sweep_moves moves still
  | authorityChanged => exact onAuthorityChanged_moves moves still
  | restart => exact restart_moves moves still
  | shutdown =>
    rw [act]
    refine moves.same ?_ ?_ ?_ teardownRun_receipts <;> rw [teardownRun_record]
  | peer op =>
    refine handlePeerOp_moves moves still fun name named role => completes ?_
    rw [named]
    exact role
  | resume => exact resume_moves moves still
  | sessionFinished => exact sessionFinished_moves moves still completes
  | sessionFailed runId code =>
    rw [act, sessionFailed]
    dsimp only
    split
    · exact still
    · exact onSessionFailure_moves moves (moves.on still rfl rfl rfl rfl)
  | established => exact established_moves moves still
  | progressed => exact accountRelay_moves moves (moves.on still rfl rfl rfl rfl)
  | checkpointed => exact accountRelay_moves moves (moves.on still rfl rfl rfl rfl)
  | watchdog => exact watchdogFires_moves moves still
  | retryFires => exact retryFires_moves moves still

end Moves

end Engine

end Adhdev.Transfer
