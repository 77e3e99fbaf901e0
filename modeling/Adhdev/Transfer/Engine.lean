import Adhdev.Foundation.Machine

/-! # The project transfer engine

One transfer of `daemon-core/src/transfer/engine.ts` on one daemon, in either role.
The daemon around it (clock, owner, peer, settings, the other transfers) is `Env`. A
run object lives on in the work that holds it after its table has dropped it, so runs
are told apart by number and `current` is what the table has.
-/

namespace Adhdev.Transfer

inductive TransferRole
  | source | target
  deriving DecidableEq

inductive TransferState
  | previewed | offered | awaitingApproval | freezing | linking | transferring | paused
  | verifying | publishing | completed | failed | cancelled | expired | revoked
  | needsReapproval
  deriving DecidableEq

namespace TransferState

def isTerminal : TransferState → Bool
  | completed | failed | cancelled | expired | revoked => true
  | _ => false

def isActive : TransferState → Bool
  | freezing | linking | transferring | paused | verifying | publishing => true
  | _ => false

/-- Neither this owner nor the other has approved yet. -/
def isFirst : TransferState → Bool
  | previewed | offered => true
  | _ => false

end TransferState

/-- How a transfer ends without being completed. -/
inductive Termination
  | failed | cancelled | expired | revoked

def Termination.state : Termination → TransferState
  | failed => .failed
  | cancelled => .cancelled
  | expired => .expired
  | revoked => .revoked

structure ApprovalStamp where
  at_ : Int
  ownerAuthGeneration : String
  restartEpoch : Nat

structure OverwriteInfo where
  targetDir : String
  digest : String
  replaced : Nat
  reverted : Bool := false

structure ContentFileInfo where
  path : String
  size : Nat
  sha256 : String
  deriving DecidableEq

structure TransferReceipt where
  outcome : TransferState
  errorCode : Option String
  publishedName : Option String
  files : List ContentFileInfo
  deriving DecidableEq

/-- `selectionFiles` counts the files of the selection, and `existingPath` is its target
mode. -/
structure TransferRecord where
  role : TransferRole
  selectionDigest : String
  selectionFiles : Nat
  existingPath : Bool
  finalName : String
  totalBytes : Nat
  requestedBy : Bool
  overwrite : Option OverwriteInfo
  content : Option (List ContentFileInfo) := none
  state : TransferState
  errorCode : Option String := none
  createdAt : Int
  activityAt : Int
  previewExpiresAt : Int
  localApproval : Option ApprovalStamp := none
  peerApproved : Bool := false
  linkGen : Nat := 0
  blocksDone : List Nat := []
  bytesDone : Nat := 0
  publishedName : Option String := none
  relayed : Bool := false

/-- Those fields of a record that are also changed without a write of the store. -/
structure SavedProgress where
  content : Option (List ContentFileInfo)
  linkGen : Nat
  blocksDone : List Nat
  bytesDone : Nat
  activityAt : Int

namespace TransferRecord

def progress (record : TransferRecord) : SavedProgress where
  content := record.content
  linkGen := record.linkGen
  blocksDone := record.blocksDone
  bytesDone := record.bytesDone
  activityAt := record.activityAt

def withProgress (record : TransferRecord) (saved : SavedProgress) : TransferRecord :=
  { record with
    content := saved.content, linkGen := saved.linkGen, blocksDone := saved.blocksDone
    bytesDone := saved.bytesDone, activityAt := saved.activityAt }

end TransferRecord

/-- A run object. `awaited` says that a session's promise is being waited for. -/
structure RunCtx where
  id : Nat
  retries : Nat := 0
  cancelled : Bool := false
  starting : Bool := false
  awaited : Bool := false
  watchdog : Bool := false
  retryTimer : Bool := false
  relay : Bool := false
  relayActive : Bool := false
  relayBase : Nat := 0
  relayCounted : Nat := 0

/-- Who catches what `openSourceLink` throws. -/
inductive Opener
  | start | retry
  deriving DecidableEq

/-- What is suspended in an await: a freeze with the files whose check for a cancel is
still to come, the dispatch of `content`, and the dispatch of an approval. -/
inductive Work
  | freezing (runId left : Nat)
  | sending (runId : Nat) (opener : Opener)
  | approving
  deriving DecidableEq

/-- `receipts` and `linksOpened` are all that were ever written and opened, and `saved` is
what the store has where `record` may be ahead of it. -/
structure Engine where
  record : TransferRecord
  saved : SavedProgress
  restartEpoch : Nat
  runs : List RunCtx
  nextRun : Nat
  current : Option Nat
  pending : List Work
  receipts : List TransferReceipt
  linksOpened : List Nat

/-- What a step reads of the daemon. `support` is the reason for which transfers are not
supported, and `targetScan` what an inspection of the target finds now. -/
structure Env where
  now : Int
  ownerAuthGeneration : String
  peerAuthorized : Bool
  support : Option String
  linkFactory : Bool
  workspace : Bool
  relayAllowed : Bool
  agentAutoApprove : Bool
  relayUsedToday : Nat
  othersActive : Nat
  targetScan : Except String OverwriteInfo

def retentionPreview : Int := 15 * 60000
def retentionConsent : Int := 24 * 3600000
def retentionTempIdle : Int := 24 * 3600000
def retentionTempMax : Int := 7 * 24 * 3600000
def maxConcurrentPerDaemon : Nat := 2
def blockBytes : Nat := 1048576
def relayMaxTransferBytes : Nat := 500 * 1048576
def relayDailyBytes : Nat := 2048 * 1048576
def directRetriesBeforeRelay : Nat := 2
def maxRetries : Nat := 5

def blockCount (size : Nat) : Nat := (size + blockBytes - 1) / blockBytes

def bytesOf (blocksDone : List Nat) (files : List ContentFileInfo) : Nat :=
  ((blocksDone.zip files).map fun (blocks, file) => min (blocks * blockBytes) file.size).sum

inductive AuthorizationProblem
  | consentExpired | ownerAuthChanged | restart | peerUnauthorized

def AuthorizationProblem.code : AuthorizationProblem → String
  | consentExpired => "CONSENT_EXPIRED"
  | _ => "REVOKED"

/-- What `onContent` is given, with the answers of the manifest's validation and of the
receiver's preparation. -/
structure ContentOffer where
  selectionDigest : String
  content : Except String (List ContentFileInfo)
  linkGen : Nat
  relay : Bool
  keyValid : Bool
  resume : Except String (List Nat)

/-- The name is `none` where it does not pass its validation. -/
inductive PeerState
  | completed (publishedName : Option (Option String))
  | failed (code : String)
  | other

inductive PeerOp
  | approval (selectionDigest : String) (approved : Bool)
  | agentApprove (selectionDigest : String)
  | content (offer : ContentOffer)
  | cancel
  | state (state : PeerState)

/-- What an await brings. -/
inductive Answer
  | frozen (result : Except String (List ContentFileInfo))
  | replied (result : Except String Unit)
  | dispatched

inductive Action
  | approve (digest : String) (replaceDigest : Option String)
  | revokeApproval
  | cancel
  | revert (result : Except String Nat)
  | sweep
  | authorityChanged
  | restart
  | shutdown
  | peer (op : PeerOp)
  | resume (work : Work) (answer : Answer)
  | sessionFinished (runId : Nat) (verified : Except String Unit) (published : Except String String)
  | sessionFailed (runId : Nat) (code : String)
  | established (runId linkGen : Nat) (relayed : Option Bool)
  | progressed (runId file block : Nat)
  | checkpointed (runId file blocks : Nat)
  | watchdog (runId : Nat)
  | retryFires (runId : Nat)

namespace Engine

/-! ## Records and runs -/

def persist (engine : Engine) (env : Env) : Engine :=
  let record := { engine.record with activityAt := env.now }
  { engine with record, saved := record.progress }

def setState (engine : Engine) (env : Env) (state : TransferState) : Engine :=
  { engine with record := { engine.record with state } }.persist env

def run? (engine : Engine) (runId : Nat) : Option RunCtx :=
  engine.runs.find? (·.id == runId)

def changeRun (engine : Engine) (runId : Nat) (change : RunCtx → RunCtx) : Engine :=
  { engine with runs := engine.runs.map fun run =>
      if run.id == runId then change run else run }

def currentRun (engine : Engine) : Engine × Nat :=
  match engine.current with
  | some runId => (engine, runId)
  | none =>
    ({ engine with
      runs := engine.runs ++ [{ id := engine.nextRun }]
      nextRun := engine.nextRun + 1
      current := some engine.nextRun }, engine.nextRun)

def teardownRun (engine : Engine) : Engine :=
  match engine.current with
  | none => engine
  | some runId =>
    { engine.changeRun runId fun run =>
        { run with watchdog := false, retryTimer := false } with current := none }

/-! ## Ends -/

def receipt (record : TransferRecord) : TransferReceipt where
  outcome := record.state
  errorCode := record.errorCode
  publishedName := if record.state = .completed then record.publishedName else none
  files := record.content.getD []

def cancelRun (engine : Engine) : Engine :=
  match engine.current with
  | none => engine
  | some runId => engine.changeRun runId fun run => { run with cancelled := true }

def terminate (engine : Engine) (env : Env) (termination : Termination) (code : String) : Engine :=
  if engine.record.state.isTerminal then engine
  else
    let ended := engine.cancelRun.teardownRun
    let record := { ended.record with
      errorCode := some code, state := termination.state, localApproval := none
      activityAt := env.now }
    { ended with
      record, saved := record.progress, receipts := ended.receipts ++ [receipt record] }

def completeRecord (engine : Engine) (env : Env) : Engine :=
  let ended := engine.teardownRun
  let record := { ended.record with
    errorCode := none, bytesDone := ended.record.totalBytes, localApproval := none
    state := .completed, activityAt := env.now }
  { ended with
    record, saved := record.progress, receipts := ended.receipts ++ [receipt record] }

def authorizationProblem (engine : Engine) (env : Env) : Option AuthorizationProblem :=
  match engine.record.localApproval with
  | none => none
  | some approval =>
    if env.now - approval.at_ > retentionConsent then some .consentExpired
    else if approval.ownerAuthGeneration ≠ env.ownerAuthGeneration then some .ownerAuthChanged
    else if approval.restartEpoch ≠ engine.restartEpoch then some .restart
    else if !env.peerAuthorized then some .peerUnauthorized
    else none

def endForProblem (engine : Engine) (env : Env) : AuthorizationProblem → Engine
  | .consentExpired => engine.terminate env .expired "CONSENT_EXPIRED"
  | _ => engine.terminate env .revoked "REVOKED"

/-- The code is what it throws. -/
def guard (engine : Engine) (env : Env) : Engine × Option String :=
  match engine.authorizationProblem env with
  | none => (engine, none)
  | some problem => (engine.endForProblem env problem, some problem.code)

/-! ## Links of the source -/

def exceedsRelayLimits (engine : Engine) (env : Env) : Bool :=
  let remaining := engine.record.totalBytes - engine.record.bytesDone
  engine.record.totalBytes > relayMaxTransferBytes ||
    env.relayUsedToday + remaining > relayDailyBytes

def accountRelay (engine : Engine) (env : Env) (runId : Nat) : Engine :=
  match engine.run? runId with
  | none => engine
  | some run =>
    let moved := engine.record.bytesDone - run.relayBase
    if !run.relayActive || moved ≤ run.relayCounted then engine
    else
      let counted := engine.changeRun runId fun run => { run with relayCounted := moved }
      let day := env.relayUsedToday + (moved - run.relayCounted)
      if moved > relayMaxTransferBytes || day > relayDailyBytes then
        counted.terminate env .failed "RELAY_LIMIT_EXCEEDED"
      else counted

def pauseRun (engine : Engine) (env : Env) (runId : Nat) : Engine :=
  (engine.setState env .paused).changeRun runId fun run => { run with awaited := false }

def escalateToRelay (engine : Engine) (runId : Nat) : Engine :=
  engine.changeRun runId fun run =>
    { run with relay := true, retries := 0, retryTimer := true }

def scheduleRetry (engine : Engine) (env : Env) (run : RunCtx) : Engine :=
  if !run.relay && run.retries ≥ directRetriesBeforeRelay && env.relayAllowed then
    engine.escalateToRelay run.id
  else if run.retries ≥ maxRetries then engine.terminate env .failed "DIRECT_UNAVAILABLE"
  else engine.changeRun run.id fun run =>
    { run with retries := run.retries + 1, retryTimer := true }

def onSessionFailure (engine : Engine) (env : Env) (runId : Nat) (code : String) : Engine :=
  match engine.run? runId with
  | none => engine
  | some run =>
    if engine.record.state.isTerminal || run.cancelled || engine.current ≠ some runId then
      engine
    else if code = "DIRECT_UNAVAILABLE" && !run.relay && env.relayAllowed then
      let paused := engine.pauseRun env runId
      if engine.record.role = .source then paused.escalateToRelay runId else paused
    else if code = "LINK_LOST" || code = "PEER_ABORT" then
      let paused := engine.pauseRun env runId
      if engine.record.role = .source then paused.scheduleRetry env run else paused
    else engine.terminate env .failed code

def caught (engine : Engine) (env : Env) (runId : Nat) (code : String) : Opener → Engine
  | .start =>
    (engine.terminate env .failed code).changeRun runId fun run =>
      { run with starting := false }
  | .retry => engine.onSessionFailure env runId code

def openSourceLink (engine : Engine) (env : Env) (runId : Nat) (opener : Opener) : Engine :=
  match engine.guard env with
  | (guarded, some code) => guarded.caught env runId code opener
  | (guarded, none) =>
    if !env.linkFactory then guarded.caught env runId "LINK_UNAVAILABLE" opener
    else if (guarded.run? runId).any (·.relay) && guarded.exceedsRelayLimits env then
      guarded.caught env runId "RELAY_LIMIT_EXCEEDED" opener
    else
      let attempted := { guarded with record := { guarded.record with
        linkGen := guarded.record.linkGen + 1 } }
      let linking := attempted.setState env .linking
      { linking with pending := linking.pending ++ [.sending runId opener] }

/-- The freeze runs up to its first await, past the check of its first file. -/
def startSource (engine : Engine) (env : Env) (runId : Nat) : Engine :=
  match engine.guard env with
  | (guarded, some code) => guarded.caught env runId code .start
  | (guarded, none) =>
    if env.othersActive ≥ maxConcurrentPerDaemon && !guarded.record.state.isActive then
      guarded.caught env runId "TOO_MANY_TRANSFERS" .start
    else if !env.workspace then
      guarded.caught env runId "WORKSPACE_NOT_REGISTERED" .start
    else match guarded.record.content with
      | some _ => guarded.openSourceLink env runId .start
      | none =>
        let freezing := guarded.setState env .freezing
        { freezing with pending := freezing.pending ++
          [.freezing runId (freezing.record.selectionFiles - 1)] }

def maybeStart (engine : Engine) (env : Env) : Engine :=
  if engine.record.localApproval.isNone || !engine.record.peerApproved ||
      engine.record.state.isTerminal || engine.record.role ≠ .source then engine
  else
    let (started, runId) := engine.currentRun
    if (started.run? runId).any (·.starting) then started
    else (started.changeRun runId fun run => { run with starting := true }).startSource env runId

/-- A file is read, or the freeze ends. -/
def frozen (engine : Engine) (env : Env) (runId left : Nat)
    (result : Except String (List ContentFileInfo)) : Engine :=
  match result, left with
  | .error code, _ => engine.caught env runId code .start
  | .ok _, left + 1 =>
    if (engine.run? runId).any (·.cancelled) then engine.caught env runId "CANCELLED" .start
    else { engine with pending := engine.pending ++ [.freezing runId left] }
  | .ok files, 0 =>
    let noted := { engine with record := { engine.record with
      content := some files, blocksDone := files.map fun _ => 0 } }
    (noted.persist env).openSourceLink env runId .start

/-- The link of an accepted `content` is created. -/
def contentReplied (engine : Engine) (env : Env) (runId : Nat) (opener : Opener) :
    Except String Unit → Engine
  | .error code => engine.caught env runId
      (if code = "RELAY_NOT_ALLOWED" then "DIRECT_UNAVAILABLE" else code) opener
  | .ok _ =>
    let linked := { engine with linksOpened := engine.linksOpened ++ [engine.record.linkGen] }
    linked.changeRun runId fun run => { run with
      awaited := true, watchdog := true
      starting := run.starting && opener != .start }

/-! ## Owner calls -/

/-- The code is the refusal. -/
def checkOverwriteApproval (engine : Engine) (env : Env) (replaceDigest : Option String) :
    Engine × Option String :=
  if !engine.record.existingPath then (engine, none)
  else match engine.record.overwrite with
    | none => (engine, some "APPROVAL_MISMATCH")
    | some overwrite =>
      if replaceDigest ≠ some overwrite.digest then (engine, some "APPROVAL_MISMATCH")
      else if engine.record.role ≠ .target then (engine, none)
      else match env.targetScan with
        | .error code => (engine, some code)
        | .ok plan =>
          if plan.digest ≠ overwrite.digest then
            let noted := { engine with record := { engine.record with
              overwrite := some plan } }
            (noted.terminate env .failed "TARGET_CHANGED", some "TARGET_CHANGED")
          else (engine, none)

def approve (engine : Engine) (env : Env) (digest : String) (replaceDigest : Option String) :
    Engine × Option String :=
  if engine.record.state.isTerminal then (engine, some "TRANSFER_FINISHED")
  else if digest ≠ engine.record.selectionDigest then (engine, some "APPROVAL_MISMATCH")
  else match engine.checkOverwriteApproval env replaceDigest with
    | (checked, some code) => (checked, some code)
    | (checked, none) =>
      let first := checked.record.state.isFirst
      if first && env.now > checked.record.previewExpiresAt then
        (checked.terminate env .expired "PREVIEW_EXPIRED", some "PREVIEW_EXPIRED")
      else if !first && checked.record.state ≠ .needsReapproval then
        (checked, some "ALREADY_APPROVED")
      else if !env.peerAuthorized then (checked, some "PEER_UNAUTHORIZED")
      else match env.support with
        | some reason => (checked, some reason)
        | none =>
          let approval : ApprovalStamp := {
            at_ := env.now, ownerAuthGeneration := env.ownerAuthGeneration
            restartEpoch := checked.restartEpoch }
          let approved := { checked with record := { checked.record with
            localApproval := some approval, state := .awaitingApproval } }
          ({ approved.persist env with pending := approved.pending ++ [.approving] }, none)

def revokeApproval (engine : Engine) (env : Env) : Engine × Option String :=
  if engine.record.localApproval.isNone then (engine, some "NOT_APPROVED")
  else (engine.terminate env .revoked "REVOKED", none)

def cancel (engine : Engine) (env : Env) : Engine × Option String :=
  if engine.record.state.isTerminal then (engine, some "TRANSFER_FINISHED")
  else (engine.terminate env .cancelled "CANCELLED", none)

/-- `result` counts the conflicts of the revert. -/
def revert (engine : Engine) (env : Env) (result : Except String Nat) : Engine × Option String :=
  if engine.record.role ≠ .target then (engine, some "NOT_TARGET")
  else match engine.record.overwrite with
  | none => (engine, some "REVERT_UNAVAILABLE")
  | some overwrite =>
    if engine.record.state ≠ .completed || overwrite.replaced = 0 then
      (engine, some "REVERT_UNAVAILABLE")
    else if overwrite.reverted then (engine, some "ALREADY_REVERTED")
    else if !env.workspace then (engine, some "WORKSPACE_NOT_REGISTERED")
    else match result with
      | .error code => (engine, some code)
      | .ok conflicts =>
        let noted := { engine with record := { engine.record with
          overwrite := some { overwrite with reverted := conflicts == 0 } } }
        (noted.persist env, none)

def sweepConsent (engine : Engine) (env : Env) : Engine :=
  let record := engine.record
  let first := record.state.isFirst
  if first && env.now > record.previewExpiresAt then
    engine.terminate env .expired "PREVIEW_EXPIRED"
  else if !first && env.now - record.createdAt > retentionConsent &&
      record.state = .needsReapproval then
    engine.terminate env .expired "CONSENT_EXPIRED"
  else if record.localApproval.any (env.now - ·.at_ > retentionConsent) &&
      !record.state.isActive then
    engine.terminate env .expired "CONSENT_EXPIRED"
  else engine

/-- The store's `gc` reads what was written. -/
def sweep (engine : Engine) (env : Env) : Engine :=
  if engine.record.state.isTerminal then engine
  else
    let swept := engine.sweepConsent env
    if env.now - engine.saved.activityAt > retentionTempIdle ||
        env.now - engine.record.createdAt > retentionTempMax then
      swept.terminate env .expired "TEMP_DATA_EXPIRED"
    else swept

def onAuthorityChanged (engine : Engine) (env : Env) : Engine :=
  if engine.record.state.isTerminal then engine
  else match engine.authorizationProblem env with
    | none => engine
    | some problem => engine.endForProblem env problem

/-- The process ends and another one starts: `recover` has what was written. -/
def restart (engine : Engine) (env : Env) : Engine :=
  let record := engine.record.withProgress engine.saved
  let recovered :=
    if record.state.isTerminal || record.state.isFirst then record
    else { record with
      state := .needsReapproval, localApproval := none, peerApproved := false
      activityAt := env.now }
  { engine with
    record := recovered, saved := recovered.progress
    restartEpoch := engine.restartEpoch + 1
    runs := [], current := none, pending := [] }.sweep env

/-! ## Calls of the peer -/

def onAgentApprove (engine : Engine) (env : Env) (digest : String) : Engine × Option String :=
  let record := engine.record
  if record.role ≠ .target || !record.requestedBy || !env.agentAutoApprove ||
      record.overwrite.any (0 < ·.replaced) then
    (engine, some "AUTO_APPROVE_NOT_ALLOWED")
  else if digest ≠ record.selectionDigest then (engine, some "APPROVAL_MISMATCH")
  else engine.approve env record.selectionDigest (record.overwrite.map (·.digest))

def onPeerApproval (engine : Engine) (env : Env) (digest : String) (approved : Bool) :
    Engine × Option String :=
  if digest ≠ engine.record.selectionDigest then (engine, some "APPROVAL_MISMATCH")
  else
    let noted := { engine with record := { engine.record with peerApproved := approved } }
    let noted := noted.persist env
    if approved then (noted.maybeStart env, none)
    else if noted.record.localApproval.isSome && !noted.record.state.isTerminal then
      (noted.terminate env .revoked "REVOKED", none)
    else (noted, none)

/-- The run of the table gives way to a newer link attempt. -/
def supersede (engine : Engine) : Engine :=
  match engine.current with
  | none => engine
  | some runId => engine.changeRun runId fun run => { run with watchdog := false }

def openTargetLink (engine : Engine) (env : Env) (offer : ContentOffer)
    (content : List ContentFileInfo) : Engine × Option String :=
  let superseded := engine.supersede
  let blocksDone :=
    if engine.record.blocksDone.length ≠ content.length then content.map fun _ => 0
    else engine.record.blocksDone
  let noted := { superseded with record := { superseded.record with
    content := some content, linkGen := offer.linkGen, blocksDone } }
  match offer.resume with
  | .error code => (noted, some code)
  | .ok resume =>
    let run : RunCtx := {
      id := noted.nextRun, relay := offer.relay, awaited := true, watchdog := true }
    let prepared := { noted with
      record := { noted.record with blocksDone := resume }
      runs := noted.runs ++ [run], nextRun := noted.nextRun + 1, current := some run.id
      linksOpened := noted.linksOpened ++ [offer.linkGen] }
    (prepared.setState env .linking, none)

def onContent (engine : Engine) (env : Env) (offer : ContentOffer) : Engine × Option String :=
  if engine.record.role ≠ .target then (engine, some "PROTOCOL_ERROR")
  else if engine.record.localApproval.isNone || !engine.record.peerApproved then
    (engine, some "APPROVAL_REQUIRED")
  else match engine.guard env with
    | (guarded, some code) => (guarded, some code)
    | (guarded, none) =>
      if offer.selectionDigest ≠ guarded.record.selectionDigest then
        (guarded, some "APPROVAL_MISMATCH")
      else match offer.content with
        | .error code => (guarded, some code)
        | .ok content =>
          match guarded.checkOverwriteApproval env (guarded.record.overwrite.map (·.digest)) with
          | (checked, some code) => (checked, some code)
          | (checked, none) =>
            if offer.linkGen ≤ checked.record.linkGen then (checked, some "PROTOCOL_ERROR")
            else if offer.relay && !env.relayAllowed then (checked, some "RELAY_NOT_ALLOWED")
            else if offer.relay && checked.exceedsRelayLimits env then
              (checked, some "RELAY_LIMIT_EXCEEDED")
            else if !offer.keyValid then (checked, some "PROTOCOL_ERROR")
            else if env.othersActive ≥ maxConcurrentPerDaemon &&
                !checked.record.state.isActive then
              (checked, some "TOO_MANY_TRANSFERS")
            else if !env.linkFactory then (checked, some "LINK_UNAVAILABLE")
            else if !env.workspace then (checked, some "WORKSPACE_NOT_REGISTERED")
            else checked.openTargetLink env offer content

def acknowledged (record : TransferRecord) : Bool :=
  record.content.any fun files =>
    (List.range files.length).all fun index =>
      (files[index]?.map (blockCount ·.size)).getD 0 ≤ record.blocksDone.getD index 0

def onPeerState (engine : Engine) (env : Env) : PeerState → Engine × Option String
  | .completed publishedName =>
    let record := engine.record
    if record.role ≠ .source then (engine, none)
    else if record.state ≠ .verifying && record.state ≠ .transferring then
      (engine, some "PROTOCOL_ERROR")
    else if !acknowledged record then (engine, some "PROTOCOL_ERROR")
    else match publishedName with
      | some none => (engine, some "PROTOCOL_ERROR")
      | some (some name) =>
        ({ engine with record := { record with
          publishedName := some name } }.completeRecord env, none)
      | none => (engine.completeRecord env, none)
  | .failed code =>
    if engine.record.role ≠ .source then (engine, none)
    else (engine.terminate env .failed code, none)
  | .other => (engine, none)

def handlePeerOp (engine : Engine) (env : Env) (op : PeerOp) : Engine × Option String :=
  if !env.peerAuthorized then (engine, some "PEER_UNAUTHORIZED")
  else match op with
    | .approval digest approved => engine.onPeerApproval env digest approved
    | .agentApprove digest => engine.onAgentApprove env digest
    | .content offer => engine.onContent env offer
    | .cancel => (engine.terminate env .cancelled "PEER_CANCELLED", none)
    | .state state => engine.onPeerState env state

/-! ## Links and timers -/

def planMissing (record : TransferRecord) : Bool :=
  record.existingPath && record.overwrite.isNone

def publishedAs (record : TransferRecord) (name : String) : Option String :=
  if record.existingPath then
    record.overwrite.bind fun overwrite =>
      if overwrite.targetDir == "" then none else some overwrite.targetDir
  else some name

def finishTarget (engine : Engine) (env : Env) (verified : Except String Unit)
    (published : Except String String) : Engine :=
  let verifying := engine.setState env .verifying
  match verified with
  | .error code => verifying.terminate env .failed code
  | .ok _ =>
    match verifying.guard env with
    | (guarded, some code) => guarded.terminate env .failed code
    | (guarded, none) =>
      let publishing := guarded.setState env .publishing
      if planMissing publishing.record then
        publishing.terminate env .failed "TARGET_CHANGED"
      else match published with
        | .error code => publishing.terminate env .failed code
        | .ok name =>
          { publishing with record := { publishing.record with
            publishedName := publishedAs publishing.record name } }.completeRecord env

def sessionFinished (engine : Engine) (env : Env) (runId : Nat)
    (verified : Except String Unit) (published : Except String String) : Engine :=
  if !(engine.run? runId).any (·.awaited) then engine
  else
    let settled := engine.changeRun runId fun run => { run with awaited := false }
    match engine.record.role with
    | .source => if settled.record.state.isTerminal then settled
        else settled.setState env .verifying
    | .target => settled.finishTarget env verified published

def sessionFailed (engine : Engine) (env : Env) (runId : Nat) (code : String) : Engine :=
  if !(engine.run? runId).any (·.awaited) then engine
  else
    (engine.changeRun runId fun run => { run with awaited := false }).onSessionFailure env
      runId code

def established (engine : Engine) (env : Env) (runId linkGen : Nat)
    (relayed : Option Bool) : Engine :=
  if engine.record.state.isTerminal || engine.record.linkGen ≠ linkGen then engine
  else
    let relayed := relayed.getD ((engine.run? runId).any (·.relay))
    let noted := (engine.changeRun runId fun run => { run with
      relayActive := relayed, relayBase := engine.record.bytesDone, relayCounted := 0 })
    let noted := { noted with record := { noted.record with relayed } }
    if noted.record.state = .linking then noted.setState env .transferring
    else noted.persist env

/-- An acknowledgement on the source is not written. -/
def progressed (engine : Engine) (env : Env) (runId file block : Nat) : Engine :=
  let record := engine.record
  let blocksDone := record.blocksDone.set file (max (record.blocksDone.getD file 0) (block + 1))
  let noted := { engine with record := { record with
    blocksDone, bytesDone := bytesOf blocksDone (record.content.getD [])
    activityAt := env.now } }
  noted.accountRelay env runId

def checkpointed (engine : Engine) (env : Env) (runId file blocks : Nat) : Engine :=
  let record := engine.record
  let blocksDone := record.blocksDone.set file blocks
  let noted := { engine with record := { record with
    blocksDone, bytesDone := bytesOf blocksDone (record.content.getD []) } }
  (noted.persist env).accountRelay env runId

def watchdogFires (engine : Engine) (env : Env) (runId : Nat) : Engine :=
  if !(engine.run? runId).any (·.watchdog) then engine
  else if engine.record.state.isTerminal then
    engine.changeRun runId fun run => { run with watchdog := false }
  else match engine.authorizationProblem env with
    | none => engine
    | some problem => engine.endForProblem env problem

def retryFires (engine : Engine) (env : Env) (runId : Nat) : Engine :=
  if !(engine.run? runId).any (·.retryTimer) then engine
  else
    let fired := engine.changeRun runId fun run => { run with retryTimer := false }
    if fired.record.state.isTerminal then fired
    else fired.openSourceLink env runId .retry

/-- An await goes on, where it is suspended. -/
def resume (engine : Engine) (env : Env) (work : Work) (answer : Answer) : Engine :=
  if work ∉ engine.pending then engine
  else
    let resumed := { engine with pending := engine.pending.erase work }
    match work, answer with
    | .freezing runId left, .frozen result => resumed.frozen env runId left result
    | .sending runId opener, .replied result => resumed.contentReplied env runId opener result
    | .approving, .dispatched => resumed.maybeStart env
    | _, _ => engine

def act (engine : Engine) (env : Env) : Action → Engine × Option String
  | .approve digest replaceDigest => engine.approve env digest replaceDigest
  | .revokeApproval => engine.revokeApproval env
  | .cancel => engine.cancel env
  | .revert result => engine.revert env result
  | .sweep => (engine.sweep env, none)
  | .authorityChanged => (engine.onAuthorityChanged env, none)
  | .restart => (engine.restart env, none)
  | .shutdown => (engine.teardownRun, none)
  | .peer op => engine.handlePeerOp env op
  | .resume work answer => (engine.resume env work answer, none)
  | .sessionFinished runId verified published =>
    (engine.sessionFinished env runId verified published, none)
  | .sessionFailed runId code => (engine.sessionFailed env runId code, none)
  | .established runId linkGen relayed => (engine.established env runId linkGen relayed, none)
  | .progressed runId file block => (engine.progressed env runId file block, none)
  | .checkpointed runId file blocks => (engine.checkpointed env runId file blocks, none)
  | .watchdog runId => (engine.watchdogFires env runId, none)
  | .retryFires runId => (engine.retryFires env runId, none)

end Engine

/-- What `create` and `onOffer` are given of a transfer. -/
structure Offered where
  role : TransferRole
  selectionDigest : String
  selectionFiles : Nat
  existingPath : Bool
  finalName : String
  totalBytes : Nat
  requestedBy : Bool
  overwrite : Option OverwriteInfo
  createdAt : Int

def offeredRecord (offered : Offered) : TransferRecord where
  role := offered.role
  selectionDigest := offered.selectionDigest
  selectionFiles := offered.selectionFiles
  existingPath := offered.existingPath
  finalName := offered.finalName
  totalBytes := offered.totalBytes
  requestedBy := offered.requestedBy
  overwrite := offered.overwrite
  state := match offered.role with
    | .source => .previewed
    | .target => .offered
  createdAt := offered.createdAt
  activityAt := offered.createdAt
  previewExpiresAt := offered.createdAt + retentionPreview

def offeredEngine (offered : Offered) : Engine where
  record := offeredRecord offered
  saved := (offeredRecord offered).progress
  restartEpoch := 0
  runs := []
  nextRun := 0
  current := none
  pending := []
  receipts := []
  linksOpened := []

def transferMachine (offered : Offered) :
    Machine Engine (Env × Action) (Engine × Option String) where
  initial := offeredEngine offered
  respond := fun engine input => engine.act input.1 input.2
  advance := Prod.fst

/-! ## A transfer of one file -/

namespace OneFile

def env : Env where
  now := 1
  ownerAuthGeneration := "g"
  peerAuthorized := true
  support := none
  linkFactory := true
  workspace := true
  relayAllowed := true
  agentAutoApprove := false
  relayUsedToday := 0
  othersActive := 0
  targetScan := .error "TARGET_PATH_UNSAFE"

def offer (role : TransferRole) : Offered where
  role := role
  selectionDigest := "d"
  selectionFiles := 1
  existingPath := false
  finalName := "copy"
  totalBytes := 5
  requestedBy := false
  overwrite := none
  createdAt := 0

def files : List ContentFileInfo := [{ path := "a", size := 5, sha256 := "h" }]

end OneFile

end Adhdev.Transfer
