import Adhdev.Foundation.AsyncRules
import Adhdev.HostHandoff.Protocol

/-! # Source side of the host handoff

`host-handoff/source-machine.ts` over the ports of `host-handoff/live-env.ts` and
the journal, for one project. Each write to the journal or to a port is one write
to the store; what the ports answer comes from outside. The records of other
projects in a journal list are the wait `others`. -/

namespace Adhdev.HostHandoff

structure SourceRecord where
  handoffId : HandoffId
  peerDaemonId : DaemonId
  phase : SourcePhase
  epoch : Int
  launchPlan : Option HandoffLaunchPlan := none
  targetNodeId : Option String := none
  targetPublicKey : Option String := none
  manifestDigest : Option HandoffManifest := none
  rowCounts : Option (List (String × Nat)) := none
  createdAt : Int
  updatedAt : Int
  abortReason : Option AbortReason := none
  commitIntentAt : Option Int := none
  probeCount : Option Nat := none
  lastProbeAt : Option Int := none

/-- `SOURCE_TERMINAL`. -/
def SourcePhase.terminal (phase : SourcePhase) : Bool :=
  phase == .committed || phase == .aborted

structure HandedOff where
  daemonId : DaemonId
  epoch : Int
  handoffId : HandoffId

/-- What the source daemon stores. `snapshots` is lost with the process; `outbox`
and `ackReplies` are what it has put on the network, `transitions` the phase
changes it has logged. -/
structure SourceData where
  role : HostRole
  hostDaemonId : Option DaemonId
  hostEpoch : Int
  memberDaemonIds : List DaemonId
  handedOffTo : Option HandedOff := none
  handoffFence : Option HandoffFence := none
  writeFence : Option WriteFence := none
  journal : KeyedMap SourceRecord.handoffId := KeyedMap.empty
  certificates : HandoffId → Option HostTransferCertificate := fun _ => none
  snapshots : HandoffId → Option HandoffManifest := fun _ => none
  contents : Nat
  clock : Int
  outbox : List (DaemonId × Request) := []
  ackReplies : List (HandoffAck × PeerResult) := []
  transitions : List (HandoffId × SourcePhase × SourcePhase) := []

namespace SourceData

def get (data : SourceData) (handoffId : HandoffId) : Option SourceRecord :=
  KeyedMap.lookup SourceRecord.handoffId data.journal.entries handoffId

def put (data : SourceData) (record : SourceRecord) : SourceData :=
  { data with journal := data.journal.set record }

/-- `journal.update`: the patch never names the id. -/
def modify (data : SourceData) (handoffId : HandoffId) (patch : SourceRecord → SourceRecord) :
    Except Fault SourceData :=
  match data.get handoffId with
  | some record => .ok (data.put { patch record with handoffId })
  | none => .error .notJournalled

/-- `move`: journal the phase and log the change. -/
def move (data : SourceData) (handoffId : HandoffId) (phase : SourcePhase)
    (patch : SourceRecord → SourceRecord) : Except Fault SourceData :=
  match data.get handoffId with
  | some record =>
    .ok { data.put { patch { record with updatedAt := data.clock } with handoffId, phase } with
      transitions := data.transitions ++ [(handoffId, record.phase, phase)] }
  | none => .error .notJournalled

/-- `mesh.setFence`. Clearing the fence releases the write fence with it. -/
def setFence (data : SourceData) (fence : Option HandoffFence) (expectedHandoffId : HandoffId) :
    Except Fault SourceData := do
  let next ← exchangeFence data.handoffFence fence expectedHandoffId
  match fence with
  | some _ => pure { data with handoffFence := next }
  | none =>
    let history := data.role == .member && data.handedOffTo.any (·.handoffId == expectedHandoffId)
    let writeFence ← releaseWriteFence data.writeFence expectedHandoffId history
    pure { data with handoffFence := next, writeFence }

/-- `data.freezeWrites`. -/
def freezeWrites (data : SourceData) (handoffId : HandoffId) (epoch : Int) :
    Except Fault SourceData := do
  let writeFence ← acquireWriteFence data.writeFence handoffId epoch
  pure { data with writeFence }

def putCertificate (data : SourceData) (handoffId : HandoffId)
    (certificate : HostTransferCertificate) : SourceData :=
  { data with certificates := Function.update data.certificates handoffId (some certificate) }

def stopProved (data : SourceData) (handoffId : HandoffId) : Bool :=
  (data.certificates handoffId).any (·.sourceStopped)

def setSnapshot (data : SourceData) (handoffId : HandoffId) (snapshot : Option HandoffManifest) :
    SourceData :=
  { data with snapshots := Function.update data.snapshots handoffId snapshot }

def send (data : SourceData) (peer : DaemonId) (request : Request) : SourceData :=
  { data with outbox := data.outbox ++ [(peer, request)] }

/-- `mesh.writeHost` of the commit: this daemon follows the new host. -/
def writeMember (data : SourceData) (record : SourceRecord) : SourceData :=
  { data with
    role := .member
    hostDaemonId := some record.peerDaemonId
    hostEpoch := record.epoch
    handedOffTo := some {
      daemonId := record.peerDaemonId, epoch := record.epoch, handoffId := record.handoffId } }

def findActive (data : SourceData) : Option SourceRecord :=
  data.journal.entries.find? fun record => !record.phase.terminal

/-- A restart loses what the process held in memory. -/
def crash (data : SourceData) : SourceData := { data with snapshots := fun _ => none }

def hostWrite (data : SourceData) : SourceData :=
  if data.writeFence.isSome then data else { data with contents := data.contents + 1 }

end SourceData

/-! ## Ports -/

inductive SourceLock
  | starting
  | busy (handoffId : HandoffId)
  | activating (handoffId : HandoffId)
  deriving DecidableEq

inductive FreezeCheck
  | ready
  | coordinatorNotQuiescent
  | writerCheckpointPending

structure ExportedTables where
  rowCounts : List (String × Nat) := []
  chunks : List Nat := []

inductive SourceQuery
  | newId
  | surroundings (target : DaemonId)
  | inspection (target : DaemonId)
  | readMesh
  | hold
  | freezeCheck
  | stopSource
  | exportSnapshot
  | rpc (peer : DaemonId) (request : Request)
  | others

def SourceQuery.Answer : SourceQuery → Type
  | newId => HandoffId
  | surroundings _ => Except ErrorCode (Option HandoffLaunchPlan)
  | inspection _ => Except ErrorCode (Option String)
  | readMesh => Bool
  | hold => Bool
  | freezeCheck => Except Fault FreezeCheck
  | stopSource => Except Fault (Option SourceStopProof)
  | exportSnapshot => Except Fault ExportedTables
  | rpc _ _ => Except Fault PeerResult
  | others => Except Fault Unit

/-- The two writes of an abort are named, so that a run can say where they
happen. -/
inductive SourceLabel
  | plain
  | releases (handoffId : HandoffId) (reason : AbortReason)
  | aborts (handoffId : HandoffId) (reason : AbortReason)

@[reducible] def sourceLanguage : Language where
  Shared := SourceData
  Lock := SourceLock
  Query := SourceQuery
  Answer := SourceQuery.Answer
  Label := SourceLabel

abbrev SourceM := Async sourceLanguage Fault

namespace Source

def freezeTimeoutMs : Int := 5 * 60000
def ackTimeoutMs : Int := 2 * 60000
def chunkAttempts : Nat := 3
def probeBaseMs : Int := 30000
def probeMaxMs : Int := 5 * 60000

abbrev ask (query : SourceQuery) : SourceM query.Answer :=
  @Async.ask sourceLanguage Fault query

abbrev wait (query : SourceQuery) : SourceM query.Answer :=
  @Async.wait sourceLanguage Fault query

/-- Whether `mesh.read` finds the project. -/
def readMesh : SourceM Bool := ask .readMesh

/-- `hold.acquire`. -/
def acquireHold : SourceM Bool := ask .hold

def ofPort {α : Type} : Except Fault α → SourceM α
  | .ok value => pure value
  | .error fault => Async.throw fault

def journalGet (handoffId : HandoffId) : SourceM (Option SourceRecord) :=
  Async.inspect fun data _ => data.get handoffId

/-- `journal.get(...)!`. -/
def journalGet! (handoffId : HandoffId) : SourceM SourceRecord := do
  match ← journalGet handoffId with
  | some record => pure record
  | none => Async.throw .notJournalled

def holds (lock : SourceLock) : SourceM Bool := Async.inspect fun _ locks => locks.contains lock

def now : SourceM Int := Async.inspect fun data _ => data.clock

def journalUpdate (handoffId : HandoffId) (patch : SourceRecord → SourceRecord) : SourceM Unit :=
  Async.update .plain (·.modify handoffId patch)

def moveAs (label : SourceLabel) (handoffId : HandoffId) (phase : SourcePhase)
    (patch : SourceRecord → SourceRecord := id) : SourceM SourceRecord := do
  Async.update label (·.move handoffId phase patch)
  journalGet! handoffId

def move (handoffId : HandoffId) (phase : SourcePhase)
    (patch : SourceRecord → SourceRecord := id) : SourceM SourceRecord :=
  moveAs .plain handoffId phase patch

def setFence (fence : Option HandoffFence) (expectedHandoffId : HandoffId) : SourceM Unit :=
  Async.update .plain (·.setFence fence expectedHandoffId)

def freezeWrites (handoffId : HandoffId) (epoch : Int) : SourceM Unit :=
  Async.update .plain (·.freezeWrites handoffId epoch)

def store (change : SourceData → SourceData) : SourceM Unit :=
  Async.update .plain fun data => .ok (change data)

def stopSource : SourceM (Option SourceStopProof) := do ofPort (← wait .stopSource)

def rpc (peer : DaemonId) (request : Request) : SourceM PeerResult := do
  store (·.send peer request)
  ofPort (← wait (.rpc peer request))

/-- `sourceCertificate`. -/
def sourceCertificate (setting : Setting) (record : SourceRecord)
    (sourceStopProof : Option SourceStopProof) (issuedAt : Int) : HostTransferCertificate :=
  let unsigned : HostTransferCertificate := {
    sourceStopped := true
    sourceStopProof
    meshId := setting.meshId
    newHostDaemonId := record.peerDaemonId
    newHostNodeId := record.targetNodeId
    hostEpoch := record.epoch
    newHostPublicKey := record.targetPublicKey.getD ""
    handoffId := record.handoffId
    previousHostDaemonId := setting.source
    issuedAt
    signature := none }
  { unsigned with signature := some (setting.sign unsigned) }

def exportedManifest (setting : Setting) (record : SourceRecord) (data : SourceData)
    (tables : ExportedTables) : HandoffManifest := {
  handoffId := record.handoffId
  fromDaemonId := setting.source
  toDaemonId := record.peerDaemonId
  hostEpoch := data.hostEpoch
  nextEpoch := data.hostEpoch + 1
  launchPlan := record.launchPlan
  contents := data.contents
  rowCounts := tables.rowCounts
  chunks := tables.chunks }

/-- `data.exportSnapshot`, kept in memory. -/
def exportSnapshot (setting : Setting) (record : SourceRecord) : SourceM HandoffManifest := do
  let tables ← ofPort (← ask .exportSnapshot)
  let manifest ← Async.inspect fun data _ => exportedManifest setting record data tables
  store (·.setSnapshot record.handoffId (some manifest))
  pure manifest

/-! ## Abort -/

def abortInternal (record : SourceRecord) (reason : AbortReason)
    (targetAlreadyDiscarded : Bool) : SourceM Unit := Async.settled do
  match ← journalGet record.handoffId with
  | none => pure ()
  | some current =>
    if current.phase == .aborted || current.phase == .committed then pure ()
    else if !targetAlreadyDiscarded && (current.commitIntentAt.isSome ||
        (← holds (.activating record.handoffId))) then pure ()
    else
      Async.update (.releases record.handoffId reason) (·.setFence none record.handoffId)
      let _ ← moveAs (.aborts record.handoffId reason) record.handoffId .aborted
        fun record => { record with abortReason := some reason }
      store (·.setSnapshot record.handoffId none)
      if targetAlreadyDiscarded then pure ()
      else
        Async.tryCatch
          (do let _ ← rpc record.peerDaemonId (.discard record.handoffId))
          fun _ => pure ()

/-! ## Advance -/

/-- A refused or failed attempt is repeated up to `chunkAttempts` times in all. -/
def sendChunk (record : SourceRecord) (contents seq : Nat) : Nat → SourceM (Option AbortReason)
  | 0 => Async.throw .lost
  | attempts + 1 =>
    Async.tryCatch
      (do
        let result ← rpc record.peerDaemonId (.chunk record.handoffId seq contents)
        pure (if result.success then none
          else some (.refused (result.code.getD .chunkHashMismatch))))
      fun fault => if attempts = 0 then Async.throw fault else sendChunk record contents seq
        attempts

def sendChunks (record : SourceRecord) (contents : Nat) : List Nat → SourceM (Option AbortReason)
  | [] => pure none
  | seq :: rest => do
      let refused ← sendChunk record contents seq chunkAttempts
      let time ← now
      journalUpdate record.handoffId fun record => { record with updatedAt := time }
      match refused with
      | some reason => pure (some reason)
      | none => sendChunks record contents rest

/-- `send` of `transfer`: the reason the transfer failed, or none. -/
def transferSend (record : SourceRecord) (snapshot : HandoffManifest) :
    SourceM (Option AbortReason) :=
  Async.tryCatch
    (do
      let answer ← rpc record.peerDaemonId (.manifest record.handoffId snapshot)
      if !answer.success then
        pure (some (.refused (answer.code.getD .manifestMismatch)))
      else
        match ← sendChunks record snapshot.contents
            (snapshot.chunks.filter fun seq => !answer.have_.contains seq) with
        | some reason => pure (some reason)
        | none =>
          let isSealed ← rpc record.peerDaemonId (.seal record.handoffId)
          if !isSealed.success then
            pure (some (.refused (isSealed.code.getD .verifyFailed)))
          else
            let time ← now
            journalUpdate record.handoffId fun record => { record with updatedAt := time }
            pure none)
    fun _ => pure (some .transferInterrupted)

def transfer (setting : Setting) (record : SourceRecord) : SourceM (Option AbortReason) :=
  Async.settled do
    match ← Async.inspect fun data _ => data.snapshots record.handoffId with
    | some snapshot => transferSend record snapshot
    | none =>
      if ← readMesh then transferSend record (← exportSnapshot setting record)
      else pure (some .meshUnreadable)

/- The loop of `advance` runs on while it journals the next phase. A round that
does so suspends nowhere after it, so that each round is written as the end of
the one before it. -/

def advanceExported (setting : Setting) (record : SourceRecord) : SourceM Unit := do
  let _ ← move record.handoffId .awaitingAck
  match ← transfer setting record with
  | none => pure ()
  | some reason => abortInternal (← journalGet! record.handoffId) reason false

def advanceExporting (setting : Setting) (record : SourceRecord) : SourceM Unit := do
  if ← readMesh then
    let exported ← Async.tryCatch
      (do
        let manifest ← exportSnapshot setting record
        let next ← move record.handoffId .exported fun record => { record with
          manifestDigest := some manifest, rowCounts := some manifest.rowCounts }
        pure (some next))
      fun _ => do
        abortInternal record .exportFailed false
        pure none
    match exported with
    | some next => advanceExported setting next
    | none => pure ()
  else abortInternal record .meshUnreadable false

def advanceFrozen (setting : Setting) (record : SourceRecord) : SourceM Unit := do
  setFence (some { handoffId := record.handoffId, epoch := record.epoch }) record.handoffId
  if ← Async.inspect fun data _ => data.stopProved record.handoffId then
    advanceExporting setting (← move record.handoffId .exporting)
  else
    match ← wait .stopSource with
    | .error _ => pure ()
    | .ok proof =>
      freezeWrites record.handoffId record.epoch
      if record.targetPublicKey.isNone then abortInternal record .certificateUnavailable false
      else
        let certificate := sourceCertificate setting record proof (← now)
        store (·.putCertificate record.handoffId certificate)
        advanceExporting setting (← move record.handoffId .exporting)

def advanceFreezing (setting : Setting) (record : SourceRecord) : SourceM Unit := do
  match ← ofPort (← wait .freezeCheck) with
  | .ready => advanceFrozen setting (← move record.handoffId .frozen)
  | .writerCheckpointPending => abortInternal record .writerCheckpointPending false
  | .coordinatorNotQuiescent =>
    if (← now) - record.updatedAt ≥ freezeTimeoutMs then
      abortInternal record .freezeTimeout false
    else pure ()

def advance (setting : Setting) (handoffId : HandoffId) : SourceM Unit := Async.settled do
  if ← holds (.busy handoffId) then pure ()
  else
    Async.acquire (.busy handoffId)
    Async.ensuring
      (do
        match ← journalGet handoffId with
        | none => pure ()
        | some record =>
          match record.phase with
          | .freezing => advanceFreezing setting record
          | .frozen => advanceFrozen setting record
          | .exporting => advanceExporting setting record
          | .exported => advanceExported setting record
          | _ => pure ())
      (Async.release (.busy handoffId))

/-! ## Start -/

structure StartInput where
  targetDaemonId : DaemonId
  targetNodeId : Option String := none
  handoffId : Option HandoffId := none

inductive StartResult
  | started (handoffId : HandoffId) (phase : SourcePhase)
  | refused (code : ErrorCode)

structure Offer where
  targetPublicKey : Option String
  launchPlan : Option HandoffLaunchPlan

/-- The checks of `preflight` that this daemon makes on its own records. -/
def localChecks (setting : Setting) (input : StartInput) (data : SourceData) : Option ErrorCode :=
  if !(data.role == .host && data.handedOffTo.isNone &&
      data.hostDaemonId.all (· == setting.source)) then some .notHost
  else if input.targetDaemonId == setting.source then some .targetIsSelf
  else if !data.memberDaemonIds.contains input.targetDaemonId then some .targetNotMember
  else if data.findActive.isSome then some .handoffInProgress
  else none

/-- The first failed check, or what the target offers. The peers, the target's
disk and the freeze check answer together in `inspection`. -/
def preflight (setting : Setting) (input : StartInput) : SourceM (Except ErrorCode Offer) := do
  match ← Async.inspect fun data _ => localChecks setting input data with
  | some code => pure (.error code)
  | none =>
    match ← ask (.surroundings input.targetDaemonId) with
    | .error code => pure (.error code)
    | .ok launchPlan =>
      match ← wait (.inspection input.targetDaemonId) with
      | .error code => pure (.error code)
      | .ok targetPublicKey => pure (.ok { targetPublicKey, launchPlan })

def preflightRecord (input : StartInput) (handoffId : HandoffId) (offer : Offer)
    (data : SourceData) : SourceRecord := {
  handoffId
  peerDaemonId := input.targetDaemonId
  phase := .preflight
  epoch := data.hostEpoch + 1
  launchPlan := offer.launchPlan
  targetNodeId := input.targetNodeId
  targetPublicKey := offer.targetPublicKey
  createdAt := data.clock
  updatedAt := data.clock }

def startFresh (setting : Setting) (input : StartInput) (handoffId : HandoffId) :
    SourceM StartResult := do
  match ← preflight setting input with
  | .error code => pure (.refused code)
  | .ok offer =>
    store fun data => data.put (preflightRecord input handoffId offer data)
    if ← acquireHold then
      let _ ← move handoffId .freezing
      advance setting handoffId
      pure (.started handoffId (← journalGet! handoffId).phase)
    else
      let _ ← move handoffId .aborted fun record =>
        { record with abortReason := some .holdFailed }
      pure (.refused .holdFailed)

def startLocked (setting : Setting) (input : StartInput) : SourceM StartResult := do
  match ← Async.inspect fun data _ => input.handoffId.bind data.get with
  | some existing =>
    if existing.peerDaemonId != input.targetDaemonId ||
        existing.targetNodeId != input.targetNodeId then pure (.refused .invalidArgs)
    else pure (.started existing.handoffId existing.phase)
  | none =>
    if ← Async.inspect fun data _ => data.findActive.isSome then
      pure (.refused .handoffInProgress)
    else
      match input.handoffId with
      | some handoffId => startFresh setting input handoffId
      | none => startFresh setting input (← ask .newId)

def start (setting : Setting) (input : StartInput) : SourceM StartResult := do
  if ← holds .starting then pure (.refused .handoffInProgress)
  else
    Async.acquire .starting
    Async.ensuring (Async.settled (startLocked setting input)) (Async.release .starting)

/-! ## Activate and commit -/

def commit (handoffId : HandoffId) : SourceM Unit := Async.settled do
  let record ← journalGet! handoffId
  if record.phase == .committed then pure ()
  else
    store (·.writeMember record)
    let _ ← move handoffId .committed
    setFence none handoffId
    store (·.setSnapshot handoffId none)

def moveUncertain (handoffId : HandoffId) : SourceM Unit := do
  let time ← now
  let _ ← move handoffId .uncertain fun record => { record with
    probeCount := some 0, lastProbeAt := some time }

def sendActivate (record : SourceRecord) (certificate : HostTransferCertificate) :
    SourceM Unit := do
  let handoffId := record.handoffId
  let result ← Async.tryCatch
    (do return some (← rpc record.peerDaemonId (.activate handoffId record.epoch certificate)))
    fun _ => pure none
  match result with
  | none => moveUncertain handoffId
  | some result =>
    if result.success && result.applied != some false then commit handoffId
    else if result.applied == some false && result.discarded &&
        result.phase == some .discarded && result.epoch == some record.epoch then
      abortInternal (← journalGet! handoffId) (.refused (result.code.getD .activateFailed)) true
    else moveUncertain handoffId

/-- What `activateLocked` does once the fence is up. -/
def intend (setting : Setting) (handoffId : HandoffId) (record : SourceRecord) :
    SourceM Unit := do
  let stopped ←
    if ← Async.inspect fun data _ => data.stopProved handoffId then pure true
    else
      match ← wait .stopSource with
      | .ok _ => pure true
      | .error _ => pure false
  if stopped then
    let time ← now
    let certificate ← Async.inspect fun data _ =>
      (data.certificates handoffId).getD (sourceCertificate setting record none time)
    store (·.putCertificate handoffId certificate)
    let intended ← move handoffId .activating fun record => { record with
      commitIntentAt := some time }
    sendActivate intended certificate
  else pure ()

def activateLocked (setting : Setting) (handoffId : HandoffId) : SourceM Unit := do
  match ← journalGet handoffId with
  | none => pure ()
  | some record =>
    if record.phase != .acked && record.phase != .uncertain then pure ()
    else if !(← readMesh) || record.targetPublicKey.isNone then
      abortInternal record .certificateUnavailable false
    else
      setFence (some { handoffId, epoch := record.epoch }) handoffId
      intend setting handoffId record

def activate (setting : Setting) (handoffId : HandoffId) : SourceM Unit := Async.settled do
  if ← holds (.activating handoffId) then pure ()
  else
    Async.acquire (.activating handoffId)
    Async.ensuring (activateLocked setting handoffId) (Async.release (.activating handoffId))

/-! ## ACK -/

def rowCountsDiffer (ours theirs : List (String × Nat)) : Bool :=
  ours.length != theirs.length || ours.any fun entry => theirs.lookup entry.1 != some entry.2

def ackDiffers (ack : HandoffAck) (record : SourceRecord) : Bool :=
  some ack.manifestDigest != record.manifestDigest || ack.epoch != record.epoch ||
    rowCountsDiffer (record.rowCounts.getD []) ack.rowCounts || !ack.coordinatorLaunchable

def onAck (setting : Setting) (ack : HandoffAck) (sender : DaemonId) : SourceM PeerResult := do
  match ← journalGet ack.handoffId with
  | none => pure (fail .handoffUnknown)
  | some record =>
    if record.peerDaemonId != sender || ack.targetDaemonId != sender then
      pure (fail .wrongPeer)
    else
      match record.phase with
      | .aborted => pure (fail .handoffAborted)
      | .acked | .activating | .uncertain | .committed =>
        if record.manifestDigest == some ack.manifestDigest then
          pure { success := true, duplicate := true }
        else pure (fail .ackMismatch)
      | .awaitingAck =>
        if ackDiffers ack record then
          abortInternal record .ackMismatch false
          pure (fail .ackMismatch)
        else
          let _ ← move ack.handoffId .acked
          Async.spawn (activate setting ack.handoffId)
          pure { success := true }
      | _ => pure (fail .handoffUnknown)

/-- Answer an ACK that arrived from `sender`. -/
def serveAck (setting : Setting) (ack : HandoffAck) (sender : DaemonId) : SourceM Unit := do
  let result ← onAck setting ack sender
  store fun data => { data with ackReplies := data.ackReplies ++ [(ack, result)] }

/-! ## Owner commands, tick and resume -/

inductive OwnerResult
  | ok (phase : Option SourcePhase)
  | refused (code : ErrorCode)
  | failed (reason : AbortReason)

/-- Only a handoff journalled by an older version has no stop certificate here. -/
def verifyRecoveredSourceStop (record : SourceRecord) : SourceM Bool := Async.settled do
  if ← Async.inspect fun data _ => data.stopProved record.handoffId then pure true
  else
    Async.tryCatch
      (do
        setFence (some { handoffId := record.handoffId, epoch := record.epoch }) record.handoffId
        let _ ← stopSource
        freezeWrites record.handoffId record.epoch
        pure true)
      fun _ => pure false

def confirms (phase : TargetPhase) (status : PeerResult) (record : SourceRecord) : Bool :=
  status.success && status.phase == some phase && status.epoch == some record.epoch &&
    !status.unknown

def abort (handoffId : HandoffId) : SourceM OwnerResult := do
  match ← journalGet handoffId with
  | none => pure (.refused .handoffUnknown)
  | some record =>
    if (← holds (.activating handoffId)) || (← holds (.busy handoffId)) then
      pure (.refused .handoffInProgress)
    else
      match record.phase with
      | .committed => pure (.refused .alreadyCommitted)
      | .aborted => pure (.ok none)
      | .activating | .uncertain =>
        if ← verifyRecoveredSourceStop record then
          let status ← Async.tryCatch
            (do return some (← rpc record.peerDaemonId (.status handoffId)))
            fun _ => pure none
          if status.any (confirms .active · record) then
            commit handoffId
            pure (.refused .alreadyCommitted)
          else if status.any (confirms .discarded · record) then
            abortInternal record .ownerAbort true
            pure (.ok none)
          else pure (.refused .abortRequiresTargetConfirmation)
        else pure (.refused .coordinatorNotQuiescent)
      | _ =>
        abortInternal record .ownerAbort false
        pure (.ok none)

def probeWaits (record : SourceRecord) (time : Int) : Bool :=
  let pause := min (probeBaseMs * 2 ^ record.probeCount.getD 0) probeMaxMs
  record.lastProbeAt.any fun last => time - last < pause

def probeAnswered (setting : Setting) (record : SourceRecord) (status : PeerResult) :
    SourceM OwnerResult := do
  let handoffId := record.handoffId
  if !status.success then pure (.ok (some .uncertain))
  else if confirms .active status record then
    commit handoffId
    pure (.ok (some .committed))
  else if confirms .discarded status record then
    abortInternal (← journalGet! handoffId) .targetDiscarded true
    pure (.ok (some .aborted))
  else if status.unknown || status.epoch != some record.epoch then pure (.ok (some .uncertain))
  else
    if record.phase == .activating then
      let _ ← move handoffId .uncertain
      activate setting handoffId
    else activate setting handoffId
    pure (.ok (some (← journalGet! handoffId).phase))

def probe (setting : Setting) (handoffId : HandoffId) (force : Bool) : SourceM OwnerResult :=
  Async.settled do
    match ← journalGet handoffId with
    | none => pure (.refused .handoffUnknown)
    | some record =>
      if record.phase != .uncertain && record.phase != .activating then
        pure (.ok (some record.phase))
      else if !(← verifyRecoveredSourceStop record) then
        pure (.refused .coordinatorNotQuiescent)
      else
        let time ← now
        if !force && probeWaits record time then pure (.ok (some record.phase))
        else
          journalUpdate handoffId fun current => { current with
            probeCount := some (record.probeCount.getD 0 + 1), lastProbeAt := some time }
          let status ← Async.tryCatch
            (do return some (← rpc record.peerDaemonId (.status handoffId)))
            fun _ => pure none
          match status with
          | none => pure (.ok (some .uncertain))
          | some status => probeAnswered setting record status

def journalList : SourceM (List SourceRecord) :=
  Async.inspect fun data _ => data.journal.entries

/-- The records of other projects that a loop over the journal meets on its way. -/
def others : SourceM Unit := do ofPort (← wait .others)

def tickRecord (setting : Setting) (time : Int) (record : SourceRecord) : SourceM Unit := do
  others
  match record.phase with
  | .freezing | .frozen => advance setting record.handoffId
  | .awaitingAck =>
    if !(← holds (.busy record.handoffId)) && time - record.updatedAt ≥ ackTimeoutMs then
      abortInternal record .ackTimeout false
    else pure ()
  | .uncertain =>
    let _ ← probe setting record.handoffId false
  | .activating =>
    if !(← holds (.activating record.handoffId)) && record.commitIntentAt.isSome then
      let _ ← probe setting record.handoffId false
    else pure ()
  | _ => pure ()

def tick (setting : Setting) : SourceM Unit := do
  let time ← now
  Async.each (← journalList) (tickRecord setting time)

def resumeRecord (setting : Setting) (record : SourceRecord) : SourceM Unit := do
  others
  match record.phase with
  | .committed | .aborted => pure ()
  | .frozen => advance setting record.handoffId
  | .acked => activate setting record.handoffId
  | .activating =>
    let _ ← move record.handoffId .uncertain
    let _ ← probe setting record.handoffId true
  | .uncertain =>
    let _ ← probe setting record.handoffId true
  | _ => abortInternal record .sourceRestarted false

def resume (setting : Setting) : SourceM Unit := do
  Async.each (← journalList) (resumeRecord setting)

def transferAgain (setting : Setting) (record : SourceRecord) :
    SourceM (Option AbortReason) := do
  match ← transfer setting record with
  | none => pure none
  | some reason =>
    Async.release (.busy record.handoffId)
    abortInternal record reason false
    pure (some reason)

def retryTransfer (setting : Setting) (record : SourceRecord) : SourceM OwnerResult := do
  let handoffId := record.handoffId
  Async.acquire (.busy handoffId)
  let failed ← Async.ensuring (transferAgain setting record) (Async.release (.busy handoffId))
  match failed with
  | some reason => pure (.failed reason)
  | none =>
    let time ← now
    journalUpdate handoffId fun record => { record with updatedAt := time }
    pure (.ok (some .awaitingAck))

def retry (setting : Setting) (handoffId : HandoffId) : SourceM OwnerResult := do
  match ← journalGet handoffId with
  | none => pure (.refused .handoffUnknown)
  | some record =>
    match record.phase with
    | .awaitingAck =>
      if ← holds (.busy handoffId) then pure (.ok (some .awaitingAck))
      else retryTransfer setting record
    | .acked =>
      activate setting handoffId
      pure (.ok (some (← journalGet! handoffId).phase))
    | .uncertain | .activating => probe setting handoffId true
    | .freezing | .frozen =>
      advance setting handoffId
      pure (.ok (some (← journalGet! handoffId).phase))
    | phase => pure (.ok (some phase))

end Source

end Adhdev.HostHandoff
