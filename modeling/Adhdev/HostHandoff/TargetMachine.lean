import Adhdev.Foundation.AsyncRules
import Adhdev.HostHandoff.Protocol

/-! # Target side of the host handoff

`host-handoff/target-machine.ts` over the ports of `host-handoff/live-env.ts` and
the journal, for one project and one source. Each write to the journal or to a
port is one write to the store. -/

namespace Adhdev.HostHandoff

structure TargetRecord where
  handoffId : HandoffId
  peerDaemonId : DaemonId
  phase : TargetPhase
  epoch : Int
  launchPlan : Option HandoffLaunchPlan := none
  targetNodeId : Option String := none
  manifestDigest : HandoffManifest
  rowCounts : Option (List (String × Nat)) := none
  createdAt : Int
  updatedAt : Int
  abortReason : Option AbortReason := none
  coordinatorReadyAt : Option Int := none
  launchAttempts : Option Nat := none
  lastLaunchAt : Option Int := none

/-- `TARGET_TERMINAL`. -/
def TargetPhase.terminal (phase : TargetPhase) : Bool :=
  phase == .active || phase == .discarded

/-- The project record of a member daemon. -/
structure TargetMesh where
  role : HostRole := .member
  hostDaemonId : Option DaemonId
  hostNodeId : Option String := none
  hostEpoch : Int
  hostPublicKey : Option String
  handoffFence : Option HandoffFence := none

structure HostPairing where
  hostDaemonId : DaemonId
  hostPublicKey : Option String

/-- What a target daemon stores. `applied` are the snapshots committed to its live
tables and `hosted` the handoffs it wrote the host role for, in order; `replies`
and `acks` are what it has put on the network. -/
structure TargetData where
  mesh : Option TargetMesh
  pairing : Option HostPairing
  writeFence : Option WriteFence := none
  journal : KeyedMap TargetRecord.handoffId := KeyedMap.empty
  manifests : HandoffId → Option HandoffManifest := fun _ => none
  chunks : HandoffId → List Nat := fun _ => []
  certificates : HandoffId → Option HostTransferCertificate := fun _ => none
  clock : Int
  applied : List (HandoffId × HandoffManifest) := []
  hosted : List HandoffId := []
  replies : List (Request × PeerResult) := []
  acks : List HandoffAck := []

/-- `HostMeshView`, as far as the target reads it. -/
structure MemberView where
  role : HostRole
  hostDaemonId : Option DaemonId
  hostEpoch : Int
  hostPublicKey : Option String
  unrecorded : Bool

namespace TargetData

def get (data : TargetData) (handoffId : HandoffId) : Option TargetRecord :=
  KeyedMap.lookup TargetRecord.handoffId data.journal.entries handoffId

def put (data : TargetData) (record : TargetRecord) : TargetData :=
  { data with journal := data.journal.set record }

def modify (data : TargetData) (handoffId : HandoffId) (patch : TargetRecord → TargetRecord) :
    Except Fault TargetData :=
  match data.get handoffId with
  | some record => .ok (data.put { patch record with handoffId })
  | none => .error .notJournalled

def move (data : TargetData) (handoffId : HandoffId) (phase : TargetPhase)
    (patch : TargetRecord → TargetRecord) : Except Fault TargetData :=
  data.modify handoffId fun record =>
    { patch { record with updatedAt := data.clock } with phase }

def memberView (data : TargetData) (sender : DaemonId) : Option MemberView :=
  match data.mesh with
  | some mesh => some {
      role := mesh.role, hostDaemonId := mesh.hostDaemonId, hostEpoch := mesh.hostEpoch
      hostPublicKey := mesh.hostPublicKey, unrecorded := false }
  | none =>
    match data.pairing with
    | some pairing =>
      if pairing.hostDaemonId = sender then some {
        role := .member, hostDaemonId := some pairing.hostDaemonId, hostEpoch := 0
        hostPublicKey := pairing.hostPublicKey, unrecorded := true }
      else none
    | none => none

/-- `mesh.materializeMember`. -/
def materializeMember (data : TargetData) (hostDaemonId : DaemonId)
    (hostPublicKey : Option String) : TargetData :=
  match data.mesh with
  | some _ => data
  | none => { data with mesh := some {
      hostDaemonId := some hostDaemonId, hostEpoch := 0, hostPublicKey } }

def setFence (data : TargetData) (fence : Option HandoffFence) (expectedHandoffId : HandoffId) :
    Except Fault TargetData :=
  match data.mesh with
  | none => .error .fenceStorageUnavailable
  | some mesh => do
      let next ← exchangeFence mesh.handoffFence fence expectedHandoffId
      match fence with
      | some _ => pure { data with mesh := some { mesh with handoffFence := next } }
      | none =>
        let writeFence ← releaseWriteFence data.writeFence expectedHandoffId false
        pure { data with mesh := some { mesh with handoffFence := next }, writeFence }

def freezeWrites (data : TargetData) (handoffId : HandoffId) (epoch : Int) :
    Except Fault TargetData := do
  let writeFence ← acquireWriteFence data.writeFence handoffId epoch
  pure { data with writeFence }

def putManifest (data : TargetData) (handoffId : HandoffId) (manifest : HandoffManifest) :
    TargetData :=
  { data with manifests := Function.update data.manifests handoffId (some manifest) }

def putChunk (data : TargetData) (handoffId : HandoffId) (seq : Nat) : TargetData :=
  { data with
    chunks := Function.update data.chunks handoffId ((data.chunks handoffId).insert seq) }

def putCertificate (data : TargetData) (handoffId : HandoffId)
    (certificate : HostTransferCertificate) : TargetData :=
  { data with certificates := Function.update data.certificates handoffId (some certificate) }

def clearStage (data : TargetData) (handoffId : HandoffId) : TargetData :=
  { data with
    chunks := Function.update data.chunks handoffId []
    manifests := Function.update data.manifests handoffId none }

/-- The transaction of `data.applySnapshot`. -/
def commitSnapshot (data : TargetData) (handoffId : HandoffId) (manifest : HandoffManifest) :
    TargetData :=
  { data with applied := data.applied ++ [(handoffId, manifest)] }

/-- `mesh.writeHost` with the host role: the old host's pin and record go. -/
def writeHost (data : TargetData) (self : DaemonId) (record : TargetRecord) :
    Except Fault TargetData :=
  match data.mesh with
  | none => .error .fenceStorageUnavailable
  | some mesh => .ok { data with
      mesh := some { mesh with
        role := .host, hostDaemonId := some self, hostNodeId := record.targetNodeId
        hostEpoch := record.epoch, hostPublicKey := none }
      pairing := none
      hosted := data.hosted ++ [record.handoffId] }

def findActive (data : TargetData) : Option TargetRecord :=
  data.journal.entries.find? fun record => !record.phase.terminal

/-- A staged chunk that no longer reads back. -/
def corrupt (data : TargetData) (handoffId : HandoffId) (seq : Nat) : TargetData :=
  { data with
    chunks := Function.update data.chunks handoffId ((data.chunks handoffId).filter (· ≠ seq)) }

end TargetData

/-! ## Ports -/

inductive TargetLock
  | activation (handoffId : HandoffId)
  deriving DecidableEq

inductive ApplyOutcome
  | committed
  /-- The transaction rolled back: `handoffNoEffect`. -/
  | rolledBack
  /-- The tables are committed and the approval files are not. -/
  | failedAfterCommit

structure Observation where
  ready : Bool
  runtimeVerified : Bool
  liveCount : Nat := 0

inductive TargetQuery
  | localColumns
  | dryRunApply
  | canLaunch
  | applySnapshot
  | applyConfig
  | assignHost
  | readiness
  | observe
  | launch
  | ack (ack : HandoffAck)
  | others

def TargetQuery.Answer : TargetQuery → Type
  | localColumns => Bool
  | dryRunApply => Bool
  | canLaunch => Bool
  | applySnapshot => ApplyOutcome
  | applyConfig => Except Fault Unit
  | assignHost => Except Fault Unit
  | readiness => Except Fault Bool
  | observe => Except Fault Observation
  | launch => Except Fault Bool
  | ack _ => Except Fault PeerResult
  | others => Except Fault Unit

/-- The discard that spares only a discarded or active record is named, so that a
run can say where it happens. -/
inductive TargetLabel
  | plain
  | discards (handoffId : HandoffId)

@[reducible] def targetLanguage : Language where
  Shared := TargetData
  Lock := TargetLock
  Query := TargetQuery
  Answer := TargetQuery.Answer
  Label := TargetLabel

abbrev TargetM := Async targetLanguage Fault

namespace Target

def stageTtlMs : Int := 30 * 60000
def launchRetryMs : Int := 60000
def launchMaxAttempts : Nat := 5
def launchConvergeWindowMs : Int := 60 * 60000

abbrev ask (query : TargetQuery) : TargetM query.Answer :=
  @Async.ask targetLanguage Fault query

abbrev wait (query : TargetQuery) : TargetM query.Answer :=
  @Async.wait targetLanguage Fault query

def ofPort {α : Type} : Except Fault α → TargetM α
  | .ok value => pure value
  | .error fault => Async.throw fault

def localColumnsMatch : TargetM Bool := ask .localColumns

def dryRunApply : TargetM Bool := ask .dryRunApply

def canLaunch : TargetM Bool := ask .canLaunch

def readiness : TargetM Bool := do ofPort (← wait .readiness)

def observe : TargetM Observation := do ofPort (← wait .observe)

def journalGet (handoffId : HandoffId) : TargetM (Option TargetRecord) :=
  Async.inspect fun data _ => data.get handoffId

def journalGet! (handoffId : HandoffId) : TargetM TargetRecord := do
  match ← journalGet handoffId with
  | some record => pure record
  | none => Async.throw .notJournalled

def activationPending (handoffId : HandoffId) : TargetM Bool :=
  Async.inspect fun _ locks => locks.contains (.activation handoffId)

def now : TargetM Int := Async.inspect fun data _ => data.clock

def store (change : TargetData → TargetData) : TargetM Unit :=
  Async.update .plain fun data => .ok (change data)

def journalUpdate (handoffId : HandoffId) (patch : TargetRecord → TargetRecord) : TargetM Unit :=
  Async.update .plain (·.modify handoffId patch)

def move (handoffId : HandoffId) (phase : TargetPhase)
    (patch : TargetRecord → TargetRecord := id) : TargetM Unit :=
  Async.update .plain (·.move handoffId phase patch)

def setFence (fence : Option HandoffFence) (expectedHandoffId : HandoffId) : TargetM Unit :=
  Async.update .plain (·.setFence fence expectedHandoffId)

def discardInternal (record : TargetRecord) (reason : AbortReason) : TargetM Unit := do
  match ← journalGet record.handoffId with
  | none => pure ()
  | some current =>
    if current.phase == .discarded || current.phase == .active then pure ()
    else
      Async.update (.discards record.handoffId) (·.move record.handoffId .discarded
        fun record => { record with abortReason := some reason })
      store (·.clearStage record.handoffId)

def discardActivation (record : TargetRecord) (reason : AbortReason) : TargetM Unit := do
  move record.handoffId .discarded fun record => { record with abortReason := some reason }
  store (·.clearStage record.handoffId)

/-- `verifyStagedSnapshot`: the refusal, or none. -/
def verifyStagedSnapshot (manifest : HandoffManifest) : TargetM (Option ErrorCode) := do
  let staged ← Async.inspect fun data _ => data.chunks manifest.handoffId
  let columns ← localColumnsMatch
  if staged.length != manifest.chunks.length || !manifest.chunks.all staged.contains then
    pure (some .manifestMismatch)
  else if !columns then pure (some .verifyFailed)
  else pure none

/-! ## Staging -/

def importingRecord (sender : DaemonId) (manifest : HandoffManifest) (data : TargetData) :
    TargetRecord := {
  handoffId := manifest.handoffId
  peerDaemonId := sender
  phase := .importing
  epoch := manifest.nextEpoch
  launchPlan := manifest.launchPlan
  targetNodeId := manifest.launchPlan.bind (·.targetNodeId)
  manifestDigest := manifest
  createdAt := data.clock
  updatedAt := data.clock }

def followsSender (view : Option MemberView) (sender : DaemonId) : Bool :=
  view.any fun view => view.role == .member && view.hostDaemonId == some sender

def manifestReceived (self sender : DaemonId) (handoffId : HandoffId)
    (manifest : HandoffManifest) : TargetM PeerResult := do
  let view ← Async.inspect fun data _ => data.memberView sender
  if manifest.handoffId != handoffId then pure (fail .manifestMismatch)
  else if manifest.fromDaemonId != sender || manifest.toDaemonId != self then
    pure (fail .wrongPeer)
  else if !followsSender view sender then pure (fail .wrongPeer)
  else if manifest.nextEpoch != manifest.hostEpoch + 1 ||
      view.any (fun view => !view.unrecorded && manifest.hostEpoch != view.hostEpoch) then
    pure (fail .staleEpoch)
  else
    match ← journalGet handoffId with
    | some existing =>
      if existing.phase == .discarded then pure (fail .handoffAborted)
      else if existing.phase == .active then pure (fail .alreadyCommitted)
      else if existing.manifestDigest != manifest then pure (fail .manifestMismatch)
      else do
        let staged ← Async.inspect fun data _ => data.chunks handoffId
        pure { success := true, have_ := staged }
    | none =>
      if ← Async.inspect fun data _ => data.findActive.isSome then
        pure (fail .handoffInProgress)
      else
        store fun data => data.put (importingRecord sender manifest data)
        store (·.putManifest handoffId manifest)
        pure { success := true }

def chunkReceived (sender : DaemonId) (handoffId : HandoffId) (seq contents : Nat) :
    TargetM PeerResult := do
  match ← journalGet handoffId with
  | none => pure (fail .handoffUnknown)
  | some record =>
    if record.peerDaemonId != sender then pure (fail .wrongPeer)
    else if record.phase == .discarded then pure (fail .handoffAborted)
    else if record.phase != .importing then pure { success := true, duplicate := true }
    else
      let manifest ← Async.inspect fun data _ => data.manifests handoffId
      if !manifest.any (fun manifest =>
          manifest.chunks.contains seq && manifest.contents == contents) then
        pure (fail .chunkHashMismatch)
      else
        store (·.putChunk handoffId seq)
        let time ← now
        journalUpdate handoffId fun record => { record with updatedAt := time }
        pure { success := true }

/-- A paired member holds no project record until activation. -/
def ackLaunchable (host : DaemonId) : TargetM Bool := do
  let launchable ← canLaunch
  let view ← Async.inspect fun data _ => data.memberView host
  pure (launchable || view.any (·.unrecorded))

def sendAck (ack : HandoffAck) : TargetM Unit := do
  store fun data => { data with acks := data.acks ++ [ack] }
  let result ← ofPort (← wait (.ack ack))
  match ← journalGet ack.handoffId with
  | none => pure ()
  | some record =>
    if record.phase != .verified then pure ()
    else if result.success then move ack.handoffId .acked
    else discardInternal record (.ackRefused result.code)

def acknowledge (self : DaemonId) (record : TargetRecord) (manifest : HandoffManifest)
    (rowCounts : List (String × Nat)) : TargetM PeerResult := do
  let coordinatorLaunchable ← ackLaunchable record.peerDaemonId
  Async.spawn (sendAck {
    handoffId := record.handoffId, epoch := record.epoch, manifestDigest := manifest, rowCounts
    targetDaemonId := self, coordinatorLaunchable })
  pure { success := true }

def sealReceived (self sender : DaemonId) (handoffId : HandoffId) : TargetM PeerResult := do
  match ← journalGet handoffId with
  | none => pure (fail .handoffUnknown)
  | some record =>
    if record.peerDaemonId != sender then pure (fail .wrongPeer)
    else if record.phase == .discarded then pure (fail .handoffAborted)
    else
      match ← Async.inspect fun data _ => data.manifests handoffId with
      | none =>
        if record.phase == .verified || record.phase == .importing then
          Async.throw .unavailable
        else pure { success := true, phase := some record.phase }
      | some manifest =>
        if record.phase == .verified then
          acknowledge self record manifest (record.rowCounts.getD [])
        else if record.phase != .importing then
          pure { success := true, phase := some record.phase }
        else
          match ← verifyStagedSnapshot manifest with
          | some code =>
            discardInternal record (.verify code)
            pure (fail code)
          | none =>
            if ← dryRunApply then
              move handoffId .staged
              move handoffId .verified fun record =>
                { record with rowCounts := some manifest.rowCounts }
              acknowledge self record manifest manifest.rowCounts
            else
              discardInternal record .snapshotConflict
              pure (fail .snapshotConflict)

/-! ## Activation -/

def launchOnce (handoffId : HandoffId) : TargetM Bool := Async.settled do
  let record ← journalGet! handoffId
  let time ← now
  journalUpdate handoffId fun current => { current with
    launchAttempts := some (record.launchAttempts.getD 0 + 1), lastLaunchAt := some time }
  let ready ← Async.tryCatch (do ofPort (← wait .launch)) fun _ => pure false
  if ready then
    let later ← now
    journalUpdate handoffId fun current => { current with coordinatorReadyAt := some later }
  pure ready

def finishActivation (handoffId : HandoffId) : TargetM PeerResult := do
  if ← readiness then
    move handoffId .active
    setFence none handoffId
    store (·.clearStage handoffId)
    let ready ← launchOnce handoffId
    pure { success := true, applied := some true, coordinatorReady := ready }
  else pure (fail .targetNotLaunchable)

def discardedReply (code : ErrorCode) (record : TargetRecord) : PeerResult :=
  { fail code with
    applied := some false, discarded := true, phase := some .discarded
    epoch := some record.epoch }

def certificateValid (setting : Setting) (self : DaemonId) (record : TargetRecord)
    (view : Option MemberView) (certificate : HostTransferCertificate) : Bool :=
  certificate.sourceStopped && certificate.handoffId == record.handoffId &&
    certificate.hostEpoch == record.epoch && certificate.newHostDaemonId == self &&
    certificate.newHostPublicKey == setting.publicKey self &&
    view.any fun view => view.hostPublicKey.any fun key =>
      (verifyHostTransferCertificate setting.keys certificate {
        meshId := setting.meshId
        pinnedHostDaemonId := record.peerDaemonId
        pinnedHostPublicKey := key
        heldEpoch := if view.unrecorded then record.epoch - 1 else view.hostEpoch }).isNone

/-- `applyActivation` from the fence on. -/
def applyFenced (self : DaemonId) (record : TargetRecord) (manifest : HandoffManifest)
    (firstApply : Bool) : TargetM (Option PeerResult) := do
  setFence (some { handoffId := record.handoffId, epoch := record.epoch }) record.handoffId
  Async.update .plain (·.freezeWrites record.handoffId record.epoch)
  match ← ask .applySnapshot with
  | .rolledBack =>
    if firstApply then
      setFence none record.handoffId
      discardActivation record .applyRolledBack
      pure (some (discardedReply .snapshotConflict record))
    else Async.throw .unavailable
  | .failedAfterCommit =>
    store (·.commitSnapshot record.handoffId manifest)
    Async.throw .unavailable
  | .committed =>
    store (·.commitSnapshot record.handoffId manifest)
    ofPort (← ask .applyConfig)
    ofPort (← ask .assignHost)
    Async.update .plain (·.writeHost self record)
    pure none

/-- The effects of an activation: the tables, the configuration and the host role.
The result says whether they all came through. -/
def applyActivation (self : DaemonId) (record : TargetRecord) (manifest : HandoffManifest)
    (firstApply : Bool) : TargetM (Option PeerResult) := do
  let view ← Async.inspect fun data _ => data.memberView record.peerDaemonId
  if view.any (·.unrecorded) then
    store (·.materializeMember record.peerDaemonId (view.bind (·.hostPublicKey)))
  applyFenced self record manifest firstApply

def applyStaged (self : DaemonId) (record : TargetRecord) (manifest : HandoffManifest)
    (certificate : HostTransferCertificate) : TargetM PeerResult := do
  store (·.putCertificate record.handoffId certificate)
  move record.handoffId .activating
  let outcome ← Async.tryCatch
    (applyActivation self record manifest (record.phase != .activating))
    fun _ => pure (some (fail .activateFailed))
  match outcome with
  | some refusal => pure refusal
  | none => finishActivation record.handoffId

def stillStaged (phase : TargetPhase) : Bool := phase == .verified || phase == .acked

/-- Re-verify the staged copy and ask for readiness once more. -/
def activateStaged (self : DaemonId) (record : TargetRecord)
    (certificate : HostTransferCertificate) : TargetM PeerResult := do
  match ← Async.inspect fun data _ => data.manifests record.handoffId with
  | none => pure { fail .notStaged with applied := some false }
  | some manifest =>
    match ← verifyStagedSnapshot manifest with
    | some code =>
      discardInternal record (.reverify code)
      pure (discardedReply code record)
    | none =>
      if manifest.launchPlan.any (fun plan =>
          plan.targetNodeId != certificate.newHostNodeId) then
        pure (fail .certificateInvalid)
      else
        let ready ← readiness
        match ← journalGet record.handoffId with
        | none => pure (fail .handoffInProgress)
        | some current =>
          if current.phase != record.phase &&
              !(stillStaged current.phase && stillStaged record.phase) then
            pure (fail .handoffInProgress)
          else if ready then applyStaged self record manifest certificate
          else if record.phase == .activating then pure (fail .targetNotLaunchable)
          else
            discardInternal record .targetReadinessFailed
            pure (discardedReply .targetNotLaunchable record)

def activateLocked (setting : Setting) (self sender : DaemonId) (handoffId : HandoffId)
    (epoch : Int) (certificate : HostTransferCertificate) : TargetM PeerResult := do
  match ← journalGet handoffId with
  | none => pure { fail .notStaged with applied := some false }
  | some record =>
    if record.peerDaemonId != sender then
      pure { fail .wrongPeer with applied := some false }
    else if epoch != record.epoch then pure (fail .invalidArgs)
    else
      let saved ← Async.inspect fun data _ => data.certificates handoffId
      let view ← Async.inspect fun data _ => data.memberView record.peerDaemonId
      let started := record.phase == .active || record.phase == .activating
      if started && !saved.any (·.signature == certificate.signature) then
        pure (fail .certificateInvalid)
      else if !started && !certificateValid setting self record view certificate then
        pure { fail .certificateInvalid with applied := some false }
      else
        match record.phase with
        | .active =>
          let observed ← observe
          pure { success := true, applied := some true, duplicate := true,
                 coordinatorReady := observed.ready }
        | .discarded => pure (discardedReply .handoffAborted record)
        | .verified | .acked | .activating => activateStaged self record certificate
        | _ => pure { fail .notStaged with applied := some false }

def activate (setting : Setting) (self sender : DaemonId) (handoffId : HandoffId) (epoch : Int)
    (certificate : HostTransferCertificate) : TargetM PeerResult := do
  if ← activationPending handoffId then pure (fail .handoffInProgress)
  else
    Async.acquire (.activation handoffId)
    Async.ensuring
      (Async.settled (activateLocked setting self sender handoffId epoch certificate))
      (Async.release (.activation handoffId))

/-! ## Status, discard, resume and tick -/

def status (sender : DaemonId) (handoffId : HandoffId) : TargetM PeerResult := do
  match ← journalGet handoffId with
  | none => pure { success := true, unknown := true }
  | some record =>
    if record.peerDaemonId != sender then pure (fail .wrongPeer)
    else
      let _ ← Async.tryCatch (do let _ ← observe) fun _ => pure ()
      pure { success := true, phase := some record.phase, epoch := some record.epoch }

def discard (sender : DaemonId) (handoffId : HandoffId) : TargetM PeerResult := do
  if ← activationPending handoffId then pure (fail .alreadyCommitted)
  else
    match ← journalGet handoffId with
    | none => pure { success := true, duplicate := true }
    | some record =>
      if record.peerDaemonId != sender then pure (fail .wrongPeer)
      else if record.phase == .active || record.phase == .activating then
        pure (fail .alreadyCommitted)
      else
        discardInternal record .sourceDiscard
        pure { success := true }

def serve (setting : Setting) (self : DaemonId) (request : Request) : TargetM Unit := do
  let result ← match request with
    | .manifest handoffId manifest => manifestReceived self setting.source handoffId manifest
    | .chunk handoffId seq contents => chunkReceived setting.source handoffId seq contents
    | .seal handoffId => sealReceived self setting.source handoffId
    | .activate handoffId epoch certificate =>
      activate setting self setting.source handoffId epoch certificate
    | .status handoffId => status setting.source handoffId
    | .discard handoffId => discard setting.source handoffId
  store fun data => { data with replies := data.replies ++ [(request, result)] }

def convergeLaunch (record : TargetRecord) : TargetM Unit := do
  let time ← now
  if record.coordinatorReadyAt.isSome then pure ()
  else if time - record.updatedAt ≥ launchConvergeWindowMs ||
      record.launchAttempts.getD 0 ≥ launchMaxAttempts then pure ()
  else if record.lastLaunchAt.any fun last => time - last < launchRetryMs then pure ()
  else
    let seen ← observe
    if seen.ready then
      journalUpdate record.handoffId fun current =>
        { current with coordinatorReadyAt := some time }
    else if !seen.runtimeVerified || seen.liveCount != 0 then pure ()
    else
      let _ ← launchOnce record.handoffId

def journalList : TargetM (List TargetRecord) := Async.inspect fun data _ => data.journal.entries

def others : TargetM Unit := do ofPort (← wait .others)

def leftFenced (self : DaemonId) (record : TargetRecord) (data : TargetData) : Bool :=
  data.mesh.any (fun mesh =>
    mesh.handoffFence.any (·.handoffId == record.handoffId) && mesh.hostEpoch == record.epoch &&
      mesh.hostDaemonId == some self) &&
    (data.certificates record.handoffId).any (·.sourceStopped)

def resumeRecord (setting : Setting) (self : DaemonId) (record : TargetRecord) :
    TargetM Unit := do
  others
  match record.phase with
  | .active =>
    if ← Async.inspect fun data _ => leftFenced self record data then
      setFence none record.handoffId
    else pure ()
  | .activating =>
    match ← Async.inspect fun data _ =>
        (data.certificates record.handoffId).filter (·.sourceStopped) with
    | some certificate =>
      let _ ← activate setting self record.peerDaemonId record.handoffId record.epoch certificate
    | none => pure ()
  | _ => pure ()

/-- An interrupted activation is finished. -/
def resume (setting : Setting) (self : DaemonId) : TargetM Unit := do
  Async.each (← journalList) (resumeRecord setting self)

def tickRecord (time : Int) (record : TargetRecord) : TargetM Unit := do
  others
  if ← activationPending record.handoffId then pure ()
  else
    match record.phase with
    | .active => Async.tryCatch (convergeLaunch record) fun _ => pure ()
    | .importing | .staged | .verified | .acked =>
      if time - record.updatedAt ≥ stageTtlMs then discardInternal record .stageTtl
      else pure ()
    | _ => pure ()

def tick : TargetM Unit := do
  let time ← now
  Async.each (← journalList) (tickRecord time)

end Target

end Adhdev.HostHandoff
