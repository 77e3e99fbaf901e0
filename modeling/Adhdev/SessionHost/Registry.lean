import Adhdev.Foundation.KeyedMap

/-! # The session host's registry

`registry.ts`: the sessions of a host, and the counters of their input.
-/

namespace Adhdev.SessionHost

inductive SessionLifecycle
  | starting | running | stopping | stopped | failed | interrupted

inductive SessionClientType
  | daemon | web | localTerminal
  deriving DecidableEq

inductive SessionOwnerType
  | agent | user

structure SessionAttachedClient where
  clientId : String
  type : SessionClientType
  readOnly : Bool
  attachedAt : Int
  lastSeenAt : Int

structure SessionWriteOwner where
  clientId : String
  ownerType : SessionOwnerType
  acquiredAt : Int

structure SessionHostRecord (Details Termination : Type) where
  sessionId : String
  runtimeKey : String
  createdAt : Int
  startedAt : Option Int
  lastActivityAt : Int
  osPid : Option Int
  lifecycle : SessionLifecycle
  writeOwner : Option SessionWriteOwner
  attachedClients : List SessionAttachedClient
  inputSeq : Option Int
  inputEpoch : Option String
  termination : Option Termination
  details : Details

structure CreateSessionPayload (Details : Type) where
  sessionId : Option String
  clientId : Option String
  clientType : Option SessionClientType
  details : Details

structure AttachSessionPayload where
  sessionId : String
  clientId : String
  clientType : SessionClientType
  readOnly : Bool

structure ExpectedIncarnation where
  sessionId : String
  runtimeKey : String
  startedAt : Int

structure SessionHostRegistry (Details Termination : Type) where
  lifetimeId : String
  epochCounter : Nat
  sessions : KeyedMap (@SessionHostRecord.sessionId Details Termination)

inductive RegistryError
  | alreadyExists (sessionId : String)
  | unknownSession (sessionId : String)
  | incarnationChanged (sessionId : String)
  | writeOwned (clientId : String)

structure InputStamp where
  sessionId : String
  inputEpoch : String
  inputSeq : Int
  deriving DecidableEq

variable {Details Termination : Type}

namespace SessionHostRecord

def stamp? (record : SessionHostRecord Details Termination) : Option InputStamp :=
  match record.inputEpoch, record.inputSeq with
  | some inputEpoch, some inputSeq => some ⟨record.sessionId, inputEpoch, inputSeq⟩
  | _, _ => none

def attachClient (payload : AttachSessionPayload) (now : Int)
    (record : SessionHostRecord Details Termination) : SessionHostRecord Details Termination :=
  let isStale := fun client : SessionAttachedClient =>
    payload.clientType = .daemon && client.type = .daemon && client.clientId ≠ payload.clientId
  let removedDaemonOwner := record.writeOwner.any fun owner =>
    (record.attachedClients.filter isStale).any (·.clientId = owner.clientId)
  let clients := record.attachedClients.filter fun client => !isStale client
  let attached :=
    match KeyedMap.lookup SessionAttachedClient.clientId clients payload.clientId with
    | some existing =>
      { existing with type := payload.clientType, readOnly := payload.readOnly, lastSeenAt := now }
    | none => ⟨payload.clientId, payload.clientType, payload.readOnly, now, now⟩
  { record with
    attachedClients := KeyedMap.insertEntry SessionAttachedClient.clientId attached clients
    writeOwner := if removedDaemonOwner then none else record.writeOwner
    lastActivityAt := now }

def detachClient (clientId : String) (now : Int) (record : SessionHostRecord Details Termination) :
    SessionHostRecord Details Termination :=
  { record with
    attachedClients := record.attachedClients.filter (·.clientId ≠ clientId)
    writeOwner := if record.writeOwner.any (·.clientId = clientId) then none else record.writeOwner
    lastActivityAt := now }

def seeClient (clientId : String) (now : Int) (record : SessionHostRecord Details Termination) :
    List SessionAttachedClient :=
  match KeyedMap.lookup SessionAttachedClient.clientId record.attachedClients clientId with
  | some client =>
    KeyedMap.insertEntry SessionAttachedClient.clientId
      { client with readOnly := false, lastSeenAt := now } record.attachedClients
  | none => record.attachedClients

def releaseWrite (clientId : String) (now : Int) (record : SessionHostRecord Details Termination) :
    SessionHostRecord Details Termination :=
  { record with
    attachedClients := record.seeClient clientId now
    writeOwner := if record.writeOwner.any (·.clientId = clientId) then none else record.writeOwner
    lastActivityAt := now }

def markStarted (pid : Option Int) (now : Int) (record : SessionHostRecord Details Termination) :
    SessionHostRecord Details Termination :=
  { record with
    lifecycle := .running
    startedAt := if record.startedAt.any (· ≠ 0) then record.startedAt else some now
    osPid := pid.or record.osPid
    lastActivityAt := now }

def setLifecycle (lifecycle : SessionLifecycle) (now : Int)
    (record : SessionHostRecord Details Termination) : SessionHostRecord Details Termination :=
  { record with lifecycle, lastActivityAt := now }

def markStopped (lifecycle : SessionLifecycle) (termination : Option Termination) (now : Int)
    (record : SessionHostRecord Details Termination) : SessionHostRecord Details Termination :=
  { record.setLifecycle lifecycle now with termination := termination.or record.termination }

end SessionHostRecord

namespace SessionHostRegistry

variable (registry : SessionHostRegistry Details Termination)

def start (lifetimeId : String) : SessionHostRegistry Details Termination where
  lifetimeId := lifetimeId
  epochCounter := 0
  sessions := .empty

def epochOf (lifetimeId : String) (counter : Nat) : String := lifetimeId ++ ":" ++ toString counter

def nextEpoch : String := epochOf registry.lifetimeId (registry.epochCounter + 1)

def find (sessionId : String) : Option (SessionHostRecord Details Termination) :=
  KeyedMap.lookup SessionHostRecord.sessionId registry.sessions.entries sessionId

def store (record : SessionHostRecord Details Termination) :
    SessionHostRegistry Details Termination :=
  { registry with sessions := registry.sessions.set record }

def storeMinted (record : SessionHostRecord Details Termination) :
    SessionHostRegistry Details Termination :=
  { registry with
    epochCounter := registry.epochCounter + 1
    sessions := registry.sessions.set { record with inputEpoch := some registry.nextEpoch } }

def requireSession (sessionId : String) :
    Except RegistryError (SessionHostRecord Details Termination) :=
  match registry.find sessionId with
  | some record => .ok record
  | none => .error (.unknownSession sessionId)

section Operations

variable (buildRuntimeKey : Details → List String → String)

def createSession (payload : CreateSessionPayload Details) (generatedId : String) (now : Int) :
    Except RegistryError (SessionHostRegistry Details Termination) :=
  let sessionId := (payload.sessionId.filter (· ≠ "")).getD generatedId
  if (registry.find sessionId).isSome then .error (.alreadyExists sessionId)
  else
    .ok (registry.storeMinted
      { sessionId
        runtimeKey := buildRuntimeKey payload.details (registry.sessions.entries.map (·.runtimeKey))
        createdAt := now
        startedAt := none
        lastActivityAt := now
        osPid := none
        lifecycle := .starting
        writeOwner := none
        attachedClients :=
          match payload.clientId.filter (· ≠ "") with
          | some clientId => [⟨clientId, payload.clientType.getD .daemon, false, now, now⟩]
          | none => []
        inputSeq := some 0
        inputEpoch := none
        termination := none
        details := payload.details })

end Operations

def sameLifetime (record : SessionHostRecord Details Termination) (inputSeq : Int) : Bool :=
  match registry.find record.sessionId with
  | some live =>
    live.inputEpoch.isSome && record.inputEpoch = live.inputEpoch && live.inputSeq.getD 0 ≤ inputSeq
  | none => false

def restoreSession (record : SessionHostRecord Details Termination) :
    SessionHostRegistry Details Termination :=
  let inputSeq := record.inputSeq.getD 0
  let counted := { record with inputSeq := some inputSeq }
  if registry.sameLifetime record inputSeq then registry.store counted
  else registry.storeMinted counted

def storeWithEpoch (record : SessionHostRecord Details Termination) :
    SessionHostRegistry Details Termination :=
  if record.inputEpoch.isSome then registry.store record else registry.storeMinted record

def recordInput (sessionId : String) :
    Except RegistryError (SessionHostRegistry Details Termination) := do
  let record ← registry.requireSession sessionId
  .ok (registry.storeWithEpoch { record with inputSeq := some (record.inputSeq.getD 0 + 1) })

def getInputState (sessionId : String) :
    Except RegistryError (SessionHostRegistry Details Termination) := do
  let record ← registry.requireSession sessionId
  .ok (registry.storeWithEpoch { record with inputSeq := some (record.inputSeq.getD 0) })

def update (sessionId : String)
    (change : SessionHostRecord Details Termination → SessionHostRecord Details Termination) :
    Except RegistryError (SessionHostRegistry Details Termination) := do
  let record ← registry.requireSession sessionId
  .ok (registry.store (change record))

def attachClient (payload : AttachSessionPayload) (now : Int) :
    Except RegistryError (SessionHostRegistry Details Termination) :=
  registry.update payload.sessionId (SessionHostRecord.attachClient payload now)

def attachClientIfIncarnation (payload : AttachSessionPayload)
    (expected : Option ExpectedIncarnation) (now : Int) :
    Except RegistryError (SessionHostRegistry Details Termination) := do
  let record ← registry.requireSession payload.sessionId
  let matching := expected.any fun expected =>
    expected.sessionId = record.sessionId && expected.runtimeKey ≠ "" && 0 < expected.startedAt &&
      expected.runtimeKey = record.runtimeKey && record.startedAt = some expected.startedAt
  if matching then registry.attachClient payload now
  else .error (.incarnationChanged payload.sessionId)

def acquireWrite (sessionId clientId : String) (ownerType : SessionOwnerType) (force : Bool)
    (now : Int) : Except RegistryError (SessionHostRegistry Details Termination) := do
  let record ← registry.requireSession sessionId
  match record.writeOwner.filter fun owner => owner.clientId ≠ clientId && !force with
  | some owner => .error (.writeOwned owner.clientId)
  | none =>
    .ok (registry.store
      { record with
        attachedClients := record.seeClient clientId now
        writeOwner := some ⟨clientId, ownerType, now⟩
        lastActivityAt := now })

def deleteSession (sessionId : String) : SessionHostRegistry Details Termination :=
  { registry with sessions := registry.sessions.keepWhere (·.sessionId ≠ sessionId) }

end SessionHostRegistry

/-! ## Operations -/

/-- What is asked of a host. The record that is restored may be any. -/
inductive Operation (Details Termination : Type)
  | create (payload : CreateSessionPayload Details) (generatedId : String) (now : Int)
  | restore (record : SessionHostRecord Details Termination)
  | attach (payload : AttachSessionPayload) (now : Int)
  | attachIfIncarnation (payload : AttachSessionPayload) (expected : Option ExpectedIncarnation)
      (now : Int)
  | detach (sessionId clientId : String) (now : Int)
  | input (sessionId : String)
  | inputState (sessionId : String)
  | acquireWrite (sessionId clientId : String) (ownerType : SessionOwnerType) (force : Bool)
        (now : Int)
  | releaseWrite (sessionId clientId : String) (now : Int)
  | changeDetails (sessionId : String) (change : Details → Details) (now : Int)
  | markStarted (sessionId : String) (pid : Option Int) (now : Int)
  | setLifecycle (sessionId : String) (lifecycle : SessionLifecycle) (now : Int)
  | stop (sessionId : String) (lifecycle : SessionLifecycle) (termination : Option Termination)
      (now : Int)
  | delete (sessionId : String)
  | restart (lifetimeId : String)

namespace SessionHostRegistry

section Perform

variable (buildRuntimeKey : Details → List String → String)

def perform (registry : SessionHostRegistry Details Termination) :
    Operation Details Termination → Except RegistryError (SessionHostRegistry Details Termination)
  | .create payload generatedId now =>
    registry.createSession buildRuntimeKey payload generatedId now
  | .restore record => .ok (registry.restoreSession record)
  | .attach payload now => registry.attachClient payload now
  | .attachIfIncarnation payload expected now =>
    registry.attachClientIfIncarnation payload expected now
  | .detach sessionId clientId now =>
    registry.update sessionId (SessionHostRecord.detachClient clientId now)
  | .input sessionId => registry.recordInput sessionId
  | .inputState sessionId => registry.getInputState sessionId
  | .acquireWrite sessionId clientId ownerType force now =>
    registry.acquireWrite sessionId clientId ownerType force now
  | .releaseWrite sessionId clientId now =>
    registry.update sessionId (SessionHostRecord.releaseWrite clientId now)
  | .changeDetails sessionId change now =>
    registry.update sessionId fun record =>
      { record with details := change record.details, lastActivityAt := now }
  | .markStarted sessionId pid now =>
    registry.update sessionId (SessionHostRecord.markStarted pid now)
  | .setLifecycle sessionId lifecycle now =>
    registry.update sessionId (SessionHostRecord.setLifecycle lifecycle now)
  | .stop sessionId lifecycle termination now =>
    registry.update sessionId (SessionHostRecord.markStopped lifecycle termination now)
  | .delete sessionId => .ok (registry.deleteSession sessionId)
  | .restart lifetimeId => .ok (start lifetimeId)

def after (registry : SessionHostRegistry Details Termination)
    (operation : Operation Details Termination) : SessionHostRegistry Details Termination :=
  match registry.perform buildRuntimeKey operation with
  | .ok registry => registry
  | .error _ => registry

def accepted (registry : SessionHostRegistry Details Termination) :
    Operation Details Termination → Option InputStamp
  | .input sessionId =>
    match registry.recordInput sessionId with
    | .ok registry => (registry.find sessionId).bind SessionHostRecord.stamp?
    | .error _ => none
  | _ => none

def states (registry : SessionHostRegistry Details Termination) :
    List (Operation Details Termination) → List (SessionHostRegistry Details Termination)
  | [] => [registry]
  | operation :: operations =>
    registry :: states (registry.after buildRuntimeKey operation) operations

def stamps (registry : SessionHostRegistry Details Termination) :
    List (Operation Details Termination) → List InputStamp
  | [] => []
  | operation :: operations =>
    (registry.accepted operation).toList ++
      stamps (registry.after buildRuntimeKey operation) operations

end Perform

end SessionHostRegistry

def lifetimes : List (Operation Details Termination) → List String
  | [] => []
  | .restart lifetimeId :: operations => lifetimeId :: lifetimes operations
  | _ :: operations => lifetimes operations

end Adhdev.SessionHost
