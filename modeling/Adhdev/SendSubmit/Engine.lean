import Adhdev.Foundation.Machine

/-! # The send engine

The queue, the in-flight latch and the drain of
`daemon-core/src/providers/spec/send-submit-engine.ts`. What the engine reads of its
host is a value here; the submit verdicts are present as the reason for which they
hold the composer. What is written into the terminal is not.
-/

namespace Adhdev.SendSubmit

inductive FsmStatus
  | idle | generating | approval | waitingExternal | ownerAttention | waitingChoice
  deriving DecidableEq

def FsmStatus.label : FsmStatus → String
  | idle => "idle"
  | generating => "generating"
  | approval => "approval"
  | waitingExternal => "waiting_external"
  | ownerAttention => "owner_attention"
  | waitingChoice => "waiting_choice"

structure QueuedSendEntry where
  messageId : String
  text : String
  bracketedPaste : Bool
  deriving DecidableEq

structure ClaimedQueuedSend where
  entry : QueuedSendEntry
  index : Nat

/-- `DriverHost`, the clock and the platform. `signInViewport` is what
`isAnchoredSignInViewport` says of the present screen. -/
structure Host where
  readySeenOnce : Bool
  status : FsmStatus
  inSigningIn : Bool
  signInViewport : Bool
  now : Int
  win32 : Bool

/-- The drain timer is the entry that its callback owns; the watchdog is the time it
is due. -/
structure Engine where
  pendingSends : List QueuedSendEntry := []
  sendInFlight : Bool := false
  sendInFlightAt : Int := 0
  drainReservedUntil : Int := 0
  anonymousSendCounter : Nat := 0
  pendingSendDrainTimer : Option QueuedSendEntry := none
  latchWatchdogTimer : Option Int := none
  lastPreSendAuthBlocked : Bool := false
  /-- `verdicts.holdReason()` -/
  holdReason : Option String := none

inductive SendDisposition
  | delivered
  | queued (queueDepth : Nat) (reason : String)

inductive QueuedWriteOutcome
  | accepted
  | platformUnsupported | notReady | notGenerating | sendInFlight

def sendInFlightMaxMs : Int := 60000
def latchWatchdogSlackMs : Int := 50
def unconfirmedSubmitDrainDelayMs : Int := 350

namespace Engine

def hasQueuedSend (engine : Engine) (messageId : String) : Bool :=
  engine.pendingSends.any (·.messageId == messageId)

def armLatchWatchdog (engine : Engine) (host : Host) (delayMs : Int) : Engine :=
  { engine with latchWatchdogTimer := some (host.now + max 0 delayMs) }

/-! ## Gates -/

def isSendInFlight (engine : Engine) (host : Host) : Engine × Bool :=
  if !engine.sendInFlight then (engine, false)
  else if engine.holdReason.isSome then (engine, true)
  else if host.now - engine.sendInFlightAt > sendInFlightMaxMs then
    ({ engine with sendInFlight := false }, false)
  else (engine, true)

def isDrainReserved (engine : Engine) (host : Host) : Engine × Bool :=
  if engine.drainReservedUntil = 0 then (engine, false)
  else if engine.drainReservedUntil ≤ host.now then
    ({ engine with drainReservedUntil := 0 }, false)
  else (engine, true)

/-- The hook of the host that a sign-in screen calls is not part of this; where the
driver drains in it, the drain is a step of its own. -/
def isPreSendAuthRequired (engine : Engine) (host : Host) : Engine × Bool :=
  ({ engine with lastPreSendAuthBlocked := host.signInViewport }, host.signInViewport)

def canSendNow (engine : Engine) (host : Host) : Engine × Bool :=
  let engine := { engine with lastPreSendAuthBlocked := false }
  if !host.readySeenOnce then (engine, false)
  else
    let (engine, inFlight) := engine.isSendInFlight host
    if inFlight then (engine, false)
    else if host.inSigningIn && host.signInViewport then
      ((engine.isPreSendAuthRequired host).1, false)
    else if host.status ≠ .idle then (engine, false)
    else
      let (engine, authRequired) := engine.isPreSendAuthRequired host
      (engine, !authRequired)

def sendBlockedReason (engine : Engine) (host : Host) : String :=
  if !host.readySeenOnce then "machine not ready yet"
  else match engine.holdReason with
    | some held => held
    | none =>
      if (engine.isSendInFlight host).2 then
        s!"previous send still in flight ({host.now - engine.sendInFlightAt}ms)"
      else if engine.lastPreSendAuthBlocked then "auth_required"
      else s!"machine is {host.status.label}"

/-! ## Sends -/

def beginSend (engine : Engine) (host : Host) : Engine :=
  { engine with sendInFlight := true, sendInFlightAt := host.now }.armLatchWatchdog host
    (sendInFlightMaxMs + latchWatchdogSlackMs)

def handleSendMessage (engine : Engine) (host : Host) (text : String) (bracketedPaste : Bool)
    (messageId : Option String) : Engine × QueuedSendEntry × SendDisposition :=
  let given := messageId.getD ""
  match engine.canSendNow host with
  | (engine, false) =>
    let counter := engine.anonymousSendCounter + (if given = "" then 1 else 0)
    let entry : QueuedSendEntry := {
      messageId := if given = "" then s!"anon:{counter}" else given
      text, bracketedPaste }
    let engine := { engine with
      anonymousSendCounter := counter
      pendingSends := engine.pendingSends ++ [entry] }
    (engine, entry,
      .queued engine.pendingSends.length (engine.sendBlockedReason host))
  | (engine, true) =>
    (engine.beginSend host, { messageId := given, text, bracketedPaste }, .delivered)

def sendMessageDuringGeneration (engine : Engine) (host : Host) : Engine × QueuedWriteOutcome :=
  if host.win32 then (engine, .platformUnsupported)
  else if !host.readySeenOnce then (engine, .notReady)
  else if host.status ≠ .generating then (engine, .notGenerating)
  else
    let (engine, inFlight) := engine.isSendInFlight host
    (engine, if inFlight then .sendInFlight else .accepted)

def releaseConsumed (engine : Engine) (host : Host) : Engine :=
  if engine.sendInFlight && host.status ≠ .idle then
    { engine with sendInFlight := false, holdReason := none }
  else engine

def mayDrain (engine : Engine) (host : Host) : Engine × Bool :=
  if host.status ≠ .idle then (engine, false)
  else
    let (engine, reserved) := engine.isDrainReserved host
    if reserved then (engine, false)
    else
      let (engine, inFlight) := engine.isSendInFlight host
      (engine, !inFlight)

def armDrainTimer (engine : Engine) (host : Host) (next : QueuedSendEntry)
    (rest : List QueuedSendEntry) : Engine :=
  { engine with
    pendingSends := rest
    pendingSendDrainTimer := some next
    sendInFlight := true
    sendInFlightAt := host.now }.armLatchWatchdog host (sendInFlightMaxMs + latchWatchdogSlackMs)

def drainPendingSends (engine : Engine) (host : Host) : Engine :=
  if !host.readySeenOnce then engine
  else
    match (engine.releaseConsumed host).mayDrain host with
    | (engine, false) => engine
    | (engine, true) =>
      match engine.pendingSends with
      | [] => engine
      | next :: rest =>
        let (engine, authRequired) := engine.isPreSendAuthRequired host
        if authRequired then engine else engine.armDrainTimer host next rest

def reserveDrain (engine : Engine) (host : Host) (ttlMs : Int) : Engine :=
  { engine with drainReservedUntil := host.now + max 0 ttlMs }

def releaseDrain (engine : Engine) (host : Host) : Engine :=
  if engine.drainReservedUntil = 0 then engine
  else { engine with drainReservedUntil := 0 }.drainPendingSends host

def claimQueuedSend (engine : Engine) (messageId : String) : Option (ClaimedQueuedSend × Engine) :=
  match engine.pendingSends.findIdx? (·.messageId == messageId) with
  | none => none
  | some index =>
    (engine.pendingSends[index]?).map fun entry =>
      ({ entry, index }, { engine with pendingSends := engine.pendingSends.eraseIdx index })

def reinsert (engine : Engine) (claimed : ClaimedQueuedSend) : Engine :=
  { engine with
    pendingSends := engine.pendingSends.insertIdx
      (min claimed.index engine.pendingSends.length) claimed.entry }

def restoreQueuedSend (engine : Engine) (host : Host) (claimed : ClaimedQueuedSend) : Engine :=
  if engine.hasQueuedSend claimed.entry.messageId then engine
  else (engine.reinsert claimed).drainPendingSends host

def putBack (engine : Engine) (next : QueuedSendEntry) : Engine :=
  { engine with
    pendingSends := next :: engine.pendingSends
    sendInFlight := false
    latchWatchdogTimer := none }

/-- `releaseSlot` of the verdicts, and the end of a submit that was never confirmed. -/
def releaseSlot (engine : Engine) (host : Host) : Engine :=
  { engine with sendInFlight := false }.armLatchWatchdog host unconfirmedSubmitDrainDelayMs

/-- `rewrite` of the verdicts: the body begun last is written once more. -/
def rewrite (engine : Engine) (host : Host) : Engine :=
  { engine with sendInFlight := true, sendInFlightAt := host.now }

end Engine

/-! ## The engine among its callers -/

/-- The engine, its host, and who else holds a body. `interrupted` is the body of a
drain timer whose callback found a sign-in screen and calls the host's hook. -/
structure SendState where
  engine : Engine := {}
  host : Host
  claimed : List ClaimedQueuedSend := []
  interrupted : Option QueuedSendEntry := none
  /-- The bodies that `handleSendMessage` accepted so far. -/
  accepted : List QueuedSendEntry := []
  /-- The bodies that `beginSend` was called with so far. -/
  begun : List QueuedSendEntry := []

inductive SendEvent
  | hostChanges (host : Host)
  | handleSendMessage (text : String) (bracketedPaste : Bool) (messageId : Option String)
  | sendMessageDuringGeneration
  | drainPendingSends
  | drainTimerFires
  /-- The hook of a sign-in screen returns to the callback of the drain timer. -/
  | drainTimerReturns
  | latchWatchdogFires
  | reserveDrain (ttlMs : Int)
  | releaseDrain
  | claimQueuedSend (messageId : String)
  /-- The caller that holds the claim at this position gives it back. -/
  | restoreQueuedSend (position : Nat)
  | verdictHolds (reason : Option String)
  | slotReleased
  | rewritten

namespace SendState

/-- While a callback is in the host's hook, only the driver runs. -/
def enabled (state : SendState) : SendEvent → Bool
  | .hostChanges _ | .drainPendingSends => true
  | .drainTimerReturns => state.interrupted.isSome
  | _ => state.interrupted.isNone

def fireDrainTimer (state : SendState) : SendState :=
  match state.engine.pendingSendDrainTimer with
  | none => state
  | some next =>
    let engine := { state.engine with pendingSendDrainTimer := none }
    if state.host.status ≠ .idle then { state with engine := engine.putBack next }
    else
      let (engine, authRequired) := engine.isPreSendAuthRequired state.host
      if authRequired then { state with engine, interrupted := some next }
      else { state with
        engine := engine.beginSend state.host
        begun := state.begun ++ [next] }

def happens (state : SendState) : SendEvent → SendState
  | .hostChanges host => { state with host }
  | .handleSendMessage text bracketedPaste messageId =>
    match state.engine.handleSendMessage state.host text bracketedPaste messageId with
    | (engine, entry, .queued _ _) => { state with engine, accepted := state.accepted ++ [entry] }
    | (engine, entry, .delivered) =>
      { state with
        engine, accepted := state.accepted ++ [entry], begun := state.begun ++ [entry] }
  | .sendMessageDuringGeneration =>
    { state with engine := (state.engine.sendMessageDuringGeneration state.host).1 }
  | .drainPendingSends => { state with engine := state.engine.drainPendingSends state.host }
  | .drainTimerFires => state.fireDrainTimer
  | .drainTimerReturns =>
    match state.interrupted with
    | none => state
    | some next => { state with engine := state.engine.putBack next, interrupted := none }
  | .latchWatchdogFires =>
    if state.engine.latchWatchdogTimer.isNone then state
    else { state with
      engine := { state.engine with latchWatchdogTimer := none }.drainPendingSends state.host }
  | .reserveDrain ttlMs => { state with engine := state.engine.reserveDrain state.host ttlMs }
  | .releaseDrain => { state with engine := state.engine.releaseDrain state.host }
  | .claimQueuedSend messageId =>
    match state.engine.claimQueuedSend messageId with
    | none => state
    | some (claimed, engine) => { state with engine, claimed := state.claimed ++ [claimed] }
  | .restoreQueuedSend position =>
    match state.claimed[position]? with
    | none => state
    | some claimed =>
      if state.engine.hasQueuedSend claimed.entry.messageId then state
      else { state with
        engine := state.engine.restoreQueuedSend state.host claimed
        claimed := state.claimed.eraseIdx position }
  | .verdictHolds reason => { state with engine := { state.engine with holdReason := reason } }
  | .slotReleased => { state with engine := state.engine.releaseSlot state.host }
  | .rewritten => { state with engine := state.engine.rewrite state.host }

def next (state : SendState) (event : SendEvent) : SendState :=
  if state.enabled event then state.happens event else state

end SendState

def sendMachine (host : Host) : Machine SendState SendEvent SendState where
  initial := { host }
  respond := SendState.next
  advance state := state

end Adhdev.SendSubmit
