import Adhdev.OwnerDecisions.Decision

/-! # Delivery of owner decisions

`mesh-mission-decision-delivery.ts`: one message to the coordinator for every armed delivery, sent
by a sender that is awaited, and confirmed by a receipt checker that is awaited. The coordinator
types a message at once or puts it into its input queue, which may drop it.
-/

namespace Adhdev.OwnerDecisions

/-! ## Messages -/

def decisionDeliveryRetryMs : Nat := 15000

def decisionDeliveryRetryMaxMs : Nat := 10 * 60000

def decisionRetryDelayMs (attempts : Nat) : Nat :=
  min (decisionDeliveryRetryMs * 2 ^ min (attempts - 1) 16) decisionDeliveryRetryMaxMs

def questionEchoMax : Nat := 200

def autoApplied : Option MissionDecisionAnswer → String
  | none => ""
  | some answer =>
    if answer.answeredBy = .autoRecommended then
      " (auto-applied: the deadline passed, recommended option)"
    else ""

def undoneText (itemId : String) : String := s!"[owner decision undone {itemId}]"

def decisionText (language : Language) (itemId : String) (decision : MissionDecision) :
    DeliveryKind → String
  | .undone => undoneText itemId
  | .changed =>
    s!"[owner decision changed {itemId}] → " ++ describeDecisionAnswer decision ++
      autoApplied decision.answer
  | .answered =>
    s!"[owner decision {itemId}] " ++
      truncateMissionText language decision.question questionEchoMax ++ " → " ++
      describeDecisionAnswer decision ++ autoApplied decision.answer

def formatDecisionDelivery (language : Language) (itemId : String) (decision : MissionDecision) :
    String :=
  decisionText language itemId decision
    ((decision.delivery.bind fun delivery => delivery.kind).getD .answered)

structure Message where
  messageId : DecisionMessageId
  text : String
  deriving DecidableEq

inductive DecisionSendResult
  | ok (duplicate queued : Bool) (sessionId wireMessageId : Option String)
  | failed (code error : String)

inductive DecisionReceiptState
  | submitted | seen | accepted | busy | lost
  deriving DecidableEq

/-! ## The coordinator -/

structure CoordinatorSession where
  id : String
  named : id ≠ ""

/-- What the coordinator was given: typed, waiting in its input queue, or known by its id. -/
structure Coordinator where
  submitted : List Message
  queue : List Message
  accepted : List DecisionMessageId
  deriving DecidableEq

def wireMessageId (meshId : String) (messageId : DecisionMessageId) : String :=
  s!"assistant:{meshId}:{messageId.text}"

def Coordinator.take (coordinator : Coordinator) (message : Message) (types : Bool) :
    Coordinator × Bool :=
  let known := { coordinator with accepted := message.messageId :: coordinator.accepted }
  if types ∧ coordinator.queue = [] then
    ({ known with submitted := coordinator.submitted ++ [message] }, false)
  else ({ known with queue := coordinator.queue ++ [message] }, true)

def Coordinator.bearsOut (coordinator : Coordinator) (messageId : DecisionMessageId) :
    DecisionReceiptState → Bool
  | .submitted | .seen => messageId ∈ coordinator.submitted.map (·.messageId)
  | .accepted => messageId ∈ coordinator.queue.map (·.messageId)
  | .busy => true
  | .lost => messageId ∉ (coordinator.submitted ++ coordinator.queue).map (·.messageId)

/-! ## The daemon and the coordinator -/

/-- A `deliverDecisionAnswer` that awaits its sender. -/
structure SendInFlight where
  itemId : String
  message : Message
  nowMs : Int
  result : Option DecisionSendResult

inductive CheckOutcome
  | receipt (state : DecisionReceiptState)
  | threw

/-- A `confirmQueuedDecision` that awaits its checker. -/
structure ReceiptCheck where
  itemId : String
  messageId : DecisionMessageId
  sessionId : String
  wireMessageId : String
  text : String
  outcome : Option CheckOutcome

structure World where
  items : MissionItems
  inFlight : List SendInFlight
  checks : List ReceiptCheck
  coordinator : Coordinator

def MissionItems.decision (items : MissionItems) (itemId : String) : Option MissionDecision :=
  (items itemId).bind fun item => item.decision

/-- `updateItem` of the delivery alone. -/
def MissionItems.updateDelivery (items : MissionItems) (itemId : String)
    (delivery : MissionDecisionDelivery) : MissionItems :=
  match items itemId with
  | none => items
  | some item =>
    items.updateItem itemId
      { item with
        decision := item.decision.map fun decision =>
          { decision with delivery := some delivery } }

def heldBack (language : Language) (delivery : MissionDecisionDelivery) (nowMs : Int) : Bool :=
  (delivery.lastAttemptAt.bind language.dateParse).any fun attempted =>
    nowMs - attempted < decisionRetryDelayMs (delivery.attempts.getD 1)

/-- `deliverDecisionAnswer` up to its sender. -/
def beginDelivery (language : Language) (world : World) (itemId : String) (nowMs : Int)
    (respectRetryDelay : Bool) : World :=
  match world.items.decision itemId with
  | none => world
  | some decision =>
    match decision.delivery with
    | none => world
    | some delivery =>
      if delivery.state ≠ .pending ∨ (respectRetryDelay ∧ heldBack language delivery nowMs) ∨
          delivery.messageId ∈ world.inFlight.map (·.message.messageId) then world
      else
        let message : Message :=
          { messageId := delivery.messageId
            text := formatDecisionDelivery language itemId decision }
        let send : SendInFlight := { itemId, message, nowMs, result := none }
        { world with inFlight := world.inFlight ++ [send] }

def present (text : Option String) : Bool := text.any fun text => text ≠ ""

def attempted (language : Language) (delivery : MissionDecisionDelivery) (nowMs : Int) :
    DecisionSendResult → MissionDecisionDelivery
  | .failed _ _ =>
    { delivery with
      state := .pending
      lastAttemptAt := some (language.toISOString nowMs)
      attempts := some (delivery.attempts.getD 0 + 1) }
  | .ok duplicate queued sessionId wireMessageId =>
    if (queued || duplicate) && present sessionId && present wireMessageId then
      { delivery with
        state := .queued
        lastAttemptAt := some (language.toISOString nowMs)
        sessionId
        wireMessageId }
    else
      { delivery with state := .sent, lastAttemptAt := some (language.toISOString nowMs) }

/-- `deliverDecisionAnswer` from the answer of its sender on. -/
def finishDelivery (language : Language) (items : MissionItems) (itemId : String)
    (messageId : DecisionMessageId) (nowMs : Int) (result : DecisionSendResult) : MissionItems :=
  match (items.decision itemId).bind fun decision => decision.delivery with
  | none => items
  | some delivery =>
    if delivery.messageId ≠ messageId then items
    else items.updateDelivery itemId (attempted language delivery nowMs result)

/-- `confirmQueuedDecision` up to its checker. -/
def beginConfirm (language : Language) (world : World) (itemId : String) : World :=
  match world.items.decision itemId with
  | none => world
  | some decision =>
    match decision.delivery with
    | none => world
    | some delivery =>
      if delivery.state ≠ .queued ∨ ¬ present delivery.sessionId ∨
          ¬ present delivery.wireMessageId then world
      else
        let check : ReceiptCheck :=
          { itemId
            messageId := delivery.messageId
            sessionId := delivery.sessionId.getD ""
            wireMessageId := delivery.wireMessageId.getD ""
            text := formatDecisionDelivery language itemId decision
            outcome := none }
        { world with checks := world.checks ++ [check] }

def nextAttemptMessageId (messageId : DecisionMessageId) : DecisionMessageId :=
  { messageId with attempt := messageId.attempt + 1 }

/-- The delivery that a receipt other than `accepted` and `busy` leaves. -/
def confirmed (delivery : MissionDecisionDelivery) (receipt : DecisionReceiptState) :
    MissionDecisionDelivery :=
  if receipt = .submitted ∨ receipt = .seen then { delivery with state := .sent }
  else
    { delivery with
      sessionId := none
      wireMessageId := none
      lastAttemptAt := none
      state := .pending
      messageId := nextAttemptMessageId delivery.messageId }

/-- `confirmQueuedDecision` from the answer of its checker on. -/
def finishConfirm (items : MissionItems) (itemId : String) (messageId : DecisionMessageId) :
    CheckOutcome → MissionItems
  | .threw => items
  | .receipt receipt =>
    if receipt = .accepted ∨ receipt = .busy then items
    else
      match (items.decision itemId).bind fun decision => decision.delivery with
      | none => items
      | some delivery =>
        if delivery.messageId ≠ messageId ∨ delivery.state ≠ .queued then items
        else items.updateDelivery itemId (confirmed delivery receipt)

/-! ## Steps -/

/-- A tick is a deadline pass, then a `confirm` of every queued delivery and a `deliver` with
`respectRetryDelay` of every pending one. -/
inductive Event
  | answer (req : DecisionAnswerRequest) (actor : DecisionActor) (nowMs : Int)
  | deadlines (nowMs : Int) (listed : List String)
  | deliver (itemId : String) (nowMs : Int) (respectRetryDelay : Bool)
  | senderDelivers (send : Nat) (types : Bool) (session : CoordinatorSession)
  | senderFails (send : Nat) (code error : String)
  | sendReturns (send : Nat)
  | confirm (itemId : String)
  | checkerFinds (check : Nat) (outcome : CheckOutcome)
  | checkReturns (check : Nat)
  | queueTypes
  | queueDrops (messageId : DecisionMessageId)

/-- The sender brings the message of a send to the coordinator, which answers a message that it
knows as a duplicate. -/
def senderDelivers (meshId : String) (world : World) (index : Nat) (types : Bool)
    (session : CoordinatorSession) : World :=
  match world.inFlight[index]? with
  | some send =>
    if send.result.isSome then world
    else
      let wire := some (wireMessageId meshId send.message.messageId)
      if send.message.messageId ∈ world.coordinator.accepted then
        { world with
          inFlight :=
            world.inFlight.set index
              { send with result := some (.ok true false (some session.id) wire) } }
      else
        let taken := world.coordinator.take send.message types
        { world with
          coordinator := taken.1
          inFlight :=
            world.inFlight.set index
              { send with result := some (.ok false taken.2 (some session.id) wire) } }
  | none => world

def senderFails (world : World) (index : Nat) (code error : String) : World :=
  match world.inFlight[index]? with
  | some send =>
    if send.result.isSome then world
    else
      { world with
        inFlight := world.inFlight.set index { send with result := some (.failed code error) } }
  | none => world

def sendReturns (language : Language) (world : World) (index : Nat) : World :=
  match world.inFlight[index]? with
  | some send =>
    match send.result with
    | some result =>
      { world with
        items :=
          finishDelivery language world.items send.itemId send.message.messageId send.nowMs result
        inFlight := world.inFlight.eraseIdx index }
    | none => world
  | none => world

def CheckOutcome.truthful (coordinator : Coordinator) (messageId : DecisionMessageId) :
    CheckOutcome → Bool
  | .receipt found => coordinator.bearsOut messageId found
  | .threw => true

def checkerFinds (world : World) (index : Nat) (outcome : CheckOutcome) : World :=
  match world.checks[index]? with
  | some check =>
    if check.outcome.isSome ∨ ¬ outcome.truthful world.coordinator check.messageId then world
    else
      { world with checks := world.checks.set index { check with outcome := some outcome } }
  | none => world

def checkReturns (world : World) (index : Nat) : World :=
  match world.checks[index]? with
  | some check =>
    match check.outcome with
    | some outcome =>
      { world with
        items := finishConfirm world.items check.itemId check.messageId outcome
        checks := world.checks.eraseIdx index }
    | none => world
  | none => world

def Coordinator.typeQueued (coordinator : Coordinator) : Coordinator :=
  match coordinator.queue with
  | [] => coordinator
  | head :: rest => { coordinator with submitted := coordinator.submitted ++ [head], queue := rest }

def Coordinator.dropQueued (coordinator : Coordinator) (messageId : DecisionMessageId) :
    Coordinator :=
  { coordinator with
    queue := coordinator.queue.filter fun message => message.messageId ≠ messageId }

def step (language : Language) (meshId : String) (world : World) : Event → World
  | .answer req actor nowMs =>
    { world with items := (answerMissionDecision language world.items req actor nowMs).1 }
  | .deadlines nowMs listed =>
    { world with items := processDecisionDeadlines language world.items nowMs listed }
  | .deliver itemId nowMs respectRetryDelay =>
    beginDelivery language world itemId nowMs respectRetryDelay
  | .senderDelivers send types session => senderDelivers meshId world send types session
  | .senderFails send code error => senderFails world send code error
  | .sendReturns send => sendReturns language world send
  | .confirm itemId => beginConfirm language world itemId
  | .checkerFinds check outcome => checkerFinds world check outcome
  | .checkReturns check => checkReturns world check
  | .queueTypes => { world with coordinator := world.coordinator.typeQueued }
  | .queueDrops messageId => { world with coordinator := world.coordinator.dropQueued messageId }

def run (language : Language) (meshId : String) (world : World) (events : List Event) : World :=
  events.foldl (step language meshId) world

end Adhdev.OwnerDecisions
