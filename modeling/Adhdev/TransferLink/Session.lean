import Adhdev.TransferLink.Receiver

/-! # The sessions of a link

`link-session.ts`: what a sender and a receiver do with each frame, and the loop in which
the sender sends. Frames are as they are read back. The clock is left out: nothing here
waits for a minute.
-/

namespace Adhdev.TransferLink

open Octets

def windowBlocks : Nat := 4

inductive RoleName
  | sender | receiver
  deriving DecidableEq

def RoleName.peer : RoleName → RoleName
  | sender => receiver
  | receiver => sender

inductive FrameBody
  | hello (tag : String) (role : RoleName)
  | resumeState (blocks : List Nat)
  | data (fileIndex offset : Nat) (payload : Octets)
  | blockEnd (fileIndex offset : Nat) (payload : Octets)
  | blockAck (fileIndex offset : Nat)
  | fileAck
  | done
  | abort (code : String)
  deriving DecidableEq

structure Frame where
  transferId : String
  seq : Nat
  body : FrameBody

/-- What both parties know. `bindingTag` is for one key, transfer, generation and pair of
fingerprints; `spool` is what the sender froze. -/
structure LinkSetup where
  transferId : String
  bindingTag : RoleName → Octets
  sha256 : Octets → Octets
  files : List ContentFile
  spool : Nat → Octets

def LinkSetup.computeBindingTag (setup : LinkSetup) (role : RoleName) : String :=
  String.ofList (toHex (setup.bindingTag role))

def bindingTagsEqual (left right : String) : Bool :=
  (ofHex left.toList).length = 32 && ofHex left.toList = ofHex right.toList

def safeTransferCode (code : String) : String :=
  let isCode := match code.toList with
    | [] => false
    | first :: rest => first.isUpper && decide (rest.length ≤ 47) &&
        rest.all fun character => character.isUpper || character.isDigit || character = '_'
  if isCode then code else "PEER_ERROR"

inductive SessionFault
  | frame (message : String)
  | receiver (error : ReceiverError)

def SessionFault.code : SessionFault → String
  | receiver (.hashMismatch _) => "HASH_MISMATCH"
  | _ => "PROTOCOL_ERROR"

/-! ## One session -/

/-- `nextSeq` is one more than the last sequence number taken, `sent` what the link was
given, `own` what the role adds. -/
structure Session (Own : Type) where
  outSeq : Nat := 0
  nextSeq : Nat := 0
  helloOk : Bool := false
  done : Bool := false
  error : Option String := none
  sent : List Frame := []
  own : Own

namespace Session

variable {Own : Type} (setup : LinkSetup) (session : Session Own)

def finish : Session Own :=
  if session.done then session else { session with done := true }

def fail (code : String) : Session Own :=
  if session.done then session else { session with done := true, error := some code }

def sendFrame (body : FrameBody) : Session Own :=
  { session with
    sent := session.sent ++ [⟨setup.transferId, session.outSeq, body⟩]
    outSeq := session.outSeq + 1 }

def abort (code : String) : Session Own :=
  if session.done then session
  else (session.sendFrame setup (.abort code)).fail code

def sendHello (role : RoleName) : Session Own :=
  session.sendFrame setup (.hello (setup.computeBindingTag role) role)

def onHello (role : RoleName) (onHelloOk : Session Own → Session Own) : FrameBody → Session Own
  | .hello tag peerRole =>
    if peerRole ≠ role.peer ∨
        bindingTagsEqual tag (setup.computeBindingTag role.peer) = false then
      session.abort setup "BINDING_MISMATCH"
    else onHelloOk { session with helloOk := true }
  | _ => session.abort setup "PROTOCOL_ERROR"

def onRaw (role : RoleName) (onHelloOk : Session Own → Session Own)
    (onFrame : Session Own → FrameBody → Except SessionFault (Session Own)) (frame : Frame) :
    Session Own :=
  if session.done then session
  else if frame.transferId ≠ setup.transferId then session.abort setup "PROTOCOL_ERROR"
  else if frame.seq < session.nextSeq then session
  else if frame.seq ≠ session.nextSeq then session.abort setup "PROTOCOL_ERROR"
  else
    let session := { session with nextSeq := frame.seq + 1 }
    match frame.body with
    | .abort code => session.fail (safeTransferCode code)
    | body =>
      if session.helloOk then
        match onFrame session body with
        | .ok session => session
        | .error fault => session.abort setup fault.code
      else session.onHello setup role onHelloOk body

end Session

/-! ## The sender -/

/-- A step of the loop in which the sender sends, between two waits. -/
inductive PumpAction
  | waitForWindow
  | sendData (fileIndex offset length : Nat) (read : Octets)
  | sendBlockEnd (fileIndex start : Nat) (digest : String) (expected : Option String)
  | sendDone

/-- Where the pieces of a block start, and their lengths, up to `last`. -/
def piecesFrom (last : Nat) : Nat → Nat → List (Nat × Nat)
  | 0, _ => []
  | left + 1, offset =>
    if offset < last then
      let length := min maxFramePayloadBytes (last - offset)
      (offset, length) :: piecesFrom last left (offset + length)
    else []

section Pump

variable (setup : LinkSetup)

def sendPiece (fileIndex : Nat) (piece : Nat × Nat) : PumpAction :=
  .sendData fileIndex piece.1 piece.2 (slice (setup.spool fileIndex) piece.1 piece.2)

/-- What `hash` was fed, piece after piece. -/
def piecesRead (fileIndex : Nat) (pieces : List (Nat × Nat)) : Octets :=
  pieces.flatMap fun piece => slice (setup.spool fileIndex) piece.1 piece.2

def blockPieces (file : ContentFile) (block : Nat) : List (Nat × Nat) :=
  let start := block * blockBytes
  let last := min file.size (start + blockBytes)
  piecesFrom last (last - start) start

def pumpBlock (fileIndex : Nat) (file : ContentFile) (block : Nat) : List PumpAction :=
  let pieces := blockPieces file block
  .waitForWindow :: pieces.map (sendPiece setup fileIndex) ++
    [.sendBlockEnd fileIndex (block * blockBytes)
      (digestHex setup.sha256 (piecesRead setup fileIndex pieces)) file.blockHashes[block]?]

def pumpFile (resume : List Nat) (fileIndex : Nat) : List PumpAction :=
  match setup.files[fileIndex]? with
  | none => []
  | some file =>
    let first := resume[fileIndex]?.getD 0
    (List.range' first (blockCount file.size - first)).flatMap (pumpBlock setup fileIndex file)

def pumpFiles (resume : List Nat) (first : Nat) : List PumpAction :=
  (List.range' first (setup.files.length - first)).flatMap (pumpFile setup resume)

def pump (resume : List Nat) : List PumpAction := pumpFiles setup resume 0 ++ [.sendDone]

end Pump

/-- `actions` is what is left of the loop. -/
structure SenderState where
  ackedBlocks : Nat := 0
  sentBlocks : Nat := 0
  resume : Option (List Nat) := none
  actions : List PumpAction := []

abbrev SenderSession := Session SenderState

namespace SenderSession

variable (setup : LinkSetup)

def onFrame (session : SenderSession) : FrameBody → Except SessionFault SenderSession
  | .resumeState blocks =>
    if session.own.resume = none then
      if blocks.length = setup.files.length ∧
          (blocks.zip setup.files).all fun entry => entry.1 ≤ blockCount entry.2.size then
        .ok { session with
          own := { session.own with resume := some blocks, actions := pump setup blocks } }
      else .error (.frame "bad resume state")
    else .error (.frame "unexpected frame for sender")
  | .blockAck _ _ =>
    .ok { session with own := { session.own with ackedBlocks := session.own.ackedBlocks + 1 } }
  | .done => .ok session.finish
  | _ => .error (.frame "unexpected frame for sender")

def receive (session : SenderSession) (frame : Frame) : SenderSession :=
  session.onRaw setup .sender id (onFrame setup) frame

def advanced (session : SenderSession) (actions : List PumpAction) : SenderSession :=
  { session with own := { session.own with actions } }

/-- The next step of the loop; `none` while it waits and when it is over. -/
def pumpStep (session : SenderSession) : Option SenderSession :=
  if session.done then none
  else
    match session.own.actions with
    | [] => none
    | .waitForWindow :: actions =>
      if session.own.ackedBlocks + windowBlocks ≤ session.own.sentBlocks then none
      else some (advanced session actions)
    | .sendData fileIndex offset length read :: actions =>
      if read.length ≠ length then some (session.fail "SOURCE_CHANGED")
      else some (advanced (session.sendFrame setup (.data fileIndex offset read)) actions)
    | .sendBlockEnd fileIndex start digest expected :: actions =>
      if expected ≠ some digest then some (session.fail "SOURCE_CHANGED")
      else
        let session := session.sendFrame setup (.blockEnd fileIndex start (ofHex digest.toList))
        some { session with
          own := { session.own with sentBlocks := session.own.sentBlocks + 1, actions } }
    | .sendDone :: actions =>
      if session.own.ackedBlocks < session.own.sentBlocks then none
      else some (advanced (session.sendFrame setup .done) actions).finish

end SenderSession

/-! ## The receiver -/

/-- `resumeBlocks` is what `init` returned. -/
structure ReceiverState where
  receiver : TransferReceiver
  resumeBlocks : List Nat

abbrev ReceiverSession := Session ReceiverState

namespace ReceiverSession

variable (setup : LinkSetup)

def onHelloOk (session : ReceiverSession) : ReceiverSession :=
  let session := session.sendFrame setup (.resumeState session.own.resumeBlocks)
  if session.own.receiver.complete then (session.sendFrame setup .done).finish else session

def onFrame (session : ReceiverSession) : FrameBody → Except SessionFault ReceiverSession
  | .data fileIndex offset payload =>
    match session.own.receiver.handleData fileIndex offset payload with
    | .ok receiver => .ok { session with own := { session.own with receiver } }
    | .error error => .error (.receiver error)
  | .blockEnd fileIndex offset payload =>
    if payload.length ≠ 32 then .error (.frame "bad block hash")
    else
      match session.own.receiver.handleBlockEnd setup.sha256 fileIndex offset
          (String.ofList (toHex payload)) with
      | .ok (receiver, _) =>
        let session := { session with own := { session.own with receiver } }
        .ok (session.sendFrame setup (.blockAck fileIndex offset))
      | .error error => .error (.receiver error)
  | .done =>
    if session.own.receiver.complete then .ok session.finish
    else .error (.frame "DONE before all files received")
  | _ => .error (.frame "unexpected frame for receiver")

def receive (session : ReceiverSession) (frame : Frame) : ReceiverSession :=
  session.onRaw setup .receiver (onHelloOk setup) (onFrame setup) frame

end ReceiverSession

/-! ## Both over one link -/

/-- `delivered` and `returned` are how many frames of the sender and of the receiver the
link has delivered. -/
structure Exchange where
  sender : SenderSession
  receiver : ReceiverSession
  delivered : Nat := 0
  returned : Nat := 0

namespace Exchange

variable (setup : LinkSetup)

/-- Both sessions on an open link. -/
def start (staged : Nat → Option Octets) (claimedBlocks : List Nat) : Exchange :=
  let receiver := TransferReceiver.init setup.sha256 setup.files staged claimedBlocks
  { sender := Session.sendHello setup { own := {} } .sender
    receiver := Session.sendHello setup
      { own := { receiver, resumeBlocks := receiver.blocksDone } } .receiver }

inductive Progress
  | pump
  | toReceiver
  | toSender

def advance (exchange : Exchange) : Progress → Option Exchange
  | .pump =>
    (SenderSession.pumpStep setup exchange.sender).map fun sender => { exchange with sender }
  | .toReceiver =>
    (exchange.sender.sent[exchange.delivered]?).map fun frame =>
      { exchange with
        receiver := exchange.receiver.receive setup frame
        delivered := exchange.delivered + 1 }
  | .toSender =>
    (exchange.receiver.sent[exchange.returned]?).map fun frame =>
      { exchange with
        sender := exchange.sender.receive setup frame
        returned := exchange.returned + 1 }

/-- A frame that was delivered is delivered once more. -/
inductive Repeated (exchange : Exchange) : Exchange → Prop
  | toReceiver {index : Nat} {frame : Frame} (earlier : index < exchange.delivered)
      (isFrame : exchange.sender.sent[index]? = some frame) :
      Repeated exchange { exchange with receiver := exchange.receiver.receive setup frame }
  | toSender {index : Nat} {frame : Frame} (earlier : index < exchange.returned)
      (isFrame : exchange.receiver.sent[index]? = some frame) :
      Repeated exchange { exchange with sender := exchange.sender.receive setup frame }

/-- What is reached after this many steps that are not repetitions. -/
inductive Run (staged : Nat → Option Octets) (claimedBlocks : List Nat) : Nat → Exchange → Prop
  | start : Run staged claimedBlocks 0 (start setup staged claimedBlocks)
  | progress {count : Nat} {exchange next : Exchange} {progress : Progress}
      (run : Run staged claimedBlocks count exchange)
      (isNext : exchange.advance setup progress = some next) :
      Run staged claimedBlocks (count + 1) next
  | repeated {count : Nat} {exchange next : Exchange}
        (run : Run staged claimedBlocks count exchange)
      (isRepeated : Repeated setup exchange next) : Run staged claimedBlocks count next

end Exchange

end Adhdev.TransferLink
