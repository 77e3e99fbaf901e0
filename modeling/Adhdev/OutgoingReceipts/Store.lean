import Adhdev.Foundation.Machine
import Adhdev.MeshShared.DaemonIds

/-! # The outgoing receipt store

`outgoing-receipt-store.ts`: processes that share one directory of receipts. The operations on
one file exclude each other by its lock, and every file operation of theirs is a step. A
directory that starts empty has no quarantines of older builds to migrate.
-/

namespace Adhdev.OutgoingReceipts

open MeshShared

inductive ReceiptState
  | accepted | submitted | uncertain | failed
  deriving DecidableEq

inductive ReceiptProof
  | acceptance | nativeWriteAck | none | notWritten
  deriving DecidableEq

structure OutgoingReceipt where
  messageId : String
  sessionId : String
  attemptId : String
  generation : String
  inputDigest : String
  state : ReceiptState
  revision : Nat
  proof : ReceiptProof
  deriving DecidableEq

def maxOutgoingMessageIdLength : Nat := 4096

def maxSafeRevision : Nat := 2 ^ 53 - 1

def isBounded (text : String) (most : Nat) : Bool := text ≠ "" && utf16Length text ≤ most

def isReceipt (receipt : OutgoingReceipt) : Bool :=
  receipt.revision ≤ maxSafeRevision && 1 ≤ receipt.revision &&
    isBounded receipt.messageId maxOutgoingMessageIdLength && isBounded receipt.sessionId 256 &&
    isBounded receipt.attemptId 256 && isBounded receipt.generation 256 &&
    isBounded receipt.inputDigest 256 &&
    (receipt.state ≠ .submitted || receipt.proof = .nativeWriteAck) &&
    (receipt.state ≠ .failed || receipt.proof = .notWritten)

inductive RecordBytes
  | fields (receipt : OutgoingReceipt)
  | garbled
  deriving DecidableEq

def readOutgoingReceipt : RecordBytes → Option OutgoingReceipt
  | .fields receipt => if isReceipt receipt then some receipt else none
  | .garbled => none

def sameOutgoingAttempt (receipt other : OutgoingReceipt) : Bool :=
  receipt.messageId = other.messageId && receipt.sessionId = other.sessionId &&
    receipt.attemptId = other.attemptId && receipt.generation = other.generation &&
    receipt.inputDigest = other.inputDigest

/-- The files under one name. -/
structure Slot where
  record : Option RecordBytes := none
  /-- The fixed-name tombstone is there. -/
  invalid : Bool := false
  quarantined : List RecordBytes := []
  lockedBy : Option Nat := none
  deriving DecidableEq

/-- An acceptance draws its ids and is given the digest of its input. -/
inductive Operation
  | accept (messageId sessionId inputDigest attemptId generation : String)
  | advance (expected : OutgoingReceipt) (state : ReceiptState)
  | get (messageId : String)

def Operation.messageId : Operation → String
  | .accept messageId .. => messageId
  | .advance expected _ => expected.messageId
  | .get messageId => messageId

/-- The file operation that comes next. -/
inductive Phase
  | reading
  /-- Is there a tombstone where there is no record? -/
  | absent
  | linkingInvalid
  | quarantining
  | checkingAcceptance
  | checkingAdvance (current : OutgoingReceipt)
  | publishing (receipt : OutgoingReceipt) (fresh : Bool)
  | answering (receipt : OutgoingReceipt) (fresh : Bool)

inductive Answer
  | accepted (receipt : OutgoingReceipt) (fresh : Bool)
  | receipt (found : Option OutgoingReceipt)
  | threw

structure Process where
  records : String → Option OutgoingReceipt := fun _ => none
  activity : Option (Operation × Phase) := none

structure Directory where
  slots : String → Slot := fun _ => {}
  processes : Nat → Process := fun _ => {}

def unverifiedReceipt (known : OutgoingReceipt) : OutgoingReceipt :=
  { known with state := .uncertain, proof := .none, revision := known.revision + 1 }

/-- What an operation does with the receipt that it has read. -/
inductive Continues
  | answers (answer : Answer)
  | does (phase : Phase)

def afterRead (operation : Operation) (prior : Option OutgoingReceipt) : Continues :=
  match operation, prior with
  | .get _, prior => .answers (.receipt prior)
  | .accept _ sessionId inputDigest .., some prior =>
    if prior.sessionId ≠ sessionId ∨ prior.inputDigest ≠ inputDigest then .answers .threw
    else .answers (.accepted prior false)
  | .accept .., none => .does .checkingAcceptance
  | .advance expected _, some current =>
    if sameOutgoingAttempt current expected then .does (.checkingAdvance current)
    else .answers (.receipt none)
  | .advance .., none => .answers (.receipt none)

def writes (receipt : OutgoingReceipt) (fresh : Bool) : Continues :=
  if isReceipt receipt then .does (.publishing receipt fresh) else .answers .threw

def acceptedReceipt (messageId sessionId inputDigest attemptId generation : String)
    (unverified : Bool) : OutgoingReceipt where
  messageId := messageId
  sessionId := sessionId
  attemptId := attemptId
  generation := generation
  inputDigest := inputDigest
  state := if unverified then .uncertain else .accepted
  revision := 1
  proof := if unverified then .none else .acceptance

def checkAcceptance (operation : Operation) (unverified : Bool) : Continues :=
  match operation with
  | .accept messageId sessionId inputDigest attemptId generation =>
    writes (acceptedReceipt messageId sessionId inputDigest attemptId generation unverified)
      !unverified
  | _ => .answers .threw

def proofOf : ReceiptState → ReceiptProof
  | .submitted => .nativeWriteAck
  | .failed => .notWritten
  | _ => .none

def advancedReceipt (current : OutgoingReceipt) (state : ReceiptState) : OutgoingReceipt :=
  { current with state, revision := current.revision + 1, proof := proofOf state }

def checkAdvance (operation : Operation) (current : OutgoingReceipt) (unverified : Bool) :
    Continues :=
  match operation with
  | .advance _ state =>
    if unverified then
      .answers (.receipt (some { current with state := .uncertain, proof := .none }))
    else if current.state = .submitted ∨ current.state = .failed ∨ state = .accepted ∨
        state = current.state then
      .answers (.receipt (some current))
    else writes (advancedReceipt current state) false
  | _ => .answers .threw

def answerOf (operation : Operation) (receipt : OutgoingReceipt) (fresh : Bool) : Answer :=
  match operation with
  | .accept .. => .accepted receipt fresh
  | _ => .receipt (some receipt)

namespace Directory

variable (filename : String → String)

def slotOf (directory : Directory) (operation : Operation) : Slot :=
  directory.slots (filename operation.messageId)

def changeSlot (directory : Directory) (operation : Operation) (change : Slot → Slot) : Directory :=
  { directory with
    slots := Function.update directory.slots (filename operation.messageId)
      (change (directory.slotOf filename operation)) }

def changeProcess (directory : Directory) (process : Nat) (change : Process → Process) :
    Directory :=
  { directory with
    processes := Function.update directory.processes process
      (change (directory.processes process)) }

def does (directory : Directory) (process : Nat) (activity : Option (Operation × Phase)) :
    Directory :=
  directory.changeProcess process fun before => { before with activity }

def remembers (directory : Directory) (process : Nat) (receipt : OutgoingReceipt) : Directory :=
  directory.changeProcess process fun before =>
    { before with records := Function.update before.records receipt.messageId (some receipt) }

def releases (directory : Directory) (process : Nat) (operation : Operation) : Directory :=
  (directory.changeSlot filename operation fun slot => { slot with lockedBy := none }).does process
    none

def continues (directory : Directory) (process : Nat) (operation : Operation) :
    Continues → Option Answer × Directory
  | .answers answer => (some answer, directory.releases filename process operation)
  | .does phase => (none, directory.does process (some (operation, phase)))

def knownOf (directory : Directory) (process : Nat) (operation : Operation) :
    Option OutgoingReceipt :=
  ((directory.processes process).records operation.messageId).map unverifiedReceipt

def phaseStep (directory : Directory) (process : Nat) (operation : Operation) :
    Phase → Option Answer × Directory
  | .reading =>
    match (directory.slotOf filename operation).record with
    | none => (none, directory.does process (some (operation, .absent)))
    | some bytes =>
      match (readOutgoingReceipt bytes).filter (·.messageId = operation.messageId) with
      | some receipt => (directory.remembers process receipt).continues filename process operation
          (afterRead operation (some receipt))
      | none => (none, directory.does process (some (operation, .linkingInvalid)))
  | .absent =>
    directory.continues filename process operation (afterRead operation
      (if (directory.slotOf filename operation).invalid then directory.knownOf process operation
      else none))
  | .linkingInvalid =>
    (none, (directory.changeSlot filename operation fun slot => { slot with invalid := true }).does
      process (some (operation, .quarantining)))
  | .quarantining =>
    let quarantined := directory.changeSlot filename operation fun slot =>
      { slot with record := none, quarantined := slot.quarantined ++ slot.record.toList }
    quarantined.continues filename process operation
      (afterRead operation (directory.knownOf process operation))
  | .checkingAcceptance =>
    directory.continues filename process operation
      (checkAcceptance operation (directory.slotOf filename operation).invalid)
  | .checkingAdvance current =>
    directory.continues filename process operation
      (checkAdvance operation current (directory.slotOf filename operation).invalid)
  | .publishing receipt fresh =>
    (none, ((directory.changeSlot filename operation fun slot =>
      { slot with record := some (.fields receipt) }).remembers process receipt).does process
        (some (operation, .answering receipt fresh)))
  | .answering receipt fresh =>
    (some (answerOf operation receipt fresh), directory.releases filename process operation)

def fileStep (directory : Directory) (process : Nat) : Option Answer × Directory :=
  match (directory.processes process).activity with
  | none => (none, directory)
  | some (operation, phase) => directory.phaseStep filename process operation phase

def ends (directory : Directory) (process : Nat) : Directory :=
  match (directory.processes process).activity with
  | none => directory
  | some (operation, _) => directory.releases filename process operation

def begins (directory : Directory) (process : Nat) (operation : Operation) : Directory :=
  if (directory.processes process).activity = none ∧
      (directory.slotOf filename operation).lockedBy = none then
    (directory.changeSlot filename operation fun slot =>
      { slot with lockedBy := some process }).does
      process (some (operation, .reading))
  else directory

def corrupts (directory : Directory) (name : String) (bytes : RecordBytes) : Directory :=
  { directory with
    slots := Function.update directory.slots name
      { directory.slots name with record := (directory.slots name).record.map fun _ => bytes } }

end Directory

inductive StoreInput
  | call (process : Nat) (operation : Operation)
  | fileStep (process : Nat)
  /-- The file operation throws. -/
  | fails (process : Nat)
  /-- The process ends, its memory is lost and its lock is reclaimed. -/
  | crash (process : Nat)
  | corrupt (name : String) (bytes : RecordBytes)

def respond (filename : String → String) (directory : Directory) :
    StoreInput → Option Answer × Directory
  | .call process operation => (none, directory.begins filename process operation)
  | .fileStep process => directory.fileStep filename process
  | .fails process => (some .threw, directory.ends filename process)
  | .crash process => (none, (directory.ends filename process).changeProcess process fun _ => {})
  | .corrupt name bytes => (none, directory.corrupts name bytes)

def storeMachine (filename : String → String) :
    Machine Directory StoreInput (Option Answer × Directory) where
  initial := {}
  respond := respond filename
  advance := Prod.snd

end Adhdev.OutgoingReceipts
