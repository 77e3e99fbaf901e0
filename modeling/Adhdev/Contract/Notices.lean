import Adhdev.Contract.RetentionRuns

/-! # Impact fan-out and change notices

`contract-notices.ts`: a bounded scan over the active bindings of a namespace with a cursor for
every impact descriptor, interrupted after any number of descriptors, and its notices. The columns
`scan_cursor`, `status` and `created_at` of the descriptors are kept beside the contract tables.
-/

namespace Adhdev.Contract

open Call

inductive NoticeKind
  | impact (noticeClass : NoticeClass)
  | bindingAmended
  deriving DecidableEq

inductive NoticeState
  | pending | superseded
  deriving DecidableEq

structure NoticeKeyInput where
  namespaceId : String
  authorityEpoch : Nat
  headGeneration : Nat
  toRevisionId : Option String
  taskId : String
  attemptId : String
  generation : Int
  bindingId : String
  noticeClass : NoticeClass

structure ContractNotice where
  noticeKey : String
  namespaceId : String
  bindingId : String
  meshId : String
  taskId : String
  attemptId : String
  generation : Int
  authorityEpoch : Nat
  headGeneration : Nat
  toRevisionId : Option String
  kind : NoticeKind
  state : NoticeState
  hintOperationId : Option String
  createdAt : Int
  deriving DecidableEq

/-- What the fan-out finds in its context. -/
structure NoticeCtx where
  contract : ContractCtx
  computeNoticeKey : NoticeKeyInput → String
  maxPendingNoticesPerBinding : Nat

structure ScanState where
  scanCursor : String
  done : Bool

def ScanState.fresh : ScanState := { scanCursor := "", done := false }

section Scan

variable (ctx : NoticeCtx) (db : ContractDb) (now : Int)

def noticeKeyOf (descriptor : OutboxRow) (binding : BindingRow) : String :=
  ctx.computeNoticeKey
    { namespaceId := descriptor.namespaceId
      authorityEpoch := descriptor.authorityEpoch
      headGeneration := descriptor.headGeneration
      toRevisionId := descriptor.revisionId
      taskId := binding.taskId
      attemptId := binding.attemptId
      generation := binding.generation
      bindingId := binding.bindingId
      noticeClass := descriptor.noticeClass }

def affects (descriptor : OutboxRow) (binding : BindingRow) : Bool :=
  let pin := getPinSet db binding.pinSetId
  match descriptor.noticeClass with
  | .revisionRevoked => pin.any fun pin => pin.vector.revisionId = descriptor.revisionId
  | .headAdvanced => pin.all fun pin =>
    pin.vector.authorityEpoch < descriptor.authorityEpoch ||
      pin.vector.headGeneration < descriptor.headGeneration

/-- `INSERT OR IGNORE`. -/
def insertNotice (notice : ContractNotice) (notices : List ContractNotice) : List ContractNotice :=
  if notice.noticeKey ∈ notices.map (·.noticeKey) then notices else notices ++ [notice]

def compactBacklog (bindingId : String) (kind : NoticeKind) (notices : List ContractNotice) :
    List ContractNotice :=
  let pending := (notices.filter fun notice =>
    notice.bindingId = bindingId && notice.state = .pending && notice.kind = kind).insertionSort
      fun (one two : ContractNotice) => two.authorityEpoch < one.authorityEpoch ∨
        (two.authorityEpoch = one.authorityEpoch ∧ two.headGeneration ≤ one.headGeneration)
  let dropped : List String := (pending.drop ctx.maxPendingNoticesPerBinding).map (·.noticeKey)
  notices.map fun notice =>
    if notice.noticeKey ∈ dropped then { notice with state := .superseded } else notice

def noticeFor (descriptor : OutboxRow) (binding : BindingRow) : ContractNotice where
  noticeKey := noticeKeyOf ctx descriptor binding
  namespaceId := descriptor.namespaceId
  bindingId := binding.bindingId
  meshId := binding.meshId
  taskId := binding.taskId
  attemptId := binding.attemptId
  generation := binding.generation
  authorityEpoch := descriptor.authorityEpoch
  headGeneration := descriptor.headGeneration
  toRevisionId := descriptor.revisionId
  kind := .impact descriptor.noticeClass
  state := .pending
  hintOperationId := none
  createdAt := now

def noticeBinding (descriptor : OutboxRow) (notices : List ContractNotice)
    (binding : BindingRow) : List ContractNotice :=
  if affects db descriptor binding then
    compactBacklog ctx binding.bindingId (.impact descriptor.noticeClass)
      (insertNotice (noticeFor ctx now descriptor binding) notices)
  else notices

/-- The active bindings behind which the scan did not pass yet, at most `budget` of them. -/
def scannedBindings (descriptor : OutboxRow) (scanCursor : String) (budget : Nat) :
    List BindingRow :=
  ((db.bindings.filter fun row => row.namespaceId = descriptor.namespaceId &&
    row.state = .active && scanCursor < row.bindingId).insertionSort
      (·.bindingId ≤ ·.bindingId)).take budget

structure FanOut where
  scans : String → ScanState
  notices : List ContractNotice
  created : Nat
  budget : Nat

def scanDescriptor (fanOut : FanOut) (descriptor : OutboxRow) : FanOut :=
  let scan := fanOut.scans descriptor.acceptanceId
  let rows := scannedBindings db descriptor scan.scanCursor fanOut.budget
  let notices := rows.foldl (noticeBinding ctx db now descriptor) fanOut.notices
  let scanCursor := rows.foldl (fun _ row => row.bindingId) scan.scanCursor
  { scans := Function.update fanOut.scans descriptor.acceptanceId
      { scanCursor, done := scan.done || rows.length < fanOut.budget }
    notices
    created := fanOut.created + (notices.length - fanOut.notices.length)
    budget := fanOut.budget - rows.length }

def fanOutOver (fanOut : FanOut) : List OutboxRow → FanOut
  | [] => fanOut
  | descriptor :: rest =>
    if fanOut.budget = 0 then fanOut
    else fanOutOver (scanDescriptor ctx db now fanOut descriptor) rest

end Scan

def deliverPendingHints (deliver : ContractNotice → Option String)
    (notices : List ContractNotice) : List ContractNotice :=
  let rows := ((notices.filter fun notice => notice.state = .pending &&
    notice.hintOperationId.isNone).insertionSort (·.createdAt ≤ ·.createdAt)).take 100
  notices.map fun notice =>
    if notice ∈ rows then
      match deliver notice with
      | some operation => { notice with hintOperationId := some operation }
      | none => notice
    else notice

/-! ## Calls and fan-out together -/

structure NoticeWorld where
  state : RetentionState := {}
  scans : String → ScanState := fun _ => .fresh
  writtenAt : String → Int := fun _ => 0
  /-- The bindings that existed when a descriptor was written. -/
  existed : String → List String := fun _ => []
  notices : List ContractNotice := []

def NoticeWorld.db (world : NoticeWorld) : ContractDb := world.state.store.db

structure CallDraws where
  now : Int
  random : String → String
  fenceFails : Option Nat := none

def CallDraws.env (draws : CallDraws) : CallEnv where
  now := draws.now
  newId text := text ++ "_" ++ draws.random text
  fenceFails := draws.fenceFails

inductive NoticeEvent
  | call (draws : CallDraws) (call : RetentionCall)
  /-- Only so many descriptors where the process ends in between. -/
  | processImpactOutbox (now : Int) (limit : Nat) (crashAfter : Option Nat)
      (hints : Option (ContractNotice → Option String))

def amendmentOf (now : Int) (bindingId : String) (db : ContractDb) : List ContractNotice :=
  match db.bindings.find? (·.bindingId = bindingId) with
  | none => []
  | some binding =>
    match getPinSet db binding.pinSetId with
    | none => []
    | some pinSet =>
      [{ noticeKey := "ntc_amend_" ++ bindingId
         namespaceId := binding.namespaceId
         bindingId
         meshId := binding.meshId
         taskId := binding.taskId
         attemptId := binding.attemptId
         generation := binding.generation
         authorityEpoch := pinSet.vector.authorityEpoch
         headGeneration := pinSet.vector.headGeneration
         toRevisionId := pinSet.vector.revisionId
         kind := .bindingAmended
         state := .pending
         hintOperationId := none
         createdAt := now }]

def amendments (ctx : ContractCtx) (env : CallEnv) (store : ContractStore) :
    RetentionCall → List ContractNotice
  | .rebindToHolder input =>
    match rebindToHolder ctx env input store with
    | (.ok (.freshBinding bindingId _), later) => amendmentOf env.now bindingId later.db
    | _ => []
  | _ => []

def NoticeWorld.perform (ctx : NoticeCtx) (world : NoticeWorld) (draws : CallDraws)
    (call : RetentionCall) : NoticeWorld :=
  let written := world.db.outbox.map (·.acceptanceId)
  { state := (retentionMachine ctx.contract).respond world.state { env := draws.env, call }
    scans := world.scans
    writtenAt := fun id => if id ∈ written then world.writtenAt id else draws.now
    existed := fun id =>
      if id ∈ written then world.existed id else world.db.bindings.map (·.bindingId)
    notices := (amendments ctx.contract draws.env world.state.store call).foldl
      (fun notices notice => insertNotice notice notices) world.notices }

def NoticeWorld.pendingDescriptors (world : NoticeWorld) : List OutboxRow :=
  (world.db.outbox.filter fun row => !(world.scans row.acceptanceId).done).insertionSort
    fun one two => world.writtenAt one.acceptanceId ≤ world.writtenAt two.acceptanceId

def NoticeWorld.processImpactOutbox (ctx : NoticeCtx) (world : NoticeWorld) (now : Int)
    (limit : Nat) (crashAfter : Option Nat) (hints : Option (ContractNotice → Option String)) :
    NoticeWorld :=
  let pending := world.pendingDescriptors
  let reached := (crashAfter.map fun count => pending.take count).getD pending
  let start : FanOut :=
    { scans := world.scans, notices := world.notices, created := 0, budget := max 1 limit }
  let fanOut := fanOutOver ctx world.db now start reached
  let notices :=
    match crashAfter, hints with
    | none, some deliver => deliverPendingHints deliver fanOut.notices
    | _, _ => fanOut.notices
  { world with scans := fanOut.scans, notices }

def NoticeWorld.step (ctx : NoticeCtx) (world : NoticeWorld) : NoticeEvent → NoticeWorld
  | .call draws call => world.perform ctx draws call
  | .processImpactOutbox now limit crashAfter hints =>
    world.processImpactOutbox ctx now limit crashAfter hints

def NoticeWorld.run (ctx : NoticeCtx) (world : NoticeWorld) (events : List NoticeEvent) :
    NoticeWorld :=
  events.foldl (NoticeWorld.step ctx) world

end Adhdev.Contract
